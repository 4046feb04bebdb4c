import ServicePublisher.Proofs.Groups
import ServicePublisher.Proofs.Takeover
import ServicePublisher.Proofs.WriteBack

/-! Which methods a server lets others call. Whatever has been asked for and however collaborators
have answered, an invoker that a server holds admits the declared methods that the lists of its
configuration admit, and no others; and the configuration still keeps the decisions that the invoker
was made with. -/
namespace ServicePublisher

open World ProviderConfig

namespace MethodPolicy

variable (decide : String → Bool) (p : MethodPolicy)

theorem decisions_empty (m : String) : (∅ : MethodPolicy).decisions[m]? = none :=
  Std.ExtTreeMap.getElem?_empty

theorem decisions_meet (name m : String) :
    (p.meet decide name).decisions[m]? =
      p.decisions[m]?.or (if name = m then some (decide name) else none) := by
  by_cases hknown : p.decisions.contains name = true
  · have hsame : (p.meet decide name).decisions = p.decisions := by
      rw [meet, if_pos hknown]
      split <;> rfl
    rw [hsame]
    split
    · next hm =>
      subst hm
      obtain ⟨b, hb⟩ := Option.isSome_iff_exists.1
        (Std.ExtTreeMap.contains_eq_isSome_getElem?.symm.trans hknown)
      rw [hb, Option.some_or]
    · rw [Option.or_none]
  · rw [meet, if_neg hknown, Std.ExtTreeMap.getElem?_insert]
    by_cases hm : name = m
    · subst hm
      have hnone : p.decisions[name]? = none :=
        Std.ExtTreeMap.getElem?_eq_none_of_contains_eq_false (eq_false_of_ne_true hknown)
      simp [hnone]
    · simp [hm]

/-- The first declaration of a name decides, and the names decided before stay so. -/
theorem decisions_foldl_meet (names : List String) (m : String) :
    (names.foldl (meet decide) p).decisions[m]? =
      p.decisions[m]?.or (if m ∈ names then some (decide m) else none) := by
  induction names generalizing p with
  | nil => simp
  | cons name names ih =>
    rw [List.foldl_cons, ih, decisions_meet, Option.or_assoc]
    by_cases hm : name = m
    · subst hm
      simp
    · simp [hm, Ne.symm hm]

/-- A method may be called exactly if it is declared and the lists admit its name, however often
the name is declared. -/
theorem allows_resolve_iff (i : Interface) (included excluded m : String) :
    (resolve i included excluded).allows m = true ↔
      m ∈ i.names ∧ inList included excluded m = true := by
  rw [allows, resolve, decisions_foldl_meet, decisions_empty, Option.none_or]
  by_cases hm : m ∈ i.names <;> simp [hm]

end MethodPolicy

variable {σ : Type} {ask : Ask σ} {w w' w'' : World σ} {p : Provider}

namespace World

def limitsAt (w : World σ) (serial : Nat) : Option MethodPolicy :=
  (w.configs[serial]?).bind ConfigState.policy

theorem policy_config (w : World σ) (c : ProviderConfig) :
    (w.config c).policy = w.limitsAt c.serial := by
  rw [config, limitsAt]
  cases w.configs[c.serial]? <;> rfl

theorem limitsAt_modifyConfig (w : World σ) (c : ProviderConfig) (f : ConfigState → ConfigState)
    (serial : Nat) :
    (w.modifyConfig c f).limitsAt serial =
      if c.serial = serial then (f (w.config c)).policy else w.limitsAt serial := by
  simp only [limitsAt, modifyConfig, Std.ExtTreeMap.getElem?_insert, Nat.compare_eq_eq]
  split <;> rfl

/-- Every configuration keeps the decisions that it has. -/
def KeepsLimits (w w' : World σ) : Prop := ∀ n, w'.limitsAt n = w.limitsAt n

namespace KeepsLimits

theorem of_eq (h : w'.configs = w.configs) : KeepsLimits w w' := fun n => by
  rw [limitsAt, h, limitsAt]

theorem trans (h : KeepsLimits w w') (h' : KeepsLimits w' w'') : KeepsLimits w w'' :=
  fun n => (h' n).trans (h n)

theorem sameBooks (h : KeepsLimits w w') (hbooks : SameBooks w' w'') : KeepsLimits w w'' :=
  h.trans (.of_eq hbooks.configs)

end KeepsLimits

theorem keepsLimits_modifyConfig (w : World σ) (c : ProviderConfig) {f : ConfigState → ConfigState}
    (hf : (f (w.config c)).policy = (w.config c).policy) :
    KeepsLimits w (w.modifyConfig c f) := fun n => by
  rw [limitsAt_modifyConfig]
  split
  · next hn => rw [hf, policy_config, hn]
  · rfl

theorem keepsLimits_setListener (w : World σ) (c : ProviderConfig) (l : Option Listener) :
    KeepsLimits w (w.setListener c l) :=
  keepsLimits_modifyConfig w c rfl

theorem keepsLimits_attempt (ask : Ask σ) (w : World σ) (p : Provider) :
    KeepsLimits w (w.attempt ask p).outcome.world :=
  attempt_keeps (.of_eq rfl) (fun w' _ _ h => h.sameBooks (sameBooks_perform ask w' _))
    (fun w' _ h => (h.sameBooks (sameBooks_record w' _)).trans (keepsLimits_setListener _ _ _))
    fun w' _ _ h => h.sameBooks (sameBooks_record w' _)

theorem keepsLimits_discard (ask : Ask σ) (w : World σ) (p : Provider) (a : Attempt σ) :
    KeepsLimits w (w.discard ask p a) :=
  discard_keeps (fun w' _ _ h => h.sameBooks (sameBooks_perform ask w' _))
    (fun w' _ _ h => h.sameBooks (sameBooks_record w' _))
    ((keepsLimits_setListener w p.config none).trans (.of_eq rfl))

theorem keepsLimits_withdraw (ask : Ask σ) (w : World σ) (p : Provider) :
    KeepsLimits w (w.withdraw ask p) :=
  withdraw_keeps (fun w' _ _ h => h.sameBooks (sameBooks_perform ask w' _))
    (fun w' _ _ h => h.sameBooks (sameBooks_record w' _)) (.of_eq rfl)
    (fun _ h => h.trans (.of_eq rfl))
    fun w' h => (h.trans (keepsLimits_setListener w' p.config none)).trans (.of_eq rfl)

theorem limitsAt_prepared (w : World σ) (p : Provider) (n : Nat) :
    (w.prepared p).limitsAt n =
      if p.config.serial = n then some p.config.policy else w.limitsAt n := by
  have hlogged : (w.prepared p).limitsAt n = (w.decideMethods p).limitsAt n := rfl
  rw [hlogged, decideMethods_eq, limitsAt_modifyConfig]
  rfl

theorem keepsLimits_admitted (w : World σ) (p : Provider) (n : Nat) (counts : ExportCounts) :
    KeepsLimits (w.prepared p) (w.admitted p n counts) := by
  rw [admitted]
  split <;> exact .of_eq rfl

end World

section Screening

variable {providers : List Provider}

/-- Configurations of the same serial number are the same. -/
def Identified (providers : List Provider) : Prop :=
  ∀ p ∈ providers, ∀ q ∈ providers, p.config.KnownApart q.config

/-- The invoker carries the configuration of a provider and its decisions, and the configuration
keeps the same. -/
structure Invoker.DecidesAs (v : Invoker) (p : Provider) (w : World σ) : Prop where
  config : v.config = p.config
  policy : v.policy = p.config.policy
  limits : w.limitsAt p.config.serial = some p.config.policy

/-- Every processor speaks for one of the providers, of the key it is held under. -/
structure Screened (providers : List Provider) (w : World σ) : Prop
    extends Peopled providers w where
  filed : Filed w
  processor : ∀ n k v, w.processor? n k = some v →
    ∃ p ∈ providers, p.config.key = k ∧ v.DecidesAs p w

theorem screened_start (providers : List Provider) (outside : σ) :
    Screened providers (World.start outside) where
  toPeopled := peopled_start providers outside
  filed := (covered_start .nobody outside).filed
  processor n k v hv := by simp [World.start, processor?] at hv

/-- A processor that goes is no harm, as long as the decisions stay. -/
theorem Screened.fewer (h : Screened providers w) (hpeopled : Peopled providers w')
    (hfiled : Filed w') (hfewer : Fewer w w') (hlimits : KeepsLimits w w') :
    Screened providers w' where
  toPeopled := hpeopled
  filed := hfiled
  processor n k v hv := by
    obtain ⟨p, hp, hkey, hdecides⟩ := h.processor n k v (hfewer n k v hv)
    exact ⟨p, hp, hkey, hdecides.config, hdecides.policy, (hlimits _).trans hdecides.limits⟩

/-- New decisions for a configuration are the ones that it kept before, if it kept any. -/
theorem Screened.prepared (hserial : Identified providers) (h : Screened providers w)
    (hp : p ∈ providers) : Screened providers (w.prepared p) where
  toPeopled := h.toPeopled.rebooked hp (rebooked_prepared w p) (fun _ => .inl) fun _ => .inl
  filed := (sameBindings_prepared w p).filed h.filed
  processor n k v hv := by
    rw [(sameBindings_prepared w p).processor] at hv
    obtain ⟨q, hq, hkey, hdecides⟩ := h.processor n k v hv
    refine ⟨q, hq, hkey, hdecides.config, hdecides.policy, ?_⟩
    rw [limitsAt_prepared]
    split
    · next hsame => rw [hserial q hq p hp hsame]
    · exact hdecides.limits

/-- An attempt writes an invoker that speaks for its provider, since its decisions were taken
before. -/
theorem Screened.attempt (hserial : Identified providers) (h : Screened providers w)
    (hp : p ∈ providers) {n : Nat} {counts : ExportCounts} (hpeopled : Peopled providers w'')
    (hfiled : Filed w'') (hfewer : Fewer ((w.admitted p n counts).attempt ask p).outcome.world w'')
    (hlimits : KeepsLimits ((w.admitted p n counts).attempt ask p).outcome.world w'') :
    Screened providers w'' where
  toPeopled := hpeopled
  filed := hfiled
  processor m k v hv := by
    have hprepared := h.prepared hserial hp
    have hkept : KeepsLimits (w.prepared p) w'' :=
      ((keepsLimits_admitted w p n counts).trans (keepsLimits_attempt ask _ p)).trans hlimits
    have hbound := hfewer m k v hv
    rw [(rebound_admitted ask h.filed p n counts).processor] at hbound
    split at hbound
    · next hwritten =>
      obtain ⟨s, hs, -, hkey⟩ := hwritten
      cases hbound
      refine ⟨p, hp, hkey, rfl, rfl, ?_⟩
      rw [hkept, limitsAt_prepared, if_pos rfl]
    · obtain ⟨q, hq, hkey, hdecides⟩ := hprepared.processor m k v
        (by rwa [(sameBindings_prepared w p).processor])
      exact ⟨q, hq, hkey, hdecides.config, hdecides.policy, (hkept _).trans hdecides.limits⟩

theorem Screened.publishNow (hserial : Identified providers) (h : Screened providers w)
    (hp : p ∈ providers) : Screened providers (w.publishNow ask p).world := by
  have hpeopled := @Peopled.publishNow σ ask providers w p h.toPeopled hp
  have hcourse := publishNow_course ask w p
  generalize w.publishNow ask p = outcome at hcourse hpeopled
  cases hcourse with
  | already hpublished => exact h
  | unfit hpublished hcheck => exact h
  | refused hpublished hcheck hlimit => exact h.prepared hserial hp
  | @failed hpublished hcheck n counts e hlimit hattempt =>
    exact h.attempt hserial hp hpeopled
      (filed_discard (rebound_admitted ask h.filed p n counts).filed p _)
      (fewer_discard ask _ p _) (keepsLimits_discard ask _ p _)
  | @done hpublished hcheck n counts hlimit hattempt =>
    exact h.attempt hserial hp hpeopled (rebound_done ask h.filed p n counts).filed
      (fun _ _ _ => id) (.of_eq rfl)

theorem Screened.move (hserial : Identified providers)
    (h : Screened providers w) (hmove : MoveAmong ask providers w w') : Screened providers w' := by
  have hpeopled := h.toPeopled.move hmove
  obtain ⟨fleet, hmembers, hmove⟩ := hmove
  cases hmove with
  | publish hp => exact h.publishNow hserial (hmembers _ hp)
  | withdraw hp =>
    exact h.fewer hpeopled (filed_withdraw h.filed _) (fewer_withdraw ask w _)
      (keepsLimits_withdraw ask w _)
  | schedule hp due => exact h.fewer hpeopled h.filed (fun _ _ _ => id) (.of_eq rfl)
  | unschedule i => exact h.fewer hpeopled h.filed (fun _ _ _ => id) (.of_eq rfl)
  | write hwrite =>
    exact h.fewer hpeopled h.filed (fun _ _ _ => id) (keepsLimits_modifyConfig w _ rfl)
  | log hn => exact h.fewer hpeopled h.filed (fun _ _ _ => id) (.of_eq rfl)
  | build s =>
    exact h.fewer hpeopled ((sameBindings_build ask w s).filed h.filed)
      (sameBindings_build ask w s).fewer (.of_eq (sameBooks_build ask w s).configs)
  | lookUp g r =>
    exact h.fewer hpeopled ((sameBindings_registryFor w g r).filed h.filed)
      (sameBindings_registryFor w g r).fewer (.of_eq (sameBooks_registryFor ask w g r).configs)

theorem screened_run (hserial : Identified providers)
    (ask : Ask σ) (outside : σ) {ops : List Operation} (hops : ∀ op ∈ ops, op.Among providers) :
    Screened providers (run ask ops (World.start outside)) :=
  run_keeps_among (fun _ h => h.toPeopled) (fun _ _ h hmove => h.move hserial hmove) hops
    (screened_start providers outside)

/-- In every state that a run reaches, an invoker that a server holds under a key carries a
configuration of this key. It admits the methods that the configuration's interface declares and its
lists admit, and no others; and so do the decisions kept with the configuration. -/
theorem processors_screened (hserial : Identified providers) (ask : Ask σ) (outside : σ)
    {ops : List Operation} (hops : ∀ op ∈ ops, op.Among providers) :
    let w := run ask ops (World.start outside)
    ∀ n k v, w.processor? n k = some v →
      v.config.key = k ∧
      (∀ m, v.allows m = true ↔
        (∃ x ∈ v.config.interface.methods, x.name = m) ∧
          inList v.config.included v.config.excluded m = true) ∧
      ∃ limits, (w.config v.config).policy = some limits ∧ ∀ m, limits.allows m = v.allows m := by
  intro w n k v hv
  obtain ⟨p, -, hkey, hdecides⟩ := (screened_run hserial ask outside hops).processor n k v hv
  refine ⟨?_, fun m => ?_, v.policy, ?_, fun m => rfl⟩
  · rw [hdecides.config, hkey]
  · rw [Invoker.allows, hdecides.policy, hdecides.config, ProviderConfig.policy,
      MethodPolicy.allows_resolve_iff, Interface.names, List.mem_map]
  · rw [policy_config, hdecides.config, hdecides.policy]
    exact hdecides.limits

/-- Two providers of two groups on one server, of which the first excludes a method. The second is
published later and takes the server over. -/
theorem processors_screened_shared :
    let interface : Interface :=
      ⟨"demo.Echo", "Echo", [⟨"get", []⟩, ⟨"get", ["i32"]⟩, ⟨"secret", []⟩]⟩
    let plain (number : Nat) := smallProvider number [smallServer 0] [] 0
    let a : Provider :=
      { plain 0 with config := { (plain 0).config with interface, excluded := " secret ,put" } }
    let b : Provider :=
      { plain 1 with group := 1, config := { (plain 1).config with interface, delayMs := 5 } }
    let early : List Operation := [.publish b, .publish a, .notify a.config (.updated ∅)]
    let late : List Operation := early ++ [.fire 0]
    let seen (ops : List Operation) :=
      ((run tranquil ops (World.start false)).processor? 0 a.config.key).map fun v =>
        (v.provider, v.allows "get", v.allows "secret", v.allows "put")
    seen early = some (0, true, false, false) ∧ seen late = some (1, true, true, false) ∧
      ∃ v, (run tranquil late (World.start false)).processor? 0 a.config.key = some v ∧
        v.config.key = a.config.key := by
  intro interface plain a b early late seen
  have hserial : Identified [a, b] := by
    intro p hp q hq hsame
    obtain rfl | rfl := List.mem_pair.1 hp <;> obtain rfl | rfl := List.mem_pair.1 hq
    · rfl
    · exact absurd hsame (by decide)
    · exact absurd hsame (by decide)
    · rfl
  have hops : ∀ op ∈ late, op.Among [a, b] := by
    intro op hop
    simp only [late, early, List.cons_append, List.nil_append, List.mem_cons, List.not_mem_nil,
      or_false] at hop
    obtain rfl | rfl | rfl | rfl := hop <;> simp [Operation.Among]
  have hbound : ((run tranquil late (World.start false)).processor? 0 a.config.key).isSome =
      true := by decide +kernel
  obtain ⟨v, hv⟩ := Option.isSome_iff_exists.1 hbound
  obtain ⟨hkey, -, -⟩ := processors_screened hserial tranquil false hops 0 a.config.key v hv
  exact ⟨by decide +kernel, by decide +kernel, v, hv, hkey⟩

end Screening

end ServicePublisher
