import ServicePublisher.Proofs.Takeover
import ServicePublisher.Proofs.Groups
import ServicePublisher.Proofs.Rebooked

/-! Services kept apart. The key of a service tells its interface and its qualifier, since the name
of an interface holds no colon; so what is kept under the key of one service stays as it is while
providers of other services are published, withdrawn and changed. -/
namespace ServicePublisher

namespace ServiceKey

variable {interface interface' : String} {unique unique' : Option String}

/-- Qualifiers are the same if they are so without their outer blanks; none is like a blank one. -/
def SameQualifier (unique unique' : Option String) : Prop :=
  Text.trim (unique.getD "") = Text.trim (unique'.getD "")

instance : Decidable (SameQualifier unique unique') :=
  inferInstanceAs (Decidable (Text.trim _ = Text.trim _))

/-- The part of a key after the name of the interface: nothing, or a qualifier after a colon. -/
def tail (unique : Option String) : List Char :=
  match (Text.trim (unique.getD "")).toList with
  | [] => []
  | c :: cs => ':' :: c :: cs

theorem toList_text_ofParts (interface : String) (unique : Option String) :
    (ofParts interface unique).text.toList = interface.toList ++ tail unique := by
  have hblank : Text.trim "" = "" := by decide
  cases unique with
  | none => simp [ofParts, qualifier?, tail, hblank]
  | some u =>
    rw [ofParts, qualifier?, tail, Option.getD_some, Option.map_some]
    by_cases hu : Text.trim u = ""
    · simp [Option.filter, hu]
    · obtain ⟨c, cs, hcs⟩ := List.exists_cons_of_ne_nil (mt String.toList_eq_nil_iff.1 hu)
      simp [Option.filter, hu, hcs]

theorem tail_inj : tail unique = tail unique' ↔ SameQualifier unique unique' := by
  rw [tail, tail, SameQualifier, ← String.toList_inj]
  cases (Text.trim (unique.getD "")).toList <;> cases (Text.trim (unique'.getD "")).toList <;> simp

/-- The name of the interface is what stands before the first colon. -/
theorem takeWhile_text_ofParts (h : ':' ∉ interface.toList) (unique : Option String) :
    (ofParts interface unique).text.toList.takeWhile (· ≠ ':') = interface.toList := by
  have hname : ∀ c ∈ interface.toList, decide (c ≠ ':') = true := by
    intro c hc
    exact decide_eq_true fun hcolon => h (hcolon ▸ hc)
  have htail : (tail unique).takeWhile (· ≠ ':') = [] := by
    rw [tail]
    split <;> simp
  rw [toList_text_ofParts, List.takeWhile_append_of_pos hname, htail, List.append_nil]

/-- Services have one key exactly when they have one interface and the same qualifier. -/
theorem ofParts_inj (h : ':' ∉ interface.toList) (h' : ':' ∉ interface'.toList) :
    ofParts interface unique = ofParts interface' unique' ↔
      interface = interface' ∧ SameQualifier unique unique' := by
  constructor
  · intro hsame
    have hname := takeWhile_text_ofParts h unique
    rw [hsame, takeWhile_text_ofParts h' unique'] at hname
    obtain rfl := String.toList_inj.1 hname
    have htexts := congrArg (fun k => k.text.toList) hsame
    simp only [toList_text_ofParts] at htexts
    exact ⟨rfl, tail_inj.1 (List.append_cancel_left htexts)⟩
  · rintro ⟨rfl, hqualifier⟩
    have htexts : (ofParts interface unique).text = (ofParts interface unique').text := by
      rw [← String.toList_inj, toList_text_ofParts, toList_text_ofParts, tail_inj.2 hqualifier]
    exact congrArg mk htexts

end ServiceKey

open World

def ProviderConfig.SameService (c c' : ProviderConfig) : Prop :=
  c.interface.id = c'.interface.id ∧ ServiceKey.SameQualifier c.uniqueId c'.uniqueId

instance (c c' : ProviderConfig) : Decidable (c.SameService c') :=
  inferInstanceAs (Decidable (_ ∧ _))

theorem ProviderConfig.key_inj {c c' : ProviderConfig} (h : ':' ∉ c.interface.id.toList)
    (h' : ':' ∉ c'.interface.id.toList) : c.key = c'.key ↔ c.SameService c' :=
  ServiceKey.ofParts_inj h h'

variable {σ : Type} {ask : Ask σ} {w w' w'' : World σ} {p : Provider} {c : ProviderConfig}
  {k : ServiceKey} {providers : List Provider}

/-- In both states servers call the same invokers under a key, and the same registries list it. -/
structure SameEntries (k : ServiceKey) (w w' : World σ) : Prop where
  processor : ∀ n, w'.processor? n k = w.processor? n k
  listed : ∀ g identity, w'.listed g identity k = w.listed g identity k

/-- Between two states nothing has changed that is kept under a key: it has the same entries, and is
counted as often. -/
structure Spares (k : ServiceKey) (w w' : World σ) : Prop extends SameEntries k w w' where
  count : ∀ g, (w'.services g).counts.count k = (w.services g).counts.count k

namespace SameEntries

theorem trans (h : SameEntries k w w') (h' : SameEntries k w' w'') : SameEntries k w w'' where
  processor n := (h'.processor n).trans (h.processor n)
  listed g identity := (h'.listed g identity).trans (h.listed g identity)

theorem of_same (h : SameBindings w w') : SameEntries k w w' :=
  ⟨fun n => h.processor n k, fun g identity => h.listed g identity k⟩

theorem of_rebound (hk : p.config.key ≠ k) {servers : List ServerConfig}
    {registries : List RegistryConfig} {v : Option Invoker}
    (h : Rebound w w' p servers registries v) : SameEntries k w w' where
  processor n := by
    rw [h.processor]
    exact if_neg fun ⟨_, _, _, hsame⟩ => hk hsame
  listed g identity := by
    rw [h.listed]
    exact if_neg fun ⟨_, _, _, _, hsame⟩ => hk hsame

end SameEntries

namespace Spares

theorem of_eq (hservers : w'.servers = w.servers)
    (hservices : ∀ g, w'.services g = w.services g) : Spares k w w' :=
  ⟨.of_same (.of_eq hservers fun g => congrArg Services.registries (hservices g)),
    fun g => by rw [hservices]⟩

theorem refl (k : ServiceKey) (w : World σ) : Spares k w w := of_eq rfl fun _ => rfl

theorem trans (h : Spares k w w') (h' : Spares k w' w'') : Spares k w w'' :=
  ⟨h.toSameEntries.trans h'.toSameEntries, fun g => (h'.count g).trans (h.count g)⟩

end Spares

section Steps

variable (ask) (hk : p.config.key ≠ k)
include hk

omit hk in
theorem sameEntries_unbindServers (hk : c.key ≠ k) (w : World σ) (servers : List ServerConfig) :
    SameEntries k w (w.unbindServers ask c servers) where
  processor n := by
    refine unbindServers_keeps (P := fun w' => w'.processor? n k = w.processor? n k)
      (fun w' s _ h => ?_) (fun _ _ _ h => h) rfl
    rw [processor?_perform_unregister, if_neg fun hsame => hk hsame.2.2, h]
  listed g identity := listed_congr (services_unbindServers w c servers g) identity k

theorem sameEntries_retractFrom (r : RegistryConfig) (w : World σ) :
    SameEntries k w (retractFrom ask p r w).world := by
  have hsame := @sameBindings_registryFor σ ask w p.group r
  rw [retractFrom]
  generalize registryFor ask p.group r w = found at hsame ⊢
  obtain ⟨result, w₁⟩ := found
  cases result with
  | error e => exact .of_same hsame
  | ok x =>
    refine (SameEntries.of_same hsame).trans ⟨fun n => ?_, fun g identity => ?_⟩
    · rw [processor?, servers_perform_registry, ← processor?]
    · rw [listed_perform_unregister, if_neg fun hsame => hk hsame.2.2.2]

theorem sameEntries_retract (w : World σ) (registries : List RegistryConfig) :
    SameEntries k w (w.retract ask p registries) := by
  refine sweep_keeps (P := SameEntries k w) (fun r _ w' h => ?visit) (fun r _ w' e h => ?report)
    (.of_same (.refl w))
  case visit => exact h.trans (sameEntries_retractFrom ask hk r w')
  case report => exact h.trans (.of_same (.of_eq rfl fun _ => rfl))

theorem sameEntries_discard (w : World σ) (a : Attempt σ) :
    SameEntries k w (w.discard ask p a) := by
  obtain ⟨-, hreleased⟩ := release_closed w p
  rw [World.discard]
  dsimp only
  split
  · exact .of_same (hreleased.trans (sameBindings_record _ _))
  · exact (SameEntries.of_same hreleased).trans
      ((sameEntries_retract ask hk _ a.registries).trans
        (sameEntries_unbindServers ask hk _ a.servers))

theorem spares_withdraw (w : World σ) : Spares k w (w.withdraw ask p) := by
  cases hpublished : w.isPublished p with
  | false =>
    rw [withdraw_unpublished ask hpublished]
    exact .of_eq rfl fun _ => rfl
  | true =>
    have hwithdrawing : SameEntries k w (w.withdrawing p) := .of_same (.of_eq rfl fun _ => rfl)
    have hretracted := hwithdrawing.trans
      (sameEntries_retract ask hk (w.withdrawing p) p.config.announcedIn)
    have hclosed (w₁ : World σ) : SameEntries k w₁ (w₁.closeInvoker p) :=
      .of_same (.of_eq rfl fun _ => rfl)
    have hunlinked : SameEntries k w (w.unlinked ask p) :=
      (hretracted.trans (hclosed _)).trans
        (sameEntries_unbindServers ask hk _ p.config.servers)
    have hconcluded := hunlinked.trans (.of_same (sameBindings_concluded _ p))
    have hbooks := @rebooked_withdraw σ ask w p hpublished
    rw [← withdraw_published ask hpublished] at hconcluded
    exact ⟨hconcluded, fun g => by rw [hbooks.count, if_neg fun hsame => hk hsame.2]⟩

theorem spares_publishNow (hfiled : Filed w) : Spares k w (w.publishNow ask p).world := by
  obtain ⟨s, l, n, t, hbooks⟩ := rebooked_publishNow ask w p
  refine ⟨?_, fun g => by rw [hbooks.count, if_neg fun hsame => hk hsame.2]⟩
  have hcourse := publishNow_course ask w p
  generalize w.publishNow ask p = outcome at hcourse
  cases hcourse with
  | already hpublished => exact .of_same (.refl w)
  | unfit hpublished hcheck => exact .of_same (.refl w)
  | refused hpublished hcheck hlimit => exact .of_same (sameBindings_prepared w p)
  | failed hpublished hcheck hlimit hattempt =>
    exact (SameEntries.of_rebound hk (rebound_admitted ask hfiled p _ _)).trans
      (sameEntries_discard ask hk _ _)
  | done hpublished hcheck hlimit hattempt => exact .of_rebound hk (rebound_done ask hfiled p _ _)

end Steps

section Moves

theorem filed_publishNow (ask : Ask σ) (hfiled : Filed w) (p : Provider) :
    Filed (w.publishNow ask p).world := by
  have hcourse := publishNow_course ask w p
  generalize w.publishNow ask p = outcome at hcourse
  cases hcourse with
  | already hpublished => exact hfiled
  | unfit hpublished hcheck => exact hfiled
  | refused hpublished hcheck hlimit => exact (sameBindings_prepared w p).filed hfiled
  | failed hpublished hcheck hlimit hattempt =>
    exact filed_discard (rebound_admitted ask hfiled p _ _).filed p _
  | done hpublished hcheck hlimit hattempt => exact (rebound_done ask hfiled p _ _).filed

theorem filed_move (hfiled : Filed w) (hmove : MoveAmong ask providers w w') : Filed w' := by
  obtain ⟨fleet, hmembers, hmove⟩ := hmove
  cases hmove with
  | publish hp => exact filed_publishNow ask hfiled _
  | withdraw hp => exact filed_withdraw hfiled _
  | schedule hp due => exact hfiled
  | unschedule i => exact hfiled
  | write hwrite => exact hfiled
  | log hn => exact hfiled
  | build s => exact (sameBindings_build ask w s).filed hfiled
  | lookUp g r => exact (sameBindings_registryFor w g r).filed hfiled

theorem spares_move (hkeys : ∀ p ∈ providers, p.config.key ≠ k) (hfiled : Filed w)
    (hmove : MoveAmong ask providers w w') : Spares k w w' := by
  obtain ⟨fleet, hmembers, hmove⟩ := hmove
  cases hmove with
  | publish hp => exact spares_publishNow ask (hkeys _ (hmembers _ hp)) hfiled
  | withdraw hp => exact spares_withdraw ask (hkeys _ (hmembers _ hp)) w
  | schedule hp due => exact .of_eq rfl fun _ => rfl
  | unschedule i => exact .of_eq rfl fun _ => rfl
  | write hwrite => exact .of_eq rfl fun _ => rfl
  | log hn => exact .of_eq rfl fun _ => rfl
  | build s =>
    exact ⟨.of_same (sameBindings_build ask w s), fun g => by
      rw [(sameBooks_build ask w s).counts]⟩
  | lookUp g r =>
    exact ⟨.of_same (sameBindings_registryFor w g r), fun g' => by
      rw [(sameBooks_registryFor ask w g r).counts]⟩

theorem spares_moves (hkeys : ∀ p ∈ providers, p.config.key ≠ k) (hfiled : Filed w)
    (hmoves : MovesAmong ask providers w w') : Filed w' ∧ Spares k w w' := by
  induction hmoves with
  | refl => exact ⟨hfiled, .refl k w⟩
  | tail _ hlast ih =>
    exact ⟨filed_move ih.1 hlast, ih.2.trans (spares_move hkeys ih.1 hlast)⟩

end Moves

/-- Keys tell logical services apart, if the names of their interfaces hold no colon. In whatever
state a run has reached, an operation that is about providers of other services only changes nothing
that is kept under the key of a service. -/
theorem services_kept_apart :
    (∀ (interface interface' : String) (unique unique' : Option String),
      ':' ∉ interface.toList → ':' ∉ interface'.toList →
      (ServiceKey.ofParts interface unique = ServiceKey.ofParts interface' unique' ↔
        interface = interface' ∧ ServiceKey.SameQualifier unique unique')) ∧
    ∀ {σ : Type} (ask : Ask σ) (outside : σ) (providers : List Provider) (c : ProviderConfig),
      ':' ∉ c.interface.id.toList →
      (∀ p ∈ providers, ':' ∉ p.config.interface.id.toList) →
      ∀ ops : List Operation, (∀ op ∈ ops, op.Among providers) →
      ∀ op : Operation, op.Among providers →
        let w := run ask ops (World.start outside)
        (∀ p, op.Concerns w p → ¬p.config.SameService c) →
        Spares c.key w (step ask op w) := by
  refine ⟨fun interface interface' unique unique' h h' => ServiceKey.ofParts_inj h h', ?_⟩
  intro σ ask outside providers c hcolon hcolons ops hops op hop w hothers
  obtain ⟨hpeopled, hfiled⟩ : Peopled providers w ∧ Filed w :=
    run_keeps_among (I := fun w => Peopled providers w ∧ Filed w) (fun _ h => h.1)
      (fun _ _ h hmove => ⟨h.1.move hmove, filed_move h.2 hmove⟩) hops
      ⟨peopled_start providers outside, (covered_start .nobody outside).filed⟩
  have htold (c : ProviderConfig) (l : Listener) (hl : w.listenerAt c.serial = some l) :=
    hpeopled.listening c.serial l hl
  have hconcerned : ∀ p, op.Concerns w p → p ∈ providers.filter (·.config.key ≠ c.key) := by
    intro p hp
    have hmem : p ∈ providers :=
      (peopled_iff.1 hpeopled).concerned hop (fun c _ l _ hl => htold c l hl) hp
    have hkey : p.config.key ≠ c.key :=
      mt (ProviderConfig.key_inj (hcolons p hmem) hcolon).1 (hothers p hp)
    exact List.mem_filter.2 ⟨hmem, decide_eq_true hkey⟩
  have hmoves : MovesAmong ask (providers.filter (·.config.key ≠ c.key)) w (step ask op w) :=
    movesAmongOf_concerned (fun _ _ => trivial) op.writesOnly_true hconcerned
      fun c _ l _ hl => (htold c l hl).imp fun _ h => h.2
  exact (spares_moves (fun p hp => of_decide_eq_true (List.mem_filter.1 hp).2) hfiled hmoves).2

/-- A service that may be published once is published twice, plain and with a qualifier that holds
a colon and a blank, at one server and one registry. When the second goes, the first stays. -/
theorem qualified_service_apart :
    let hub : RegistryConfig := ⟨⟨"hub", "mock", "hub"⟩, ⟨"mock"⟩⟩
    let plain := smallProvider 0 [smallServer 0] [hub] 1
    let qualified : Provider := { plain with
      number := 1
      config := { plain.config with serial := 1, uniqueId := some " blue:b c " } }
    let w := run tranquil [.publish plain, .publish qualified] (World.start false)
    ServiceKey.ofParts "demo.Echo" (some " \t") = plain.config.key ∧
      qualified.config.key ≠ plain.config.key ∧
      w.isPublished plain = true ∧ w.isPublished qualified = true ∧
      (w.withdraw tranquil qualified).isPublished qualified = false ∧
      ':' ∉ plain.config.interface.id.toList ∧ ¬qualified.config.SameService plain.config ∧
      Spares plain.config.key w (w.withdraw tranquil qualified) := by
  intro hub plain qualified w
  have hcolon : ':' ∉ "demo.Echo".toList := by decide +kernel
  have hother : ¬qualified.config.SameService plain.config := by decide +kernel
  have hblank := (services_kept_apart.1 "demo.Echo" "demo.Echo" (some " \t") none hcolon hcolon).2
    ⟨rfl, by decide +kernel⟩
  have hkey : qualified.config.key ≠ plain.config.key := fun hsame =>
    hother ((services_kept_apart.1 _ _ _ _ hcolon hcolon).1 hsame)
  have hspares := services_kept_apart.2 tranquil false [plain, qualified] plain.config hcolon
    (by simp [plain, qualified, smallProvider])
    [.publish plain, .publish qualified] (by simp [Operation.Among])
    (.withdraw qualified) (by simp [Operation.Among]) fun p hp => by
      cases hp
      exact hother
  exact ⟨hblank, hkey, by decide +kernel, by decide +kernel, by decide +kernel, hcolon, hother,
    hspares⟩

end ServicePublisher
