import ServicePublisher.Proofs.Creations
import ServicePublisher.Proofs.Groups
import ServicePublisher.Proofs.Parallels
import ServicePublisher.Proofs.Traces

/-! Registries and servers are created once. What exists accounts for every creation that has
succeeded so far, since a factory is called only for what does not exist and nothing is ever lost.
On the way back nothing is created at all: the registries of a published provider exist. -/
namespace ServicePublisher

open World

variable {σ α : Type} {ask : Ask σ} {providers : List Provider} {w w' : World σ} {p : Provider}

section Accounts

/-- What may be asked after certain exchanges: of a factory, what it has not created yet; of a
registry, anything if it is the one created under its identity; of a server, anything if one has
been created from its configuration. -/
def Call.Follows (before : List Exchange) : Call → Prop
  | .server s .create => before.filterMap (serverMade? s.serial) = []
  | .server s _ => ∃ x, before.filterMap (serverMade? s.serial) = [x]
  | .registry g r .create => before.filterMap (registryMade? g r.identity) = []
  | .registry g r _ => before.filterMap (registryMade? g r.identity) = [r]

/-- What exists accounts for all that has been created: a registry for each that its group has
created under its identity, a server for each that its configuration has created. No call was made
out of turn. -/
structure Accounted (w : World σ) : Prop where
  filed : Filed w
  registries : ∀ g identity, w.registriesMade g identity = (w.origin? g identity).toList
  servers : ∀ serial, (w.serversMade serial).length = (w.servers.contains serial).toNat
  ordered : ∀ before x after, w.exchanges = before ++ x :: after → x.1.Follows before

theorem accounted_start (outside : σ) : Accounted (World.start outside) where
  filed g identity x hx := by simp [World.start, services] at hx
  registries g identity := by
    simp [World.start, registriesMade, exchanges, origin?, services]
  servers serial := by simp [World.start, serversMade, exchanges]
  ordered before x after h := by simp [World.start, exchanges] at h

theorem Accounted.congr (h : Accounted w) (hexchanges : w'.exchanges = w.exchanges)
    (hservers : w'.servers = w.servers)
    (hregistries : ∀ g, (w'.services g).registries = (w.services g).registries) : Accounted w' where
  filed := (SameBindings.of_eq hservers hregistries).filed h.filed
  registries g identity := by
    rw [registriesMade, hexchanges, origin?, hregistries]
    exact h.registries g identity
  servers serial := by
    rw [serversMade, hexchanges, hservers]
    exact h.servers serial
  ordered before x after := by
    rw [hexchanges]
    exact h.ordered before x after

theorem Accounted.log (h : Accounted w) (n : Notice) : Accounted (w.log n) :=
  h.congr (exchanges_log w n) rfl fun _ => rfl

theorem Accounted.modifyServices (h : Accounted w) (g : Nat) {f : Services → Services}
    (hf : ∀ t, (f t).registries = t.registries) : Accounted (w.modifyServices g f) :=
  h.congr rfl rfl (modifyServices_keeps w g f hf)

theorem Accounted.follows (h : Accounted w) {c : Call} (hdue : c.Due w) :
    c.Follows w.exchanges := by
  cases c with
  | server s request =>
    have hmade := h.servers s.serial
    cases request with
    | create =>
      have hnew : w.servers.contains s.serial = false := hdue
      rw [hnew] at hmade
      exact List.length_eq_zero_iff.1 hmade
    | _ =>
      have hthere : w.servers.contains s.serial = true := hdue
      rw [hthere] at hmade
      exact List.length_eq_one_iff.1 hmade
  | registry g r request =>
    have hmade := h.registries g r.identity
    cases request with
    | create =>
      have hnew : w.origin? g r.identity = none := hdue
      rw [hnew] at hmade
      exact hmade
    | _ =>
      have hthere : w.origin? g r.identity = some r := hdue
      rw [hthere] at hmade
      exact hmade

/-- Every call leaves the accounts right, as a factory is called only for what does not exist. -/
theorem Accounted.perform (h : Accounted w) (ask : Ask σ) {c : Call} (hdue : c.Due w) :
    Accounted (w.perform ask c).world where
  filed := filed_perform h.filed c
  registries g identity := by
    rw [(makes_perform ask w c).registriesMade, origin?_made, h.registries, List.filterMap_cons]
    cases hmade : registryMade? g identity (c, (ask c w.outside).1) with
    | none => simp
    | some r =>
      obtain ⟨hcall, rfl⟩ := registryMade?_eq_some.1 hmade
      obtain rfl : c = .registry g r .create := (Prod.mk.inj hcall).1
      have hnone : w.origin? g r.identity = none := hdue
      simp [hnone]
  servers serial := by
    rw [(makes_perform ask w c).serversMade, contains_perform, List.length_append, h.servers,
      List.filterMap_cons]
    cases hmade : serverMade? serial (c, (ask c w.outside).1) with
    | none => simp
    | some s =>
      obtain ⟨hcall, rfl⟩ := serverMade?_eq_some.1 hmade
      obtain rfl : c = .server s .create := (Prod.mk.inj hcall).1
      have hnone : w.servers.contains s.serial = false := hdue
      simp [hnone]
  ordered before x after hsplit := by
    rw [makes_perform ask w c] at hsplit
    -- The last exchange is that of the call, any other was there before.
    obtain rfl | ⟨later, y, rfl⟩ := after.eq_nil_or_concat
    · obtain ⟨rfl, hx⟩ := List.append_inj' hsplit rfl
      cases hx
      exact h.follows hdue
    · rw [List.concat_eq_append, ← List.cons_append, ← List.append_assoc] at hsplit
      exact h.ordered before x later (List.append_inj_left' hsplit rfl)

/-- The same result in the same state, of which a property holds. -/
theorem Outcome.Paired.same {P : World σ → Prop} {o : Outcome σ α} (h : P o.world) :
    o.Paired (fun w w' => w' = w ∧ P w) o := by
  obtain ⟨result, w⟩ := o
  exact .mk result ⟨rfl, h⟩

/-- Nothing that a provider does upsets the accounts. -/
theorem accounted_parallel (ask : Ask σ) (p : Provider) :
    Parallel ask p fun w w' => w' = w ∧ Accounted w where
  provider h := by rw [h.1]
  config h := by rw [h.1]
  built h _ _ := by rw [h.1]
  origin h _ _ := by rw [h.1]
  filed h := h.2.filed
  log h n := ⟨by rw [h.1], h.2.log n⟩
  call h c _ hdue := by
    obtain ⟨rfl, h⟩ := h
    exact .same (h.perform ask hdue)
  modifyProvider h f := ⟨by rw [h.1], h.2.congr rfl rfl fun _ => rfl⟩
  modifyConfig h f := ⟨by rw [h.1], h.2.congr rfl rfl fun _ => rfl⟩
  recordArgs h := ⟨by rw [h.1], h.2.modifyServices p.group fun _ => rfl⟩
  acquire h limit := by
    obtain ⟨rfl, h⟩ := h
    refine .same ?_
    rw [acquire]
    split
    · exact h
    · next n counts hcounts =>
      exact h.modifyServices p.group (f := fun t => { t with counts }) fun _ => rfl
  release h := by
    obtain ⟨rfl, h⟩ := h
    exact ⟨rfl, rfl, h.modifyServices p.group
      (f := fun t => { t with counts := (t.counts.release p.config.key).2 }) fun _ => rfl⟩
  enlist h := ⟨by rw [h.1], h.2.modifyServices p.group fun _ => rfl⟩
  delist h := ⟨by rw [h.1], h.2.modifyServices p.group fun _ => rfl⟩

theorem Accounted.publishNow (h : Accounted w) (ask : Ask σ) (p : Provider) :
    Accounted (w.publishNow ask p).world :=
  ((accounted_parallel ask p).publishNow ⟨rfl, h⟩).world.2

theorem Accounted.withdraw (h : Accounted w) (ask : Ask σ) (p : Provider) :
    Accounted (w.withdraw ask p) :=
  ((accounted_parallel ask p).withdraw ⟨rfl, h⟩).2

theorem Accounted.build (h : Accounted w) (ask : Ask σ) (s : ServerConfig) :
    Accounted (w.build ask s).world := by
  rw [World.build]
  split
  · exact h
  · next hnew => exact h.perform ask (Bool.eq_false_iff.2 hnew)

theorem Accounted.registryFor (h : Accounted w) (ask : Ask σ) (g : Nat) (r : RegistryConfig) :
    Accounted (World.registryFor ask g r w).world := by
  rw [registryFor_eq]
  cases hx : w.origin? g r.identity with
  | some x => exact h
  | none =>
    have hasked := h.perform ask (c := .registry g r .create) hx
    dsimp only
    generalize w.perform ask (.registry g r .create) = o at hasked ⊢
    obtain ⟨result, w₁⟩ := o
    cases result with
    | error e => exact hasked
    | ok u => exact hasked.log _

theorem Accounted.origin?_of_mem (h : Accounted w) {g : Nat} {identity : String}
    {x : RegistryConfig} (hx : x ∈ w.registriesMade g identity) :
    w.origin? g identity = some x := by
  rwa [h.registries, Option.mem_toList] at hx

theorem Accounted.registries_once (h : Accounted w) (g : Nat) (identity : String) :
    (w.registriesMade g identity).length ≤ 1 := by
  rw [h.registries]
  exact Option.length_toList_le

theorem Accounted.servers_once (h : Accounted w) (serial : Nat) :
    (w.serversMade serial).length ≤ 1 := by
  rw [h.servers]
  exact Bool.toNat_le _

end Accounts

section Requests

/-- What a look-up of a registry comes to. One that has been created is found, and nobody is asked;
otherwise the factory is asked, and if it refuses, what exists stays as it is. -/
inductive LookUpCourse (w : World σ) (g : Nat) (r : RegistryConfig) :
    Outcome σ RegistryConfig → Prop
  | found {x : RegistryConfig} (hmade : w.registriesMade g r.identity = [x]) :
      LookUpCourse w g r ⟨.ok x, w⟩
  | refused {e : ProviderError} {w' : World σ} (hnone : w.registriesMade g r.identity = [])
      (hasked : Makes w w' [(.registry g r .create, some e)]) (hgroups : w'.groups = w.groups)
      (hservers : w'.servers = w.servers) : LookUpCourse w g r ⟨.error e, w'⟩
  | created {w' : World σ} (hnone : w.registriesMade g r.identity = [])
      (hasked : Makes w w' [(.registry g r .create, none)])
      (hmade : w'.registriesMade g r.identity = [r]) : LookUpCourse w g r ⟨.ok r, w'⟩

/-- What a request for a server comes to. One that has been created is there, and nobody is asked;
otherwise the factory is asked, and if it refuses, what exists stays as it is. -/
inductive BuildCourse (w : World σ) (s : ServerConfig) : Outcome σ Unit → Prop
  | found {x : ServerConfig} (hmade : w.serversMade s.serial = [x]) : BuildCourse w s ⟨.ok (), w⟩
  | refused {e : ProviderError} {w' : World σ} (hnone : w.serversMade s.serial = [])
      (hasked : Makes w w' [(.server s .create, some e)]) (hgroups : w'.groups = w.groups)
      (hservers : w'.servers = w.servers) : BuildCourse w s ⟨.error e, w'⟩
  | created {w' : World σ} (hnone : w.serversMade s.serial = [])
      (hasked : Makes w w' [(.server s .create, none)]) (hmade : w'.serversMade s.serial = [s]) :
      BuildCourse w s ⟨.ok (), w'⟩

theorem Accounted.lookUp_course (h : Accounted w) (ask : Ask σ) (g : Nat) (r : RegistryConfig) :
    LookUpCourse w g r (World.registryFor ask g r w) := by
  have hmade := h.registries g r.identity
  rw [registryFor_eq]
  cases hx : w.origin? g r.identity with
  | some x =>
    rw [hx] at hmade
    exact .found hmade
  | none =>
    rw [hx] at hmade
    have hasked := makes_perform ask w (.registry g r .create)
    have hcourse := perform_course ask w (.registry g r .create)
    dsimp only
    generalize w.perform ask (.registry g r .create) = o at hasked hcourse ⊢
    cases hcourse with
    | refused hanswer =>
      rw [hanswer] at hasked
      exact .refused hmade hasked rfl rfl
    | accepted hanswer =>
      rw [hanswer] at hasked
      have hlogged := hasked.trans_eq (exchanges_log _ (.registryCreated r.id r.identity))
      refine .created hmade hlogged ?_
      rw [hlogged.registriesMade, hmade]
      simp [registryMade?]

theorem Accounted.build_course (h : Accounted w) (ask : Ask σ) (s : ServerConfig) :
    BuildCourse w s (w.build ask s) := by
  have hmade := h.servers s.serial
  rw [World.build]
  cases hs : w.servers.contains s.serial with
  | true =>
    rw [hs] at hmade
    obtain ⟨x, hx⟩ := List.length_eq_one_iff.1 hmade
    exact .found hx
  | false =>
    rw [hs] at hmade
    have hnone : w.serversMade s.serial = [] := List.length_eq_zero_iff.1 hmade
    have hasked := makes_perform ask w (.server s .create)
    have hcourse := perform_course ask w (.server s .create)
    simp only [Bool.false_eq_true, if_false]
    generalize w.perform ask (.server s .create) = o at hasked hcourse ⊢
    cases hcourse with
    | refused hanswer =>
      rw [hanswer] at hasked
      exact .refused hnone hasked rfl rfl
    | accepted hanswer =>
      rw [hanswer] at hasked
      refine .created hnone hasked ?_
      rw [hasked.serversMade, hnone]
      simp [serverMade?]

end Requests

section Returns

theorem AnnouncingVisit.creates_nothing {r : RegistryConfig} {made : List Exchange}
    (h : AnnouncingVisit p r made) : ∀ x ∈ made, x.1.isCreation = false := by
  obtain ⟨y, view, -, -, hturn⟩ := h
  intro x hx
  have hcall := hturn.mem hx
  simp only [List.mem_cons, List.not_mem_nil, or_false] at hcall
  obtain h | h | h := hcall <;> rw [h] <;> rfl

theorem ReleaseTrace.Of.creates_nothing {t : ReleaseTrace} {registries : List RegistryConfig}
    {servers : List ServerConfig} (h : t.Of p registries servers) :
    ∀ x ∈ t.calls, x.1.isCreation = false := by
  have hretracted := h.retracted.forall (P := fun x => x.1.isCreation = false)
    fun r made ⟨y, view, _, _, hturn⟩ x hx => by rw [List.mem_singleton.1 (hturn.mem hx)]; rfl
  have hunbound := h.unbound.forall (P := fun x => x.1.isCreation = false)
    fun s made ⟨view, _, hturn⟩ x hx => by rw [List.mem_singleton.1 (hturn.mem hx)]; rfl
  intro x hx
  obtain hx | hx := List.mem_append.1 hx
  · exact hretracted x hx
  · exact hunbound x hx

theorem creations_withdraw (ask : Ask σ) (hfiled : Filed w)
    (hstocked : w.isPublished p = true → w.Stocked p.group p.config.announcedIn) :
    (w.withdraw ask p).creations = w.creations := by
  cases hpublished : w.isPublished p with
  | false =>
    rw [withdraw_unpublished ask hpublished]
    rfl
  | true =>
    obtain ⟨t, ht, hmade⟩ := withdraw_trace ask hpublished hfiled (hstocked hpublished)
    exact hmade.creations ht.creates_nothing

/-- Whatever has come of an attempt, taking it back creates nothing. -/
theorem creations_discard (ask : Ask σ) (hfiled : Filed w) (p : Provider) :
    ((w.attempt ask p).outcome.world.discard ask p (w.attempt ask p)).creations =
      (w.attempt ask p).outcome.world.creations := by
  obtain ⟨haddressed, -⟩ := attempt_trace ask hfiled p
  obtain ⟨t, registries, servers, -, -, ht, hmade⟩ := discard_trace ask haddressed
  exact hmade.creations ht.creates_nothing

theorem creations_announce (ask : Ask σ) (hfiled : Filed w)
    (hstocked : w.Stocked p.group p.config.announcedIn) :
    (w.announce ask p).outcome.world.creations = w.creations := by
  obtain ⟨visited, made, hvisits⟩ := @announce_visits σ ask w p ⟨hfiled, hstocked⟩
  exact hvisits.makes.creations (hvisits.along.forall fun _ _ => AnnouncingVisit.creates_nothing)

end Returns

section Runs

/-- Besides the accounts, the registries of published providers exist. -/
structure SuppliedAmong (providers : List Provider) (w : World σ) : Prop
    extends Peopled providers w, Accounted w where
  stocked : ∀ p ∈ providers, w.isPublished p = true → w.Stocked p.group p.config.announcedIn

theorem suppliedAmong_start (providers : List Provider) (outside : σ) :
    SuppliedAmong providers (World.start outside) where
  toPeopled := peopled_start providers outside
  toAccounted := accounted_start outside
  stocked p _ hlive := by simp [World.start, isPublished, provider] at hlive

theorem SuppliedAmong.shrink (h : SuppliedAmong providers w) (hpeopled : Peopled providers w')
    (haccounted : Accounted w') (hkeeps : KeepsRegistries w w')
    (hpublished : ∀ q, w'.isPublished q = true → w.isPublished q = true) :
    SuppliedAmong providers w' where
  toPeopled := hpeopled
  toAccounted := haccounted
  stocked q hq hlive := hkeeps.stocked (h.stocked q hq (hpublished q hlive))

theorem SuppliedAmong.withdraw (h : SuppliedAmong providers w) (ask : Ask σ) (hp : p ∈ providers) :
    SuppliedAmong providers (w.withdraw ask p) :=
  h.shrink (h.toPeopled.withdraw hp) (h.toAccounted.withdraw ask p)
    (keepsRegistries_withdraw ask w p) fun _ => isPublished_of_withdraw

theorem SuppliedAmong.move (hnumbers : (providers.map Provider.number).Nodup)
    (h : SuppliedAmong providers w) (hmove : MoveAmong ask providers w w') :
    SuppliedAmong providers w' := by
  have hpeopled := h.toPeopled.move hmove
  obtain ⟨fleet, hmembers, hmove⟩ := hmove
  cases hmove with
  | publish hp =>
    exact ⟨hpeopled, h.toAccounted.publishNow ask _, fun q hq hlive =>
      stocked_publishNow_of_all hnumbers h.stocked (hmembers _ hp) hq hlive⟩
  | withdraw hp => exact h.withdraw ask (hmembers _ hp)
  | schedule hp due =>
    exact h.shrink hpeopled (h.toAccounted.congr rfl rfl fun _ => rfl) (.of_eq fun _ => rfl)
      fun _ => id
  | unschedule i =>
    exact h.shrink hpeopled (h.toAccounted.congr rfl rfl fun _ => rfl) (.of_eq fun _ => rfl)
      fun _ => id
  | write hwrite =>
    exact h.shrink hpeopled (h.toAccounted.congr rfl rfl fun _ => rfl) (.of_eq fun _ => rfl)
      fun _ => id
  | log hn => exact h.shrink hpeopled (h.log _) (.of_eq fun _ => rfl) fun _ => id
  | build s =>
    have hkeeps : KeepsRegistries w (w.build ask s).world :=
      build_keeps (P := KeepsRegistries w)
        (fun w' h => h.trans (keepsRegistries_perform ask w' _)) (.refl w)
    refine h.shrink hpeopled (h.toAccounted.build ask s) hkeeps fun q hlive => ?_
    rwa [(sameBooks_build ask w s).isPublished] at hlive
  | lookUp g r =>
    refine h.shrink hpeopled (h.toAccounted.registryFor ask g r)
      (keepsRegistries_registryFor ask w g r) fun q hlive => ?_
    rwa [(sameBooks_registryFor ask w g r).isPublished] at hlive

theorem Grows.makes {fits : Event → Prop} (h : Grows fits w w') : ∃ made, Makes w w' made := by
  obtain ⟨es, hes, -⟩ := h
  refine ⟨es.filterMap Event.exchange?, ?_⟩
  rw [Makes, exchanges, hes, List.filterMap_append, exchanges]

theorem makes_of_move (hfiled : Filed w) (hmove : MoveAmong ask providers w w') :
    ∃ made, Makes w w' made := by
  obtain ⟨fleet, -, hmove⟩ := hmove
  cases hmove with
  | @publish p hp =>
    obtain ⟨t, -, -, hmade⟩ := publishNow_trace ask hfiled p
    exact ⟨_, hmade⟩
  | @withdraw p hp => exact Grows.makes (quiet_withdraw ask w p)
  | schedule hp due => exact ⟨[], .of_eq rfl⟩
  | unschedule i => exact ⟨[], .of_eq rfl⟩
  | write hwrite => exact ⟨[], .of_eq rfl⟩
  | log hn => exact ⟨[], .of_eq (exchanges_log w _)⟩
  | build s => exact Grows.makes (quiet_build ask w s)
  | lookUp g r => exact Grows.makes (quiet_registryFor ask w g r)

theorem SuppliedAmong.moves (hnumbers : (providers.map Provider.number).Nodup)
    (h : SuppliedAmong providers w) (hmoves : MovesAmong ask providers w w') :
    SuppliedAmong providers w' ∧ ∃ made, Makes w w' made := by
  induction hmoves with
  | refl => exact ⟨h, [], .refl w⟩
  | tail _ hlast ih =>
    obtain ⟨hbefore, made, hmade⟩ := ih
    obtain ⟨later, hlater⟩ := makes_of_move hbefore.filed hlast
    exact ⟨hbefore.move hnumbers hlast, made ++ later, hmade.trans hlater⟩

theorem SuppliedAmong.creations_withdrawals (h : SuppliedAmong providers w) (ask : Ask σ)
    {ps : List Provider} (hps : ∀ p ∈ ps, p ∈ providers) :
    (ps.foldl (fun w p => w.withdraw ask p) w).creations = w.creations := by
  induction ps generalizing w with
  | nil => rfl
  | cons p ps ih =>
    have hp : p ∈ providers := hps p List.mem_cons_self
    exact (ih (h.withdraw ask hp) fun q hq => hps q (List.mem_cons_of_mem p hq)).trans
      (creations_withdraw ask h.filed (h.stocked p hp))

theorem SuppliedAmong.creations_shutDown (h : SuppliedAmong providers w) (ask : Ask σ) (g : Nat) :
    (w.shutDown ask g).2.creations = w.creations := by
  have hpublished : ∀ p ∈ w.publishedIn g, p ∈ providers := by
    intro p hp
    obtain ⟨m, hm⟩ := exists_entry_of_mem_publishedIn hp
    exact h.published g m p hm
  exact (creations_of_exchanges (exchanges_log _ _)).trans (h.creations_withdrawals ask hpublished)

/-- At most one registry is ever created in a group under an identity. Every look-up under that
identity gets it from then on; until then, every look-up asks the factory. -/
structure RegistriesOnce (ask : Ask σ) (providers : List Provider) (w : World σ) : Prop where
  once : ∀ g identity, (w.registriesMade g identity).length ≤ 1
  lookUp : ∀ g r, LookUpCourse w g r (registryFor ask g r w)
  lasting : ∀ w', MovesAmong ask providers w w' → ∀ g x, x ∈ w.registriesMade g x.identity →
    ∀ r : RegistryConfig, r.identity = x.identity → registryFor ask g r w' = ⟨.ok x, w'⟩

/-- At most one server is ever created from a configuration. It is there from then on; until then,
every request for it asks the factory. -/
structure ServersOnce (ask : Ask σ) (providers : List Provider) (w : World σ) : Prop where
  once : ∀ serial, (w.serversMade serial).length ≤ 1
  build : ∀ s, BuildCourse w s (w.build ask s)
  lasting : ∀ w', MovesAmong ask providers w w' → ∀ s x, x ∈ w.serversMade s.serial →
    w'.serversMade s.serial = [x] ∧ w'.build ask s = ⟨.ok (), w'⟩

/-- No factory is called on the way back, nor once the registries of a publication are at hand. -/
structure CreatesNothing (ask : Ask σ) (providers : List Provider) (w : World σ) : Prop where
  withdraw : ∀ p ∈ providers, (w.withdraw ask p).creations = w.creations
  shutDown : ∀ g, (w.shutDown ask g).2.creations = w.creations
  discard : ∀ p n counts, let a := (w.admitted p n counts).attempt ask p
    (a.outcome.world.discard ask p a).creations = a.outcome.world.creations
  announce : ∀ p n counts w₁,
    prime ask p.group p.config.announcedIn ((w.admitted p n counts).openInvoker p) = ⟨.ok (), w₁⟩ →
      let ready := listening p ((w.admitted p n counts).boundAfter ask p w₁)
      w₁.Stocked p.group p.config.announcedIn ∧
        (ready.announce ask p).outcome.world.creations = ready.creations

theorem SuppliedAmong.registriesOnce (hnumbers : (providers.map Provider.number).Nodup)
    (h : SuppliedAmong providers w) (ask : Ask σ) : RegistriesOnce ask providers w where
  once := h.registries_once
  lookUp := h.lookUp_course ask
  lasting w' hmoves g x hx r hr := by
    obtain ⟨hlater, made, hmade⟩ := h.moves hnumbers hmoves
    have hstill : x ∈ w'.registriesMade g x.identity := by
      rw [hmade.registriesMade]
      exact List.mem_append_left _ hx
    refine registryFor_of_origin ask w' ?_
    rw [hr]
    exact hlater.origin?_of_mem hstill

theorem SuppliedAmong.serversOnce (hnumbers : (providers.map Provider.number).Nodup)
    (h : SuppliedAmong providers w) (ask : Ask σ) : ServersOnce ask providers w where
  once := h.servers_once
  build := h.build_course ask
  lasting w' hmoves s x hx := by
    obtain ⟨hlater, made, hmade⟩ := h.moves hnumbers hmoves
    have hstill : x ∈ w'.serversMade s.serial := by
      rw [hmade.serversMade]
      exact List.mem_append_left _ hx
    have hone : (w'.serversMade s.serial).length = 1 :=
      Nat.le_antisymm (hlater.servers_once s.serial) (List.length_pos_of_mem hstill)
    obtain ⟨y, hy⟩ := List.length_eq_one_iff.1 hone
    have hthere : w'.servers.contains s.serial = true := by
      rw [← Bool.toNat_eq_one, ← hlater.servers, hone]
    refine ⟨?_, by rw [World.build, if_pos hthere]⟩
    rw [hy] at hstill ⊢
    rw [List.mem_singleton.1 hstill]

theorem SuppliedAmong.createsNothing (h : SuppliedAmong providers w) (ask : Ask σ) :
    CreatesNothing ask providers w where
  withdraw p hp := creations_withdraw ask h.filed (h.stocked p hp)
  shutDown := h.creations_shutDown ask
  discard p n counts := creations_discard ask ((sameBindings_admitted w p n counts).filed h.filed) p
  announce p n counts w₁ hprime := by
    obtain ⟨hprimed, hfiled, hstocked⟩ :=
      known_listening ((sameBindings_admitted w p n counts).filed h.filed) hprime
    exact ⟨hprimed, creations_announce ask hfiled hstocked⟩

/-- In every state that a run of operations reaches, and in every state amid the operations that
come after it: whatever the collaborators answer, registries and servers are created once, every
call so far was made of what had been created before it, and factories are not called by
withdrawals, by shutdowns, by what takes a failed publication back, or by the part of a publication
in which registries are told. -/
theorem instances_created_once (hnumbers : (providers.map Provider.number).Nodup)
    {ops : List Operation} (hops : ∀ op ∈ ops, op.Among providers) (outside : σ)
    (hw : MovesAmong ask providers (run ask ops (World.start outside)) w) :
    RegistriesOnce ask providers w ∧ ServersOnce ask providers w ∧
      (∀ before x after, w.exchanges = before ++ x :: after → x.1.Follows before) ∧
      CreatesNothing ask providers w := by
  have hrun : SuppliedAmong providers (run ask ops (World.start outside)) :=
    run_keeps_among (fun _ h => h.toPeopled) (fun _ _ h hmove => h.move hnumbers hmove) hops
      (suppliedAmong_start providers outside)
  obtain ⟨h, -⟩ := hrun.moves hnumbers hw
  exact ⟨h.registriesOnce hnumbers ask, h.serversOnce hnumbers ask, h.ordered,
    h.createsNothing ask⟩

/-- The first look-up of a registry is refused, then two providers of two groups are published on
one server. A third configuration of that registry gets what was created for the first. -/
theorem instances_created_once_pair :
    let registry (id : String) : RegistryConfig := ⟨⟨id, "mock", "hub"⟩, ⟨"mock"⟩⟩
    let a := smallProvider 0 [smallServer 0] [registry "first"] 1
    let b : Provider := { smallProvider 1 [smallServer 0] [registry "second"] 1 with group := 1 }
    let ops : List Operation := [.lookUp 0 (registry "first"), .publish a, .publish b]
    let ask : Ask Nat := fun _ n =>
      (if n = 0 then some (.runtime "refused" none) else none, n + 1)
    let w := run ask ops (World.start 0)
    ([a, b].map Provider.number).Nodup ∧ (∀ op ∈ ops, op.Among [a, b]) ∧
      registryFor ask 0 (registry "third") w = ⟨.ok (registry "first"), w⟩ ∧
      (w.serversMade 0).length ≤ 1 ∧ (w.withdraw ask a).creations = w.creations := by
  intro registry a b ops ask w
  have hnumbers : ([a, b].map Provider.number).Nodup := by decide
  have hops : ∀ op ∈ ops, op.Among [a, b] := by simp [ops, Operation.Among]
  have hmade : registry "first" ∈ w.registriesMade 0 (registry "first").identity := by
    decide +kernel
  obtain ⟨hregistries, hservers, -, hquiet⟩ :=
    @instances_created_once Nat ask [a, b] w hnumbers ops hops 0 .refl
  exact ⟨hnumbers, hops, hregistries.lasting w .refl 0 _ hmade (registry "third") rfl,
    hservers.once 0, hquiet.withdraw a List.mem_cons_self⟩

end Runs

end ServicePublisher
