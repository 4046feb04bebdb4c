import ServicePublisher.Proofs.Accepting
import ServicePublisher.Proofs.Rollback
import ServicePublisher.Proofs.Standing

/-! Providers that give up their place for a change. A provider that hears of updates is withdrawn
before it is published again, and its own limit decides anew whether it may be. So even where every
collaborator accepts every call it comes back only if its key has no more publications than its
limit allows; if not, the roll-back runs into the same limit. -/
namespace ServicePublisher

open World ProviderConfig

variable {σ : Type}

/-- A provider without delay is published, and hears of updates that are admitted and change
something. -/
structure Changeable (w : World σ) (p : Provider) (updates : Updates) : Prop where
  immediate : p.config.delayMs = 0
  published : w.isPublished p = true
  admitted : ∀ (key : String) value, updates[key]? = some value → p.config.Admits key value
  differs : ∃ (key : String) (value : Option String), updates[key]? = some value ∧
    (w.config p.config).attributes[key]? ≠ value

/-- Whether the publications of a key, that of the provider itself included, keep to its limit. -/
def World.WithinLimit (w : World σ) (p : Provider) : Prop :=
  p.config.repeatLimit.toInt ≤ 0 ∨ (w.liveCount p : Int) ≤ p.config.repeatLimit.toInt

section Changes

variable {ask : Ask σ} {w w' : World σ} {p : Provider} {updates : Updates}

theorem Suspended.hasRoom_iff (h : Suspended w w' p) : w'.HasRoom p ↔ w.WithinLimit p := by
  have hcount := h.count
  rw [HasRoom, WithinLimit]
  omega

theorem Suspended.publish_of_room (h : Suspended w w' p) (hdelay : p.config.delayMs = 0)
    (haccepts : ask.Accepts) (hcheck : p.config.check = .ok ()) (hlimit : w.WithinLimit p) :
    (w'.publish ask p).result = .ok () ∧ (w'.publish ask p).world.isPublished p = true ∧
      (w'.publish ask p).world.liveCount p = w.liveCount p := by
  obtain ⟨hok, hbooked, -⟩ :=
    publishNow_of_room haccepts h.published hcheck (h.hasRoom_iff.2 hlimit)
  rw [World.publish]
  simp only [hdelay, if_true]
  refine ⟨hok, ?_, ?_⟩
  · rw [isPublished, hbooked.provider_self]
  · rw [hbooked.liveCount_self, h.count]

theorem Suspended.publish_of_full (ask : Ask σ) (h : Suspended w w' p)
    (hdelay : p.config.delayMs = 0) (hcheck : p.config.check = .ok ())
    (hlimit : ¬w.WithinLimit p) :
    (w'.publish ask p).result =
        .error (.duplicate p.config.key.text p.config.repeatLimit.toInt.toNat) ∧
      Suspended w (w'.publish ask p).world p := by
  have hend := h.publish ask hdelay
  have hfull := publishNow_of_full ask h.published hcheck (mt h.hasRoom_iff.1 hlimit)
  have hresult : (w'.publish ask p).result =
      .error (.duplicate p.config.key.text p.config.repeatLimit.toInt.toNat) := by
    rw [World.publish]
    simp only [hdelay, if_true, hfull]
  obtain ⟨hok, -⟩ | ⟨e, -, hsuspended⟩ := hend
  · rw [hresult] at hok
    cases hok
  · exact ⟨hresult, hsuspended⟩

namespace Changeable

theorem admits (h : Changeable w p updates) : ∀ u ∈ updates.toList, p.config.Admits u.1 u.2 :=
  fun u hu => h.admitted u.1 u.2 (Std.ExtTreeMap.mem_toList_iff_getElem?_eq_some.1 hu)

theorem effective (h : Changeable w p updates) : Effective w p.config updates where
  accepted key value hvalue := by
    obtain ⟨k, hk, -⟩ := h.admitted key value hvalue
    exact ⟨_, by rw [queryAttribute, query, hk]; rfl⟩
  differs := h.differs

theorem rewritten (ask : Ask σ) (h : Changeable w p updates) (hcount : 0 < w.liveCount p) :
    ∃ w', w.republish ask p updates.toList = w'.publish ask p ∧ Suspended w w' p ∧
      (w'.config p.config).attributes =
        Attributes.putAll (w.config p.config).attributes updates.toList := by
  have hsuspended := suspended_withdraw ask h.published hcount
  have hcourse := republish_course ask w p updates.toList
  generalize w.republish ask p updates.toList = outcome at hcourse
  cases hcourse with
  | refused hbad hwritten hwrote => exact absurd h.admits hbad
  | @rewritten hgood w' hrewritten hwrote =>
    exact ⟨w', rfl, hsuspended.wrote hwrote, hwrote.attributes⟩

theorem reported (h : Changeable w p updates) (line : ProviderNotice) :
    Changeable (w.report p.config line) p updates :=
  ⟨h.immediate, h.published, h.admitted, h.differs⟩

/-- Within its limit the provider comes back with the new values. -/
theorem reconfigure_of_room (h : Changeable w p updates) (hcount : 0 < w.liveCount p)
    (haccepts : ask.Accepts) (hcheck : p.config.check = .ok ()) (hlimit : w.WithinLimit p) :
    let outcome := w.reconfigure ask p updates.toList
    outcome.result = .ok () ∧ outcome.world.isPublished p = true ∧
      (outcome.world.config p.config).attributes =
        Attributes.putAll (w.config p.config).attributes updates.toList ∧
      outcome.world.liveCount p = w.liveCount p := by
  obtain ⟨w', hfirst, hsuspended, hattributes⟩ :=
    (h.reported .republishing).rewritten ask hcount
  obtain ⟨hok, hlive, hsame⟩ := hsuspended.publish_of_room h.immediate haccepts hcheck hlimit
  have hsteady := (@steady_publish σ ask w' p).attributes
  have houtcome := reconfigure_of_stale ask h.effective.staleValues h.effective.stale_ne_nil
  rw [hfirst] at houtcome
  generalize w'.publish ask p = second at hok hlive hsame hsteady houtcome
  obtain ⟨result, w₁⟩ := second
  cases hok
  dsimp only
  rw [houtcome]
  exact ⟨rfl, hlive, hsteady.trans hattributes, hsame⟩

/-- Beyond it the provider is lost, whoever accepts what. -/
theorem reconfigure_of_full (ask : Ask σ) (h : Changeable w p updates) (hcount : 0 < w.liveCount p)
    (hcheck : p.config.check = .ok ()) (hlimit : ¬w.WithinLimit p) :
    let outcome := w.reconfigure ask p updates.toList
    outcome.result = .error (.duplicate p.config.key.text p.config.repeatLimit.toInt.toNat) ∧
      outcome.world.isPublished p = false ∧ outcome.world.liveCount p + 1 = w.liveCount p := by
  obtain ⟨w', hfirst, hsuspended, -⟩ := (h.reported .republishing).rewritten ask hcount
  obtain ⟨herror, hstill⟩ := hsuspended.publish_of_full ask h.immediate hcheck hlimit
  have houtcome := reconfigure_of_stale ask h.effective.staleValues h.effective.stale_ne_nil
  rw [hfirst] at houtcome
  generalize w'.publish ask p = second at herror hstill houtcome
  obtain ⟨result, w₁⟩ := second
  cases herror
  -- The roll-back finds the provider suspended as before, whatever it can write back.
  have hback := wroteBack_restore p.config
    (Attributes.stale (w.config p.config).attributes updates.toList)
    (w₁.report p.config (.updateFailed
      (.duplicate p.config.key.text p.config.repeatLimit.toInt.toNat)))
  have hrestored : Suspended w (restore p.config
      (Attributes.stale (w.config p.config).attributes updates.toList)
      (w₁.report p.config (.updateFailed
        (.duplicate p.config.key.text p.config.repeatLimit.toInt.toNat)))) p := by
    refine ⟨?_, ?_⟩
    · rw [isPublished, provider, hback.providers]
      exact hstill.published
    · rw [liveCount, services, hback.groups]
      exact hstill.count
  obtain ⟨herror, hlost⟩ := hrestored.publish_of_full ask h.immediate hcheck hlimit
  dsimp only at houtcome ⊢
  rw [houtcome, World.rollBack]
  generalize (restore p.config _ _).publish ask p = third at herror hlost
  obtain ⟨result, w₂⟩ := third
  cases herror
  exact ⟨rfl, hlost.published, hlost.count⟩

end Changeable

end Changes

/-- If every collaborator accepts every call, a change that a provider hears of is made exactly if
the publications of its key keep to its limit; if not, the provider is lost, and so is its count. -/
theorem reconfiguration_succeeds_iff_within_limit {fleet : Fleet} {p : Provider}
    (hp : p ∈ fleet.members) (howns : fleet.Owns p) (ask : Ask σ) (outside : σ)
    {ops : List Operation} (hops : ∀ op ∈ ops, op.Within fleet) {ask' : Ask σ}
    (haccepts : ask'.Accepts) {updates : Updates}
    (h : Changeable (run ask ops (World.start outside)) p updates) :
    let w := run ask ops (World.start outside)
    let limit := p.config.repeatLimit.toInt
    let outcome := w.notify ask' p.config (.updated updates)
    (outcome.result = .ok () ∧ outcome.world.isPublished p = true ∧
        (outcome.world.config p.config).attributes =
          Attributes.putAll (w.config p.config).attributes updates.toList ∧
        outcome.world.liveCount p = w.liveCount p ↔
      limit ≤ 0 ∨ (fleet.publications w p.config.key : Int) ≤ limit) ∧
    (0 < limit ∧ limit < (fleet.publications w p.config.key : Int) →
      outcome.result = .error (.duplicate p.config.key.text limit.toNat) ∧
        outcome.world.isPublished p = false ∧ outcome.world.liveCount p + 1 = w.liveCount p) := by
  intro w limit outcome
  have hstanding : Standing fleet w := standing_run ask outside hops
  have hcheck := hstanding.fit p hp h.published
  have hcount := hstanding.liveCount_pos hp h.published
  have houtcome : outcome = _ := hstanding.notify ask' hp howns h.published updates
  have hlimit : limit ≤ 0 ∨ (fleet.publications w p.config.key : Int) ≤ limit ↔
      w.WithinLimit p := by
    rw [WithinLimit, hstanding.liveCount_eq hp]
  rw [hlimit, houtcome]
  refine ⟨⟨fun hchanged => ?_, h.reconfigure_of_room hcount haccepts hcheck⟩, fun hbeyond => ?_⟩
  · by_contra hfull
    obtain ⟨herror, -⟩ := h.reconfigure_of_full ask' hcount hcheck hfull
    rw [hchanged.1] at herror
    cases herror
  · refine h.reconfigure_of_full ask' hcount hcheck fun hwithin => ?_
    have hbelow := hlimit.2 hwithin
    omega

/-- Two providers of one key with room for both: the first is given a tag. -/
theorem reconfiguration_beside_sibling :
    let a := smallProvider 0 [smallServer 0] [] 2
    let b := smallProvider 1 [smallServer 1] [] 0
    let fleet := Fleet.pair a b rfl (by decide)
    let ask : Ask Unit := fun _ outside => (none, outside)
    let ops : List Operation := [.publish a, .publish b]
    let updates := (∅ : Updates).insert "tags" (some "blue")
    let w := run ask ops (World.start ())
    a ∈ fleet.members ∧ fleet.Owns a ∧ (∀ op ∈ ops, op.Within fleet) ∧ ask.Accepts ∧
      Changeable w a updates ∧
      ((w.notify ask a.config (.updated updates)).result = .ok () ∧
        (w.notify ask a.config (.updated updates)).world.isPublished a = true ∧
        ((w.notify ask a.config (.updated updates)).world.config a.config).attributes =
          Attributes.putAll (w.config a.config).attributes updates.toList ∧
        (w.notify ask a.config (.updated updates)).world.liveCount a = w.liveCount a) := by
  intro a b fleet ask ops updates w
  have ha : a ∈ fleet.members := List.mem_cons_self
  have howns : fleet.Owns a :=
    Fleet.owns_pair a b rfl (by decide) (by decide) ha
  have hops : ∀ op ∈ ops, op.Within fleet := by
    simp [ops, Operation.Within, fleet, Fleet.pair]
  have haccepts : ask.Accepts := fun _ _ => rfl
  have h : Changeable w a updates := by
    refine ⟨rfl, by decide +kernel, fun key value hvalue => ?_, "tags", some "blue", ?_, ?_⟩
    · obtain ⟨rfl, rfl⟩ : "tags" = key ∧ some "blue" = value := by
        simpa [updates, Std.ExtTreeMap.getElem?_insert] using hvalue
      exact ⟨.plain "tags", rfl, fun hnumeric => by cases hnumeric⟩
    · simp [updates]
    · decide +kernel
  have hpublications : fleet.publications w a.config.key = 2 := by decide +kernel
  have hwithin : a.config.repeatLimit.toInt ≤ 0 ∨
      (fleet.publications w a.config.key : Int) ≤ a.config.repeatLimit.toInt := by
    rw [hpublications]
    decide
  exact ⟨ha, howns, hops, haccepts, h,
    (reconfiguration_succeeds_iff_within_limit ha howns ask () hops haccepts h).1.2 hwithin⟩

/-- A provider that may be published once hears of a new tag, while one without limit is published
on another server: it was the first, but it does not come back. -/
theorem reconfiguration_loses_first_of_two :
    let a := smallProvider 0 [smallServer 0] [] 1
    let b := smallProvider 1 [smallServer 1] [] 0
    let ask : Ask Unit := fun _ outside => (none, outside)
    let updates := (∅ : Updates).insert "tags" (some "blue")
    let w := run ask [.publish a, .publish b] (World.start ())
    let outcome := w.notify ask a.config (.updated updates)
    ask.Accepts ∧ a.config.key = b.config.key ∧ w.isPublished a = true ∧
      outcome.result.isOk = false ∧ outcome.world.isPublished a = false ∧
      outcome.world.isPublished b = true := by
  intro a b ask updates w outcome
  exact ⟨fun _ _ => rfl, by decide +kernel, by decide +kernel, by decide +kernel,
    by decide +kernel, by decide +kernel⟩

section Limits

variable {ask : Ask σ} {fleet : Fleet} {w w' : World σ} {p : Provider}

def Fleet.EquallyLimited (fleet : Fleet) : Prop :=
  ∀ p ∈ fleet.members, ∀ q ∈ fleet.members, p.config.key = q.config.key →
    p.config.repeatLimit = q.config.repeatLimit

/-- The publications of every key keep to the limits of its providers. -/
structure Limited (fleet : Fleet) (w : World σ) : Prop extends Coherent fleet w where
  within : ∀ p ∈ fleet.members, w.WithinLimit p

theorem limited_start (fleet : Fleet) (outside : σ) : Limited fleet (World.start outside) where
  toCoherent := coherent_start fleet outside
  within p _ := by
    have hnone : (World.start outside).liveCount p = 0 := by
      simp [World.start, liveCount, services]
    rw [WithinLimit, hnone]
    omega

theorem Limited.congr (h : Limited fleet w) (hcoherent : Coherent fleet w')
    (hcounts : ∀ g, (w'.services g).counts = (w.services g).counts) : Limited fleet w' where
  toCoherent := hcoherent
  within q hq := by
    have hwithin := h.within q hq
    rwa [WithinLimit, liveCount, hcounts, ← liveCount, ← WithinLimit]

theorem Limited.rebooked (hequal : fleet.EquallyLimited) (h : Limited fleet w)
    (hp : p ∈ fleet.members) (hcoherent : Coherent fleet w') {s : ProviderState}
    {l : Option Listener} {n : Nat} {t : Option Provider} (hbooked : Rebooked w w' p s l n t)
    (hwithin : p.config.repeatLimit.toInt ≤ 0 ∨ (n : Int) ≤ p.config.repeatLimit.toInt) :
    Limited fleet w' where
  toCoherent := hcoherent
  within q hq := by
    rw [WithinLimit, liveCount, hbooked.count, fleet.together p hp, fleet.together q hq]
    by_cases hkey : p.config.key = q.config.key
    · simpa [hkey, ← hequal p hp q hq hkey] using hwithin
    · have hold := h.within q hq
      rw [WithinLimit, liveCount, fleet.together q hq] at hold
      simpa [hkey] using hold

theorem Limited.publishNow (hequal : fleet.EquallyLimited) (h : Limited fleet w)
    (hp : p ∈ fleet.members) : Limited fleet (w.publishNow ask p).world := by
  have hcoherent := @Coherent.publishNow σ fleet w ask p h.toCoherent hp
  have hcourse := publishNow_course ask w p
  generalize w.publishNow ask p = outcome at hcourse hcoherent
  cases hcourse with
  | already hpublished => exact h
  | unfit hpublished hcheck => exact h
  | refused hpublished hcheck hlimit =>
    exact h.rebooked hequal hp hcoherent (rebooked_prepared w p) (h.within p hp)
  | failed hpublished hcheck hlimit hattempt =>
    exact h.rebooked hequal hp hcoherent (rebooked_failed hlimit hattempt) (h.within p hp)
  | done hpublished hcheck hlimit hattempt =>
    refine h.rebooked hequal hp hcoherent (rebooked_done hlimit hattempt) ?_
    obtain ⟨hroom, -, -⟩ := ExportCounts.acquire_eq_ok_iff.1 hlimit
    rw [liveCount]
    omega

theorem Limited.withdraw (hequal : fleet.EquallyLimited) (h : Limited fleet w)
    (hp : p ∈ fleet.members) : Limited fleet (w.withdraw ask p) := by
  have hcoherent := @Coherent.withdraw σ fleet w ask p h.toCoherent hp
  cases hpublished : w.isPublished p with
  | false =>
    rw [withdraw_unpublished ask hpublished] at hcoherent ⊢
    exact h.congr hcoherent fun _ => rfl
  | true =>
    refine h.rebooked hequal hp hcoherent (rebooked_withdraw hpublished) ?_
    have hwithin := h.within p hp
    rw [WithinLimit] at hwithin
    omega

theorem Limited.move (hequal : fleet.EquallyLimited) (h : Limited fleet w)
    (hmove : Move ask fleet w w') : Limited fleet w' := by
  have hcoherent := h.toCoherent.move hmove
  cases hmove with
  | publish hp => exact h.publishNow hequal hp
  | withdraw hp => exact h.withdraw hequal hp
  | schedule hp due => exact h.congr hcoherent fun _ => rfl
  | unschedule i => exact h.congr hcoherent fun _ => rfl
  | write hwrite => exact h.congr hcoherent fun _ => rfl
  | log hn => exact h.congr hcoherent fun _ => rfl
  | build s => exact h.congr hcoherent (sameBooks_build ask w s).counts
  | lookUp g r => exact h.congr hcoherent (sameBooks_registryFor ask w g r).counts

/-- If all providers of a key have the same limit, no run gets a key beyond it, so that no change
without faults loses a provider. -/
theorem within_limit_run (hequal : fleet.EquallyLimited) (ask : Ask σ) (outside : σ)
    {ops : List Operation} (hops : ∀ op ∈ ops, op.Within fleet) (hp : p ∈ fleet.members) :
    (run ask ops (World.start outside)).WithinLimit p := by
  have hlimited : Limited fleet (run ask ops (World.start outside)) :=
    run_keeps ask (fun _ h => h.toClosed) (fun _ _ h hmove => h.move hequal hmove) hops
      (limited_start fleet outside)
  exact hlimited.within p hp

end Limits

end ServicePublisher
