import ServicePublisher.Proofs.Accepting
import ServicePublisher.Proofs.Orphans
import ServicePublisher.Proofs.Standing

/-! Providers of one key beside each other. A withdrawal takes the entries of its key back without
asking who else relies on them, so a provider keeps its entries while its siblings come and go
exactly if it shares no place with those that may be published meanwhile. -/
namespace ServicePublisher

open World

/-- No place is used by two providers that may be published under one key at a time. -/
def Fleet.Apart (fleet : Fleet) : Prop :=
  ∀ p ∈ fleet.members, ∀ q ∈ fleet.members, q ≠ p → p.MayFailBeside q →
    ∀ place : Place, place.UsedBy p → ¬place.UsedBy q

section Served

variable {σ : Type} {ask : Ask σ} {fleet : Fleet} {w w' : World σ} {p q : Provider}

theorem Fleet.Apart.not_usedBy (hapart : fleet.Apart) (h : Standing fleet w)
    (hp : p ∈ fleet.members) (hq : q ∈ fleet.members) (hplive : w.isPublished p = true)
    (hqlive : w.isPublished q = true) (hkey : p.config.key = q.config.key) (hne : p ≠ q)
    {place : Place} (hused : place.UsedBy q) : ¬place.UsedBy p := by
  obtain hbeside | hbeside := h.joined p hp q hq hplive hqlive hkey hne
  · exact fun hboth => hapart p hp q hq hne.symm hbeside place hboth hused
  · exact hapart q hq p hp hne hbeside place hused

/-- Every published provider has its entry at all places that it uses. -/
structure Served (fleet : Fleet) (w : World σ) : Prop extends Standing fleet w where
  holds : ∀ p ∈ fleet.members, w.isPublished p = true → ∀ place : Place, place.UsedBy p →
    w.Holds place p.config.key

theorem served_start (fleet : Fleet) (outside : σ) : Served fleet (World.start outside) where
  toStanding := standing_start fleet outside
  holds p _ hlive := by simp [World.start, isPublished, provider] at hlive

theorem Served.same (h : Served fleet w) (hstanding : Standing fleet w')
    (hpublished : ∀ q, w'.isPublished q = w.isPublished q) (hsame : SameBindings w w') :
    Served fleet w' where
  toStanding := hstanding
  holds q hq hlive place hused := by
    rw [hsame.holds]
    exact h.holds q hq (by rwa [hpublished] at hlive) place hused

theorem Served.publishNow (haccepts : ask.Accepts) (h : Served fleet w) (hp : p ∈ fleet.members) :
    Served fleet (w.publishNow ask p).world := by
  have hstanding := @Standing.publishNow σ ask fleet w p h.toStanding hp
  have hcourse := publishNow_course ask w p
  generalize w.publishNow ask p = outcome at hcourse hstanding
  cases hcourse with
  | already hpublished => exact h
  | unfit hpublished hcheck => exact h
  | refused hpublished hcheck hlimit =>
    refine h.same hstanding (fun q => ?_) (sameBindings_prepared w p)
    rw [isPublished, provider_prepared, isPublished]
  | @failed hpublished hcheck n counts e hlimit hattempt =>
    have hok := (attempt_of_accepts haccepts (w.admitted p n counts) p).2.2
    simp [hok] at hattempt
  | @done hpublished hcheck n counts hlimit hattempt =>
    have hlives := isPublished_rebooked (@rebooked_done σ ask w p n counts hlimit hattempt)
    have hbound := rebound_done ask h.filed p n counts
    obtain ⟨hservers, hregistries, -⟩ := attempt_of_accepts haccepts (w.admitted p n counts) p
    rw [hservers, hregistries] at hbound
    refine ⟨hstanding, fun q hq hlive place hused => ?_⟩
    -- A publication writes entries and removes none.
    by_cases hwritten : place.UsedBy p ∧ p.config.key = q.config.key
    · rw [← hwritten.2]
      exact (hbound.holds hwritten.1).2 (Option.some_ne_none _)
    · have hne : q ≠ p := by
        rintro rfl
        exact hwritten ⟨hused, rfl⟩
      rw [hlives, if_neg (fleet.number_ne hp hq hne)] at hlive
      exact (hbound.holds_other hwritten).2 (h.holds q hq hlive place hused)

theorem Served.withdraw (haccepts : ask.Accepts) (hapart : fleet.Apart) (h : Served fleet w)
    (hp : p ∈ fleet.members) : Served fleet (w.withdraw ask p) := by
  have hstanding := @Standing.withdraw σ ask fleet w p h.toStanding hp
  cases hpublished : w.isPublished p with
  | false =>
    refine h.same hstanding (isPublished_withdraw hpublished) ?_
    rw [withdraw_unpublished ask hpublished]
    exact .of_eq rfl fun _ => rfl
  | true =>
    have hlives := isPublished_rebooked (@rebooked_withdraw σ ask w p hpublished)
    have hbound := rebound_withdraw haccepts.releases h.filed hpublished
    refine ⟨hstanding, fun q hq hlive place hused => ?_⟩
    have hne : q ≠ p := by
      rintro rfl
      simp [hlives] at hlive
    rw [hlives, if_neg (fleet.number_ne hp hq hne)] at hlive
    -- What is taken back is shared by nobody: `p` and `q` were published together.
    refine (hbound.holds_other fun hshared => ?_).2 (h.holds q hq hlive place hused)
    exact hapart.not_usedBy h.toStanding hp hq hpublished hlive hshared.2 hne.symm hused hshared.1

theorem Served.move (haccepts : ask.Accepts) (hapart : fleet.Apart) (h : Served fleet w)
    (hmove : Move ask fleet w w') : Served fleet w' := by
  have hstanding := h.toStanding.move hmove
  cases hmove with
  | publish hp => exact h.publishNow haccepts hp
  | withdraw hp => exact h.withdraw haccepts hapart hp
  | schedule hp due => exact h.same hstanding (fun _ => rfl) (.of_eq rfl fun _ => rfl)
  | unschedule i => exact h.same hstanding (fun _ => rfl) (.of_eq rfl fun _ => rfl)
  | write hwrite => exact h.same hstanding (fun _ => rfl) (.of_eq rfl fun _ => rfl)
  | log hn => exact h.same hstanding (fun _ => rfl) (.of_eq rfl fun _ => rfl)
  | build s =>
    exact h.same hstanding (sameBooks_build ask w s).isPublished (sameBindings_build ask w s)
  | lookUp g r =>
    exact h.same hstanding (sameBooks_registryFor ask w g r).isPublished
      (sameBindings_registryFor w g r)

theorem served_run (haccepts : ask.Accepts) (hapart : fleet.Apart) (outside : σ)
    {ops : List Operation} (hops : ∀ op ∈ ops, op.Within fleet) :
    Served fleet (run ask ops (World.start outside)) :=
  run_keeps ask (fun _ h => h.toClosed) (fun _ _ h hmove => h.move haccepts hapart hmove) hops
    (served_start fleet outside)

end Served

section Dispossession

variable {σ : Type} {ask : Ask σ} {w : World σ} {p q : Provider} {pLive qLive : Bool} {n : Nat}

/-- Two providers of one key, each of them published or not, with nothing scheduled. -/
structure Beside (p q : Provider) (pLive qLive : Bool) (n : Nat) (w : World σ) : Prop where
  group : q.group = p.group
  key : q.config.key = p.config.key
  number : p.number ≠ q.number
  idle : w.scheduled = []
  filed : Filed w
  first : w.isPublished p = pLive
  second : w.isPublished q = qLive
  count : w.liveCount p = n

theorem Beside.swap (h : Beside p q pLive qLive n w) : Beside q p qLive pLive n w where
  group := h.group.symm
  key := h.key.symm
  number := h.number.symm
  idle := h.idle
  filed := h.filed
  first := h.second
  second := h.first
  count := by rw [liveCount, h.group, h.key, ← h.count, liveCount]

theorem Beside.log (h : Beside p q pLive qLive n w) (line : Notice) :
    Beside p q pLive qLive n (w.log line) :=
  ⟨h.group, h.key, h.number, h.idle, h.filed, h.first, h.second, h.count⟩

theorem Beside.publishNow (haccepts : ask.Accepts) (hcheck : p.config.check = .ok ())
    (h : Beside p q false qLive n w)
    (hroom : p.config.repeatLimit.toInt ≤ 0 ∨ (n : Int) < p.config.repeatLimit.toInt) :
    Beside p q true qLive (n + 1) (w.publishNow ask p).world := by
  have hroom' : w.HasRoom p := by rwa [HasRoom, h.count]
  obtain ⟨-, hbooked, hbound⟩ := publishNow_of_room haccepts h.first hcheck hroom'
  refine ⟨h.group, h.key, h.number, ?_, (hbound h.filed).filed, ?_, ?_, ?_⟩
  · rw [hbooked.scheduled, h.idle]
  · rw [isPublished, hbooked.provider_self]
  · rw [isPublished_rebooked hbooked, if_neg h.number, h.second]
  · rw [hbooked.liveCount_self, h.count]

theorem beside_both (haccepts : ask.Accepts) (hbeside : p.MayFailBeside q)
    (h : Beside p q false false 0 w) :
    Beside p q true true 2 (run ask [.publish q, .fire 0, .publish p, .fire 0] w) := by
  have hfirst : Beside q p true false 1 (run ask [.publish q, .fire 0] w) :=
    run_publish_fire (R := Beside q p false false 0) (fun _ line h => h.log line)
      (fun _ line h => h.log line)
      (fun _ h => h.publishNow haccepts hbeside.fit.1 (by omega)) (fun _ h => h.idle)
      h.swap h.idle h.second
  have hlimit := hbeside.limit
  exact run_publish_fire (R := Beside p q false true 1) (fun _ line h => h.log line)
    (fun _ line h => h.log line)
    (fun _ h => h.publishNow haccepts hbeside.fit.2 (by omega)) (fun _ h => h.idle)
    hfirst.swap hfirst.idle hfirst.second

theorem Beside.dispossessed (haccepts : ask.Accepts) (h : Beside p q true true n w) {place : Place}
    (hq : place.UsedBy q) :
    (w.withdraw ask q).isPublished p = true ∧ ¬(w.withdraw ask q).Holds place p.config.key := by
  have hbooked := @rebooked_withdraw σ ask w q h.second
  have hbound := rebound_withdraw haccepts.releases h.filed h.second
  refine ⟨?_, fun hkept => ?_⟩
  · rw [isPublished_rebooked hbooked, if_neg h.number.symm, h.first]
  · rw [← h.key] at hkept
    exact (hbound.holds hq).1 hkept rfl

end Dispossession

/-- A fleet is apart exactly if, with collaborators that accept everything, every run of
publications and withdrawals leaves each published provider bound at all its servers and listed in
all its registries. -/
theorem apart_iff_siblings_keep (fleet : Fleet) :
    fleet.Apart ↔ ∀ (σ : Type) (ask : Ask σ), ask.Accepts →
      ∀ (outside : σ) (ops : List Operation), (∀ op ∈ ops, op.Plain ∧ op.Within fleet) →
      ∀ p ∈ fleet.members, (run ask ops (World.start outside)).isPublished p = true →
      ∀ place : Place, place.UsedBy p →
        (run ask ops (World.start outside)).Holds place p.config.key := by
  constructor
  · intro hapart σ ask haccepts outside ops hops
    exact (served_run haccepts hapart outside fun op hop => (hops op hop).2).holds
  · intro hkeeps p hp q hq hne hbeside place hpused hqused
    -- Two that share a place are published, and the withdrawal of one takes it from the other.
    let ask : Ask Unit := fun _ outside => (none, outside)
    have haccepts : ask.Accepts := fun _ _ => rfl
    have hgroup : q.group = p.group := by rw [fleet.together q hq, fleet.together p hp]
    have hstart : Beside p q false false 0 (World.start ()) := by
      refine ⟨hgroup, hbeside.key, fleet.number_ne hp hq hne, rfl, ?_, ?_, ?_, ?_⟩
      · exact (standing_start fleet ()).filed
      · simp [World.start, isPublished, provider]
      · simp [World.start, isPublished, provider]
      · simp [World.start, liveCount, services]
    obtain ⟨hlive, hgone⟩ := (beside_both haccepts hbeside hstart).dispossessed haccepts hqused
    refine hgone (hkeeps Unit ask haccepts () [.publish q, .fire 0, .publish p, .fire 0,
      .withdraw q] ?_ p hp hlive place hpused)
    simp [Operation.Plain, Operation.Within, hp, hq]

/-- Two providers of one key on one server: when the first is withdrawn, the second is still
published, but no server and no registry knows it. -/
theorem sibling_loses_shared_server :
    let registry : RegistryConfig := ⟨⟨"registry", "mock", "registry"⟩, ⟨"mock"⟩⟩
    let a := smallProvider 0 [smallServer 0] [registry] 0
    let b := smallProvider 1 [smallServer 0] [registry] 0
    let ask : Ask Unit := fun _ outside => (none, outside)
    let w := run ask [.publish a, .publish b, .withdraw a] (World.start ())
    ask.Accepts ∧ a.config.key = b.config.key ∧ w.isPublished b = true ∧
      ¬w.Holds (.server 0) b.config.key ∧
      ¬w.Holds (.registry 0 registry.identity) b.config.key := by
  intro registry a b ask w
  have hunbound : (w.processor? 0 b.config.key).isNone = true := by decide +kernel
  have hunlisted : w.listed 0 registry.identity b.config.key = false := by decide +kernel
  refine ⟨fun _ _ => rfl, by decide +kernel, by decide +kernel, ?_, ?_⟩
  · exact not_not.2 (Option.isNone_iff_eq_none.1 hunbound)
  · exact Bool.eq_false_iff.1 hunlisted

end ServicePublisher
