import ServicePublisher.Proofs.Coverage
import ServicePublisher.Proofs.Invokers

/-! Agreement with the outside. When a key is published once at most, servers and registries hold
exactly what the log says they accepted from the latest publication: a server the invoker of the
provider that is published, a registry its key. -/
namespace ServicePublisher

open World

section Agreement

variable {σ : Type} {fleet : Fleet} {w w' : World σ} {p : Provider}

/-- Under one key, servers and registries hold what they accepted from the provider published. -/
def AgreesOn (fleet : Fleet) (w : World σ) (k : ServiceKey) : Prop :=
  (∀ n v, w.processor? n k = some v ↔
    ∃ p ∈ fleet.members, p.config.key = k ∧ w.isPublished p = true ∧
      (w.provider p).invoker = some v ∧ w.AcceptedAt n v) ∧
  ∀ identity, w.listed fleet.group identity k = true ↔
    ∃ p ∈ fleet.members, p.config.key = k ∧ w.isPublished p = true ∧ w.AnnouncedAt p identity

/-- Under every key they do; and no key is published twice, and no invoker used twice. -/
structure Agreed (fleet : Fleet) (w : World σ) : Prop extends Covered fleet w where
  single : ∀ p ∈ fleet.members, ∀ q ∈ fleet.members, w.isPublished p = true →
    w.isPublished q = true → p.config.key = q.config.key → p = q
  own : ∀ p ∈ fleet.members, ∀ v, (w.provider p).invoker = some v → v.provider = p.number
  past : ∀ p ∈ fleet.members, ∀ n v, w.AcceptedAt n v → v.provider = p.number →
    v.attempt < (w.provider p).attempts
  agrees : ∀ k, AgreesOn fleet w k

theorem Covered.agreesOn_nobody (h : Covered fleet w) {k : ServiceKey}
    (hnone : ∀ p ∈ fleet.members, p.config.key = k → w.isPublished p = false) :
    AgreesOn fleet w k := by
  refine ⟨fun n v => ⟨fun hv => ?_, ?_⟩, fun identity => ⟨fun hk => ?_, ?_⟩⟩
  · refine absurd ?_ (h.not_holds hnone (.server n))
    rw [Holds, hv]
    exact Option.some_ne_none v
  · intro hgiven
    obtain ⟨p, hp, hkey, hlive, -⟩ := hgiven
    rw [hnone p hp hkey] at hlive
    cases hlive
  · exact absurd hk (h.not_holds hnone (.registry fleet.group identity))
  · intro hgiven
    obtain ⟨p, hp, hkey, hlive, -⟩ := hgiven
    rw [hnone p hp hkey] at hlive
    cases hlive

theorem AgreesOn.congr {k : ServiceKey} (h : AgreesOn fleet w k)
    (hprocessor : ∀ n, w'.processor? n k = w.processor? n k)
    (hlisted : ∀ identity, w'.listed fleet.group identity k = w.listed fleet.group identity k)
    (hpublished : ∀ p ∈ fleet.members, p.config.key = k → w'.isPublished p = w.isPublished p)
    (hinvoker : ∀ p ∈ fleet.members, p.config.key = k →
      (w'.provider p).invoker = (w.provider p).invoker)
    (haccepted : ∀ p ∈ fleet.members, p.config.key = k → ∀ v, (w.provider p).invoker = some v →
      ∀ n, w'.AcceptedAt n v ↔ w.AcceptedAt n v)
    (hannounced : ∀ p ∈ fleet.members, p.config.key = k → ∀ identity,
      w'.AnnouncedAt p identity ↔ w.AnnouncedAt p identity) :
    AgreesOn fleet w' k := by
  refine ⟨fun n v => ?_, fun identity => ?_⟩
  · rw [hprocessor, h.1]
    refine exists_congr fun p => and_congr_right fun hp => and_congr_right fun hkey => ?_
    rw [hpublished p hp hkey, hinvoker p hp hkey]
    refine and_congr_right fun _ => and_congr_right fun hv => ?_
    exact (haccepted p hp hkey v hv n).symm
  · rw [hlisted, h.2]
    refine exists_congr fun p => and_congr_right fun hp => and_congr_right fun hkey => ?_
    rw [hpublished p hp hkey, hannounced p hp hkey]

theorem agreed_start (fleet : Fleet) (outside : σ) : Agreed fleet (World.start outside) where
  toCovered := covered_start fleet outside
  single p _ q _ hlive := by simp [World.start, isPublished, provider] at hlive
  own p hp v hv := ((minted_start fleet outside).own p hp v hv).provider
  past := (minted_start fleet outside).past
  agrees k := (covered_start fleet outside).agreesOn_nobody fun p _ _ => by
    simp [World.start, isPublished, provider]

theorem Agreed.idle (h : Agreed fleet w) (hcovered : Covered fleet w') (hminted : Minted fleet w')
    (hidle : Idle w w') (hpublished : ∀ q, w'.isPublished q = w.isPublished q)
    (hinvoker : ∀ q, (w'.provider q).invoker = (w.provider q).invoker) : Agreed fleet w' where
  toCovered := hcovered
  single p hp q hq := by
    rw [hpublished, hpublished]
    exact h.single p hp q hq
  own p hp v hv := (hminted.own p hp v hv).provider
  past := hminted.past
  agrees k := (h.agrees k).congr (fun n => hidle.same.processor n k)
    (fun identity => hidle.same.listed fleet.group identity k) (fun p _ _ => hpublished p)
    (fun p _ _ => hinvoker p) (fun _ _ _ v _ n => acceptedAt_quiet hidle.quiet n v)
    (fun p _ _ identity => announcedAt_quiet hidle.quiet p identity)

/-- Whatever happens to one provider leaves agreement under all other keys. -/
theorem Agreed.rebooked (h : Agreed fleet w) (hp : p ∈ fleet.members) (hcovered : Covered fleet w')
    (hminted : Minted fleet w') {s : ProviderState} {l : Option Listener} {n : Nat}
    {t : Option Provider} {servers : List ServerConfig} {registries : List RegistryConfig}
    {u : Option Invoker}
    (hbooked : Rebooked w w' p s l n t) (hbound : Rebound w w' p servers registries u)
    (hgrows : Grows (Event.OfAttempt p (w.nextInvoker p)) w w')
    (hsingle : s.published = true → ∀ q ∈ fleet.members, w.isPublished q = true →
      q.config.key = p.config.key → q = p)
    (hkey : AgreesOn fleet w' p.config.key) : Agreed fleet w' := by
  have hself : w'.provider p = s := hbooked.provider_self
  have hother (q : Provider) (hq : q ∈ fleet.members) (hne : q ≠ p) :
      w'.provider q = w.provider q := by
    rw [hbooked.provider, if_neg (fleet.number_ne hp hq hne)]
  have hforeign (q : Provider) (hq : q ∈ fleet.members) (hne : q ≠ p) (n : Nat) (v : Invoker)
      (hv : v.provider = q.number) : w'.AcceptedAt n v ↔ w.AcceptedAt n v := by
    refine acceptedAt_attempt_other hgrows ?_ n
    intro hsame
    subst hsame
    exact fleet.number_ne hp hq hne hv
  refine ⟨hcovered, fun q hq r hr hqlive hrlive hqr => ?_,
    fun q hq v hv => (hminted.own q hq v hv).provider, hminted.past, fun k => ?_⟩
  · by_cases hqp : q = p
    · subst hqp
      by_cases hrp : r = q
      · exact hrp.symm
      · rw [isPublished, hother r hr hrp] at hrlive
        rw [isPublished, hself] at hqlive
        exact (hsingle hqlive r hr hrlive hqr.symm).symm
    · rw [isPublished, hother q hq hqp] at hqlive
      by_cases hrp : r = p
      · subst hrp
        rw [isPublished, hself] at hrlive
        exact hsingle hrlive q hq hqlive hqr
      · rw [isPublished, hother r hr hrp] at hrlive
        exact h.single q hq r hr hqlive hrlive hqr
  · by_cases hk : p.config.key = k
    · rw [← hk]
      exact hkey
    · have hne (q : Provider) (hq : q.config.key = k) : q ≠ p := by
        intro hsame
        subst hsame
        exact hk hq
      -- Under another key neither entries nor publications have changed.
      refine (h.agrees k).congr (fun n => ?_) (fun identity => ?_) ?_ ?_ ?_ ?_
      · rw [hbound.processor, if_neg]
        intro hgiven
        obtain ⟨s, -, -, hsame⟩ := hgiven
        exact hk hsame
      · rw [hbound.listed, if_neg]
        intro hgiven
        obtain ⟨r, -, -, -, hsame⟩ := hgiven
        exact hk hsame
      · intro q hq hqk
        rw [isPublished, hother q hq (hne q hqk), isPublished]
      · intro q hq hqk
        rw [hother q hq (hne q hqk)]
      · intro q hq hqk v hv n
        exact hforeign q hq (hne q hqk) n v (h.own q hq v hv)
      · intro q hq hqk identity
        exact announcedAt_attempt_other hgrows (fun hsame => hk (hsame.symm.trans hqk)) identity

variable {ask : Ask σ}

/-- With a limit of one a publication is admitted only where nobody is published. -/
theorem Coherent.unpublished_of_admitted (h : Coherent fleet w) (hp : p ∈ fleet.members)
    (hlimit : p.config.repeatLimit.toInt = 1) {n : Nat} {counts : ExportCounts}
    (hadmitted : (w.services p.group).counts.acquire p.config.key p.config.repeatLimit.toInt =
      .ok (n, counts)) {q : Provider} (hq : q ∈ fleet.members)
    (hkey : q.config.key = p.config.key) : w.isPublished q = false := by
  obtain ⟨hroom, -, -⟩ := ExportCounts.acquire_eq_ok_iff.1 hadmitted
  have hzero : w.liveCount p = 0 := by
    rw [liveCount]
    omega
  rw [h.liveCount_eq hp, Fleet.publications, List.countP_eq_zero] at hzero
  simpa [hkey] using hzero q hq

/-- A provider that is published where nobody was agrees with those who have accepted it. -/
theorem Agreed.agreesOn_done (h : Agreed fleet w) (hminted : Minted fleet w)
    (hp : p ∈ fleet.members) {n : Nat} {counts : ExportCounts}
    (hadmitted : (w.services p.group).counts.acquire p.config.key p.config.repeatLimit.toInt =
      .ok (n, counts))
    (hattempt : ((w.admitted p n counts).attempt ask p).outcome.result = .ok ())
    (hnobody : ∀ q ∈ fleet.members, q.config.key = p.config.key → w.isPublished q = false) :
    AgreesOn fleet ((((w.admitted p n counts).attempt ask p).outcome.world.enlist p).modifyProvider
      p fun s => { s with published := true }) p.config.key := by
  have hbooked := rebooked_done hadmitted hattempt
  have hbound := rebound_done ask h.filed p n counts
  have hopening := quiet_admitted w p n counts
  -- The invoker is new, so whoever has accepted it has done so in this attempt.
  have hfresh (m : Nat) : ¬(w.admitted p n counts).AcceptedAt m
      ((w.admitted p n counts).nextInvoker p) := by
    rw [nextInvoker_admitted, acceptedAt_quiet hopening]
    exact hminted.fresh hp m
  have haccepted (m : Nat) := @acceptedAt_attempt σ ask _ p m (hfresh m)
  have hannounced := announcedAt_attempt ((sameBindings_admitted w p n counts).filed h.filed)
    hattempt
  rw [nextInvoker_admitted] at haccepted
  generalize (w.admitted p n counts).attempt ask p = a at hbooked hbound haccepted hannounced ⊢
  have hclosing : Grows Event.Quiet a.outcome.world
      ((a.outcome.world.enlist p).modifyProvider p fun s => { s with published := true }) :=
    .of_eq rfl
  generalize (a.outcome.world.enlist p).modifyProvider p (fun s => { s with published := true }) =
    w' at hbooked hbound hclosing ⊢
  have hlive : w'.isPublished p = true := by
    rw [isPublished, hbooked.provider_self]
  have hinvoker : (w'.provider p).invoker = some (w.nextInvoker p) := by
    rw [hbooked.provider_self]
  have honly (q : Provider) (hq : q ∈ fleet.members) (hkey : q.config.key = p.config.key)
      (hlive : w'.isPublished q = true) : q = p := by
    by_contra hne
    rw [isPublished, hbooked.provider, if_neg (fleet.number_ne hp hq hne)] at hlive
    have hdead := hnobody q hq hkey
    rw [isPublished, hlive] at hdead
    cases hdead
  -- Nothing was held under the key, so all that is held now was written by the attempt.
  have hempty := h.not_holds hnobody
  refine ⟨fun m v => ?_, fun identity => ?_⟩
  · have hnone : w.processor? m p.config.key = none := not_not.1 (hempty (.server m))
    have hserved : w'.AcceptedAt m (w.nextInvoker p) ↔ ∃ s ∈ a.servers, s.serial = m :=
      (acceptedAt_quiet hclosing m _).trans (haccepted m)
    rw [hbound.processor, hnone]
    simp only [and_true]
    constructor
    · intro hv
      split at hv
      · next hserver =>
        cases hv
        exact ⟨p, hp, rfl, hlive, hinvoker, hserved.2 hserver⟩
      · cases hv
    · intro hgiven
      obtain ⟨q, hq, hkey, hqlive, hqinvoker, hat⟩ := hgiven
      obtain rfl := honly q hq hkey hqlive
      obtain rfl : w.nextInvoker q = v := Option.some.inj (hinvoker.symm.trans hqinvoker)
      rw [if_pos (hserved.1 hat)]
  · have hnone : w.listed fleet.group identity p.config.key = false :=
      eq_false_of_ne_true (hempty (.registry fleet.group identity))
    have hregistered : w'.AnnouncedAt p identity ↔ ∃ r ∈ a.registries, r.identity = identity :=
      (announcedAt_quiet hclosing p identity).trans (hannounced identity)
    rw [hbound.listed, hnone]
    simp only [fleet.together p hp, true_and, and_true, Option.isSome_some]
    constructor
    · intro hlisted
      split at hlisted
      · next hregistry => exact ⟨p, hp, rfl, hlive, hregistered.2 hregistry⟩
      · cases hlisted
    · intro hgiven
      obtain ⟨q, hq, hkey, hqlive, hat⟩ := hgiven
      obtain rfl := honly q hq hkey hqlive
      rw [if_pos (hregistered.1 hat)]

theorem Agreed.publishNow (hlimit : ∀ p ∈ fleet.members, p.config.repeatLimit.toInt = 1)
    (hreleases : ask.Releases) (h : Agreed fleet w) (hminted : Minted fleet w)
    (hp : p ∈ fleet.members) : Agreed fleet (w.publishNow ask p).world := by
  have hcovered := h.toCovered.publishNow (Fleet.sheltered_of_limit_one hlimit) hreleases hp
  have hminted' := @Minted.publishNow σ ask fleet w p hminted hp
  have hcourse := publishNow_course ask w p
  generalize w.publishNow ask p = outcome at hcourse hcovered hminted'
  cases hcourse with
  | already hpublished => exact h
  | unfit hpublished hcheck => exact h
  | refused hpublished hcheck hrefused =>
    have hsame (q : Provider) : (w.prepared p).provider q = w.provider q := provider_prepared w p q
    refine h.idle hcovered hminted' ⟨sameBindings_prepared w p, quiet_prepared w p⟩ (fun q => ?_)
      fun q => ?_
    · rw [isPublished, hsame, isPublished]
    · rw [hsame]
  | @failed hpublished hcheck n counts e hadmitted hattempt =>
    have hnobody (q : Provider) (hq : q ∈ fleet.members) (hkey : q.config.key = p.config.key) :=
      h.unpublished_of_admitted hp (hlimit p hp) hadmitted hq hkey
    refine h.rebooked hp hcovered hminted' (rebooked_failed hadmitted hattempt)
      (rebound_failed hreleases h.filed hadmitted) (grows_failed ask w p n counts) ?_ ?_
    · intro _ q hq hlive hkey
      rw [hnobody q hq hkey] at hlive
      cases hlive
    · refine hcovered.agreesOn_nobody fun q hq hkey => ?_
      rw [isPublished_failed hadmitted hattempt]
      exact hnobody q hq hkey
  | @done hpublished hcheck n counts hadmitted hattempt =>
    have hnobody (q : Provider) (hq : q ∈ fleet.members) (hkey : q.config.key = p.config.key) :=
      h.unpublished_of_admitted hp (hlimit p hp) hadmitted hq hkey
    refine h.rebooked hp hcovered hminted' (rebooked_done hadmitted hattempt)
      (rebound_done ask h.filed p n counts) (grows_done ask w p n counts) ?_ ?_
    · intro _ q hq hlive hkey
      rw [hnobody q hq hkey] at hlive
      cases hlive
    · exact h.agreesOn_done hminted hp hadmitted hattempt hnobody

theorem Agreed.withdraw (hreleases : ask.Releases) (h : Agreed fleet w) (hminted : Minted fleet w)
    (hp : p ∈ fleet.members) : Agreed fleet (w.withdraw ask p) := by
  have hcovered : Covered fleet (w.withdraw ask p) := h.toCovered.withdraw hreleases hp
  have hminted' := @Minted.withdraw σ ask fleet w p hminted hp
  have hquiet := quiet_withdraw ask w p
  cases hpublished : w.isPublished p with
  | false =>
    have hstill := @isPublished_withdraw σ ask w p hpublished
    rw [withdraw_unpublished ask hpublished] at hcovered hminted' hquiet hstill ⊢
    refine h.idle hcovered hminted' ⟨.of_eq rfl fun _ => rfl, hquiet⟩ hstill fun q => ?_
    rw [provider_modifyProvider]
    split
    · next hnumber => rw [provider, provider, hnumber]
    · rfl
  | true =>
    have hbooked := @rebooked_withdraw σ ask w p hpublished
    refine h.rebooked hp hcovered hminted' hbooked (rebound_withdraw hreleases h.filed hpublished)
      (hquiet.mono fun _ he => he.ofAttempt p (w.nextInvoker p)) (fun hlive => by cases hlive) ?_
    refine hcovered.agreesOn_nobody fun q hq hkey => ?_
    by_cases hqp : q = p
    · rw [hqp, isPublished, hbooked.provider_self]
    · rw [isPublished, hbooked.provider, if_neg (fleet.number_ne hp hq hqp), ← isPublished]
      exact eq_false_of_ne_true fun hlive => hqp (h.single q hq p hp hlive hpublished hkey)

theorem Agreed.move (hlimit : ∀ p ∈ fleet.members, p.config.repeatLimit.toInt = 1)
    (hreleases : ask.Releases) (h : Agreed fleet w) (hminted : Minted fleet w)
    (hmove : Move ask fleet w w') : Agreed fleet w' := by
  have hcovered : Covered fleet w' :=
    h.toCovered.move (Fleet.sheltered_of_limit_one hlimit) hreleases hmove
  have hminted' : Minted fleet w' := hminted.move hmove
  have hbooks (hbooks : SameBooks w w') (hidle : Idle w w') : Agreed fleet w' :=
    h.idle hcovered hminted' hidle hbooks.isPublished fun q => by rw [hbooks.provider]
  have hsilent (hevents : w'.events = w.events) (hservers : w'.servers = w.servers)
      (hgroups : w'.groups = w.groups) (hproviders : w'.providers = w.providers) :
      Agreed fleet w' := by
    have hprovider (q : Provider) : w'.provider q = w.provider q := by
      rw [provider, hproviders, provider]
    refine h.idle hcovered hminted' ⟨.of_eq hservers fun g => ?_, .of_eq hevents⟩ (fun q => ?_)
      fun q => ?_
    · rw [services, hgroups, services]
    · rw [isPublished, hprovider, isPublished]
    · rw [hprovider]
  cases hmove with
  | publish hp => exact h.publishNow hlimit hreleases hminted hp
  | withdraw hp => exact h.withdraw hreleases hminted hp
  | schedule hp due => exact hsilent rfl rfl rfl rfl
  | unschedule i => exact hsilent rfl rfl rfl rfl
  | write hwrite => exact hsilent rfl rfl rfl rfl
  | log hn =>
    exact hbooks (sameBooks_record w _) ⟨sameBindings_record w _, (Grows.refl w).record hn⟩
  | build s =>
    exact hbooks (sameBooks_build ask w s) ⟨sameBindings_build ask w s, quiet_build ask w s⟩
  | lookUp g r => exact hbooks (sameBooks_registryFor ask w g r) (idle_registryFor w g r)

theorem agreed_run (hlimit : ∀ p ∈ fleet.members, p.config.repeatLimit.toInt = 1)
    (hreleases : ask.Releases) (outside : σ) {ops : List Operation}
    (hops : ∀ op ∈ ops, op.Within fleet) : Agreed fleet (run ask ops (World.start outside)) := by
  have hboth := run_keeps (I := fun w => Agreed fleet w ∧ Minted fleet w) ask
    (fun _ h => h.1.toClosed)
    (fun _ _ h hmove => ⟨h.1.move hlimit hreleases h.2 hmove, h.2.move hmove⟩) hops
    ⟨agreed_start fleet outside, minted_start fleet outside⟩
  exact hboth.1

/-- If every key may be published once and nobody refuses to take an entry back, then in every state
that a run reaches a server has a processor for a key exactly if some provider of the key is
published and the server has accepted its invoker, and the processor is that invoker; and a registry
lists the key exactly if it has accepted such a provider in its latest announcement. -/
theorem outside_agrees (hlimit : ∀ p ∈ fleet.members, p.config.repeatLimit.toInt = 1)
    (hreleases : ask.Releases) (outside : σ) {ops : List Operation}
    (hops : ∀ op ∈ ops, op.Within fleet) :
    let w := run ask ops (World.start outside)
    (∀ n k v, w.processor? n k = some v ↔
      ∃ p ∈ fleet.members, p.config.key = k ∧ w.isPublished p = true ∧
        (w.provider p).invoker = some v ∧ w.AcceptedAt n v) ∧
    ∀ identity k, w.listed fleet.group identity k = true ↔
      ∃ p ∈ fleet.members, p.config.key = k ∧ w.isPublished p = true ∧
        w.AnnouncedAt p identity := by
  intro w
  have hagreed : Agreed fleet w := agreed_run hlimit hreleases outside hops
  exact ⟨fun n k => (hagreed.agrees k).1 n, fun identity k => (hagreed.agrees k).2 identity⟩

end Agreement

/-- Two providers of one key take turns; the server refuses the first of them at first. -/
theorem outside_agrees_turns :
    let a := smallProvider 0 [smallServer 0] [] 1
    let b := smallProvider 1 [smallServer 0, smallServer 1] [] 1
    let fleet := Fleet.pair a b rfl (by decide)
    let ask : Ask Nat := fun c n =>
      (if c.releases || n ≠ 1 then none else some (.runtime "refused" none), n + 1)
    let ops : List Operation := [.publish a, .publish b, .withdraw b, .publish a]
    let w := run ask ops (World.start 0)
    (∀ p ∈ fleet.members, p.config.repeatLimit.toInt = 1) ∧ ask.Releases ∧
      (∀ op ∈ ops, op.Within fleet) ∧
      ∀ n v, w.processor? n a.config.key = some v ↔
        ∃ p ∈ fleet.members, p.config.key = a.config.key ∧ w.isPublished p = true ∧
          (w.provider p).invoker = some v ∧ w.AcceptedAt n v := by
  intro a b fleet ask ops w
  have hlimit : ∀ p ∈ fleet.members, p.config.repeatLimit.toInt = 1 := by
    intro p hp
    obtain rfl | rfl := List.mem_pair.1 hp
    · rfl
    · rfl
  have hreleases : ask.Releases := by
    intro c n hc
    simp [ask, hc]
  have hops : ∀ op ∈ ops, op.Within fleet := by
    simp [ops, Operation.Within, fleet, Fleet.pair]
  refine ⟨hlimit, hreleases, hops, fun n v => ?_⟩
  exact (outside_agrees hlimit hreleases 0 hops).1 n a.config.key v

end ServicePublisher
