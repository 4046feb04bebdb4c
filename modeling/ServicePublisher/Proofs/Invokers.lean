import ServicePublisher.Proofs.Acceptance
import ServicePublisher.Proofs.Fleet

/-! Invokers are not used twice. The invoker of a provider speaks for that provider, and whatever
servers have accepted for it is from an attempt that it has counted, so that its next invoker is new
to all of them. -/
namespace ServicePublisher

open World

variable {σ : Type} {ask : Ask σ} {fleet : Fleet} {w w' : World σ} {p : Provider}

/-- An invoker made for a provider decides calls by the methods of its configuration. -/
structure Invoker.SpeaksFor (v : Invoker) (p : Provider) : Prop where
  provider : v.provider = p.number
  config : v.config = p.config
  policy : v.policy = p.config.policy

/-- Every invoker in use speaks for its provider, and those accepted are from past attempts. -/
structure Minted (fleet : Fleet) (w : World σ) : Prop where
  own : ∀ p ∈ fleet.members, ∀ v, (w.provider p).invoker = some v → v.SpeaksFor p
  past : ∀ p ∈ fleet.members, ∀ n v, w.AcceptedAt n v → v.provider = p.number →
    v.attempt < (w.provider p).attempts

theorem minted_start (fleet : Fleet) (outside : σ) : Minted fleet (World.start outside) where
  own p _ v hv := by simp [World.start, World.provider] at hv
  past p _ n v haccepted := by simp [World.start, AcceptedAt] at haccepted

theorem Minted.fresh (h : Minted fleet w) (hp : p ∈ fleet.members) (n : Nat) :
    ¬w.AcceptedAt n (w.nextInvoker p) :=
  fun haccepted => Nat.lt_irrefl _ (h.past p hp n _ haccepted rfl)

theorem Minted.quiet (h : Minted fleet w) (hquiet : Grows Event.Quiet w w')
    (hinvoker : ∀ q, (w'.provider q).invoker = (w.provider q).invoker)
    (hattempts : ∀ q, (w'.provider q).attempts = (w.provider q).attempts) : Minted fleet w' where
  own q hq v := by
    rw [hinvoker]
    exact h.own q hq v
  past q hq n v := by
    rw [acceptedAt_quiet hquiet, hattempts]
    exact h.past q hq n v

theorem Minted.sameBooks (h : Minted fleet w) (hbooks : SameBooks w w')
    (hquiet : Grows Event.Quiet w w') : Minted fleet w' :=
  h.quiet hquiet (fun q => by rw [hbooks.provider]) fun q => by rw [hbooks.provider]

section Rebooked

variable {s : ProviderState} {l : Option Listener} {n : Nat} {t : Option Provider}

/-- What happens to one provider concerns its own invokers only. -/
theorem Minted.rebooked (h : Minted fleet w) (hp : p ∈ fleet.members)
    (hbooked : Rebooked w w' p s l n t)
    (hgrows : Grows (Event.OfAttempt p (w.nextInvoker p)) w w')
    (hown : ∀ v, s.invoker = some v → v.SpeaksFor p)
    (hpast : ∀ n v, w'.AcceptedAt n v → v.provider = p.number → v.attempt < s.attempts) :
    Minted fleet w' := by
  have hother (q : Provider) (hq : q ∈ fleet.members) (hne : q ≠ p) :
      w'.provider q = w.provider q := by
    rw [hbooked.provider, if_neg (fleet.number_ne hp hq hne)]
  refine ⟨fun q hq v hv => ?_, fun q hq m v haccepted hv => ?_⟩
  · by_cases hqp : q = p
    · subst hqp
      rw [hbooked.provider_self] at hv
      exact hown v hv
    · rw [hother q hq hqp] at hv
      exact h.own q hq v hv
  · by_cases hqp : q = p
    · subst hqp
      rw [hbooked.provider_self]
      exact hpast m v haccepted hv
    · rw [hother q hq hqp]
      refine h.past q hq m v ((acceptedAt_attempt_other hgrows ?_ m).1 haccepted) hv
      rintro rfl
      exact fleet.number_ne hp hq hqp hv

/-- An attempt is counted, so its invoker is among the past ones afterwards. -/
theorem Minted.rebooked_attempt (h : Minted fleet w) (hp : p ∈ fleet.members)
    (hbooked : Rebooked w w' p s l n t)
    (hgrows : Grows (Event.OfAttempt p (w.nextInvoker p)) w w')
    (hinvoker : s.invoker = none ∨ s.invoker = some (w.nextInvoker p))
    (hattempts : s.attempts = (w.provider p).attempts + 1) : Minted fleet w' := by
  refine h.rebooked hp hbooked hgrows (fun v hv => ?_) fun m v haccepted hv => ?_
  · obtain hnone | hnext := hinvoker
    · rw [hnone] at hv
      cases hv
    · rw [hnext] at hv
      cases hv
      exact ⟨rfl, rfl, rfl⟩
  · rw [hattempts]
    by_cases hnext : v = w.nextInvoker p
    · rw [hnext]
      exact Nat.lt_succ_self _
    · have hbefore := (acceptedAt_attempt_other hgrows hnext m).1 haccepted
      exact Nat.lt_succ_of_lt (h.past p hp m v hbefore hv)

end Rebooked

theorem grows_failed (ask : Ask σ) (w : World σ) (p : Provider) (n : Nat) (counts : ExportCounts) :
    Grows (Event.OfAttempt p (w.nextInvoker p)) w
      (((w.admitted p n counts).attempt ask p).outcome.world.discard ask p
        ((w.admitted p n counts).attempt ask p)) :=
  (grows_admitted ask w p n counts).trans ((quiet_discard ask _ p
    ((w.admitted p n counts).attempt ask p)).mono fun _ he => he.ofAttempt p (w.nextInvoker p))

theorem grows_done (ask : Ask σ) (w : World σ) (p : Provider) (n : Nat) (counts : ExportCounts) :
    Grows (Event.OfAttempt p (w.nextInvoker p)) w
      ((((w.admitted p n counts).attempt ask p).outcome.world.enlist p).modifyProvider p
        fun s => { s with published := true }) :=
  (grows_admitted ask w p n counts).trans (.of_eq rfl)

theorem Minted.publishNow (h : Minted fleet w) (hp : p ∈ fleet.members) :
    Minted fleet (w.publishNow ask p).world := by
  have hcourse := publishNow_course ask w p
  generalize w.publishNow ask p = outcome at hcourse
  cases hcourse with
  | already hpublished => exact h
  | unfit hpublished hcheck => exact h
  | refused hpublished hcheck hlimit =>
    exact h.quiet (quiet_prepared w p) (fun q => by rw [provider_prepared])
      fun q => by rw [provider_prepared]
  | @failed hpublished hcheck n counts e hlimit hattempt =>
    exact h.rebooked_attempt hp (rebooked_failed hlimit hattempt) (grows_failed ask w p n counts)
      (.inl rfl) rfl
  | @done hpublished hcheck n counts hlimit hattempt =>
    exact h.rebooked_attempt hp (rebooked_done hlimit hattempt) (grows_done ask w p n counts)
      (.inr rfl) rfl

theorem Minted.withdraw (h : Minted fleet w) (hp : p ∈ fleet.members) :
    Minted fleet (w.withdraw ask p) := by
  have hquiet := quiet_withdraw ask w p
  cases hpublished : w.isPublished p with
  | false =>
    rw [withdraw_unpublished ask hpublished] at hquiet ⊢
    have hraised := (Rebooked.refl w p).modifyProvider fun s => { s with epoch := s.epoch + 1 }
    refine h.rebooked hp hraised (hquiet.mono fun _ he => he.ofAttempt p _) (h.own p hp)
      fun n v haccepted => ?_
    exact h.past p hp n v ((acceptedAt_quiet hquiet n v).1 haccepted)
  | true =>
    refine h.rebooked hp (rebooked_withdraw hpublished)
      (hquiet.mono fun _ he => he.ofAttempt p _) nofun fun n v haccepted => ?_
    exact h.past p hp n v ((acceptedAt_quiet hquiet n v).1 haccepted)

theorem Minted.move (h : Minted fleet w) (hmove : Move ask fleet w w') : Minted fleet w' := by
  have hsilent (hevents : w'.events = w.events) (hproviders : w'.providers = w.providers) :
      Minted fleet w' := by
    have hprovider (q : Provider) : w'.provider q = w.provider q := by
      rw [provider, hproviders, provider]
    exact h.quiet (.of_eq hevents) (fun q => by rw [hprovider]) fun q => by rw [hprovider]
  cases hmove with
  | publish hp => exact h.publishNow hp
  | withdraw hp => exact h.withdraw hp
  | schedule hp due => exact hsilent rfl rfl
  | unschedule i => exact hsilent rfl rfl
  | write hwrite => exact hsilent rfl rfl
  | log hn => exact h.sameBooks (sameBooks_record w _) ((Grows.refl w).record hn)
  | build s => exact h.sameBooks (sameBooks_build ask w s) (quiet_build ask w s)
  | lookUp g r => exact h.sameBooks (sameBooks_registryFor ask w g r) (quiet_registryFor ask w g r)

end ServicePublisher
