import ServicePublisher.Proofs.Coverage

/-! What holds of published providers in every state that a run reaches, whatever the collaborators
answer: a published provider has passed its check, and of two that are published under one key one
was admitted beside the other. -/
namespace ServicePublisher

open World

variable {σ : Type} {ask : Ask σ} {fleet : Fleet} {w w' : World σ} {p : Provider}

section Filing

theorem filed_discard (h : Filed w) (p : Provider) (a : Attempt σ) :
    Filed (w.discard ask p a) :=
  discard_keeps (P := Filed) (fun _ _ _ h => filed_perform h _) (fun _ _ _ h => h)
    ((release_closed w p).2.filed h)

theorem filed_withdraw (h : Filed w) (p : Provider) : Filed (w.withdraw ask p) := by
  have hraised : SameBindings w (w.modifyProvider p fun s => { s with epoch := s.epoch + 1 }) :=
    .of_eq rfl fun _ => rfl
  have hclosed (w : World σ) : SameBindings w (w.closeInvoker p) := .of_eq rfl fun _ => rfl
  exact withdraw_keeps (P := Filed) (fun _ _ _ h => filed_perform h _) (fun _ _ _ h => h)
    (hraised.filed h) (fun w => (hclosed w).filed) fun w => (sameBindings_concluded w p).filed

end Filing

/-- What published providers have in common, besides that the books are coherent. -/
structure Standing (fleet : Fleet) (w : World σ) : Prop extends Coherent fleet w where
  filed : Filed w
  fit : ∀ p ∈ fleet.members, w.isPublished p = true → p.config.check = .ok ()
  joined : ∀ p ∈ fleet.members, ∀ q ∈ fleet.members, w.isPublished p = true →
    w.isPublished q = true → p.config.key = q.config.key → p ≠ q →
    p.MayFailBeside q ∨ q.MayFailBeside p

theorem standing_start (fleet : Fleet) (outside : σ) : Standing fleet (World.start outside) where
  toCoherent := coherent_start fleet outside
  filed := (covered_start fleet outside).filed
  fit := (covered_start fleet outside).fit
  joined p _ q _ hlive := by simp [World.start, isPublished, provider] at hlive

theorem Standing.shrink (h : Standing fleet w) (hcoherent : Coherent fleet w') (hfiled : Filed w')
    (hpublished : ∀ q ∈ fleet.members, w'.isPublished q = true → w.isPublished q = true) :
    Standing fleet w' where
  toCoherent := hcoherent
  filed := hfiled
  fit q hq hlive := h.fit q hq (hpublished q hq hlive)
  joined q hq r hr hqlive hrlive :=
    h.joined q hq r hr (hpublished q hq hqlive) (hpublished r hr hrlive)

theorem Coherent.liveCount_pos_beside (h : Coherent fleet w) (hp : p ∈ fleet.members) {q : Provider}
    (hq : q ∈ fleet.members) (hlive : w.isPublished q = true)
    (hkey : q.config.key = p.config.key) : 0 < w.liveCount p := by
  rw [h.liveCount_eq hp, ← hkey, ← h.liveCount_eq hq]
  exact h.liveCount_pos hq hlive

/-- Whoever is admitted while another provider of the key is published may fail beside that one. -/
theorem Standing.mayFailBeside (h : Standing fleet w) (hp : p ∈ fleet.members)
    (hcheck : p.config.check = .ok ()) {n : Nat} {counts : ExportCounts}
    (hlimit : (w.services p.group).counts.acquire p.config.key p.config.repeatLimit.toInt =
      .ok (n, counts)) {q : Provider} (hq : q ∈ fleet.members) (hlive : w.isPublished q = true)
    (hkey : q.config.key = p.config.key) : p.MayFailBeside q := by
  have hothers : 0 < w.liveCount p := h.liveCount_pos_beside hp hq hlive hkey
  obtain ⟨hroom, -, -⟩ := ExportCounts.acquire_eq_ok_iff.1 hlimit
  refine ⟨hkey, ⟨h.fit q hq hlive, hcheck⟩, ?_⟩
  rw [liveCount] at hothers
  omega

theorem Standing.publishNow (h : Standing fleet w) (hp : p ∈ fleet.members) :
    Standing fleet (w.publishNow ask p).world := by
  have hcoherent := @Coherent.publishNow σ fleet w ask p h.toCoherent hp
  have hcourse := publishNow_course ask w p
  generalize w.publishNow ask p = outcome at hcourse hcoherent
  cases hcourse with
  | already hpublished => exact h
  | unfit hpublished hcheck => exact h
  | refused hpublished hcheck hlimit =>
    refine h.shrink hcoherent ((sameBindings_prepared w p).filed h.filed) fun q _ hlive => ?_
    rwa [isPublished, provider_prepared] at hlive
  | @failed hpublished hcheck n counts e hlimit hattempt =>
    have hfiled := (rebound_admitted ask h.filed p n counts).filed
    refine h.shrink hcoherent (filed_discard hfiled p _) fun q _ hlive => ?_
    rwa [isPublished_failed hlimit hattempt] at hlive
  | @done hpublished hcheck n counts hlimit hattempt =>
    have hlives := isPublished_rebooked (@rebooked_done σ ask w p n counts hlimit hattempt)
    have hfiled := (rebound_done ask h.filed p n counts).filed
    dsimp only at hcoherent ⊢
    generalize (((w.admitted p n counts).attempt ask p).outcome.world.enlist p).modifyProvider p
      (fun s => { s with published := true }) = w' at hcoherent hlives hfiled ⊢
    have hbefore (q : Provider) (hq : q ∈ fleet.members) (hne : q ≠ p)
        (hlive : w'.isPublished q = true) : w.isPublished q = true := by
      rwa [hlives, if_neg (fleet.number_ne hp hq hne)] at hlive
    refine ⟨hcoherent, hfiled, fun q hq hlive => ?_, fun q hq r hr hqlive hrlive hkey hne => ?_⟩
    · by_cases hqp : q = p
      · rw [hqp, hcheck]
      · exact h.fit q hq (hbefore q hq hqp hlive)
    · by_cases hqp : q = p
      · subst hqp
        exact .inl (h.mayFailBeside hp hcheck hlimit hr (hbefore r hr hne.symm hrlive) hkey.symm)
      · by_cases hrp : r = p
        · subst hrp
          exact .inr (h.mayFailBeside hp hcheck hlimit hq (hbefore q hq hqp hqlive) hkey)
        · exact h.joined q hq r hr (hbefore q hq hqp hqlive) (hbefore r hr hrp hrlive) hkey hne

theorem isPublished_of_withdraw {q : Provider} (hlive : (w.withdraw ask p).isPublished q = true) :
    w.isPublished q = true := by
  cases hpublished : w.isPublished p with
  | false => rwa [isPublished_withdraw hpublished] at hlive
  | true =>
    rw [isPublished_rebooked (rebooked_withdraw hpublished)] at hlive
    split at hlive
    · cases hlive
    · exact hlive

theorem Standing.withdraw (h : Standing fleet w) (hp : p ∈ fleet.members) :
    Standing fleet (w.withdraw ask p) :=
  h.shrink (h.toCoherent.withdraw hp) (filed_withdraw h.filed p) fun _ _ => isPublished_of_withdraw

theorem Standing.move (h : Standing fleet w) (hmove : Move ask fleet w w') : Standing fleet w' := by
  have hcoherent := h.toCoherent.move hmove
  cases hmove with
  | publish hp => exact h.publishNow hp
  | withdraw hp => exact h.withdraw hp
  | schedule hp due => exact h.shrink hcoherent h.filed fun _ _ => id
  | unschedule i => exact h.shrink hcoherent h.filed fun _ _ => id
  | write hwrite => exact h.shrink hcoherent h.filed fun _ _ => id
  | log hn => exact h.shrink hcoherent h.filed fun _ _ => id
  | build s =>
    refine h.shrink hcoherent ((sameBindings_build ask w s).filed h.filed) fun q _ hlive => ?_
    rwa [(sameBooks_build ask w s).isPublished] at hlive
  | lookUp g r =>
    refine h.shrink hcoherent ((sameBindings_registryFor w g r).filed h.filed) fun q _ hlive => ?_
    rwa [(sameBooks_registryFor ask w g r).isPublished] at hlive

theorem standing_run (ask : Ask σ) (outside : σ) {ops : List Operation}
    (hops : ∀ op ∈ ops, op.Within fleet) :
    Standing fleet (run ask ops (World.start outside)) :=
  run_keeps ask (fun _ h => h.toClosed) (fun _ _ h hmove => h.move hmove) hops
    (standing_start fleet outside)

end ServicePublisher
