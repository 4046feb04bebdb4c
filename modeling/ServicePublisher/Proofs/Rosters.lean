import ServicePublisher.Proofs.Coherence
import ServicePublisher.Proofs.Epochs
import ServicePublisher.Proofs.Instances

/-! The rosters of several groups. In every group the table of published providers and the counts
of keys tell the same, no publication is scheduled for an epoch that has not begun, and only who
is published has an invoker. -/
namespace ServicePublisher

open World

variable {σ : Type} {ask : Ask σ} {providers : List Provider} {w w' : World σ} {p : Provider}

def publicationsAmong (providers : List Provider) (w : World σ) (g : Nat) (k : ServiceKey) : Nat :=
  providers.countP fun p => w.isPublished p && decide (p.group = g ∧ p.config.key = k)

structure Rostered (providers : List Provider) (w : World σ) : Prop where
  entry : ∀ p ∈ providers, w.entry p = if w.isPublished p then some p else none
  count : ∀ g k, (w.services g).counts.count k = publicationsAmong providers w g k
  epoch : ∀ s ∈ w.scheduled, s.epoch ≤ (w.provider s.provider).epoch
  invoker : ∀ p ∈ providers, w.isPublished p = false → (w.provider p).invoker = none

theorem rostered_start (providers : List Provider) (outside : σ) :
    Rostered providers (World.start outside) where
  entry p _ := by simp [World.start, entry, services, isPublished, provider]
  count g k := by simp [World.start, services, publicationsAmong, isPublished, provider]
  epoch s hs := by simp [World.start] at hs
  invoker p _ _ := by simp [World.start, provider]

section Moves

variable {s : ProviderState} {l : Option Listener} {n : Nat} {t : Option Provider}

theorem epoch_le_of_rebooked (hr : Rebooked w w' p s l n t)
    (hepoch : (w.provider p).epoch ≤ s.epoch) (q : Provider) :
    (w.provider q).epoch ≤ (w'.provider q).epoch := by
  rw [hr.provider]
  split
  · next hq =>
    have hsame : w.provider q = w.provider p := by rw [World.provider, World.provider, hq]
    rwa [hsame]
  · exact Nat.le_refl _

/-- New entries of one provider that agree with each other keep the rosters right. -/
theorem Rostered.rebooked (hnumbers : (providers.map Provider.number).Nodup)
    (h : Rostered providers w) (hp : p ∈ providers) (hr : Rebooked w w' p s l n t)
    (hcount : n + (w.isPublished p).toNat = w.liveCount p + s.published.toNat)
    (hentry : t = if s.published then some p else none)
    (hepoch : (w.provider p).epoch ≤ s.epoch)
    (hinvoker : s.published = false → s.invoker = none) : Rostered providers w' where
  entry q hq := by
    rw [World.entry, isPublished_rebooked hr, hr.published]
    by_cases hnumber : p.number = q.number
    · obtain rfl := List.inj_on_of_nodup_map hnumbers hp hq hnumber
      simp [hentry]
    · have hold := h.entry q hq
      rw [World.entry] at hold
      simpa [hnumber] using hold
  count g k := by
    have hself : w'.isPublished p = s.published := by rw [isPublished_rebooked hr, if_pos rfl]
    have hothers : ∀ q ∈ providers, q.number ≠ p.number →
        (w'.isPublished q && decide (q.group = g ∧ q.config.key = k)) =
          (w.isPublished q && decide (q.group = g ∧ q.config.key = k)) := by
      intro q _ hne
      rw [isPublished_rebooked hr, if_neg (Ne.symm hne)]
    have hchange := countP_exchange hnumbers hp hothers
    have hold := h.count g k
    rw [hself] at hchange
    rw [hr.count, publicationsAmong]
    rw [publicationsAmong] at hold
    by_cases hk : p.group = g ∧ p.config.key = k
    · rw [liveCount, hk.1, hk.2] at hcount
      simp only [hk, and_self, decide_true, Bool.and_true, if_true] at hchange ⊢
      omega
    · rw [if_neg hk, hold]
      simpa [hk] using hchange.symm
  epoch x hx := by
    rw [hr.scheduled] at hx
    exact Nat.le_trans (h.epoch x hx) (epoch_le_of_rebooked hr hepoch x.provider)
  invoker q hq hunpublished := by
    rw [isPublished, hr.provider] at hunpublished
    rw [hr.provider]
    by_cases hnumber : p.number = q.number
    · rw [if_pos hnumber] at hunpublished ⊢
      exact hinvoker hunpublished
    · rw [if_neg hnumber] at hunpublished ⊢
      exact h.invoker q hq hunpublished

theorem Rostered.congr (h : Rostered providers w)
    (hscheduled : ∀ s ∈ w'.scheduled, s ∈ w.scheduled)
    (hprovider : ∀ q, w'.provider q = w.provider q)
    (hcounts : ∀ g, (w'.services g).counts = (w.services g).counts)
    (hpublished : ∀ g, (w'.services g).published = (w.services g).published) :
    Rostered providers w' where
  entry q hq := by
    rw [World.entry, hpublished, isPublished, hprovider]
    exact h.entry q hq
  count g k := by
    rw [hcounts, h.count]
    simp only [publicationsAmong, isPublished, hprovider]
  epoch s hs := by
    rw [hprovider]
    exact h.epoch s (hscheduled s hs)
  invoker p hp hunpublished := by
    rw [isPublished, hprovider] at hunpublished
    rw [hprovider]
    exact h.invoker p hp hunpublished

theorem Rostered.sameBooks (h : Rostered providers w) (hbooks : SameBooks w w') :
    Rostered providers w' :=
  h.congr (fun s hs => by rwa [hbooks.scheduled] at hs) hbooks.provider hbooks.counts
    hbooks.published

variable (hnumbers : (providers.map Provider.number).Nodup)
include hnumbers

theorem Rostered.unchanged (h : Rostered providers w) (hp : p ∈ providers)
    (hr : Rebooked w w' p s l (w.liveCount p) (w.entry p))
    (hpublished : s.published = (w.provider p).published)
    (hepoch : (w.provider p).epoch ≤ s.epoch)
    (hinvoker : s.invoker = (w.provider p).invoker ∨ s.invoker = none) :
    Rostered providers w' := by
  refine h.rebooked hnumbers hp hr ?_ ?_ hepoch fun hunpublished => ?_
  · rw [hpublished]
    rfl
  · rw [hpublished]
    exact h.entry p hp
  · obtain hsame | hnone := hinvoker
    · exact hsame.trans (h.invoker p hp (hpublished.symm.trans hunpublished))
    · exact hnone

theorem Rostered.publishNow (h : Rostered providers w) (hp : p ∈ providers) :
    Rostered providers (w.publishNow ask p).world := by
  have hcourse := publishNow_course ask w p
  generalize w.publishNow ask p = outcome at hcourse
  cases hcourse with
  | already hpublished => exact h
  | unfit hpublished hcheck => exact h
  | refused hpublished hcheck hlimit =>
    exact h.unchanged hnumbers hp (rebooked_prepared w p) rfl (Nat.le_refl _) (.inl rfl)
  | failed hpublished hcheck hlimit hattempt =>
    exact h.unchanged hnumbers hp (rebooked_failed hlimit hattempt) rfl (Nat.le_refl _)
      (.inr rfl)
  | done hpublished hcheck hlimit hattempt =>
    refine h.rebooked hnumbers hp (rebooked_done hlimit hattempt) ?_ rfl (Nat.le_refl _)
      fun hunpublished => by cases hunpublished
    rw [hpublished]
    rfl

omit hnumbers in
theorem Rostered.liveCount_pos (h : Rostered providers w) (hp : p ∈ providers)
    (hpublished : w.isPublished p = true) : 0 < w.liveCount p := by
  rw [liveCount, h.count, publicationsAmong, List.countP_pos_iff]
  exact ⟨p, hp, by simp [hpublished]⟩

theorem Rostered.withdraw (h : Rostered providers w) (hp : p ∈ providers) :
    Rostered providers (w.withdraw ask p) := by
  cases hpublished : w.isPublished p with
  | false =>
    rw [withdraw_unpublished ask hpublished]
    have hraised := (Rebooked.refl w p).modifyProvider fun s => { s with epoch := s.epoch + 1 }
    exact h.unchanged hnumbers hp hraised rfl (Nat.le_succ _) (.inl rfl)
  | true =>
    have hcounted := h.liveCount_pos hp hpublished
    refine h.rebooked hnumbers hp (rebooked_withdraw hpublished) ?_ rfl (Nat.le_succ _)
      fun _ => rfl
    rw [hpublished, Bool.toNat_true, Bool.toNat_false]
    omega

theorem Rostered.move (h : Rostered providers w) (hmove : MoveAmong ask providers w w') :
    Rostered providers w' := by
  obtain ⟨fleet, hmembers, hmove⟩ := hmove
  cases hmove with
  | publish hp => exact h.publishNow hnumbers (hmembers _ hp)
  | withdraw hp => exact h.withdraw hnumbers (hmembers _ hp)
  | @schedule p hp due =>
    refine ⟨h.entry, h.count, fun s hs => ?_, h.invoker⟩
    obtain hs | hs := List.mem_append.1 hs
    · exact h.epoch s hs
    · rw [List.mem_singleton.1 hs]
      exact Nat.le_refl _
  | unschedule i =>
    exact h.congr (fun _ => List.mem_of_mem_eraseIdx) (fun _ => rfl) (fun _ => rfl) fun _ => rfl
  | write hwrite => exact h.congr (fun _ => id) (fun _ => rfl) (fun _ => rfl) fun _ => rfl
  | log hn => exact h.sameBooks (sameBooks_record w _)
  | build s => exact h.sameBooks (sameBooks_build ask w s)
  | lookUp g r => exact h.sameBooks (sameBooks_registryFor ask w g r)

theorem Rostered.moves (h : Rostered providers w) (hmoves : MovesAmong ask providers w w') :
    Rostered providers w' := by
  induction hmoves with
  | refl => exact h
  | tail _ hlast ih => exact ih.move hnumbers hlast

/-- Whatever state is reached: what was created is accounted for, and the rosters are right. -/
theorem supplied_and_rostered {ops : List Operation} (hops : ∀ op ∈ ops, op.Among providers)
    {outside : σ} (hw : MovesAmong ask providers (run ask ops (World.start outside)) w) :
    SuppliedAmong providers w ∧ Rostered providers w := by
  obtain ⟨hsupplied, hrostered⟩ : SuppliedAmong providers (run ask ops (World.start outside)) ∧
      Rostered providers (run ask ops (World.start outside)) :=
    run_keeps_among (I := fun w => SuppliedAmong providers w ∧ Rostered providers w)
      (fun _ h => h.1.toPeopled)
      (fun _ _ h hmove => ⟨h.1.move hnumbers hmove, h.2.move hnumbers hmove⟩) hops
      ⟨suppliedAmong_start providers outside, rostered_start providers outside⟩
  exact ⟨(hsupplied.moves hnumbers hw).1, hrostered.moves hnumbers hw⟩

end Moves

end ServicePublisher
