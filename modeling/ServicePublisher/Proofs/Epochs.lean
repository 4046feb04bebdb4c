import ServicePublisher.Proofs.Standing

/-! Epochs of providers. Every withdrawal begins a new epoch, and nothing else does. A publication
is scheduled for the epoch in which it was asked for, so it is void exactly if there was a
withdrawal since. -/
namespace ServicePublisher

open World

variable {σ : Type} {ask : Ask σ} {fleet : Fleet} {w w' : World σ} {p q : Provider}

theorem countP_eraseIdx {α : Type} {f : α → Bool} {xs : List α} {i : Nat} {x : α}
    (h : xs[i]? = some x) : (xs.eraseIdx i).countP f + (f x).toNat = xs.countP f := by
  induction xs generalizing i with
  | nil => simp at h
  | cons y ys ih =>
    cases i with
    | zero =>
      obtain rfl : y = x := by simpa using h
      cases hy : f y <;> simp [hy]
    | succ i =>
      have hrest := ih (i := i) (by simpa using h)
      rw [List.eraseIdx_cons_succ, List.countP_cons, List.countP_cons]
      omega

namespace World

/-- Whether a scheduled publication is one of a provider and is not void. -/
def isPending (w : World σ) (p : Provider) (s : Scheduled) : Bool :=
  s.provider.number == p.number && s.epoch == (w.provider p).epoch

def pending (w : World σ) (p : Provider) : Nat := w.scheduled.countP (w.isPending p)

def unscheduled (w : World σ) (i : Nat) : World σ := { w with scheduled := w.scheduled.eraseIdx i }

def enrolled (w : World σ) (p : Provider) : World σ :=
  { w with scheduled := w.scheduled ++ [⟨p, (w.provider p).epoch, w.clock + p.config.delayMs⟩] }

theorem publish_of_delay (ask : Ask σ) (hdelay : 0 < p.config.delayMs)
    (hpublished : w.isPublished p = false) :
    w.publish ask p = ⟨.ok (), (w.enrolled p).report p.config
      (.publicationScheduled p.config.delayMs)⟩ := by
  rw [World.publish, enrolled]
  simp only [hpublished, Nat.ne_of_gt hdelay, Bool.false_eq_true, if_false]

theorem pending_enrolled (w : World σ) (p : Provider) :
    (w.enrolled p).pending p = w.pending p + 1 := by
  change (w.scheduled ++ [_]).countP (w.isPending p) = w.scheduled.countP (w.isPending p) + 1
  rw [List.countP_append]
  simp [isPending]

theorem pending_congr (hprovider : w'.provider p = w.provider p)
    (hscheduled : w'.scheduled = w.scheduled) : w'.pending p = w.pending p := by
  have hsame : w'.isPending p = w.isPending p := by
    funext s
    rw [isPending, isPending, hprovider]
  rw [pending, pending, hsame, hscheduled]

theorem pending_unscheduled {i : Nat} {s : Scheduled} (hs : w.scheduled[i]? = some s) :
    (w.unscheduled i).pending p + (w.isPending p s).toNat = w.pending p :=
  countP_eraseIdx hs

theorem pending_eq_zero (h : ∀ s ∈ w.scheduled, s.provider.number ≠ p.number) :
    w.pending p = 0 := by
  refine List.countP_eq_zero.2 fun s hs hpending => h s hs ?_
  rw [isPending, Bool.and_eq_true] at hpending
  exact eq_of_beq hpending.1

theorem epoch_publishNow (ask : Ask σ) (w : World σ) (p q : Provider) :
    ((w.publishNow ask p).world.provider q).epoch = (w.provider q).epoch := by
  have hsame {s : ProviderState} {l : Option Listener} {n : Nat} {t : Option Provider}
      {w' : World σ} (h : Rebooked w w' p s l n t) (hs : s.epoch = (w.provider p).epoch) :
      (w'.provider q).epoch = (w.provider q).epoch := by
    rw [h.provider]
    split
    · next hq => rw [hs, World.provider, World.provider, hq]
    · rfl
  have hcourse := publishNow_course ask w p
  generalize w.publishNow ask p = outcome at hcourse
  cases hcourse with
  | already hpublished => rfl
  | unfit hpublished hcheck => rfl
  | refused hpublished hcheck hlimit => exact hsame (rebooked_prepared w p) rfl
  | failed hpublished hcheck hlimit hattempt => exact hsame (rebooked_failed hlimit hattempt) rfl
  | done hpublished hcheck hlimit hattempt => exact hsame (rebooked_done hlimit hattempt) rfl

/-- A withdrawal begins a new epoch, whether the provider was published or not. -/
theorem epoch_withdraw (ask : Ask σ) (w : World σ) (p q : Provider) :
    ((w.withdraw ask p).provider q).epoch =
      (w.provider q).epoch + if p.number = q.number then 1 else 0 := by
  have hself : p.number = q.number → w.provider p = w.provider q := by
    intro hq
    rw [World.provider, World.provider, hq]
  cases hpublished : w.isPublished p with
  | false =>
    rw [withdraw_unpublished ask hpublished, provider_modifyProvider]
    split
    · next hq => rw [hself hq]
    · rfl
  | true =>
    rw [(rebooked_withdraw hpublished).provider]
    split
    · next hq => rw [hself hq]
    · rfl

theorem scheduled_publishNow (ask : Ask σ) (w : World σ) (p : Provider) :
    (w.publishNow ask p).world.scheduled = w.scheduled := by
  obtain ⟨s, l, n, t, hbooked⟩ := rebooked_publishNow ask w p
  exact hbooked.scheduled

theorem scheduled_withdraw (ask : Ask σ) (w : World σ) (p : Provider) :
    (w.withdraw ask p).scheduled = w.scheduled := by
  cases hpublished : w.isPublished p with
  | false =>
    rw [withdraw_unpublished ask hpublished]
    rfl
  | true => exact (rebooked_withdraw hpublished).scheduled

/-- A publication succeeds exactly if the provider is published after it. -/
theorem isPublished_publishNow (ask : Ask σ) (w : World σ) (p : Provider) :
    (w.publishNow ask p).world.isPublished p = true ↔ (w.publishNow ask p).result = .ok () := by
  have hcourse := publishNow_course ask w p
  generalize w.publishNow ask p = outcome at hcourse
  cases hcourse with
  | already hpublished => simp [hpublished]
  | unfit hpublished hcheck => simp [hpublished]
  | refused hpublished hcheck hlimit => simpa [isPublished] using hpublished
  | failed hpublished hcheck hlimit hattempt =>
    rw [isPublished, (rebooked_failed hlimit hattempt).provider_self]
    simpa [isPublished] using hpublished
  | done hpublished hcheck hlimit hattempt =>
    simp [isPublished, (rebooked_done hlimit hattempt).provider_self]

end World

/-- The courses of what comes due: there is nothing at that position, or the publication is void, or
it happens and succeeds or fails. -/
inductive FiringCourse (ask : Ask σ) (w : World σ) (i : Nat) : World σ → Prop
  | idle (hs : w.scheduled[i]? = none) : FiringCourse ask w i w
  | void {s : Scheduled} (hs : w.scheduled[i]? = some s)
      (hepoch : (w.provider s.provider).epoch ≠ s.epoch) :
      FiringCourse ask w i ((w.unscheduled i).report s.provider.config .publicationCancelled)
  | published {s : Scheduled} (hs : w.scheduled[i]? = some s)
      (hepoch : (w.provider s.provider).epoch = s.epoch)
      (hresult : ((w.unscheduled i).publishNow ask s.provider).result = .ok ()) :
      FiringCourse ask w i ((w.unscheduled i).publishNow ask s.provider).world
  | failed {s : Scheduled} {e : ProviderError} (hs : w.scheduled[i]? = some s)
      (hepoch : (w.provider s.provider).epoch = s.epoch)
      (hresult : ((w.unscheduled i).publishNow ask s.provider).result = .error e) :
      FiringCourse ask w i (((w.unscheduled i).publishNow ask s.provider).world.report
        s.provider.config (.scheduledPublicationFailed e))

theorem fire_course (ask : Ask σ) (w : World σ) (i : Nat) :
    FiringCourse ask w i (w.fire ask i) := by
  rw [fire]
  cases hs : w.scheduled[i]? with
  | none => exact .idle hs
  | some s =>
    change FiringCourse ask w i ((w.unscheduled i).carryOut ask s)
    have hsame : ((w.unscheduled i).provider s.provider).epoch =
        (w.provider s.provider).epoch := rfl
    rw [carryOut, hsame]
    by_cases hepoch : (w.provider s.provider).epoch = s.epoch
    · have hpublished := @FiringCourse.published σ ask w i s hs hepoch
      have hfailed := @FiringCourse.failed σ ask w i s
      rw [if_neg (not_not.2 hepoch)]
      generalize (w.unscheduled i).publishNow ask s.provider = outcome at hpublished hfailed ⊢
      obtain ⟨result, w₁⟩ := outcome
      cases result with
      | ok u => exact hpublished rfl
      | error e => exact hfailed hs hepoch rfl
    · rw [if_pos hepoch]
      exact .void hs hepoch

/-- Up to a log line, what is not void is a publication. -/
theorem sameBooks_fire (ask : Ask σ) {i : Nat} {s : Scheduled} (hs : w.scheduled[i]? = some s)
    (hepoch : (w.provider s.provider).epoch = s.epoch) :
    SameBooks ((w.unscheduled i).publishNow ask s.provider).world (w.fire ask i) := by
  have hcourse := fire_course ask w i
  generalize w.fire ask i = fired at hcourse
  cases hcourse with
  | idle hs' => cases hs.symm.trans hs'
  | void hs' hepoch' =>
    cases hs.symm.trans hs'
    exact absurd hepoch hepoch'
  | published hs' _ hresult =>
    cases hs.symm.trans hs'
    exact .refl _
  | failed hs' _ hresult =>
    cases hs.symm.trans hs'
    exact sameBooks_record _ _

/-- No publication is scheduled for an epoch that has not begun. -/
structure Timely (fleet : Fleet) (w : World σ) : Prop extends Standing fleet w where
  epoch : ∀ s ∈ w.scheduled, s.epoch ≤ (w.provider s.provider).epoch

theorem timely_start (fleet : Fleet) (outside : σ) : Timely fleet (World.start outside) where
  toStanding := standing_start fleet outside
  epoch s hs := by simp [World.start] at hs

theorem Timely.advance (h : Timely fleet w) (hstanding : Standing fleet w')
    (hscheduled : ∀ s ∈ w'.scheduled, s ∈ w.scheduled)
    (hepoch : ∀ q, (w.provider q).epoch ≤ (w'.provider q).epoch) : Timely fleet w' where
  toStanding := hstanding
  epoch s hs := Nat.le_trans (h.epoch s (hscheduled s hs)) (hepoch s.provider)

theorem Timely.move (h : Timely fleet w) (hmove : Move ask fleet w w') : Timely fleet w' := by
  have hstanding := h.toStanding.move hmove
  cases hmove with
  | @publish p hp =>
    refine h.advance hstanding (fun s hs => ?_) fun q => ?_
    · rwa [scheduled_publishNow] at hs
    · exact Nat.le_of_eq (epoch_publishNow ask w p q).symm
  | @withdraw p hp =>
    refine h.advance hstanding (fun s hs => ?_) fun q => ?_
    · rwa [scheduled_withdraw] at hs
    · rw [epoch_withdraw]
      exact Nat.le_add_right _ _
  | schedule hp due =>
    refine ⟨hstanding, fun s hs => ?_⟩
    obtain hs | hs := List.mem_append.1 hs
    · exact h.epoch s hs
    · rw [List.mem_singleton.1 hs]
      exact Nat.le_refl _
  | unschedule i =>
    exact h.advance hstanding (fun s hs => List.mem_of_mem_eraseIdx hs) fun _ => Nat.le_refl _
  | write hwrite => exact h.advance hstanding (fun _ => id) fun _ => Nat.le_refl _
  | log hn => exact h.advance hstanding (fun _ => id) fun _ => Nat.le_refl _
  | build s =>
    have hbooks := sameBooks_build ask w s
    exact h.advance hstanding (fun s hs => by rwa [hbooks.scheduled] at hs)
      fun q => Nat.le_of_eq (by rw [hbooks.provider])
  | lookUp g r =>
    have hbooks := sameBooks_registryFor ask w g r
    exact h.advance hstanding (fun s hs => by rwa [hbooks.scheduled] at hs)
      fun q => Nat.le_of_eq (by rw [hbooks.provider])

theorem Timely.afterAll (h : Timely fleet w) (ask : Ask σ) {ops : List Operation}
    (hops : ∀ op ∈ ops, op.Within fleet) : Timely fleet (run ask ops w) :=
  run_keeps ask (fun _ h => h.toClosed) (fun _ _ h hmove => h.move hmove) hops h

theorem Timely.after (h : Timely fleet w) (ask : Ask σ) (op : Operation) (hop : op.Within fleet) :
    Timely fleet (step ask op w) := by
  have hops : ∀ op' ∈ [op], op'.Within fleet := fun op' hop' => by rwa [List.mem_singleton.1 hop']
  exact h.afterAll ask hops

theorem timely_run (ask : Ask σ) (outside : σ) {ops : List Operation}
    (hops : ∀ op ∈ ops, op.Within fleet) :
    Timely fleet (run ask ops (World.start outside)) :=
  (timely_start fleet outside).afterAll ask hops

section Firing

/-- Between two states nothing has happened to a provider that has its configuration for itself. -/
structure Undisturbed (p : Provider) (w w' : World σ) : Prop where
  provider : w'.provider p = w.provider p
  attributes : (w'.config p.config).attributes = (w.config p.config).attributes
  pending : w'.pending p = w.pending p

theorem Undisturbed.isPublished (h : Undisturbed p w w') : w'.isPublished p = w.isPublished p := by
  rw [World.isPublished, World.isPublished, h.provider]

theorem Undisturbed.sameBooks {w'' : World σ} (h : Undisturbed p w w') (hbooks : SameBooks w' w'') :
    Undisturbed p w w'' where
  provider := by rw [hbooks.provider, h.provider]
  attributes := by rw [hbooks.config, h.attributes]
  pending := by rw [pending_congr (hbooks.provider p) hbooks.scheduled, h.pending]

theorem undisturbed_publishNow (ask : Ask σ) (hserial : q.config.serial ≠ p.config.serial)
    (hnumber : q.number ≠ p.number) : Undisturbed p w (w.publishNow ask q).world := by
  obtain ⟨s, l, n, t, hbooked⟩ := rebooked_publishNow ask w q
  have hprovider : (w.publishNow ask q).world.provider p = w.provider p := by
    rw [hbooked.provider, if_neg hnumber]
  exact ⟨hprovider, by rw [hbooked.config p.config hserial],
    pending_congr hprovider hbooked.scheduled⟩

variable (hp : p ∈ fleet.members) (hclosed : Closed fleet w)
include hp hclosed

theorem provider_of_isPending {i : Nat} {s : Scheduled} (hs : w.scheduled[i]? = some s)
    (hpending : w.isPending p s = true) :
    s.provider = p ∧ (w.provider s.provider).epoch = s.epoch := by
  rw [isPending, Bool.and_eq_true] at hpending
  have hmember := hclosed.scheduled s (List.mem_of_getElem? hs)
  have hown : s.provider = p := fleet.eq_of_number hmember hp (eq_of_beq hpending.1)
  rw [hown]
  exact ⟨rfl, (eq_of_beq hpending.2).symm⟩

theorem undisturbed_fire (howns : fleet.Owns p) (ask : Ask σ) {i : Nat}
    (hother : ∀ s, w.scheduled[i]? = some s → w.isPending p s = false) :
    Undisturbed p w (w.fire ask i) := by
  have hless {s : Scheduled} (hs : w.scheduled[i]? = some s) :
      Undisturbed p w (w.unscheduled i) := by
    have hpending := pending_unscheduled (p := p) hs
    rw [hother s hs] at hpending
    exact ⟨rfl, rfl, hpending⟩
  by_cases hvoid : ∃ s, w.scheduled[i]? = some s ∧ (w.provider s.provider).epoch = s.epoch
  · obtain ⟨s, hs, hepoch⟩ := hvoid
    have hmember := hclosed.scheduled s (List.mem_of_getElem? hs)
    have hnumber : s.provider.number ≠ p.number := by
      intro hnumber
      have hown : s.provider = p := fleet.eq_of_number hmember hp hnumber
      have hnot := hother s hs
      rw [isPending, ← hown, hepoch] at hnot
      simp at hnot
    have hserial : s.provider.config.serial ≠ p.config.serial := by
      intro hserial
      exact hnumber (by rw [howns s.provider hmember hserial])
    have hothers := undisturbed_publishNow (w := w.unscheduled i) ask hserial hnumber
    have hboth : Undisturbed p w ((w.unscheduled i).publishNow ask s.provider).world := by
      refine ⟨hothers.provider, hothers.attributes, ?_⟩
      rw [hothers.pending, (hless hs).pending]
    exact hboth.sameBooks (sameBooks_fire ask hs hepoch)
  · have hcourse := fire_course ask w i
    generalize w.fire ask i = fired at hcourse
    cases hcourse with
    | idle hs => exact ⟨rfl, rfl, rfl⟩
    | void hs hepoch => exact (hless hs).sameBooks (sameBooks_record _ _)
    | published hs hepoch hresult => exact absurd ⟨_, hs, hepoch⟩ hvoid
    | failed hs hepoch hresult => exact absurd ⟨_, hs, hepoch⟩ hvoid

/-- A pending publication of a provider that comes due is the publication of that provider, with one
less pending. -/
theorem fire_of_isPending (ask : Ask σ) {i : Nat} {s : Scheduled} (hs : w.scheduled[i]? = some s)
    (hpending : w.isPending p s = true) :
    SameBooks ((w.unscheduled i).publishNow ask p).world (w.fire ask i) ∧
      (w.unscheduled i).pending p + 1 = w.pending p := by
  obtain ⟨hown, hepoch⟩ := provider_of_isPending hp hclosed hs hpending
  have hbooks := sameBooks_fire ask hs hepoch
  have hless := pending_unscheduled (p := p) hs
  rw [hpending] at hless
  rw [hown] at hbooks
  exact ⟨hbooks, hless⟩

end Firing

end ServicePublisher
