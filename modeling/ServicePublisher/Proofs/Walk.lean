import ServicePublisher.Binding.Walk

/-! What a whole walk over collaborators does, from what its single stops do: what every stop keeps
the walk keeps, and what some accepted stop writes the walk leaves written. -/
namespace ServicePublisher

variable {σ α : Type}

theorem visitAll_keeps {visit : α → World σ → Stop σ}
    {report : World σ → α → ProviderError → World σ} {P : World σ → Prop} {xs : List α}
    (hvisit : ∀ x ∈ xs, ∀ w, P w → P (visit x w).outcome.world)
    (hreport : ∀ x ∈ xs, ∀ w e, P w → P (report w x e)) {w : World σ} (h : P w) :
    P (visitAll visit report xs w).outcome.world := by
  induction xs generalizing w with
  | nil => exact h
  | cons x xs ih =>
    have hx := hvisit x List.mem_cons_self w h
    have hrest := @ih (fun y hy => hvisit y (List.mem_cons_of_mem x hy))
      (fun y hy => hreport y (List.mem_cons_of_mem x hy))
    rw [visitAll]
    generalize visit x w = stop at hx ⊢
    obtain ⟨accepted, result, w'⟩ := stop
    cases result with
    | ok u => exact hrest hx
    | error e =>
      dsimp only
      split
      · exact hx
      · exact hrest (hreport x List.mem_cons_self w' e hx)

theorem sweep_keeps {visit : α → World σ → Outcome σ Unit}
    {report : World σ → α → ProviderError → World σ} {P : World σ → Prop} {xs : List α}
    (hvisit : ∀ x ∈ xs, ∀ w, P w → P (visit x w).world)
    (hreport : ∀ x ∈ xs, ∀ w e, P w → P (report w x e)) {w : World σ} (h : P w) :
    P (sweep visit report xs w) := by
  induction xs generalizing w with
  | nil => exact h
  | cons x xs ih =>
    have hx := hvisit x List.mem_cons_self w h
    have hrest := @ih (fun y hy => hvisit y (List.mem_cons_of_mem x hy))
      (fun y hy => hreport y (List.mem_cons_of_mem x hy))
    rw [sweep]
    generalize visit x w = outcome at hx ⊢
    obtain ⟨result, w'⟩ := outcome
    cases result with
    | ok u => exact hrest hx
    | error e => exact hrest (hreport x List.mem_cons_self w' e hx)

/-- How a stop treats a value that is written where the stop is accepted and meant. -/
def Stop.Writes {β : Type} (stop : Stop σ) (value : World σ → β) (meant : Prop)
    (written before : β) : Prop :=
  (stop.accepted = true → meant → value stop.outcome.world = written) ∧
    (¬(stop.accepted = true ∧ meant) → value stop.outcome.world = before)

/-- How a walk treats such a value: it is written if there is such a stop, and as before
otherwise. -/
def Walk.Writes {β : Type} (walk : Walk σ α) (value : World σ → β) (meant : α → Prop)
    (written before : β) : Prop :=
  ((∃ x ∈ walk.accepted, meant x) → value walk.outcome.world = written) ∧
    ((∀ x ∈ walk.accepted, ¬meant x) → value walk.outcome.world = before)

section Writes

variable {β : Type} {f : World σ → β} {m : α → Prop} {written before : β}

/-- An earlier stop either wrote the value, which then stands in any case, or left it alone. -/
theorem Walk.Writes.after {walk : Walk σ α} {stop : Stop σ} {x : α}
    (h : walk.Writes f m written (f stop.outcome.world))
    (hstop : stop.Writes f (m x) written before) (n : Nat) :
    (walk.after (if stop.accepted then [x] else []) n).Writes f m written before := by
  by_cases hx : stop.accepted = true ∧ m x
  · have hhere := hstop.1 hx.1 hx.2
    have hwritten : f walk.outcome.world = written := by
      by_cases hlater : ∃ y ∈ walk.accepted, m y
      · exact h.1 hlater
      · rw [h.2 fun y hy hm => hlater ⟨y, hy, hm⟩, hhere]
    refine ⟨fun _ => hwritten, fun hnone => ?_⟩
    exact absurd hx.2 (hnone x (by simp [Walk.after, hx.1]))
  · have hhere := hstop.2 hx
    constructor
    · intro hgiven
      obtain ⟨y, hy, hm⟩ := hgiven
      simp only [Walk.after, List.mem_append] at hy
      obtain hy | hy := hy
      · split at hy
        · next hacc => exact absurd ⟨hacc, by rwa [List.mem_singleton.1 hy] at hm⟩ hx
        · cases hy
      · exact h.1 ⟨y, hy, hm⟩
    · intro hnone
      rw [← hhere]
      exact h.2 fun y hy => hnone y (List.mem_append_right _ hy)

theorem Walk.Writes.eq_ite {walk : Walk σ α} (h : walk.Writes f m written before)
    [DecidablePred m] :
    f walk.outcome.world = if ∃ x ∈ walk.accepted, m x then written else before := by
  split
  · next hmeant => exact h.1 hmeant
  · next hmeant => exact h.2 fun x hx hm => hmeant ⟨x, hx, hm⟩

section Keeping

variable {P : World σ → Prop}

/-- A walk all of whose stops write a value, exactly where they are accepted and meant. The stops
may rely on what they all keep. -/
theorem visitAll_writes {visit : α → World σ → Stop σ}
    {report : World σ → α → ProviderError → World σ}
    (hvisit : ∀ x w, P w → P (visit x w).outcome.world ∧
      (visit x w).Writes f (m x) written (f w))
    (hreport : ∀ w x e, P w → P (report w x e) ∧ f (report w x e) = f w)
    (xs : List α) {w : World σ} (hw : P w) :
    (visitAll visit report xs w).Writes f m written (f w) := by
  induction xs generalizing w with
  | nil => simp [visitAll, Walk.Writes]
  | cons x xs ih =>
    obtain ⟨hp, hx⟩ := hvisit x w hw
    rw [visitAll]
    generalize visit x w = stop at hp hx ⊢
    obtain ⟨accepted, result, w'⟩ := stop
    cases result with
    | ok u => exact (ih hp).after hx 1
    | error e =>
      dsimp only
      split
      · have hend : (⟨[], 0, ⟨.error e, w'⟩⟩ : Walk σ α).Writes f m written (f w') := by
          simp [Walk.Writes]
        simpa [Walk.after] using hend.after hx 0
      · obtain ⟨hp', hsame⟩ := hreport w' x e hp
        have hrest := ih hp'
        rw [hsame] at hrest
        exact hrest.after hx 0

/-- A sweep all of whose visits write a value, exactly where they are meant. -/
theorem sweep_writes {visit : α → World σ → Outcome σ Unit}
    {report : World σ → α → ProviderError → World σ}
    [DecidablePred m]
    (hvisit : ∀ x w, P w → P (visit x w).world ∧
      f (visit x w).world = if m x then written else f w)
    (hreport : ∀ w x e, P w → P (report w x e) ∧ f (report w x e) = f w)
    (xs : List α) {w : World σ} (hw : P w) :
    f (sweep visit report xs w) = if ∃ x ∈ xs, m x then written else f w := by
  induction xs generalizing w with
  | nil => simp [sweep]
  | cons x xs ih =>
    -- An error is reported, which does not touch the value, so both answers lead on alike.
    obtain ⟨w', hp, hvalue, hsweep⟩ : ∃ w', P w' ∧ f w' = f (visit x w).world ∧
        sweep visit report (x :: xs) w = sweep visit report xs w' := by
      have hp := (hvisit x w hw).1
      rw [sweep]
      generalize visit x w = outcome at hp
      obtain ⟨result, w'⟩ := outcome
      cases result with
      | ok u => exact ⟨w', hp, rfl, rfl⟩
      | error e => exact ⟨report w' x e, (hreport w' x e hp).1, (hreport w' x e hp).2, rfl⟩
    rw [hsweep, ih hp, hvalue, (hvisit x w hw).2]
    by_cases hlater : ∃ y ∈ xs, m y
    · have hsome : ∃ y ∈ x :: xs, m y := by
        obtain ⟨y, hy, hm⟩ := hlater
        exact ⟨y, List.mem_cons_of_mem x hy, hm⟩
      rw [if_pos hlater, if_pos hsome]
    · rw [if_neg hlater]
      by_cases hx : m x
      · rw [if_pos hx, if_pos ⟨x, List.mem_cons_self, hx⟩]
      · rw [if_neg hx, if_neg]
        intro hgiven
        obtain ⟨y, hy, hm⟩ := hgiven
        obtain rfl | hy := List.mem_cons.1 hy
        · exact hx hm
        · exact hlater ⟨y, hy, hm⟩

end Keeping

end Writes

section Accepted

variable {visit : α → World σ → Stop σ} {report : World σ → α → ProviderError → World σ}

theorem mem_of_mem_accepted {xs : List α} {w : World σ} {x : α}
    (hx : x ∈ (visitAll visit report xs w).accepted) : x ∈ xs := by
  induction xs generalizing w with
  | nil => cases hx
  | cons y ys ih =>
    have hhere {accepted : Bool} (h : x ∈ if accepted then [y] else []) : x ∈ y :: ys := by
      split at h
      · rw [List.mem_singleton.1 h]
        exact List.mem_cons_self
      · cases h
    rw [visitAll] at hx
    generalize visit y w = stop at hx
    obtain ⟨accepted, result, w'⟩ := stop
    cases result with
    | ok u =>
      obtain hx | hx := List.mem_append.1 hx
      · exact hhere hx
      · exact List.mem_cons_of_mem y (ih hx)
    | error e =>
      dsimp only at hx
      split at hx
      · exact hhere hx
      · obtain hx | hx := List.mem_append.1 hx
        · exact hhere hx
        · exact List.mem_cons_of_mem y (ih hx)

/-- Whoever has accepted in a walk that an error ended either is not the last one visited or has
answered with that error. -/
theorem mem_dropLast_of_mem_accepted {ends : α → Prop}
    (hends : ∀ x w e, (visit x w).accepted = true → (visit x w).outcome.result = .error e → ends x)
    {xs : List α} {w : World σ} {e : ProviderError}
    (he : (visitAll visit report xs w).outcome.result = .error e) {x : α}
    (hx : x ∈ (visitAll visit report xs w).accepted) : x ∈ xs.dropLast ∨ ends x := by
  induction xs generalizing w with
  | nil => cases hx
  | cons y ys ih =>
    -- A walk that goes on and ends with an error has somewhere to go.
    have hrest {w' : World σ} {accepted : Bool}
        (he' : (visitAll visit report ys w').outcome.result = .error e)
        (hx' : x ∈ (if accepted then [y] else []) ++ (visitAll visit report ys w').accepted) :
        x ∈ (y :: ys).dropLast ∨ ends x := by
      have hys : ys ≠ [] := by
        intro hsame
        subst hsame
        cases he'
      rw [List.dropLast_cons_of_ne_nil hys]
      obtain hx' | hx' := List.mem_append.1 hx'
      · split at hx'
        · rw [List.mem_singleton.1 hx']
          exact .inl List.mem_cons_self
        · cases hx'
      · exact (ih he' hx').imp_left (List.mem_cons_of_mem y)
    have hy := hends y w
    rw [visitAll] at he hx
    generalize visit y w = stop at he hx hy
    obtain ⟨accepted, result, w'⟩ := stop
    cases result with
    | ok u => exact hrest he hx
    | error e' =>
      dsimp only at he hx hy
      split at hx
      · split at hx
        · next hacc =>
          rw [List.mem_singleton.1 hx]
          exact .inr (hy e' hacc rfl)
        · cases hx
      · next hfault =>
        rw [if_neg hfault] at he
        exact hrest he hx

end Accepted

end ServicePublisher
