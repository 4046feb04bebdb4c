import Mathlib.Data.List.DropRight
import ServicePublisher.Text.Blank
import ServicePublisher.Text.Split

/-! Texts freed of their outer blanks, and texts joined from pieces. Blanks around a text make no
difference, and what is joined by a separator is cut into the same pieces again. -/
namespace ServicePublisher.Text

section Trimming

variable {front cs back : List Char}

/-- A text is what is left of it, with blanks before and after. -/
theorem exists_blanks (cs : List Char) : ∃ front back, (∀ c ∈ front, isBlank c = true) ∧
    (∀ c ∈ back, isBlank c = true) ∧ cs = front ++ trimmed cs ++ back := by
  let rest := cs.dropWhile isBlank
  refine ⟨cs.takeWhile isBlank, rest.rtakeWhile isBlank, fun c => List.mem_takeWhile_imp,
    fun c => List.mem_rtakeWhile_imp, ?_⟩
  have hrest : rest = trimmed cs ++ rest.rtakeWhile isBlank :=
    (List.rdropWhile_append_rtakeWhile).symm
  rw [List.append_assoc, ← hrest]
  exact List.takeWhile_append_dropWhile.symm

/-- Blanks around a text make no difference to what is left of it. -/
theorem trimmed_append (hfront : ∀ c ∈ front, isBlank c = true)
    (hback : ∀ c ∈ back, isBlank c = true) : trimmed (front ++ cs ++ back) = trimmed cs := by
  rw [trimmed, List.append_assoc, List.dropWhile_append_of_pos hfront, List.dropWhile_append]
  split
  · next hnone =>
    rw [List.dropWhile_eq_nil_iff.2 hback, trimmed, List.isEmpty_iff.1 hnone]
  · rw [List.reverse_append, List.dropWhile_append_of_pos (by simpa using hback), trimmed]

theorem trimmed_subset (cs : List Char) : trimmed cs ⊆ cs := by
  obtain ⟨front, back, -, -, hcs⟩ := exists_blanks cs
  exact List.IsInfix.subset ⟨front, back, hcs.symm⟩

@[simp] theorem trimmed_trimmed (cs : List Char) : trimmed (trimmed cs) = trimmed cs := by
  obtain ⟨front, back, hfront, hback, hcs⟩ := exists_blanks cs
  conv_rhs => rw [hcs, trimmed_append hfront hback]

theorem mem_trimmed {c : Char} (hc : c ∈ cs) (hblank : isBlank c = false) : c ∈ trimmed cs := by
  obtain ⟨front, back, hfront, hback, hcs⟩ := exists_blanks cs
  rw [hcs, List.mem_append, List.mem_append] at hc
  obtain (hc | hc) | hc := hc
  · rw [hfront c hc] at hblank
    cases hblank
  · exact hc
  · rw [hback c hc] at hblank
    cases hblank

theorem isEmpty_trimmed_eq_false_iff :
    (trimmed cs).isEmpty = false ↔ ∃ c ∈ cs, isBlank c = false := by
  rw [List.isEmpty_eq_false_iff]
  constructor
  · intro hrest
    by_contra hblanks
    have hnone : cs.dropWhile isBlank = [] := List.dropWhile_eq_nil_iff.2 fun c hc =>
      eq_true_of_ne_false fun hblank => hblanks ⟨c, hc, hblank⟩
    refine hrest ?_
    rw [trimmed, hnone]
    rfl
  · rintro ⟨c, hc, hblank⟩
    exact List.ne_nil_of_mem (mem_trimmed hc hblank)

end Trimming

section Pieces

variable {sep : Char} {cs : List Char}

theorem pieces_eq_splitOn (sep : Char) (cs : List Char) : pieces sep cs = cs.splitOn sep := by
  induction cs with
  | nil => rfl
  | cons c cs ih =>
    rw [pieces, List.splitOn, List.splitOnP_cons_eq_if_modifyHead, ← List.splitOn, ← ih]
    by_cases hc : c = sep
    · simp [hc]
    · obtain ⟨p, ps, hpieces⟩ := List.exists_cons_of_ne_nil (pieces_ne_nil sep cs)
      simp [hc, hpieces]

/-- What has been joined by a separator is cut at it into the same pieces. -/
theorem pieces_intercalate {ps : List (List Char)} (h : ∀ p ∈ ps, sep ∉ p) (hne : ps ≠ []) :
    pieces sep ([sep].intercalate ps) = ps := by
  rw [pieces_eq_splitOn, List.splitOn_intercalate sep h hne]

theorem not_mem_of_mem_pieces {p : List Char} (h : p ∈ pieces sep cs) : sep ∉ p := by
  induction cs generalizing p with
  | nil =>
    rw [List.mem_singleton.1 h]
    exact List.not_mem_nil
  | cons c cs ih =>
    obtain ⟨q, qs, hpieces⟩ := List.exists_cons_of_ne_nil (pieces_ne_nil sep cs)
    rw [pieces, hpieces] at h
    rw [hpieces] at ih
    split at h
    · obtain rfl | h := List.mem_cons.1 h
      · exact List.not_mem_nil
      · exact ih h
    · next hc =>
      obtain rfl | h := List.mem_cons.1 h
      · simpa [Ne.symm hc] using ih List.mem_cons_self
      · exact ih (List.mem_cons_of_mem q h)

theorem cut?_eq_some_iff {a b : List Char} :
    cut? sep cs = some (a, b) ↔ cs = a ++ sep :: b ∧ sep ∉ a := by
  constructor
  · intro h
    refine ⟨eq_of_cut? h, ?_⟩
    induction cs generalizing a with
    | nil => cases h
    | cons c cs ih =>
      rw [cut?] at h
      split at h
      · cases h
        exact List.not_mem_nil
      · next hc =>
        obtain ⟨⟨x, y⟩, hx, hy⟩ := Option.map_eq_some_iff.1 h
        cases hy
        exact List.not_mem_cons_of_ne_of_not_mem (Ne.symm hc) (ih hx)
  · rintro ⟨rfl, hsep⟩
    induction a with
    | nil => simp [cut?]
    | cons c a ih =>
      have hc : c ≠ sep := Ne.symm (List.ne_of_not_mem_cons hsep)
      rw [List.cons_append, cut?, if_neg hc, ih (List.not_mem_of_not_mem_cons hsep),
        Option.map_some]

/-- Two texts with a separator are the same only if they are the same before the first separator and
after it. -/
theorem append_sep_inj {a b a' b' : List Char} (ha : sep ∉ a) (ha' : sep ∉ a') :
    a ++ sep :: b = a' ++ sep :: b' ↔ a = a' ∧ b = b' := by
  constructor
  · intro hsame
    have hcut : cut? sep (a' ++ sep :: b') = some (a, b) := cut?_eq_some_iff.2 ⟨hsame.symm, ha⟩
    have hcut' : cut? sep (a' ++ sep :: b') = some (a', b') := cut?_eq_some_iff.2 ⟨rfl, ha'⟩
    exact Prod.mk.inj (Option.some.inj (hcut.symm.trans hcut'))
  · rintro ⟨rfl, rfl⟩
    rfl

end Pieces

end ServicePublisher.Text
