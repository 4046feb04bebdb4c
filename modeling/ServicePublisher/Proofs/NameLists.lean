import Mathlib.Data.List.Forall2
import Mathlib.Logic.Relation
import ServicePublisher.MethodPolicy
import ServicePublisher.Proofs.Trimming

/-! Lists of names as sets. What two lists decide on a name depends on the names that they hold
alone: not on the order of these, nor on repetitions and blanks, and never on a part of a name. -/
namespace ServicePublisher

open Text

def joined (names : List String) : String := ",".intercalate names

def CommaFree (s : String) : Prop := ',' ∉ s.toList

instance (s : String) : Decidable (CommaFree s) := inferInstanceAs (Decidable (',' ∉ s.toList))

def PadsOut (padded s : String) : Prop :=
  ∃ front back, (∀ c ∈ front, isBlank c = true) ∧ (∀ c ∈ back, isBlank c = true) ∧
    padded.toList = front ++ s.toList ++ back

/-- A list that admits every method: nothing but blanks, a star, or the word "all" in any case. -/
def AdmitsEvery (list : String) : Prop :=
  trim list = "" ∨ trim list = "*" ∨
    ∃ a ∈ ['a', 'A'], ∃ b ∈ ['l', 'L'], ∃ c ∈ ['l', 'L'], (trim list).toList = [a, b, c]

/-- Names in another order, with one of them once more, or with blanks around some. -/
inductive Reworded (names : List String) : List String → Prop
  | reordered {names' : List String} (h : names'.Perm names) : Reworded names names'
  | repeated {name : String} (h : name ∈ names) : Reworded names (name :: names)
  | padded {names' : List String} (h : List.Forall₂ PadsOut names' names) : Reworded names names'

section Wildcards

variable {list : String}

theorem toNat_toLower (c : Char) : c.toLower.toNat =
    if 65 ≤ c.toNat ∧ c.toNat ≤ 90 then c.toNat + 32 else c.toNat := by
  delta Char.toLower
  split
  · next h =>
    have hupper : 65 ≤ c.toNat ∧ c.toNat ≤ 90 := h
    rw [if_pos hupper]
    change (c.val + 32).toNat = _
    rw [UInt32.toNat_add]
    change (c.toNat + 32) % 2 ^ 32 = _
    omega
  · next h =>
    have hother : ¬(65 ≤ c.toNat ∧ c.toNat ≤ 90) := h
    rw [if_neg hother]

theorem toLower_eq_iff {c lower upper : Char} (h : lower.toNat = upper.toNat + 32)
    (hupper : 65 ≤ upper.toNat ∧ upper.toNat ≤ 90) : c.toLower = lower ↔ c ∈ [lower, upper] := by
  rw [List.mem_pair, ← Char.toNat_inj, ← Char.toNat_inj, ← Char.toNat_inj, toNat_toLower]
  split <;> omega

theorem map_toLower_eq_all (cs : List Char) : cs.map Char.toLower = ['a', 'l', 'l'] ↔
    ∃ a ∈ ['a', 'A'], ∃ b ∈ ['l', 'L'], ∃ c ∈ ['l', 'L'], cs = [a, b, c] := by
  have ha (c : Char) : c.toLower = 'a' ↔ c ∈ ['a', 'A'] := toLower_eq_iff rfl (by decide)
  have hl (c : Char) : c.toLower = 'l' ↔ c ∈ ['l', 'L'] := toLower_eq_iff rfl (by decide)
  constructor
  · intro h
    obtain ⟨a, cs, rfl, hfirst, h⟩ := List.map_eq_cons_iff.1 h
    obtain ⟨b, cs, rfl, hsecond, h⟩ := List.map_eq_cons_iff.1 h
    obtain ⟨c, cs, rfl, hthird, h⟩ := List.map_eq_cons_iff.1 h
    rw [List.map_eq_nil_iff.1 h]
    exact ⟨a, (ha a).1 hfirst, b, (hl b).1 hsecond, c, (hl c).1 hthird, rfl⟩
  · rintro ⟨a, hfirst, b, hsecond, c, hthird, rfl⟩
    rw [List.map_cons, List.map_cons, List.map_cons, (ha a).2 hfirst, (hl b).2 hsecond,
      (hl c).2 hthird, List.map_nil]

theorem isWildcard_iff : isWildcard list = true ↔ AdmitsEvery list := by
  simp only [isWildcard, AdmitsEvery, Bool.or_eq_true, beq_iff_eq, List.isEmpty_iff,
    map_toLower_eq_all, ← String.toList_inj, toList_trim, or_assoc]
  rfl

theorem admitsEvery_congr {list' : String} (h : trim list = trim list') :
    AdmitsEvery list ↔ AdmitsEvery list' := by
  rw [AdmitsEvery, AdmitsEvery, h]

/-- A list with a comma names at least two methods, be they blank. -/
theorem AdmitsEvery.commaFree (h : AdmitsEvery list) : CommaFree list := by
  intro hcomma
  have hmem : ',' ∈ (trim list).toList := by
    rw [toList_trim]
    exact mem_trimmed hcomma (by decide)
  obtain h | h | ⟨a, ha, b, hb, c, hc, h⟩ := h
  · rw [h] at hmem
    cases hmem
  · rw [h] at hmem
    revert hmem
    decide
  · rw [h] at hmem
    simp only [List.mem_cons, List.not_mem_nil, or_false] at ha hb hc hmem
    obtain rfl | rfl := ha <;> obtain rfl | rfl := hb <;> obtain rfl | rfl := hc <;>
      revert hmem <;> decide

theorem admitsEvery_joined (names : List String) :
    AdmitsEvery (joined names) ↔ names = [] ∨ ∃ x, names = [x] ∧ AdmitsEvery x := by
  match names with
  | [] => exact iff_of_true (.inl (by decide)) (.inl rfl)
  | [x] => simp [joined]
  | x :: y :: rest =>
    refine iff_of_false (fun h => h.commaFree ?_) (by simp)
    simp [joined]

end Wildcards

section Lists

variable {list included excluded name : String} {names names' : List String}

theorem PadsOut.trim {padded s : String} (h : PadsOut padded s) : trim padded = trim s := by
  obtain ⟨front, back, hfront, hback, hpadded⟩ := h
  rw [Text.trim, hpadded, trimmed_append hfront hback, Text.trim]

theorem CommaFree.pad {padded s : String} (hs : CommaFree s) (h : PadsOut padded s) :
    CommaFree padded := by
  obtain ⟨front, back, hfront, hback, hpadded⟩ := h
  have hcomma : isBlank ',' = false := by decide
  rw [CommaFree, hpadded, List.mem_append, List.mem_append]
  rintro ((hc | hc) | hc)
  · cases hcomma.symm.trans (hfront _ hc)
  · exact hs hc
  · cases hcomma.symm.trans (hback _ hc)

/-- A list joined from names holds these, each without its outer blanks. -/
theorem tokens_joined (h : ∀ x ∈ names, CommaFree x) (hne : names ≠ []) :
    tokens (joined names) = names.map trim := by
  have hpieces : pieces ',' (joined names).toList = names.map String.toList := by
    rw [joined, String.toList_intercalate]
    refine pieces_intercalate (fun p hp => ?_) (by simpa using hne)
    obtain ⟨x, hx, rfl⟩ := List.mem_map.1 hp
    exact h x hx
  rw [tokens, hpieces, List.map_map]
  rfl

theorem listed_joined (h : ∀ x ∈ names, CommaFree x) (hname : name ≠ "") :
    listed (joined names) name = true ↔ ∃ x ∈ names, name = trim x := by
  rw [listed, List.contains_iff_mem]
  by_cases hne : names = []
  · subst hne
    have hblank : tokens (joined []) = [""] := by decide
    simp [hblank, hname]
  · simp only [tokens_joined h hne, List.mem_map, eq_comm]

/-- A name with outer blanks or a comma is on no list. -/
theorem listed_eq_false (h : ¬CommaFree name ∨ trim name ≠ name) : listed list name = false := by
  refine eq_false_of_ne_true fun hlisted => ?_
  rw [listed, List.contains_iff_mem, tokens, List.mem_map] at hlisted
  obtain ⟨p, hp, rfl⟩ := hlisted
  obtain hcomma | hblanks := h
  · refine hcomma fun hmem => not_mem_of_mem_pieces hp ?_
    rw [String.toList_ofList] at hmem
    exact trimmed_subset p hmem
  · refine hblanks ?_
    rw [trim, String.toList_ofList, trimmed_trimmed]

theorem listed_of_blank (h : trimmed list.toList = []) (hname : name ≠ "") :
    listed list name = false := by
  have hcomma : ',' ∉ list.toList := fun hmem => by
    have hleft := mem_trimmed hmem (by decide)
    rw [h] at hleft
    cases hleft
  have hpieces : pieces ',' list.toList = [list.toList] := by
    have hone : pieces ',' ([','].intercalate [list.toList]) = [list.toList] :=
      pieces_intercalate (by simpa using hcomma) (List.cons_ne_nil _ _)
    rwa [List.intercalate_singleton] at hone
  rw [listed, tokens, hpieces]
  simp [h, hname]

/-- The two lists decide by what they hold. That a blank list excludes nobody is no exception, as it
holds the empty name only. -/
theorem inList_iff (hname : name ≠ "") :
    inList included excluded name = true ↔
      (AdmitsEvery included ∨ listed included name = true) ∧ listed excluded name = false := by
  have hblank (h : (trimmed excluded.toList).isEmpty = true) : listed excluded name = false :=
    listed_of_blank (List.isEmpty_iff.1 h) hname
  rw [inList, ← isWildcard_iff]
  cases isWildcard included <;> cases listed included name <;>
    cases hempty : (trimmed excluded.toList).isEmpty <;> simp_all

theorem inList_joined_iff (hincluded : ∀ x ∈ names, CommaFree x)
    (hexcluded : ∀ y ∈ names', CommaFree y) (hname : name ≠ "") :
    inList (joined names) (joined names') name = true ↔
      (AdmitsEvery (joined names) ∨ ∃ x ∈ names, name = trim x) ∧ ∀ y ∈ names', name ≠ trim y := by
  rw [inList_iff hname, listed_joined hincluded hname, ← Bool.not_eq_true,
    listed_joined hexcluded hname]
  simp only [not_exists, not_and]

end Lists

section Rewording

variable {names names' : List String}

theorem mem_of_padsOut (h : List.Forall₂ PadsOut names' names) (name : String) :
    (∃ x ∈ names', name = trim x) ↔ ∃ x ∈ names, name = trim x := by
  induction h with
  | nil => rfl
  | cons hfirst _ ih => simp only [List.exists_mem_cons_iff, ih, hfirst.trim]

theorem commaFree_of_padsOut (h : List.Forall₂ PadsOut names' names)
    (hnames : ∀ x ∈ names, CommaFree x) : ∀ x ∈ names', CommaFree x := by
  induction h with
  | nil => exact hnames
  | cons hfirst _ ih =>
    obtain ⟨hcomma, hrest⟩ := List.forall_mem_cons.1 hnames
    exact List.forall_mem_cons.2 ⟨hcomma.pad hfirst, ih hrest⟩

theorem Reworded.mem (h : Reworded names names') (name : String) :
    (∃ x ∈ names', name = trim x) ↔ ∃ x ∈ names, name = trim x := by
  cases h with
  | reordered h => simp only [h.mem_iff]
  | @repeated x hx =>
    rw [List.exists_mem_cons_iff]
    exact or_iff_right_of_imp fun hname => ⟨x, hx, hname⟩
  | padded h => exact mem_of_padsOut h name

theorem Reworded.commaFree (h : Reworded names names') (hnames : ∀ x ∈ names, CommaFree x) :
    ∀ x ∈ names', CommaFree x := by
  cases h with
  | reordered h => exact fun x hx => hnames x (h.mem_iff.1 hx)
  | repeated h => exact List.forall_mem_cons.2 ⟨hnames _ h, hnames⟩
  | padded h => exact commaFree_of_padsOut h hnames

/-- A list that names some methods only does not come to admit every method. -/
theorem Reworded.admitsEvery (h : Reworded names names') (hevery : AdmitsEvery (joined names')) :
    AdmitsEvery (joined names) := by
  rw [admitsEvery_joined] at hevery ⊢
  cases h with
  | reordered h =>
    obtain rfl | ⟨x, rfl, hx⟩ := hevery
    · exact .inl h.nil_eq.symm
    · exact .inr ⟨x, (List.singleton_perm.1 h).symm, hx⟩
  | @repeated x hx =>
    obtain hnil | ⟨y, hone, -⟩ := hevery
    · cases hnil
    · obtain ⟨-, rfl⟩ := List.cons_eq_cons.1 hone
      cases hx
  | padded h =>
    obtain rfl | ⟨x, rfl, hx⟩ := hevery
    · exact .inl (List.forall₂_nil_left_iff.1 h)
    · obtain ⟨y, rest, hpad, hrest, rfl⟩ := List.forall₂_cons_left_iff.1 h
      rw [List.forall₂_nil_left_iff.1 hrest]
      exact .inr ⟨y, rfl, (admitsEvery_congr hpad.trim).1 hx⟩

/-- Names reworded any number of times. -/
structure SameNames (names names' : List String) : Prop where
  mem : ∀ name, (∃ x ∈ names', name = trim x) ↔ ∃ x ∈ names, name = trim x
  commaFree : (∀ x ∈ names, CommaFree x) → ∀ x ∈ names', CommaFree x
  admitsEvery : AdmitsEvery (joined names') → AdmitsEvery (joined names)

theorem sameNames (h : Relation.ReflTransGen Reworded names names') : SameNames names names' := by
  induction h with
  | refl => exact ⟨fun _ => Iff.rfl, id, id⟩
  | tail _ hlast ih =>
    exact ⟨fun name => (hlast.mem name).trans (ih.mem name),
      fun hnames => hlast.commaFree (ih.commaFree hnames),
      fun hevery => ih.admitsEvery (hlast.admitsEvery hevery)⟩

end Rewording

section Decisions

variable {xs ys xs' ys' : List String} {included excluded token m : String}
  (hxs : ∀ x ∈ xs, CommaFree x) (hys : ∀ y ∈ ys, CommaFree y)

theorem commaFree_perm_cons (h : xs'.Perm (token :: xs)) (htoken : CommaFree token)
    (hxs : ∀ x ∈ xs, CommaFree x) : ∀ x ∈ xs', CommaFree x :=
  fun x hx => (List.forall_mem_cons.2 ⟨htoken, hxs⟩) x (h.mem_iff.1 hx)

theorem exists_mem_perm_cons (h : xs'.Perm (token :: xs)) :
    (∃ x ∈ xs', m = trim x) ↔ m = trim token ∨ ∃ x ∈ xs, m = trim x := by
  simp only [h.mem_iff, List.exists_mem_cons_iff]

theorem not_admitsEvery_perm_cons (h : xs'.Perm (token :: xs)) (hxs : ¬AdmitsEvery (joined xs)) :
    ¬AdmitsEvery (joined xs') := by
  rw [admitsEvery_joined]
  rintro (rfl | ⟨x, rfl, -⟩)
  · cases h.nil_eq
  · have hlength := h.length_eq
    have hnil : xs = [] := by simpa using hlength
    exact hxs ((admitsEvery_joined xs).2 (.inl hnil))

variable (hm : m ≠ "")
include hm

section Included

include hxs

/-- One more included name denies nothing that was admitted by name. -/
theorem inList_of_included (htoken : CommaFree token) (h : xs'.Perm (token :: xs))
    (hnames : ¬AdmitsEvery (joined xs)) (hadmitted : inList (joined xs) excluded m = true) :
    inList (joined xs') excluded m = true := by
  rw [inList_iff hm, listed_joined hxs hm] at hadmitted
  rw [inList_iff hm, listed_joined (commaFree_perm_cons h htoken hxs) hm, exists_mem_perm_cons h]
  exact ⟨.inr (.inr (hadmitted.1.resolve_left hnames)), hadmitted.2⟩

theorem inList_included_other (htoken : CommaFree token) (h : xs'.Perm (token :: xs))
    (hnames : ¬AdmitsEvery (joined xs)) (hother : trim token ≠ m) :
    inList (joined xs') excluded m = inList (joined xs) excluded m := by
  rw [Bool.eq_iff_iff, inList_iff hm, inList_iff hm, listed_joined hxs hm,
    listed_joined (commaFree_perm_cons h htoken hxs) hm, exists_mem_perm_cons h]
  simp only [hnames, not_admitsEvery_perm_cons h hnames, Ne.symm hother, false_or]

end Included

section Excluded

include hys

/-- One more excluded name admits nothing that was denied. -/
theorem inList_of_excluded (htoken : CommaFree token) (h : ys'.Perm (token :: ys))
    (hadmitted : inList included (joined ys') m = true) :
    inList included (joined ys) m = true := by
  rw [inList_iff hm, ← Bool.not_eq_true, listed_joined (commaFree_perm_cons h htoken hys) hm,
    exists_mem_perm_cons h] at hadmitted
  rw [inList_iff hm, ← Bool.not_eq_true, listed_joined hys hm]
  exact ⟨hadmitted.1, fun hlisted => hadmitted.2 (.inr hlisted)⟩

theorem inList_excluded_other (htoken : CommaFree token) (h : ys'.Perm (token :: ys))
    (hother : trim token ≠ m) :
    inList included (joined ys') m = inList included (joined ys) m := by
  rw [Bool.eq_iff_iff, inList_iff hm, inList_iff hm, ← Bool.not_eq_true, ← Bool.not_eq_true,
    listed_joined hys hm, listed_joined (commaFree_perm_cons h htoken hys) hm,
    exists_mem_perm_cons h]
  simp only [Ne.symm hother, false_or]

end Excluded

omit hm in
theorem SameNames.inList_eq (hxs : ∀ x ∈ xs, CommaFree x) (hys : ∀ y ∈ ys, CommaFree y)
    (hm : m ≠ "") (hnames : ¬AdmitsEvery (joined xs)) (hincluded : SameNames xs xs')
    (hexcluded : SameNames ys ys') :
    inList (joined xs') (joined ys') m = inList (joined xs) (joined ys) m := by
  have hstill : ¬AdmitsEvery (joined xs') := fun hevery => hnames (hincluded.admitsEvery hevery)
  rw [Bool.eq_iff_iff, inList_joined_iff hxs hys hm,
    inList_joined_iff (hincluded.commaFree hxs) (hexcluded.commaFree hys) hm, hincluded.mem]
  have hsame := hexcluded.mem m
  simp only [hnames, hstill, false_or]
  rw [← not_iff_not] at hsame
  simp only [not_exists, not_and] at hsame
  rw [hsame]

end Decisions

/-- What lists of names decide. A name is admitted if the first list admits every method or holds
the name, and the second does not hold it; blanks around the names they hold make no difference.
Unless the first list admits every method, the decision stays when either list is reworded, and one
more included name denies nothing; and one more excluded name never admits anything. What a list
holds stands for no other name, be it a part of that name, and what has a comma or outer blanks is
on no list. -/
theorem lists_decide_as_sets {xs ys : List String} (hxs : ∀ x ∈ xs, CommaFree x)
    (hys : ∀ y ∈ ys, CommaFree y) {m : String} (hm : m ≠ "") :
    (∀ xs' ys', List.Forall₂ PadsOut xs' xs → List.Forall₂ PadsOut ys' ys →
      (inList (joined xs') (joined ys') m = true ↔
        (AdmitsEvery (joined xs') ∨ ∃ x ∈ xs, m = trim x) ∧ ∀ y ∈ ys, m ≠ trim y)) ∧
    (¬AdmitsEvery (joined xs) → ∀ xs' ys', Relation.ReflTransGen Reworded xs xs' →
      Relation.ReflTransGen Reworded ys ys' →
      inList (joined xs') (joined ys') m = inList (joined xs) (joined ys) m) ∧
    (∀ token, CommaFree token →
      (¬AdmitsEvery (joined xs) → ∀ xs', xs'.Perm (token :: xs) → ∀ excluded,
        inList (joined xs) excluded m = true → inList (joined xs') excluded m = true) ∧
      (∀ included ys', ys'.Perm (token :: ys) →
        inList included (joined ys') m = true → inList included (joined ys) m = true) ∧
      (trim token ≠ m →
        (¬AdmitsEvery token → ∀ excluded, inList token excluded m = false) ∧
        (¬AdmitsEvery (joined xs) → ∀ xs', xs'.Perm (token :: xs) → ∀ excluded,
          inList (joined xs') excluded m = inList (joined xs) excluded m) ∧
        ∀ included ys', ys'.Perm (token :: ys) →
          inList included (joined ys') m = inList included (joined ys) m)) ∧
    ∀ list name, ¬CommaFree name ∨ trim name ≠ name → listed list name = false := by
  refine ⟨fun xs' ys' hpadx hpady => ?_, fun hnames xs' ys' hx hy => ?_, fun token htoken => ?_,
    fun list name => listed_eq_false⟩
  · rw [inList_joined_iff (commaFree_of_padsOut hpadx hxs) (commaFree_of_padsOut hpady hys) hm,
      mem_of_padsOut hpadx]
    have hsame := mem_of_padsOut hpady m
    rw [← not_iff_not] at hsame
    simp only [not_exists, not_and] at hsame
    rw [hsame]
  · exact (sameNames hx).inList_eq hxs hys hm hnames (sameNames hy)
  · refine ⟨fun hnames xs' h excluded => inList_of_included hxs hm htoken h hnames,
      fun included ys' h => inList_of_excluded hys hm htoken h, fun hother =>
        ⟨fun halone excluded => ?_, fun hnames xs' h excluded =>
          inList_included_other hxs hm htoken h hnames hother,
          fun included ys' h => inList_excluded_other hys hm htoken h hother⟩⟩
    refine eq_false_of_ne_true fun hadmitted => ?_
    have hone : joined [token] = token := String.intercalate_singleton
    rw [inList_iff hm, ← hone, listed_joined (by simpa using htoken) hm] at hadmitted
    obtain hevery | hlisted := hadmitted.1
    · exact halone (hone ▸ hevery)
    · simp [Ne.symm hother] at hlisted

/-- A method is included among blank pieces and part of a longer name, until it is excluded. -/
theorem lists_decide_as_sets_get :
    let xs := ["getAll", "get"]
    let ys := ["put", ""]
    (∀ x ∈ xs, CommaFree x) ∧ (∀ y ∈ ys, CommaFree y) ∧ "get" ≠ "" ∧
      joined ["getAll", "\tget "] = "getAll,\tget " ∧ joined ys = "put," ∧
      inList "getAll,\tget " "put," "get" = true ∧ inList "getAll,\tget " "get,put," "get" = false ∧
      inList "getAll" "put," "get" = false := by
  intro xs ys
  have hxs : ∀ x ∈ xs, CommaFree x := by decide
  have hys : ∀ y ∈ ys, CommaFree y := by decide
  have hget : "get" ≠ "" := by decide
  have htab : ∀ c ∈ ['\t'], isBlank c = true := List.forall_mem_singleton.2 (by decide)
  have hspace : ∀ c ∈ [' '], isBlank c = true := List.forall_mem_singleton.2 (by decide)
  have hpadx : List.Forall₂ PadsOut ["getAll", "\tget "] xs :=
    .cons ⟨[], [], nofun, nofun, by decide⟩
      (.cons ⟨['\t'], [' '], htab, hspace, by decide⟩ .nil)
  have hpady (names : List String) : List.Forall₂ PadsOut names names :=
    List.forall₂_same.2 fun y _ => ⟨[], [], nofun, nofun, by simp⟩
  have hput := (lists_decide_as_sets hxs hys hget).1 _ _ hpadx (hpady ys)
  have hys' : ∀ y ∈ "get" :: ys, CommaFree y := by decide
  have hboth := (lists_decide_as_sets hxs hys' hget).1 _ _ hpadx (hpady _)
  have hpart := ((lists_decide_as_sets hxs hys hget).2.2.1 "getAll" (by decide)).2.2 (by decide)
  refine ⟨hxs, hys, hget, by decide, by decide, hput.2 ?_, ?_, ?_⟩
  · exact ⟨.inr ⟨"get", by decide, by decide⟩, by decide⟩
  · exact eq_false_of_ne_true fun hadmitted => (hboth.1 hadmitted).2 "get" (by decide) (by decide)
  · exact hpart.1 (fun hevery => by have := isWildcard_iff.2 hevery; revert this; decide) _

end ServicePublisher
