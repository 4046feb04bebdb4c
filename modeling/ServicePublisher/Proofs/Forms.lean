import Mathlib.Data.List.Forall2
import Mathlib.Data.List.Nodup
import ServicePublisher.Manifest.Fields

/-! How typed data are written as values, in whatever order and with whatever left out, and how what
is written may be spoiled. A form is read when all that is written in it is read as it was meant and
nothing that has been spoiled is read. -/
namespace ServicePublisher

open Toml (Value)

/-- How data of a type are written, and how values that are written may be spoiled. -/
structure Form (α : Type) where
  writes : α → Value → Prop
  spoils : Value → Value → Prop

/-- A field of a record: how it is written, when it may be left out, and how it may be spoiled. -/
structure FieldForm (ρ : Type) where
  name : String
  needed : Bool
  writes : ρ → Value → Prop
  lacks : ρ → Prop
  spoils : Value → Value → Prop

namespace Form

variable {α : Type}

/-- The reader reads all that is written in a form, and nothing that has been spoiled. -/
structure ReadBy (F : Form α) (read : Value → Option α) : Prop where
  written : ∀ {a v}, F.writes a v → read v = some a
  spoiled : ∀ {a v v'}, F.writes a v → F.spoils v v' → read v' = none

/-- Everything of the type can be written. -/
def Total (F : Form α) : Prop := ∀ a, ∃ v, F.writes a v

/-- A text. An integer spoils it. -/
def text : Form String where
  writes s v := v = .string s
  spoils _ v' := ∃ n, v' = .integer n

/-- A truth value. An integer or a text spoils it. -/
def flag : Form Bool where
  writes b v := v = .boolean b
  spoils _ v' := (∃ n, v' = .integer n) ∨ ∃ s, v' = .string s

/-- A number within bounds. An integer beyond them or a text spoils it. -/
def number (low high : Int) (value : α → Int) : Form α where
  writes a v := v = .integer (value a)
  spoils _ v' := (∃ n, v' = .integer n ∧ ¬(low ≤ n ∧ n ≤ high)) ∨ ∃ s, v' = .string s

def given (F : Form α) : Form (Option α) where
  writes o v := ∃ a, o = some a ∧ F.writes a v
  spoils := F.spoils

/-- A list, which is spoiled in one of its elements. -/
def list (F : Form α) : Form (List α) where
  writes as v := ∃ vs, v = .array vs ∧ List.Forall₂ F.writes as vs
  spoils v v' := ∃ before x x' after, v = .array (before ++ x :: after) ∧
    v' = .array (before ++ x' :: after) ∧ F.spoils x x'

/-- Texts under keys, in any order. They are spoiled in the text under one key. -/
def texts : Form Attributes where
  writes a v := ∃ pairs, List.Perm pairs a.toList ∧
    v = .table (pairs.map fun e => (e.1, .string e.2))
  spoils v v' := ∃ before key x x' after, v = .table (before ++ (key, x) :: after) ∧
    v' = .table (before ++ (key, x') :: after) ∧ text.spoils x x'

end Form

namespace FieldForm

variable {ρ α : Type}

def required (name : String) (get : ρ → α) (F : Form α) : FieldForm ρ where
  name
  needed := true
  writes r v := F.writes (get r) v
  lacks _ := False
  spoils := F.spoils

def defaulted (name : String) (get : ρ → α) (default : α) (F : Form α) : FieldForm ρ where
  name
  needed := false
  writes r v := F.writes (get r) v
  lacks r := get r = default
  spoils := F.spoils

/-- The field can be written, or left out. -/
def Total (f : FieldForm ρ) : Prop := ∀ r, f.lacks r ∨ ∃ v, f.writes r v

end FieldForm

/-- The entries are those of a record: under different names, each of them a field, and every field
is among them or may be left out. Their order is free. -/
structure Written {ρ : Type} (fields : List (FieldForm ρ)) (r : ρ)
    (entries : List (String × Value)) : Prop where
  distinct : (entries.map Prod.fst).Nodup
  known : ∀ e ∈ entries, ∃ f ∈ fields, f.name = e.1 ∧ f.writes r e.2
  complete : ∀ f ∈ fields, f.name ∈ entries.map Prod.fst ∨ f.lacks r

/-- One thing is wrong with a table: there is a name that is no field, a field that must be there
has gone, or the value of a field is spoiled. -/
inductive Spoiled {ρ : Type} (fields : List (FieldForm ρ)) : Value → Value → Prop
  | added {before after : List (String × Value)} {name : String} {v : Value}
      (h : ∀ f ∈ fields, f.name ≠ name) :
      Spoiled fields (.table (before ++ after)) (.table (before ++ (name, v) :: after))
  | removed {before after : List (String × Value)} {f : FieldForm ρ} {v : Value} (hf : f ∈ fields)
      (h : f.needed = true) :
      Spoiled fields (.table (before ++ (f.name, v) :: after)) (.table (before ++ after))
  | replaced {before after : List (String × Value)} {f : FieldForm ρ} {v v' : Value}
      (hf : f ∈ fields) (h : f.spoils v v') :
      Spoiled fields (.table (before ++ (f.name, v) :: after))
        (.table (before ++ (f.name, v') :: after))

def Form.record {ρ : Type} (fields : List (FieldForm ρ)) : Form ρ where
  writes r v := ∃ entries, v = .table entries ∧ Written fields r entries
  spoils := Spoiled fields

section Lists

variable {α β : Type} {f : α → Option β} {xs : List α} {ys : List β}

theorem exists_of_mem_forall₂ {R : α → β → Prop} {x : α} (h : List.Forall₂ R xs ys) (hx : x ∈ xs) :
    ∃ y, R x y := by
  induction h with
  | nil => cases hx
  | cons hy _ ih =>
    obtain rfl | hx := List.mem_cons.1 hx
    · exact ⟨_, hy⟩
    · exact ih hx

theorem mapM_eq_some_of_forall₂ (h : List.Forall₂ (fun y x => f x = some y) ys xs) :
    xs.mapM f = some ys := by
  induction h with
  | nil => rfl
  | cons hx _ ih => simp [hx, ih]

theorem mapM_eq_none_of_mem {x : α} (hx : x ∈ xs) (h : f x = none) : xs.mapM f = none := by
  induction xs with
  | nil => cases hx
  | cons y ys ih =>
    rw [List.mapM_cons]
    obtain rfl | hx := List.mem_cons.1 hx
    · simp [h]
    · cases f y with
      | none => rfl
      | some z => simp [ih hx]

/-- Entries written one after the other into an empty table make the table whose entries they
are. -/
theorem foldl_insert_of_perm {a : Attributes} {pairs : List (String × String)}
    (h : pairs.Perm a.toList) : pairs.foldl (fun a e => a.insert e.1 e.2) ∅ = a := by
  have hmany (start : Attributes) :
      pairs.foldl (fun a e => a.insert e.1 e.2) start = start.insertMany pairs := by
    clear h
    induction pairs generalizing start with
    | nil => rfl
    | cons e pairs ih => rw [List.foldl_cons, ih, Std.ExtTreeMap.insertMany_cons]
  have hdistinct : pairs.Pairwise fun a b => ¬compare a.1 b.1 = .eq :=
    (h.pairwise_iff fun h hsame => h (by rwa [Std.OrientedOrd.eq_swap, Ordering.swap_eq_eq])).2
      Std.ExtTreeMap.distinct_keys_toList
  rw [hmany]
  refine Std.ExtTreeMap.ext_getElem? fun key => ?_
  cases hkey : a[key]? with
  | some s =>
    exact Std.ExtTreeMap.getElem?_insertMany_list_of_mem Std.ReflCmp.compare_self hdistinct
      (h.mem_iff.2 (Std.ExtTreeMap.mem_toList_iff_getElem?_eq_some.2 hkey))
  | none =>
    rw [Std.ExtTreeMap.getElem?_insertMany_list_of_contains_eq_false]
    · rfl
    · rw [← Bool.not_eq_true, List.contains_iff_mem]
      intro hmem
      obtain ⟨⟨_, s⟩, he, rfl⟩ := List.mem_map.1 hmem
      cases hkey.symm.trans (Std.ExtTreeMap.mem_toList_iff_getElem?_eq_some.1 (h.mem_iff.1 he))

end Lists

namespace Form

open Manifest

variable {α : Type} {F : Form α} {read : Value → Option α}

theorem text_readBy : text.ReadBy asText where
  written h := by rw [h]; rfl
  spoiled _ h := by
    obtain ⟨n, rfl⟩ := h
    rfl

theorem flag_readBy : flag.ReadBy asBool where
  written h := by rw [h]; rfl
  spoiled _ h := by
    obtain ⟨n, rfl⟩ | ⟨s, rfl⟩ := h <;> rfl

theorem number_readBy {low high : Int} {value : α → Int} {g : Int → α}
    (hbounds : ∀ a, low ≤ value a ∧ value a ≤ high) (hback : ∀ a, g (value a) = a) :
    (number low high value).ReadBy fun v => (asInteger low high v).map g where
  written {a v} h := by
    rw [h, asInteger, if_pos (hbounds a), Option.map_some, hback]
  spoiled _ h := by
    obtain ⟨n, rfl, hn⟩ | ⟨s, rfl⟩ := h
    · rw [asInteger, if_neg hn]
      rfl
    · rfl

theorem ReadBy.given (h : F.ReadBy read) : F.given.ReadBy fun v => (read v).map some where
  written := by
    rintro _ v ⟨a, rfl, hv⟩
    rw [h.written hv]
    rfl
  spoiled := by
    rintro _ v v' ⟨a, rfl, hv⟩ hspoiled
    rw [h.spoiled hv hspoiled]
    rfl

theorem ReadBy.list (h : F.ReadBy read) : F.list.ReadBy (asList read) where
  written := by
    rintro as _ ⟨vs, rfl, hvs⟩
    exact mapM_eq_some_of_forall₂ (hvs.imp fun _ _ hv => h.written hv)
  spoiled := by
    rintro as _ _ ⟨vs, rfl, hvs⟩ ⟨before, x, x', after, hsame, rfl, hspoiled⟩
    cases hsame
    obtain ⟨a, ha⟩ := exists_of_mem_forall₂ hvs.flip List.mem_append_cons_self
    exact mapM_eq_none_of_mem List.mem_append_cons_self (h.spoiled ha hspoiled)

theorem texts_readBy : texts.ReadBy asTexts where
  written := by
    rintro a _ ⟨pairs, hpairs, rfl⟩
    have hread : List.Forall₂ (fun e x => ((asText x.2).map fun s => (x.1, s)) = some e) pairs
        (pairs.map fun e => (e.1, Value.string e.2)) :=
      List.forall₂_map_right_iff.2 (List.forall₂_same.2 fun e _ => rfl)
    rw [asTexts, mapM_eq_some_of_forall₂ hread, Option.map_some, foldl_insert_of_perm hpairs]
  spoiled := by
    rintro a _ _ - ⟨before, key, x, x', after, -, rfl, hspoiled⟩
    rw [asTexts, mapM_eq_none_of_mem List.mem_append_cons_self]
    · rfl
    · obtain ⟨n, rfl⟩ := hspoiled
      rfl

end Form

section Records

variable {ρ α : Type}

/-- A reader takes a field from the value under its name, or from there being none, if what it takes
is what the record has. -/
structure FieldForm.TakenBy (f : FieldForm ρ) (take : Option Value → ρ → Prop) : Prop where
  written : ∀ {r v}, f.writes r v → take (some v) r
  lacking : ∀ {r}, f.lacks r → take none r
  spoiled : ∀ {r r' v v'}, f.writes r v → f.spoils v v' → ¬take (some v') r'
  missing : f.needed = true → ∀ r, ¬take none r

def takeRequired (get : ρ → α) (read : Value → Option α) (found : Option Value) (r : ρ) : Prop :=
  found.bind read = some (get r)

def takeDefaulted (get : ρ → α) (default : α) (read : Value → Option α) (found : Option Value)
    (r : ρ) : Prop :=
  found.elim (some default) read = some (get r)

variable {F : Form α} {read : Value → Option α} {get : ρ → α} {default : α} {name : String}

theorem Form.ReadBy.required (h : F.ReadBy read) (name : String) (get : ρ → α) :
    (FieldForm.required name get F).TakenBy (takeRequired get read) where
  written hv := h.written hv
  lacking h := h.elim
  spoiled hv hspoiled htaken := by cases (h.spoiled hv hspoiled).symm.trans htaken
  missing _ _ htaken := by cases htaken

theorem Form.ReadBy.defaulted (h : F.ReadBy read) (name : String) (get : ρ → α) (default : α) :
    (FieldForm.defaulted name get default F).TakenBy (takeDefaulted get default read) where
  written hv := h.written hv
  lacking h := congrArg some h.symm
  spoiled hv hspoiled htaken := by cases (h.spoiled hv hspoiled).symm.trans htaken
  missing h := by cases h

variable {fields : List (FieldForm ρ)} {entries before after : List (String × Value)} {r : ρ}
  {v : Value}

/-- What stands under the name of a field is written as that field. -/
theorem Written.writes (h : Written fields r entries) (hnames : (fields.map FieldForm.name).Nodup)
    {f : FieldForm ρ} (hf : f ∈ fields) (hv : (f.name, v) ∈ entries) : f.writes r v := by
  obtain ⟨g, hg, hname, hwrites⟩ := h.known (f.name, v) hv
  rwa [← List.inj_on_of_nodup_map hnames hg hf hname]

theorem lookup_append_cons (h : ((before ++ (name, v) :: after).map Prod.fst).Nodup) (v' : Value) :
    (before ++ (name, v') :: after).lookup name = some v' := by
  have hbefore : name ∉ before.map Prod.fst := by
    rw [List.map_append, List.map_cons] at h
    exact fun hmem => (List.nodup_append.1 h).2.2 _ hmem name List.mem_cons_self rfl
  refine List.lookup_eq_some_iff.2 ⟨before, after, rfl, fun e he => bne_iff_ne.2 fun hname => ?_⟩
  exact hbefore (List.mem_map.2 ⟨e, he, hname.symm⟩)

theorem lookup_append (h : ((before ++ (name, v) :: after).map Prod.fst).Nodup) :
    (before ++ after).lookup name = none := by
  have hperm : List.Perm (before ++ (name, v) :: after) ((name, v) :: (before ++ after)) :=
    List.perm_middle
  have hrest := (List.nodup_cons.1 ((hperm.map Prod.fst).nodup_iff.1 h)).1
  refine List.lookup_eq_none_iff.2 fun e he => bne_iff_ne.2 fun hname => ?_
  exact hrest (List.mem_map.2 ⟨e, he, hname.symm⟩)

/-- A reader of records is right if it refuses tables with unknown names and otherwise takes every
field as its form demands. -/
theorem Form.record_readBy {taken : List (Option Value → ρ → Prop)}
    (htaken : List.Forall₂ FieldForm.TakenBy fields taken)
    (hnames : (fields.map FieldForm.name).Nodup) {read : Value → Option ρ}
    (hread : ∀ entries r, read (.table entries) = some r ↔
      (∀ e ∈ entries, e.1 ∈ fields.map FieldForm.name) ∧
        List.Forall₂ (fun f take => take (entries.lookup f.name) r) fields taken) :
    (Form.record fields).ReadBy read where
  written := by
    rintro r _ ⟨entries, rfl, hwritten⟩
    have htake : ∀ f ∈ fields, ∀ take, f.TakenBy take → take (entries.lookup f.name) r := by
      intro f hf take htaken
      cases hfound : entries.lookup f.name with
      | some v =>
        obtain ⟨before, after, rfl, -⟩ := List.lookup_eq_some_iff.1 hfound
        exact htaken.written (hwritten.writes hnames hf List.mem_append_cons_self)
      | none =>
        obtain hmem | hlacks := hwritten.complete f hf
        · obtain ⟨e, he, hname⟩ := List.mem_map.1 hmem
          exact absurd hname.symm (bne_iff_ne.1 (List.lookup_eq_none_iff.1 hfound e he))
        · exact htaken.lacking hlacks
    refine (hread entries r).2 ⟨fun e he => ?_, ?_⟩
    · obtain ⟨f, hf, hname, -⟩ := hwritten.known e he
      exact List.mem_map.2 ⟨f, hf, hname⟩
    · exact ((List.forall₂_and_left fields taken).2 ⟨fun _ hf => hf, htaken⟩).imp
        fun f take h => htake f h.1 take h.2
  spoiled := by
    rintro r _ _ ⟨entries, rfl, hwritten⟩ hspoiled
    refine Option.eq_none_iff_forall_ne_some.2 fun r' hr' => ?_
    have htake {entries : List (String × Value)} (hread' : read (.table entries) = some r')
        {f : FieldForm ρ} (hf : f ∈ fields) :
        ∃ take, f.TakenBy take ∧ take (entries.lookup f.name) r' :=
      exists_of_mem_forall₂ (htaken.mp (fun _ _ => And.intro) ((hread entries r').1 hread').2) hf
    cases hspoiled with
    | added hunknown =>
      have hknown := ((hread _ r').1 hr').1 _ List.mem_append_cons_self
      obtain ⟨f, hf, hname⟩ := List.mem_map.1 hknown
      exact hunknown f hf hname
    | removed hf hneeded =>
      obtain ⟨take, htaken, hnone⟩ := htake hr' hf
      rw [lookup_append hwritten.distinct] at hnone
      exact htaken.missing hneeded r' hnone
    | replaced hf hvalue =>
      obtain ⟨take, htaken, hsome⟩ := htake hr' hf
      rw [lookup_append_cons hwritten.distinct] at hsome
      exact htaken.spoiled (hwritten.writes hnames hf List.mem_append_cons_self) hvalue hsome

end Records

section Totals

variable {ρ α : Type} {F : Form α}

theorem exists_written {fields : List (FieldForm ρ)} (hnames : (fields.map FieldForm.name).Nodup)
    (htotal : ∀ f ∈ fields, f.Total) (r : ρ) : ∃ entries, Written fields r entries := by
  induction fields with
  | nil => exact ⟨[], List.nodup_nil, nofun, nofun⟩
  | cons f fields ih =>
    obtain ⟨hname, hnames⟩ := List.nodup_cons.1 hnames
    obtain ⟨hf, htotal⟩ := List.forall_mem_cons.1 htotal
    obtain ⟨entries, h⟩ := ih hnames htotal
    have hknown : ∀ e ∈ entries, ∃ g ∈ f :: fields, g.name = e.1 ∧ g.writes r e.2 := fun e he =>
      (h.known e he).imp fun g hg => ⟨List.mem_cons_of_mem f hg.1, hg.2⟩
    obtain hlacks | ⟨v, hv⟩ := hf r
    · exact ⟨entries, h.distinct, hknown, List.forall_mem_cons.2 ⟨.inr hlacks, h.complete⟩⟩
    · refine ⟨(f.name, v) :: entries, List.nodup_cons.2 ⟨fun hmem => ?_, h.distinct⟩,
        List.forall_mem_cons.2 ⟨⟨f, List.mem_cons_self, rfl, hv⟩, hknown⟩,
        List.forall_mem_cons.2 ⟨.inl List.mem_cons_self, fun g hg => ?_⟩⟩
      · obtain ⟨e, he, hsame⟩ := List.mem_map.1 hmem
        obtain ⟨g, hg, hgname, -⟩ := h.known e he
        exact hname (List.mem_map.2 ⟨g, hg, hgname.trans hsame⟩)
      · exact (h.complete g hg).imp (List.mem_cons_of_mem _) id

theorem Form.record_total {fields : List (FieldForm ρ)}
    (hnames : (fields.map FieldForm.name).Nodup) (htotal : ∀ f ∈ fields, f.Total) :
    (Form.record fields).Total := by
  intro r
  obtain ⟨entries, h⟩ := exists_written hnames htotal r
  exact ⟨.table entries, entries, rfl, h⟩

theorem Form.Total.list (h : F.Total) : F.list.Total := by
  intro as
  induction as with
  | nil => exact ⟨.array [], [], rfl, .nil⟩
  | cons a as ih =>
    obtain ⟨v, hv⟩ := h a
    obtain ⟨_, vs, rfl, hvs⟩ := ih
    exact ⟨.array (v :: vs), v :: vs, rfl, .cons hv hvs⟩

theorem Form.texts_total : Form.texts.Total := fun a => ⟨_, a.toList, .refl _, rfl⟩

theorem Form.Total.required (h : F.Total) (name : String) (get : ρ → α) :
    (FieldForm.required name get F).Total := fun r => .inr (h (get r))

theorem Form.Total.defaulted (h : F.Total) (name : String) (get : ρ → α) (default : α) :
    (FieldForm.defaulted name get default F).Total := fun r => .inr (h (get r))

theorem Form.Total.given (h : F.Total) (name : String) (get : ρ → Option α) :
    (FieldForm.defaulted name get none F.given).Total := by
  intro r
  cases hget : get r with
  | none => exact .inl hget
  | some a =>
    obtain ⟨v, hv⟩ := h a
    exact .inr ⟨v, a, hget, hv⟩

end Totals

end ServicePublisher
