import ServicePublisher.Proofs.Integers
import ServicePublisher.Proofs.Trimming
import ServicePublisher.Proofs.Values

/-! Which attribute keys there are. A key stands for itself or, when it begins with a dot, for a
property of a declared method; what it stands for can be read off it in one way only, and different
keys stand for different things. -/
namespace ServicePublisher

/-- The key names a method and a property of it, each after a dot. Up to the next dot it is the
method; the property may hold dots of its own. -/
structure MethodKey (key method property : String) : Prop where
  text : key.toList = '.' :: method.toList ++ '.' :: property.toList
  named : method ≠ ""
  undotted : '.' ∉ method.toList
  follows : property ≠ ""

namespace MethodKey

variable {key key' method method' property property' : String}

theorem unique (h : MethodKey key method property) (h' : MethodKey key method' property') :
    method = method' ∧ property = property' := by
  have htexts := List.cons.inj (h.text.symm.trans h'.text)
  obtain ⟨hmethod, hproperty⟩ := (Text.append_sep_inj h.undotted h'.undotted).1 htexts.2
  exact ⟨String.toList_inj.1 hmethod, String.toList_inj.1 hproperty⟩

theorem key_unique (h : MethodKey key method property) (h' : MethodKey key' method property) :
    key = key' :=
  String.toList_inj.1 (h.text.trans h'.text.symm)

theorem not_blank (h : MethodKey key method property) :
    ∃ x ∈ key.toList, Text.isBlank x = false := by
  refine ⟨'.', ?_, by decide⟩
  rw [h.text]
  exact List.mem_cons_self

end MethodKey

namespace ProviderConfig

/-- What a key stands for, if it is one of this configuration: a text that is not blank and does not
begin with a dot, or the key of a property of a declared method. -/
inductive Denotes (c : ProviderConfig) (key : String) : AttributeKey → Prop
  | plain (htext : ∃ x ∈ key.toList, Text.isBlank x = false) (hdot : key.toList.head? ≠ some '.') :
      Denotes c key (.plain key)
  | ofMethod {method property : String} (h : MethodKey key method property)
      (hdeclared : method ∈ c.interface.names) : Denotes c key (.ofMethod method property)

variable {c : ProviderConfig} {key : String} {k : AttributeKey} {value : Option String}
  {e : ProviderError}

section Reading

theorem denotes_of_attributeKey (h : c.attributeKey key = .ok k) : c.Denotes key k := by
  rw [attributeKey] at h
  split at h
  · cases h
  · next htext =>
    split at h
    · next rest hkey =>
      split at h
      · next m ms p ps hcut =>
        dsimp only at h
        split at h
        · next hdeclared =>
          obtain ⟨hrest, hundotted⟩ := Text.cut?_eq_some_iff.1 hcut
          cases h
          refine .ofMethod ⟨?_, by simp, ?_, by simp⟩ (Interface.declares_iff.1 hdeclared)
          · rw [String.toList_ofList, String.toList_ofList, hkey, hrest]
            rfl
          · rwa [String.toList_ofList]
        · cases h
      · cases h
    · next hplain =>
      cases h
      refine .plain (Text.isEmpty_trimmed_eq_false_iff.1 (eq_false_of_ne_true htext)) fun hdot => ?_
      obtain ⟨rest, hkey⟩ := List.head?_eq_some_iff.1 hdot
      exact hplain rest hkey

theorem attributeKey_of_denotes (h : c.Denotes key k) : c.attributeKey key = .ok k := by
  cases h with
  | plain htext hdot =>
    rw [attributeKey, Text.isEmpty_trimmed_eq_false_iff.2 htext]
    simp only [Bool.false_eq_true, if_false]
    split
    · next rest hkey => simp [hkey] at hdot
    · rfl
  | @ofMethod method property h hdeclared =>
    have hcut : Text.cut? '.' (method.toList ++ '.' :: property.toList) =
        some (method.toList, property.toList) := Text.cut?_eq_some_iff.2 ⟨rfl, h.undotted⟩
    obtain ⟨m, ms, hm⟩ := List.exists_cons_of_ne_nil (mt String.toList_eq_nil_iff.1 h.named)
    obtain ⟨p, ps, hp⟩ := List.exists_cons_of_ne_nil (mt String.toList_eq_nil_iff.1 h.follows)
    have hmethod : String.ofList (m :: ms) = method := by rw [← hm, String.ofList_toList]
    have hproperty : String.ofList (p :: ps) = property := by rw [← hp, String.ofList_toList]
    rw [hm, hp, List.cons_append] at hcut
    rw [attributeKey, Text.isEmpty_trimmed_eq_false_iff.2 h.not_blank, h.text]
    simp only [Bool.false_eq_true, if_false, List.cons_append, hm, hp, hcut, hmethod, hproperty,
      Interface.declares_iff.2 hdeclared, if_true]

theorem attributeKey_eq_ok_iff : c.attributeKey key = .ok k ↔ c.Denotes key k :=
  ⟨denotes_of_attributeKey, attributeKey_of_denotes⟩

theorem error_of_attributeKey (h : c.attributeKey key = .error e) :
    ∃ detail, e = .configuration "attribute" key detail := by
  rw [attributeKey] at h
  split at h
  · cases h
    exact ⟨_, rfl⟩
  · split at h
    · split at h
      · dsimp only at h
        split at h <;> cases h
        exact ⟨_, rfl⟩
      · cases h
        exact ⟨_, rfl⟩
    · cases h

theorem exists_denotes_iff : (∃ k, c.Denotes key k) ↔ (∃ x ∈ key.toList, Text.isBlank x = false) ∧
    (key.toList.head? ≠ some '.' ∨
      ∃ method property, MethodKey key method property ∧ method ∈ c.interface.names) := by
  constructor
  · rintro ⟨k, h⟩
    cases h with
    | plain htext hdot => exact ⟨htext, .inl hdot⟩
    | ofMethod h hdeclared => exact ⟨h.not_blank, .inr ⟨_, _, h, hdeclared⟩⟩
  · rintro ⟨htext, hdot | ⟨method, property, h, hdeclared⟩⟩
    · exact ⟨_, .plain htext hdot⟩
    · exact ⟨_, .ofMethod h hdeclared⟩

end Reading

section Values

theorem isInteger_iff : isInteger value = true ↔ ∀ v, value = some v → Text.WritesInt64 v := by
  cases value with
  | none => simp [isInteger]
  | some v => simp [isInteger, Text.isSome_int64?_iff]

/-- A value is not admitted under a key that stands for something if and only if the property must
be an integer and the value is none. -/
theorem Denotes.not_admits_iff (h : c.Denotes key k) : ¬c.Admits key value ↔
    k.property ∈ numericProperties ∧ ∃ v, value = some v ∧ ¬Text.WritesInt64 v := by
  have hnumeric : k.isNumeric = true ↔ k.property ∈ numericProperties := List.contains_iff_mem
  rw [Admits, attributeKey_of_denotes h]
  simp [hnumeric, isInteger_iff]

end Values

end ProviderConfig

open World ProviderConfig

/-- A key is accepted exactly if it is not blank and does not begin with a dot, or is the key of a
property of a declared method; then the present value is told, if there is one. Every other key is
refused with an error that carries it, and nothing can be written under it. Two keys of method
properties are the same exactly if their methods and properties are, and a value is refused under
such a key exactly if this property must be an integer and the value is none. -/
theorem attribute_keys_read {σ : Type} (w : World σ) (c : ProviderConfig) :
    (∀ key : String,
      let accepted := (∃ x ∈ key.toList, Text.isBlank x = false) ∧
        (key.toList.head? ≠ some '.' ∨
          ∃ method property, MethodKey key method property ∧ method ∈ c.interface.names)
      (accepted ∧ w.queryAttribute c key = .ok (w.config c).attributes[key]?) ∨
        (¬accepted ∧ ∃ detail,
          w.queryAttribute c key = .error (.configuration "attribute" key detail) ∧
          ∀ value ignoreIfSame, w.updateAttribute c key value ignoreIfSame =
            ⟨.error (.configuration "attribute" key detail), w⟩)) ∧
    (∀ key key' method method' property property' : String, MethodKey key method property →
      MethodKey key' method' property' →
      (key = key' ↔ method = method' ∧ property = property')) ∧
    ∀ key method property : String, MethodKey key method property → method ∈ c.interface.names →
      ∀ value ignoreIfSame,
        (w.updateAttribute c key value ignoreIfSame).result.isOk = false ↔
          property ∈ numericProperties ∧ ∃ v, value = some v ∧ ¬Text.WritesInt64 v := by
  refine ⟨fun key => ?accepted, ?parts, ?integers⟩
  case accepted =>
    intro accepted
    have haccepted : accepted ↔ ∃ k, c.attributeKey key = .ok k := by
      simp only [attributeKey_eq_ok_iff]
      exact exists_denotes_iff.symm
    cases hkey : c.attributeKey key with
    | ok k =>
      refine .inl ⟨haccepted.2 ⟨k, hkey⟩, ?_⟩
      rw [queryAttribute, query, hkey]
      rfl
    | error e =>
      obtain ⟨detail, rfl⟩ := error_of_attributeKey hkey
      refine .inr ⟨fun h => ?_, detail, ?_, fun value ignoreIfSame => ?_⟩
      · obtain ⟨k, hk⟩ := haccepted.1 h
        cases hkey.symm.trans hk
      · rw [queryAttribute, query, hkey]
        rfl
      · rw [updateAttribute, update, hkey]
  case parts =>
    intro key key' method method' property property' h h'
    constructor
    · rintro rfl
      exact h.unique h'
    · rintro ⟨rfl, rfl⟩
      exact h.key_unique h'
  case integers =>
    intro key method property h hdeclared value ignoreIfSame
    rw [← Bool.not_eq_true, isOk_updateAttribute_iff]
    exact (Denotes.ofMethod h hdeclared).not_admits_iff

/-- The property of a method may hold a dot, and then it need not be an integer although it ends
like one that must. A key without a method is refused. -/
theorem attribute_keys_read_dotted :
    let c : ProviderConfig :=
      { serial := 0, interface := ⟨"demo.Echo", "Echo", [⟨"say", []⟩]⟩, implementation := none }
    let w : World Unit := { outside := () }
    MethodKey ".say.limit.timeout" "say" "limit.timeout" ∧
      MethodKey ".say.timeout" "say" "timeout" ∧ "say" ∈ c.interface.names ∧
      ".say.limit.timeout" ≠ ".say.timeout" ∧
      w.queryAttribute c ".say.limit.timeout" = .ok none ∧
      (w.updateAttribute c ".say.limit.timeout" (some "soon") true).result.isOk ≠ false ∧
      (w.updateAttribute c ".say.timeout" (some "soon") true).result.isOk = false ∧
      ∃ detail, w.queryAttribute c "..timeout" =
        .error (.configuration "attribute" "..timeout" detail) := by
  intro c w
  have hdotted : MethodKey ".say.limit.timeout" "say" "limit.timeout" := by
    constructor <;> decide +kernel
  have hplain : MethodKey ".say.timeout" "say" "timeout" := by
    constructor <;> decide +kernel
  have hdeclared : "say" ∈ c.interface.names := List.mem_singleton.2 rfl
  obtain ⟨hread, hparts, hintegers⟩ := attribute_keys_read w c
  have hsoon : ¬Text.WritesInt64 "soon" := by
    rw [← Text.isSome_int64?_iff]
    decide +kernel
  have hvalue := hintegers _ _ _ hplain hdeclared (some "soon") true
  have hfree := hintegers _ _ _ hdotted hdeclared (some "soon") true
  have hquery : w.queryAttribute c ".say.limit.timeout" = .ok none := by
    obtain ⟨-, hanswer⟩ | ⟨hrefused, -⟩ := hread ".say.limit.timeout"
    · exact hanswer
    · exact absurd ⟨⟨'s', by decide +kernel, by decide⟩, .inr ⟨_, _, hdotted, hdeclared⟩⟩ hrefused
  refine ⟨hdotted, hplain, hdeclared, fun hsame => ?_, hquery, fun hno => ?_,
    hvalue.2 ⟨by decide, _, rfl, hsoon⟩, ?_⟩
  · exact absurd ((hparts _ _ _ _ _ _ hdotted hplain).1 hsame).2 (by decide)
  · exact absurd (hfree.1 hno).1 (by decide)
  · obtain ⟨⟨-, hdot | ⟨method, property, h, -⟩⟩, -⟩ | ⟨-, detail, hanswer, -⟩ := hread "..timeout"
    · exact absurd (by decide +kernel) hdot
    · have hrest : [] ++ '.' :: "timeout".toList = method.toList ++ '.' :: property.toList :=
        (List.cons.inj h.text).2
      have hnone := ((Text.append_sep_inj List.not_mem_nil h.undotted).1 hrest).1
      exact absurd (String.toList_eq_nil_iff.1 hnone.symm) h.named
    · exact ⟨detail, hanswer⟩

end ServicePublisher
