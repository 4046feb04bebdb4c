import ServicePublisher.Proofs.State
import ServicePublisher.Reconfiguration

/-! Values written to the attributes of a configuration, one by one. Those that take updates back
put every attribute right, wherever the updates have been interrupted. -/
namespace ServicePublisher

namespace ProviderConfig

def Attributes.putAll (a : Attributes) (updates : List (String × Option String)) : Attributes :=
  updates.foldl (fun a u => Attributes.put a u.1 u.2) a

/-- What takes updates back: the values that they would change. -/
def Attributes.stale (a : Attributes) (updates : List (String × Option String)) :
    List (String × Option String) :=
  (updates.filter fun u => a[u.1]? ≠ u.2).map fun u => (u.1, a[u.1]?)

def Admits (c : ProviderConfig) (key : String) (value : Option String) : Prop :=
  ∃ k, c.attributeKey key = .ok k ∧ (k.isNumeric = true → isInteger value = true)

section Writing

variable (a : Attributes) {updates : List (String × Option String)}

theorem getElem?_put (key : String) (value : Option String) (key' : String) :
    (Attributes.put a key value)[key']? = if key = key' then value else a[key']? := by
  cases value with
  | none => simp [Attributes.put, Std.ExtTreeMap.getElem?_erase]
  | some v => simp [Attributes.put, Std.ExtTreeMap.getElem?_insert]

/-- Under each key there is at last what was there at first, or one of the values written. -/
theorem getElem?_putAll (updates : List (String × Option String)) (key : String) :
    ((∀ u ∈ updates, u.1 ≠ key) ∧ (Attributes.putAll a updates)[key]? = a[key]?) ∨
      ∃ value, (key, value) ∈ updates ∧ (Attributes.putAll a updates)[key]? = value := by
  induction updates generalizing a with
  | nil => exact .inl ⟨nofun, rfl⟩
  | cons u rest ih =>
    have hrest := ih (Attributes.put a u.1 u.2)
    rw [getElem?_put] at hrest
    obtain ⟨hnone, hold⟩ | ⟨value, hmem, hvalue⟩ := hrest
    · by_cases hkey : u.1 = key
      · subst hkey
        rw [if_pos rfl] at hold
        exact .inr ⟨u.2, List.mem_cons_self, hold⟩
      · rw [if_neg hkey] at hold
        exact .inl ⟨List.forall_mem_cons.2 ⟨hkey, hnone⟩, hold⟩
    · exact .inr ⟨value, List.mem_cons_of_mem u hmem, hvalue⟩

theorem getElem?_putAll_toList (updates : Updates) (key : String) :
    (Attributes.putAll a updates.toList)[key]? = (updates[key]?).getD a[key]? := by
  obtain ⟨hnone, hold⟩ | ⟨value, hmem, hvalue⟩ := getElem?_putAll a updates.toList key
  · have hmissing : updates[key]? = none := by
      cases hupdate : updates[key]? with
      | none => rfl
      | some value =>
        have hmem := Std.ExtTreeMap.mem_toList_iff_getElem?_eq_some.2 hupdate
        exact absurd rfl (hnone _ hmem)
    rw [hold, hmissing, Option.getD_none]
  · rw [hvalue, Std.ExtTreeMap.mem_toList_iff_getElem?_eq_some.1 hmem, Option.getD_some]

theorem mem_stale_of_differs {key : String} {value : Option String} (hmem : (key, value) ∈ updates)
    (hdiffers : a[key]? ≠ value) : (key, a[key]?) ∈ Attributes.stale a updates :=
  List.mem_map.2 ⟨(key, value), List.mem_filter.2 ⟨hmem, decide_eq_true hdiffers⟩, rfl⟩

/-- After some of the updates, the stale values bring back the attributes as they were. -/
theorem putAll_stale {written : List (String × Option String)} (h : ∀ u ∈ written, u ∈ updates) :
    Attributes.putAll (Attributes.putAll a written) (Attributes.stale a updates) = a := by
  apply Std.ExtTreeMap.ext_getElem?
  intro key
  obtain ⟨hnone, hkept⟩ | ⟨value, hmem, hvalue⟩ :=
    getElem?_putAll (Attributes.putAll a written) (Attributes.stale a updates) key
  · rw [hkept]
    obtain ⟨-, hold⟩ | ⟨value, hmem, hvalue⟩ := getElem?_putAll a written key
    · exact hold
    · -- A value that differs would be among the stale ones.
      rw [hvalue]
      by_cases hsame : a[key]? = value
      · exact hsame.symm
      · exact absurd rfl (hnone _ (mem_stale_of_differs a (h _ hmem) hsame))
  · obtain ⟨u, -, hu⟩ := List.mem_map.1 hmem
    obtain ⟨rfl, rfl⟩ := Prod.mk.inj hu
    exact hvalue

theorem stale_ne_nil {key : String} {value : Option String} (hmem : (key, value) ∈ updates)
    (hdiffers : a[key]? ≠ value) : Attributes.stale a updates ≠ [] :=
  List.ne_nil_of_mem (mem_stale_of_differs a hmem hdiffers)

end Writing

section Updating

variable {c : ProviderConfig} {key : String} {value : Option String}

theorem Admits.fine (h : c.Admits key value) :
    ∃ k, c.attributeKey key = .ok k ∧ (k.isNumeric && !isInteger value) = false := by
  obtain ⟨k, hk, hinteger⟩ := h
  refine ⟨k, hk, ?_⟩
  cases hnumeric : k.isNumeric with
  | false => rfl
  | true => rw [hinteger hnumeric]; rfl

theorem put_eq_self {a : Attributes} (h : a[key]? = value) : Attributes.put a key value = a := by
  apply Std.ExtTreeMap.ext_getElem?
  intro key'
  rw [getElem?_put]
  split
  · next hkey => rw [← hkey, h]
  · rfl

/-- A value that is admitted is there afterwards. The attributes are left alone only when they had
it already and that is to be ignored. -/
theorem update_of_admits (h : c.Admits key value) (a : Attributes) (ignoreIfSame : Bool) :
    ∃ touched, c.update a key value ignoreIfSame = .ok (touched, Attributes.put a key value) ∧
      (touched = false ↔ ignoreIfSame = true ∧ a[key]? = value) := by
  obtain ⟨k, hk, hfine⟩ := h.fine
  rw [update, hk]
  simp only [hfine, Bool.false_eq_true, if_false]
  have hleave : (ignoreIfSame && a[key]? == value) = true ↔
      ignoreIfSame = true ∧ a[key]? = value := by
    rw [Bool.and_eq_true, beq_iff_eq]
  split
  · next hsame =>
    refine ⟨false, ?_, iff_of_true rfl (hleave.1 hsame)⟩
    rw [put_eq_self (hleave.1 hsame).2]
  · next hdiffers => exact ⟨true, rfl, iff_of_false (by decide) (mt hleave.2 hdiffers)⟩

/-- The error with which a value is refused under a key, if it is. -/
def refusal? (c : ProviderConfig) (key : String) (value : Option String) : Option ProviderError :=
  match c.update ∅ key value false with
  | .error e => some e
  | .ok _ => none

/-- It does not depend on the attributes written so far. -/
theorem update_of_refusal {e : ProviderError} (h : c.refusal? key value = some e) (a : Attributes)
    (ignoreIfSame : Bool) : c.update a key value ignoreIfSame = .error e := by
  rw [refusal?, update] at h
  rw [update]
  cases hk : c.attributeKey key with
  | error e' => simpa [hk] using h
  | ok k =>
    cases hbad : k.isNumeric && !isInteger value with
    | false => simp [hk, hbad] at h
    | true => simpa [hk, hbad] using h

theorem refusal?_eq_none_iff : c.refusal? key value = none ↔ c.Admits key value := by
  rw [refusal?, update]
  cases hk : c.attributeKey key with
  | error e => simp [Admits, hk]
  | ok k =>
    cases hnumeric : k.isNumeric <;> cases hinteger : isInteger value <;>
      simp [Admits, hk, hnumeric, hinteger]

theorem exists_refusal (h : ¬c.Admits key value) : ∃ e, c.refusal? key value = some e :=
  Option.ne_none_iff_exists'.1 fun hnone => h (refusal?_eq_none_iff.1 hnone)

/-- Whatever has been written was admitted, or was there already. -/
theorem of_update_eq_ok {a : Attributes} {ignoreIfSame : Bool} {r : Bool × Attributes}
    (h : c.update a key value ignoreIfSame = .ok r) :
    r.2 = a ∨ c.Admits key value ∧ r.2 = Attributes.put a key value := by
  have hadmits : c.Admits key value := by
    refine Classical.byContradiction fun hrefused => ?_
    obtain ⟨e, hrefusal⟩ := exists_refusal hrefused
    rw [update_of_refusal hrefusal] at h
    cases h
  obtain ⟨k, hk, hfine⟩ := hadmits.fine
  rw [update, hk] at h
  simp only [hfine, Bool.false_eq_true, if_false] at h
  split at h
  · cases h
    exact .inl rfl
  · cases h
    exact .inr ⟨hadmits, rfl⟩

/-- What is reported when a value cannot be brought back. -/
def complaint? (c : ProviderConfig) (u : String × Option String) : Option Event :=
  (c.refusal? u.1 u.2).map fun e => .notice (.ofProvider c.appName c.key (.restoreFailed u.1 e))

end Updating

end ProviderConfig

namespace World

open ProviderConfig

variable {σ : Type} {c : ProviderConfig}

/-- Between two states only the attributes of a configuration have been written. -/
structure Wrote (c : ProviderConfig) (w w' : World σ) (a : Attributes) : Prop where
  attributes : (w'.config c).attributes = a
  providers : w'.providers = w.providers
  groups : w'.groups = w.groups
  events : w'.events = w.events

namespace Wrote

variable {w w' w'' : World σ} {a a' : Attributes}

theorem refl (c : ProviderConfig) (w : World σ) : Wrote c w w (w.config c).attributes :=
  ⟨rfl, rfl, rfl, rfl⟩

theorem trans (h : Wrote c w w' a) (h' : Wrote c w' w'' a') : Wrote c w w'' a' where
  attributes := h'.attributes
  providers := h'.providers.trans h.providers
  groups := h'.groups.trans h.groups
  events := h'.events.trans h.events

theorem modifyConfig (w : World σ) (a : Attributes) :
    Wrote c w (w.modifyConfig c fun s => { s with attributes := a }) a where
  attributes := by rw [config_modifyConfig, if_pos rfl]
  providers := rfl
  groups := rfl
  events := rfl

end Wrote

theorem updateAttribute_of_admits {key : String} {value : Option String} (h : c.Admits key value)
    (w : World σ) :
    ∃ touched w', w.updateAttribute c key value true = ⟨.ok touched, w'⟩ ∧
      Wrote c w w' (Attributes.put (w.config c).attributes key value) := by
  obtain ⟨touched, hupdate, -⟩ := update_of_admits h (w.config c).attributes true
  rw [updateAttribute, hupdate]
  exact ⟨touched, _, rfl, .modifyConfig w _⟩

theorem updateAttribute_of_refusal {key : String} {value : Option String} {e : ProviderError}
    (h : c.refusal? key value = some e) (w : World σ) (ignoreIfSame : Bool) :
    w.updateAttribute c key value ignoreIfSame = ⟨.error e, w⟩ := by
  rw [updateAttribute, update_of_refusal h]

theorem isOk_updateAttribute_iff {key : String} {value : Option String} (w : World σ)
    {ignoreIfSame : Bool} :
    (w.updateAttribute c key value ignoreIfSame).result.isOk = true ↔ c.Admits key value := by
  by_cases hadmits : c.Admits key value
  · obtain ⟨touched, hupdate, -⟩ := update_of_admits hadmits (w.config c).attributes ignoreIfSame
    rw [updateAttribute, hupdate]
    exact iff_of_true rfl hadmits
  · obtain ⟨e, hrefusal⟩ := exists_refusal hadmits
    rw [updateAttribute_of_refusal hrefusal]
    exact iff_of_false Bool.false_ne_true hadmits

variable {updates : List (String × Option String)}

theorem updateAll_of_admits (h : ∀ u ∈ updates, c.Admits u.1 u.2) (w : World σ) :
    ∃ w', updateAll c updates w = ⟨.ok (), w'⟩ ∧
      Wrote c w w' (Attributes.putAll (w.config c).attributes updates) := by
  induction updates generalizing w with
  | nil => exact ⟨w, rfl, .refl c w⟩
  | cons u rest ih =>
    obtain ⟨hfirst, hrest⟩ := List.forall_mem_cons.1 h
    obtain ⟨touched, w₁, hupdate, hwrote⟩ := updateAttribute_of_admits hfirst w
    obtain ⟨w₂, hall, hwrote'⟩ := ih hrest w₁
    rw [hwrote.attributes] at hwrote'
    rw [updateAll, hupdate]
    exact ⟨w₂, hall, hwrote.trans hwrote'⟩

theorem updateAll_of_not_admits (h : ¬∀ u ∈ updates, c.Admits u.1 u.2) (w : World σ) :
    ∃ e w' written, updateAll c updates w = ⟨.error e, w'⟩ ∧ (∀ u ∈ written, u ∈ updates) ∧
      Wrote c w w' (Attributes.putAll (w.config c).attributes written) := by
  induction updates generalizing w with
  | nil => exact absurd nofun h
  | cons u rest ih =>
    by_cases hfirst : c.Admits u.1 u.2
    · have hrest : ¬∀ u ∈ rest, c.Admits u.1 u.2 :=
        fun hrest => h (List.forall_mem_cons.2 ⟨hfirst, hrest⟩)
      obtain ⟨touched, w₁, hupdate, hwrote⟩ := updateAttribute_of_admits hfirst w
      obtain ⟨e, w₂, written, hall, hwritten, hwrote'⟩ := ih hrest w₁
      rw [hwrote.attributes] at hwrote'
      rw [updateAll, hupdate]
      refine ⟨e, w₂, u :: written, hall, ?_, hwrote.trans hwrote'⟩
      exact List.forall_mem_cons.2 ⟨List.mem_cons_self, fun u' hu' =>
        List.mem_cons_of_mem u (hwritten u' hu')⟩
    · obtain ⟨e, hrefusal⟩ := exists_refusal hfirst
      rw [updateAll, updateAttribute_of_refusal hrefusal]
      exact ⟨e, w, [], rfl, nofun, .refl c w⟩

/-- Of the values that were to be brought back, those admitted are written, and the others are
reported. -/
structure WroteBack (c : ProviderConfig) (old : List (String × Option String)) (w w' : World σ) :
    Prop where
  attributes : (w'.config c).attributes = Attributes.putAll (w.config c).attributes
    (old.filter fun u => (c.refusal? u.1 u.2).isNone)
  providers : w'.providers = w.providers
  groups : w'.groups = w.groups
  events : w'.events = w.events ++ old.filterMap c.complaint?

theorem wroteBack_restore (c : ProviderConfig) (old : List (String × Option String))
    (w : World σ) : WroteBack c old w (restore c old w) := by
  induction old generalizing w with
  | nil => exact ⟨rfl, rfl, rfl, (List.append_nil _).symm⟩
  | cons u rest ih =>
    rw [restore]
    cases hrefusal : c.refusal? u.1 u.2 with
    | none =>
      obtain ⟨touched, w₁, hupdate, hwrote⟩ :=
        updateAttribute_of_admits (refusal?_eq_none_iff.1 hrefusal) w
      have hrest := ih w₁
      rw [hupdate]
      refine ⟨?_, hrest.providers.trans hwrote.providers, hrest.groups.trans hwrote.groups, ?_⟩
      · rw [hrest.attributes, hwrote.attributes, List.filter_cons, hrefusal]
        rfl
      · rw [hrest.events, hwrote.events, List.filterMap_cons, complaint?, hrefusal]
        rfl
    | some e =>
      have hrest := ih (w.report c (.restoreFailed u.1 e))
      rw [updateAttribute_of_refusal hrefusal]
      refine ⟨?_, hrest.providers, hrest.groups, ?_⟩
      · rw [hrest.attributes, List.filter_cons, hrefusal]
        rfl
      · rw [hrest.events, List.filterMap_cons, complaint?, hrefusal]
        exact List.append_assoc _ _ _

theorem restore_of_admits (h : ∀ u ∈ updates, c.Admits u.1 u.2) (w : World σ) :
    Wrote c w (restore c updates w) (Attributes.putAll (w.config c).attributes updates) := by
  have hback := wroteBack_restore c updates w
  have hnone : ∀ u ∈ updates, c.refusal? u.1 u.2 = none :=
    fun u hu => refusal?_eq_none_iff.2 (h u hu)
  have hkept : (updates.filter fun u => (c.refusal? u.1 u.2).isNone) = updates :=
    List.filter_eq_self.2 fun u hu => by rw [hnone u hu, Option.isNone_none]
  have hquiet : updates.filterMap c.complaint? = [] :=
    List.filterMap_eq_nil_iff.2 fun u hu => by rw [complaint?, hnone u hu, Option.map_none]
  exact ⟨by rw [hback.attributes, hkept], hback.providers, hback.groups,
    by rw [hback.events, hquiet, List.append_nil]⟩

theorem query_eq_ok {w : World σ} {key : String} {old : Option String}
    (h : w.queryAttribute c key = .ok old) : (w.config c).attributes[key]? = old := by
  rw [queryAttribute, query] at h
  cases hk : c.attributeKey key with
  | error e =>
    rw [hk] at h
    cases h
  | ok k =>
    rw [hk] at h
    exact Except.ok.inj h

theorem staleValues_of_accepted {w : World σ}
    (h : ∀ u ∈ updates, ∃ value, w.queryAttribute c u.1 = .ok value) :
    w.staleValues c updates = .ok (Attributes.stale (w.config c).attributes updates) := by
  induction updates with
  | nil => rfl
  | cons u rest ih =>
    obtain ⟨⟨value, hquery⟩, hrest⟩ := List.forall_mem_cons.1 h
    have hvalue : (w.config c).attributes[u.1]? = value := query_eq_ok hquery
    rw [staleValues, hquery]
    simp only [ih hrest, Except.map, Attributes.stale, List.filter_cons, ← hvalue]
    split <;> simp_all

end World

/-- Updates whose keys are all accepted, and of which one at least brings a new value. -/
structure Effective {σ : Type} (w : World σ) (c : ProviderConfig) (updates : Updates) : Prop where
  accepted : ∀ (key : String) value, updates[key]? = some value →
    ∃ old, w.queryAttribute c key = .ok old
  differs : ∃ (key : String) (value : Option String), updates[key]? = some value ∧
    (w.config c).attributes[key]? ≠ value

namespace Effective

open ProviderConfig

variable {σ : Type} {w : World σ} {c : ProviderConfig} {updates : Updates}

theorem staleValues (h : Effective w c updates) : w.staleValues c updates.toList =
    .ok (Attributes.stale (w.config c).attributes updates.toList) :=
  World.staleValues_of_accepted fun u hu =>
    h.accepted u.1 u.2 (Std.ExtTreeMap.mem_toList_iff_getElem?_eq_some.1 hu)

theorem stale_ne_nil (h : Effective w c updates) :
    Attributes.stale (w.config c).attributes updates.toList ≠ [] := by
  obtain ⟨key, value, hvalue, hdiffers⟩ := h.differs
  exact ProviderConfig.stale_ne_nil _ (Std.ExtTreeMap.mem_toList_iff_getElem?_eq_some.2 hvalue)
    hdiffers

end Effective

end ServicePublisher
