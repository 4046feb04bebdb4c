import ServicePublisher.Error
import ServicePublisher.ServiceKey
import Std.Data.ExtTreeMap

/-! The number of live publications under each key. A key without any has no entry, so two tables
are equal when they count alike. -/
namespace ServicePublisher

/-- Live publications by key. -/
structure ExportCounts where
  entries : Std.ExtTreeMap ServiceKey Nat := ∅
  positive : ∀ k : ServiceKey, entries[k]? ≠ some 0 := by simp

namespace ExportCounts

instance : EmptyCollection ExportCounts := ⟨{}⟩

def count (t : ExportCounts) (k : ServiceKey) : Nat := t.entries[k]?.getD 0

def contains (t : ExportCounts) (k : ServiceKey) : Bool := t.entries.contains k

def size (t : ExportCounts) : Nat := t.entries.size

def put (t : ExportCounts) (k : ServiceKey) (n : Nat) (h : 0 < n) : ExportCounts where
  entries := t.entries.insert k n
  positive k' := by
    rw [Std.ExtTreeMap.getElem?_insert]
    split
    · simp; omega
    · exact t.positive k'

def remove (t : ExportCounts) (k : ServiceKey) : ExportCounts where
  entries := t.entries.erase k
  positive k' := by
    rw [Std.ExtTreeMap.getElem?_erase]
    split
    · simp
    · exact t.positive k'

/-- One more publication under a key, with the new count. A positive limit is never exceeded. -/
def acquire (t : ExportCounts) (k : ServiceKey) (limit : Int) :
    Except ProviderError (Nat × ExportCounts) :=
  let next := t.count k + 1
  if 0 < limit ∧ limit < next then .error (.duplicate k.text limit.toNat)
  else .ok (next, t.put k next (Nat.succ_pos _))

/-- One publication fewer under a key, with the count that remains; none is given back twice. -/
def release (t : ExportCounts) (k : ServiceKey) : Nat × ExportCounts :=
  let remaining := t.count k - 1
  if h : 0 < remaining then (remaining, t.put k remaining h) else (0, t.remove k)

@[ext] theorem ext_count {a b : ExportCounts} (h : ∀ k, a.count k = b.count k) : a = b := by
  obtain ⟨x, hx⟩ := a
  obtain ⟨y, hy⟩ := b
  suffices x = y by subst this; rfl
  apply Std.ExtTreeMap.ext_getElem?
  intro k
  have hk := h k
  have hxk := hx k
  have hyk := hy k
  simp only [count] at hk
  cases ha : x[k]? <;> cases hb : y[k]? <;> simp_all

@[simp] theorem count_empty (k : ServiceKey) : (∅ : ExportCounts).count k = 0 := by
  show (∅ : Std.ExtTreeMap ServiceKey Nat)[k]?.getD 0 = 0
  simp

@[simp] theorem count_put (t : ExportCounts) (k : ServiceKey) (n : Nat) (h : 0 < n)
    (k' : ServiceKey) : (t.put k n h).count k' = if k = k' then n else t.count k' := by
  simp only [count, put, Std.ExtTreeMap.getElem?_insert, Std.compare_eq_iff_eq]
  split <;> rfl

@[simp] theorem count_remove (t : ExportCounts) (k k' : ServiceKey) :
    (t.remove k).count k' = if k = k' then 0 else t.count k' := by
  simp only [count, remove, Std.ExtTreeMap.getElem?_erase, Std.compare_eq_iff_eq]
  split <;> rfl

theorem contains_iff {t : ExportCounts} {k : ServiceKey} : t.contains k = true ↔ 0 < t.count k := by
  have := t.positive k
  simp only [contains, count]
  cases h : t.entries[k]? with
  | none => simp_all
  | some n =>
    have : k ∈ t.entries := by
      rw [← Std.ExtTreeMap.isSome_getElem?_iff_mem, h]; rfl
    simp_all [Std.ExtTreeMap.contains_iff_mem]
    omega

end ExportCounts

end ServicePublisher
