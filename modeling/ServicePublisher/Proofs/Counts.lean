import ServicePublisher.ExportCounts

/-! The counts after one publication more or fewer. -/
namespace ServicePublisher.ExportCounts

@[simp] theorem count_release (t : ExportCounts) (k k' : ServiceKey) :
    (t.release k).2.count k' = if k = k' then t.count k - 1 else t.count k' := by
  rw [release]
  split
  · next h => exact count_put t k _ h k'
  · next h => rw [count_remove, show t.count k - 1 = 0 by omega]

@[simp] theorem fst_release (t : ExportCounts) (k : ServiceKey) :
    (t.release k).1 = t.count k - 1 := by
  rw [release]
  split
  · rfl
  · next h => omega

/-- What it takes to be counted: a positive limit is not reached yet. -/
theorem acquire_eq_ok_iff {t t' : ExportCounts} {k : ServiceKey} {limit : Int} {n : Nat} :
    t.acquire k limit = .ok (n, t') ↔
      (limit ≤ 0 ∨ (t.count k : Int) < limit) ∧ n = t.count k + 1 ∧
        t' = t.put k (t.count k + 1) (Nat.succ_pos _) := by
  rw [acquire]
  split
  · next h => simp; omega
  · next h =>
    simp only [Except.ok.injEq, Prod.mk.injEq]
    constructor
    · intro hgiven
      obtain ⟨rfl, rfl⟩ := hgiven
      exact ⟨by omega, rfl, rfl⟩
    · intro hgiven
      obtain ⟨-, rfl, rfl⟩ := hgiven
      exact ⟨rfl, rfl⟩

theorem eq_of_acquire_eq_error {t : ExportCounts} {k : ServiceKey} {limit : Int}
    {e : ProviderError} (h : t.acquire k limit = .error e) :
    e = .duplicate k.text limit.toNat := by
  rw [acquire] at h
  split at h
  · exact (Except.error.inj h).symm
  · cases h

end ServicePublisher.ExportCounts
