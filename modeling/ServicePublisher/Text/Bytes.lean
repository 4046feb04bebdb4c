/-! Texts cut by the number of bytes that their characters take up in UTF-8. A cut never falls into
a character. -/
namespace ServicePublisher.Text

def byteSize : List Char → Nat
  | [] => 0
  | c :: cs => c.utf8Size + byteSize cs

def dropBytes? : Nat → List Char → Option (List Char)
  | 0, cs => some cs
  | _ + 1, [] => none
  | n + 1, c :: cs => if c.utf8Size ≤ n + 1 then dropBytes? (n + 1 - c.utf8Size) cs else none

def takeBytes? : Nat → List Char → Option (List Char)
  | 0, _ => some []
  | _ + 1, [] => none
  | n + 1, c :: cs =>
    if c.utf8Size ≤ n + 1 then (takeBytes? (n + 1 - c.utf8Size) cs).map (c :: ·) else none

@[simp] theorem byteSize_cons (c : Char) (cs : List Char) :
    byteSize (c :: cs) = c.utf8Size + byteSize cs := rfl

theorem dropBytes?_byteSize_append (p cs : List Char) :
    dropBytes? (byteSize p) (p ++ cs) = some cs := by
  induction p with
  | nil => simp [byteSize, dropBytes?]
  | cons c p ih =>
    have hc : 0 < c.utf8Size := c.utf8Size_pos
    obtain ⟨n, hn⟩ : ∃ n, byteSize (c :: p) = n + 1 :=
      ⟨c.utf8Size + byteSize p - 1, by simp; omega⟩
    have hle : c.utf8Size ≤ n + 1 := by simp at hn; omega
    have hsub : n + 1 - c.utf8Size = byteSize p := by simp at hn; omega
    rw [hn, List.cons_append, dropBytes?, if_pos hle, hsub, ih]

theorem takeBytes?_byteSize_append (p cs : List Char) :
    takeBytes? (byteSize p) (p ++ cs) = some p := by
  induction p with
  | nil => simp [byteSize, takeBytes?]
  | cons c p ih =>
    have hc : 0 < c.utf8Size := c.utf8Size_pos
    obtain ⟨n, hn⟩ : ∃ n, byteSize (c :: p) = n + 1 :=
      ⟨c.utf8Size + byteSize p - 1, by simp; omega⟩
    have hle : c.utf8Size ≤ n + 1 := by simp at hn; omega
    have hsub : n + 1 - c.utf8Size = byteSize p := by simp at hn; omega
    rw [hn, List.cons_append, takeBytes?, if_pos hle, hsub, ih]
    rfl

end ServicePublisher.Text
