/-! Lengths and offsets of texts, counted in bytes of UTF-8. -/

namespace PagePolicy.Text

def byteLength : List Char → Nat
  | [] => 0
  | c :: s => c.utf8Size + byteLength s

@[simp]
theorem byteLength_append (s t : List Char) :
    byteLength (s ++ t) = byteLength s + byteLength t := by
  induction s with
  | nil => simp [byteLength]
  | cons c s ih => simp [byteLength, ih, Nat.add_assoc]

/-- The text from a byte offset on, if a character starts or the text ends there. -/
def dropBytes? : List Char → Nat → Option (List Char)
  | s, 0 => some s
  | [], _ + 1 => none
  | c :: s, n + 1 => if c.utf8Size ≤ n + 1 then dropBytes? s (n + 1 - c.utf8Size) else none

private theorem dropBytes?_cons_add (c : Char) (s : List Char) (n : Nat) :
    dropBytes? (c :: s) (c.utf8Size + n) = dropBytes? s n := by
  obtain ⟨m, hm⟩ := Nat.exists_eq_add_of_lt (Char.utf8Size_pos c)
  have hsum : c.utf8Size + n = m + n + 1 := by omega
  have hrest : m + n + 1 - c.utf8Size = n := by omega
  rw [hsum, dropBytes?, if_pos (by omega), hrest]

/-- At an offset behind the first part of a text stands what stands there in the second part. -/
theorem dropBytes?_append (s t : List Char) (n : Nat) :
    dropBytes? (s ++ t) (byteLength s + n) = dropBytes? t n := by
  induction s with
  | nil => rw [byteLength, Nat.zero_add, List.nil_append]
  | cons c s ih => rw [byteLength, Nat.add_assoc, List.cons_append, dropBytes?_cons_add, ih]

@[simp]
theorem dropBytes?_byteLength (s t : List Char) : dropBytes? (s ++ t) (byteLength s) = some t := by
  rw [← Nat.add_zero (byteLength s), dropBytes?_append, dropBytes?]

end PagePolicy.Text
