/-! Blank characters and the trimming of texts. -/

namespace PagePolicy.Text

/-- The characters with the property White_Space. -/
def isBlank (c : Char) : Bool :=
  let n := c.toNat
  (9 ≤ n && n ≤ 13) || n == 0x20 || n == 0x85 || n == 0xA0 || n == 0x1680 ||
    (0x2000 ≤ n && n ≤ 0x200A) || n == 0x2028 || n == 0x2029 || n == 0x202F || n == 0x205F ||
    n == 0x3000

def trimEnd (p : Char → Bool) (s : List Char) : List Char :=
  (s.reverse.dropWhile p).reverse

def trim (p : Char → Bool) (s : List Char) : List Char :=
  trimEnd p (s.dropWhile p)

theorem trimEnd_append_takeWhile (p : Char → Bool) (s : List Char) :
    trimEnd p s ++ (s.reverse.takeWhile p).reverse = s := by
  rw [trimEnd, ← List.reverse_append, List.takeWhile_append_dropWhile, List.reverse_reverse]

theorem trim_infix (p : Char → Bool) (s : List Char) : trim p s <:+: s := by
  have hprefix : trim p s <+: s.dropWhile p := ⟨_, trimEnd_append_takeWhile p (s.dropWhile p)⟩
  exact hprefix.isInfix.trans (List.dropWhile_suffix p).isInfix

end PagePolicy.Text
