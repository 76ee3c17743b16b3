/-! Percent-encoding of characters in the parts of a URL. -/

namespace PagePolicy.Url

def percentByte (b : UInt8) : List Char :=
  let digit (n : Nat) := if n < 10 then Char.ofNat (48 + n) else Char.ofNat (55 + n)
  ['%', digit (b.toNat / 16), digit (b.toNat % 16)]

/-- Encodes a character that is a control, not of ASCII, or in a set, and keeps any other. -/
def encodeChar (set : List Char) (c : Char) : List Char :=
  if c.toNat < 0x20 ∨ 0x7F ≤ c.toNat ∨ c ∈ set then
    (String.utf8EncodeChar c).flatMap percentByte
  else [c]

def encode (set : List Char) (s : List Char) : List Char :=
  s.flatMap (encodeChar set)

def pathSet : List Char := [' ', '"', '<', '>', '\x60', '#', '?', '\x7B', '\x7D']

def querySet : List Char := [' ', '"', '#', '<', '>']

def specialQuerySet : List Char := '\'' :: querySet

def hexDigit? (c : Char) : Option Nat :=
  if c.isDigit then some (c.toNat - 48)
  else if 'a' ≤ c ∧ c ≤ 'f' then some (c.toNat - 87)
  else if 'A' ≤ c ∧ c ≤ 'F' then some (c.toNat - 55)
  else none

/-- The bytes of a text, a percent sign and two hexadecimal digits being one byte. -/
def decodeBytes : List Char → List UInt8
  | [] => []
  | '%' :: h :: l :: s =>
    match hexDigit? h, hexDigit? l with
    | some h, some l => (16 * h + l).toUInt8 :: decodeBytes s
    | _, _ => '%'.toUInt8 :: decodeBytes (h :: l :: s)
  | c :: s => String.utf8EncodeChar c ++ decodeBytes s

/-- The text with percent-encoded characters decoded, if it is one. -/
def decode (s : List Char) : Option (List Char) :=
  (String.fromUTF8? ⟨(decodeBytes s).toArray⟩).map String.toList

end PagePolicy.Url
