import ShardingOnCloud.Lib.JsonParser

namespace ShardingOnCloud.Lib.JsonBytes

open ShardingOnCloud.Lib.JsonParser

section Runes

def continues (b : UInt8) : Bool := 0x80 ≤ b && b ≤ 0xBF

/-- The second byte of a character. After some first bytes it would make a character that is too
large, half a surrogate pair, or one that has a shorter form. -/
def second (a b : UInt8) : Bool :=
  if a = 0xE0 then 0xA0 ≤ b && b ≤ 0xBF
  else if a = 0xED then 0x80 ≤ b && b ≤ 0x9F
  else if a = 0xF0 then 0x90 ≤ b && b ≤ 0xBF
  else if a = 0xF4 then 0x80 ≤ b && b ≤ 0x8F
  else continues b

/-- The number of bytes that a first byte announces, with 0 for one that begins nothing. -/
def announced (a : UInt8) : ℕ :=
  if a < 0x80 then 1
  else if 0xC2 ≤ a ∧ a ≤ 0xDF then 2
  else if 0xE0 ≤ a ∧ a ≤ 0xEF then 3
  else if 0xF0 ≤ a ∧ a ≤ 0xF4 then 4
  else 0

def low (b : UInt8) : ℕ := b.toNat % 64

/-- The first character of a text, and how many bytes after the first one belong to it. A byte that
is not part of a character is replaced. -/
def decodeRune (a : UInt8) (bs : List UInt8) : Char × ℕ :=
  match announced a, bs with
  | 1, _ => (Char.ofNat a.toNat, 0)
  | 2, b :: _ =>
    if second a b then (Char.ofNat (a.toNat % 32 * 64 + low b), 1) else ('\uFFFD', 0)
  | 3, b :: c :: _ =>
    if second a b && continues c then
      (Char.ofNat (a.toNat % 16 * 4096 + low b * 64 + low c), 2)
    else ('\uFFFD', 0)
  | 4, b :: c :: d :: _ =>
    if second a b && continues c && continues d then
      (Char.ofNat (a.toNat % 8 * 262144 + low b * 4096 + low c * 64 + low d), 3)
    else ('\uFFFD', 0)
  | _, _ => ('\uFFFD', 0)

/-- The characters of a text. The number bounds the number of bytes. -/
def runes : ℕ → List UInt8 → List Char
  | 0, _ => []
  | _, [] => []
  | n + 1, a :: bs => (decodeRune a bs).1 :: runes n (bs.drop (decodeRune a bs).2)

def text (bytes : List UInt8) : String := String.ofList (runes bytes.length bytes)

end Runes

section Nesting

mutual

def nesting : Json → ℕ
  | .null | .bool _ | .num _ | .str _ => 0
  | .arr xs => nestingElements xs + 1
  | .obj ms => nestingMembers ms + 1

def nestingElements : List Json → ℕ
  | [] => 0
  | x :: xs => max (nesting x) (nestingElements xs)

def nestingMembers : List (String × Json) → ℕ
  | [] => 0
  | (_, x) :: ms => max (nesting x) (nestingMembers ms)

end

end Nesting

def maxNestingDepth : ℕ := 10000

def parseBytes (bytes : List UInt8) : Option Json :=
  (parse (text bytes)).filter (fun j => nesting j ≤ maxNestingDepth)

end ShardingOnCloud.Lib.JsonBytes
