import TypeCatalog.Decimal.Reading

/-! # Documents — bytes

Bytes are written in base 64: four characters for three of them, and a group that is cut short is
filled up with equals signs.  Characters that are no digits are passed over, and what follows a
group that is filled up is not looked at.

* `bytes?`: the bytes that characters stand for.
-/

namespace TypeCatalog.Document

/-- The value of a digit in base 64. -/
def sextet? (c : Char) : Option Nat :=
  if c.isUpper then some (c.toNat - 'A'.toNat)
  else if c.isLower then some (c.toNat - 'a'.toNat + 26)
  else if c.isDigit then some (c.toNat - '0'.toNat + 52)
  else if c = '+' then some 62
  else if c = '/' then some 63
  else none

/-- The digits of a group so far and the equals signs after them. -/
structure SextetGroup where
  digits : List Nat
  signs : Nat

namespace SextetGroup

def empty : SextetGroup := ⟨[], 0⟩

/-- The group is filled up when one more equals sign is met. -/
def isFilled (g : SextetGroup) : Bool :=
  decide (2 ≤ g.digits.length) && decide (4 ≤ g.digits.length + g.signs + 1)

/-- The group after an equals sign, which counts only after two digits. -/
def withSign (g : SextetGroup) : SextetGroup :=
  if 2 ≤ g.digits.length then { g with signs := g.signs + 1 } else g

/-- The byte that the last of the digits completes, and the group with one more digit. -/
def withDigit (g : SextetGroup) (d : Nat) : List UInt8 × SextetGroup :=
  match g.digits with
  | []        => ([], ⟨[d], 0⟩)
  | [a]       => ([(a * 4 + d / 16).toUInt8], ⟨[a, d], 0⟩)
  | [a, b]    => ([(b % 16 * 16 + d / 4).toUInt8], ⟨[a, b, d], 0⟩)
  | _ :: _ :: c :: _ => ([(c % 4 * 64 + d).toUInt8], .empty)

end SextetGroup

/-- The bytes of the characters after those of a group; there are none if the last group is cut
short and not filled up. -/
def bytesAfter (g : SextetGroup) : List Char → Option (List UInt8)
  | []      => if g.digits.isEmpty then some [] else none
  | c :: cs =>
      if c = '=' then if g.isFilled then some [] else bytesAfter g.withSign cs
      else
        match sextet? c with
        | none   => bytesAfter g cs
        | some d => (bytesAfter (g.withDigit d).2 cs).map ((g.withDigit d).1 ++ ·)

/-- The bytes that ASCII characters stand for. -/
def bytes? (cs : List Char) : Option (List UInt8) :=
  if cs.all fun c => decide (c.toNat < 0x80) then bytesAfter .empty cs else none

end TypeCatalog.Document
