/-
  Whole numbers in figures.

  `decimal` writes an integer in base ten. `figures` writes one in any base up
  to sixteen, filled with zeros to a least width; a minus sign stands first and
  counts towards the width.
-/

namespace PacketFilter.Text

/-- Whether digits above nine are written as capitals. -/
inductive LetterCase where
  | lower
  | upper
  deriving DecidableEq, Repr

/-- A digit in the given letter case. -/
def LetterCase.apply (letters : LetterCase) (c : Char) : Char :=
  match letters with
  | .lower => c
  | .upper => c.toUpper

def decimalNat (n : Nat) : String := String.ofList (Nat.toDigits 10 n)

def decimal (n : Int) : String :=
  if n < 0 then "-" ++ decimalNat n.natAbs else decimalNat n.natAbs

/-- As many zeros as `digits` falls short of `width`, then `digits`. -/
def zeroFill (width : Nat) (digits : List Char) : List Char :=
  List.replicate (width - digits.length) '0' ++ digits

/-- An integer in base `base`, filled with zeros to `width` characters. -/
def figures (base width : Nat) (letters : LetterCase) (n : Int) : String :=
  let digits := (Nat.toDigits base n.natAbs).map letters.apply
  if n < 0 then String.ofList ('-' :: zeroFill (width - 1) digits)
  else String.ofList (zeroFill width digits)

/-- An integer in base sixteen with small letters. -/
def hex (width : Nat) (n : Int) : String := figures 16 width .lower n

/-- An integer in base sixteen with capitals. -/
def hexUpper (width : Nat) (n : Int) : String := figures 16 width .upper n

end PacketFilter.Text
