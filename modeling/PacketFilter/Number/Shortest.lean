import PacketFilter.Number.Binary64
import PacketFilter.Text.Figures

/-
  Floating-point numbers in decimal.

  `shortest` gives the fewest digits that read back as the number, and of those
  the nearest. `Binary64.text` lays them out: positionally, always with a point,
  while the point stands from four places before to sixteen places after the
  first digit, otherwise with an exponent of at least two digits.
  `Binary64.fixed` writes a number with a fixed count of places, a half going to
  the even neighbour.
-/

namespace PacketFilter

open Text

/-- A decimal `digits * 10 ^ exponent`. -/
structure Decimal where
  digits : Nat
  exponent : Int
  deriving DecidableEq, Repr

namespace Decimal

/-- The `e` with `10 ^ e ≤ num / den < 10 ^ (e + 1)`, for positive numbers. -/
def leadingExponent (num den : Nat) : Int :=
  if den ≤ num then (Nat.toDigits 10 (num / den)).length - 1
  else
    let places := (Nat.toDigits 10 (den / num)).length
    if den ≤ num * Nat.pow 10 (places - 1) then -((places : Int) - 1) else -(places : Int)

/-- `num / den` divided by `10 ^ e`, as a quotient. -/
def scaleRatio (num den : Nat) (e : Int) : Nat × Nat :=
  if 0 ≤ e then (num, den * Nat.pow 10 e.toNat) else (num * Nat.pow 10 e.natAbs, den)

/-- Whether a decimal reads back as the number with mantissa `m` and exponent
`q`. -/
def readsBack (m : Nat) (q : Int) (d : Decimal) : Bool :=
  Binary64.ofDecimal false d.digits d.exponent == .finite false m q

/-- Of the two decimals with `count` digits next to `m * 2 ^ q`, the nearest that
reads back. -/
def withDigits? (m : Nat) (q : Int) (count : Nat) : Option Decimal :=
  let (num, den) := Binary64.magnitude m q
  let e := leadingExponent num den - (count - 1 : Nat)
  let (n, d) := scaleRatio num den e
  let below : Decimal := ⟨n / d, e⟩
  let above : Decimal := ⟨n / d + 1, e⟩
  let nearest := if roundDiv n d = n / d then [below, above] else [above, below]
  nearest.find? (readsBack m q)

/-- A decimal without trailing zeros. At most `fuel` of them are removed. -/
def dropZeros : Nat → Decimal → Decimal
  | 0, d => d
  | fuel + 1, d =>
    if d.digits ≠ 0 ∧ d.digits % 10 = 0 then dropZeros fuel ⟨d.digits / 10, d.exponent + 1⟩ else d

/-- The shortest decimal that reads back as `m * 2 ^ q`; seventeen digits always
do. -/
def shortest (m : Nat) (q : Int) : Decimal :=
  if m = 0 then ⟨0, 0⟩
  else
    match (List.range 17).findSome? (fun i => withDigits? m q (i + 1)) with
    | some d => dropZeros 20 d
    | none => ⟨0, 0⟩

/-- Digits with the point after the first `point` of them, zeros filling the
places between and at least one digit on either side. -/
def positional (digits : List Char) (point : Int) : List Char :=
  if point ≤ 0 then '0' :: '.' :: (List.replicate point.natAbs '0' ++ digits)
  else
    let whole := digits.take point.toNat
    let filled := whole ++ List.replicate (point.toNat - whole.length) '0'
    let rest := digits.drop point.toNat
    filled ++ '.' :: (if rest.isEmpty then ['0'] else rest)

/-- Digits in exponent form: the point after the first of them. -/
def scientific (digits : List Char) (exponent : Int) : List Char :=
  let fraction := digits.drop 1
  let sign := if exponent < 0 then '-' else '+'
  digits.take 1 ++ (if fraction.isEmpty then [] else '.' :: fraction) ++
    ['e', sign] ++ zeroFill 2 (Nat.toDigits 10 exponent.natAbs)

/-- A decimal as it is written out. -/
def chars (d : Decimal) : List Char :=
  let digits := Nat.toDigits 10 d.digits
  let point : Int := digits.length + d.exponent
  if -4 < point ∧ point ≤ 16 then positional digits point else scientific digits (point - 1)

end Decimal

namespace Binary64

/-- A minus sign for negative numbers. -/
def signText (negative : Bool) : String := if negative then "-" else ""

/-- The number in the fewest digits that read back. -/
def text : Binary64 → String
  | finite s m q => signText s ++ String.ofList (Decimal.shortest m q).chars
  | infinite s => signText s ++ "inf"
  | nan => "nan"

/-- The number with `places` digits after the point. -/
def fixed (places : Nat) : Binary64 → String
  | finite s m q =>
    let (num, den) := magnitude m q
    let digits := zeroFill (places + 1) (Nat.toDigits 10 (roundDiv (num * Nat.pow 10 places) den))
    let whole := digits.length - places
    let fraction := digits.drop whole
    signText s ++ String.ofList (digits.take whole) ++
      (if fraction.isEmpty then "" else "." ++ String.ofList fraction)
  | infinite s => signText s ++ "inf"
  | nan => "nan"

end Binary64

end PacketFilter
