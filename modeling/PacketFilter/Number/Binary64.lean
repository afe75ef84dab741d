/-
  64-bit binary floating point in exact arithmetic.

  A finite number is a mantissa below 2 ^ 53 times a power of two. `ofRatio`
  rounds a quotient of natural numbers to the nearest such number, a half going
  to the even mantissa; reading a decimal and multiplying go through it, so every
  result is the correctly rounded one. Comparisons are exact.
-/

namespace PacketFilter

/-- A 64-bit floating-point number. A finite one has the magnitude
`mantissa * 2 ^ exponent`. -/
inductive Binary64 where
  | finite (negative : Bool) (mantissa : Nat) (exponent : Int)
  | infinite (negative : Bool)
  | nan
  deriving DecidableEq, Repr, Inhabited

/-- `num / den` rounded to the nearest integer, a half to the even one. -/
def roundDiv (num den : Nat) : Nat :=
  let q := num / den
  let r := num % den
  if 2 * r < den then q
  else if den < 2 * r then q + 1
  else if q % 2 = 0 then q
  else q + 1

namespace Binary64

/-- The least exponent, of the numbers next to zero. -/
def minExponent : Int := -1074

def maxExponent : Int := 971

def zero : Binary64 := finite false 0 minExponent

/-- `num / den` divided by `2 ^ q`, as a quotient. -/
def scaleRatio (num den : Nat) (q : Int) : Nat × Nat :=
  if 0 ≤ q then (num, den * Nat.pow 2 q.toNat) else (num * Nat.pow 2 q.natAbs, den)

/-- The number with mantissa `m`, at most `2 ^ 53`, and exponent `q`. -/
def ofMantissa (negative : Bool) (m : Nat) (q : Int) : Binary64 :=
  let (m, q) := if m < Nat.pow 2 53 then (m, q) else (Nat.pow 2 52, q + 1)
  if q ≤ maxExponent then finite negative m q else infinite negative

/-- The number nearest to `num / den`, or zero if either of them is. -/
def ofRatio (negative : Bool) (num den : Nat) : Binary64 :=
  if num = 0 ∨ den = 0 then finite negative 0 minExponent
  else
    -- `num / den / 2 ^ guess` lies between 2 ^ 52 and 2 ^ 54
    let guess : Int := (num.log2 : Int) - (den.log2 : Int) - 53
    let (n, d) := scaleRatio num den guess
    let q := max (if n / d < Nat.pow 2 53 then guess else guess + 1) minExponent
    let (n, d) := scaleRatio num den q
    ofMantissa negative (roundDiv n d) q

def ofInt (n : Int) : Binary64 := ofRatio (n < 0) n.natAbs 1

inductive QuotientError where
  | byZero
  | tooLarge
  deriving DecidableEq, Repr

def QuotientError.message : QuotientError → String
  | byZero => "division by zero"
  | tooLarge => "integer division result too large for a float"

/-- The quotient of two integers, rounded once. -/
def quotient (num den : Int) : Except QuotientError Binary64 :=
  if den = 0 then .error .byZero
  else
    match ofRatio ((num < 0) != (den < 0)) num.natAbs den.natAbs with
    | infinite _ => .error .tooLarge
    | x => .ok x

/-- The number nearest to `digits * 10 ^ e`. Beyond a few hundred places the
answer no longer hangs on the digits. -/
def ofDecimal (negative : Bool) (digits : Nat) (e : Int) : Binary64 :=
  if digits = 0 then finite negative 0 minExponent
  else
    let places : Int := (Nat.toDigits 10 digits).length + e
    if 400 < places then infinite negative
    else if places < -400 then finite negative 0 minExponent
    else if 0 ≤ e then ofRatio negative (digits * Nat.pow 10 e.toNat) 1
    else ofRatio negative digits (Nat.pow 10 e.natAbs)

/-- The magnitude `m * 2 ^ q` as a quotient. -/
def magnitude (m : Nat) (q : Int) : Nat × Nat :=
  if 0 ≤ q then (m * Nat.pow 2 q.toNat, 1) else (m, Nat.pow 2 q.natAbs)

/-- The product, rounded once. -/
def mul : Binary64 → Binary64 → Binary64
  | finite s m q, finite t n r =>
    let (num, den) := magnitude (m * n) (q + r)
    ofRatio (s != t) num den
  | finite s m _, infinite t => if m = 0 then nan else infinite (s != t)
  | infinite s, finite t m _ => if m = 0 then nan else infinite (s != t)
  | infinite s, infinite t => infinite (s != t)
  | _, _ => nan

/-- A signed mantissa. -/
def signed (negative : Bool) (m : Nat) : Int := if negative then -(m : Int) else m

/-- Whether the first number is less than the second. Nothing is less than,
or greater than, the number that is none. -/
def less : Binary64 → Binary64 → Bool
  | finite s m q, finite t n r =>
    let base := min q r
    signed s (m * Nat.pow 2 (q - base).toNat) < signed t (n * Nat.pow 2 (r - base).toNat)
  | finite _ _ _, infinite t => !t
  | infinite s, finite _ _ _ => s
  | infinite s, infinite t => s && !t
  | _, _ => false

/-- Whether the number is zero, of either sign. -/
def isZero : Binary64 → Bool
  | finite _ m _ => m == 0
  | _ => false

/-- The integer part, toward zero; zero for what is not finite. -/
def truncate : Binary64 → Int
  | finite s m q =>
    let (num, den) := magnitude m q
    signed s (num / den)
  | _ => 0

end Binary64

end PacketFilter
