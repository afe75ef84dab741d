import PacketFilter.Number.Shortest

/-
  Numbers as data holds them: whole numbers of any size, and floating-point
  numbers. The two stay apart, since they are written differently.
-/

namespace PacketFilter

inductive Number where
  | int (n : Int)
  | real (x : Binary64)
  deriving DecidableEq, Repr, Inhabited

namespace Number

def isZero : Number → Bool
  | int n => n == 0
  | real x => x.isZero

def text : Number → String
  | int n => Text.decimal n
  | real x => x.text

/-- Whether the number lies below the integer `bound`, which is one that a
floating-point number holds exactly. -/
def below (bound : Int) : Number → Bool
  | int n => n < bound
  | real x => x.less (Binary64.ofInt bound)

/-- Whether the number lies above the integer `bound`, which is one that a
floating-point number holds exactly. -/
def above (bound : Int) : Number → Bool
  | int n => bound < n
  | real x => (Binary64.ofInt bound).less x

/-- Whether the number is the integer `bound`, which is one that a floating-point
number holds exactly, or lies above it. -/
def atLeast (bound : Int) : Number → Bool
  | int n => bound ≤ n
  | real x => x ≠ .nan && !x.less (Binary64.ofInt bound)

end Number

end PacketFilter
