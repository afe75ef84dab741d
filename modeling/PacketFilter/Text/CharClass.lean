/-
  Character classes as tables of turning points.

  A class is a list of code points in ascending order at which membership
  changes: code points below the first are outside, those from the first up to
  the second are inside, and so on. `inClass` reads such a table.
-/

namespace PacketFilter.Text

/-- Whether `c` lies inside the class with the turning points `turns`: it has
passed an odd number of them. -/
def inClass (turns : List Nat) (c : Char) : Bool :=
  (turns.takeWhile (fun t => t ≤ c.toNat)).length % 2 == 1

/-- The lower-case form of an ASCII capital; every other character stays. -/
def lowerChar (c : Char) : Char :=
  if 'A' ≤ c ∧ c ≤ 'Z' then Char.ofNat (c.toNat + 32) else c

/-- ASCII lower-casing. Words are lower-cased only to be compared with words of
ASCII letters other than `k`, and no character outside ASCII has a lower-case
form spelled with those. -/
def lower (s : String) : String := String.ofList (s.toList.map lowerChar)

end PacketFilter.Text
