import PacketFilter.Text.Figures

/-
  Text in columns: repeating, padding, cutting, centring.

  Widths count characters and may be zero or negative. A cut at a negative
  width counts from the end of the text.
-/

namespace PacketFilter.Text

/-- A text repeated; a negative count gives nothing. -/
def repeated (n : Int) (s : String) : String :=
  String.join (List.replicate n.toNat s)

def blanks (n : Nat) : String := String.ofList (List.replicate n ' ')

/-- Blanks after the text up to `width`. -/
def padRight (width : Nat) (s : String) : String := s ++ blanks (width - s.length)

/-- Blanks before the text up to `width`. -/
def padLeft (width : Nat) (s : String) : String := blanks (width - s.length) ++ s

/-- The first `n` characters; if `n` is negative, all but the last `-n`. -/
def cut (n : Int) (s : String) : String :=
  if 0 ≤ n then String.ofList (s.toList.take n.toNat)
  else String.ofList (s.toList.take (s.length - n.natAbs))

/-- The text in the middle of a cell, the odd blank on the right; a text that
fills the cell is cut to it. -/
def center (width : Int) (s : String) : String :=
  if width ≤ s.length then cut width s
  else
    let room := width.toNat - s.length
    blanks (room / 2) ++ s ++ blanks (room - room / 2)

/-- The text, or its beginning with dots if it is longer than `width`. -/
def truncate (width : Int) (s : String) : String :=
  if s.length ≤ width then s else cut (width - 3) s ++ "..."

/-- The texts one per line, each with a line feed. -/
def unlines (ls : List String) : String := "\n".intercalate ls ++ "\n"

end PacketFilter.Text
