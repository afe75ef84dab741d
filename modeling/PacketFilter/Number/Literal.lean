import PacketFilter.Text.Quoted
import PacketFilter.Text.Blank
import PacketFilter.Text.Numeral
import PacketFilter.Text.Figures

/-
  Integer literals.

  A literal is an optional sign and decimal digits of any script, single
  underscores allowed between digits, with blanks around it. `readInteger` gives
  its value, or says why there is none. The number of digits is limited, leading
  zeros included.
-/

namespace PacketFilter

open Text

/-- The most digits a literal may have. -/
def maxDigits : Nat := 4300

/-- How much of a quoted text an error shows. -/
def maxShown : Nat := 200

inductive LiteralError where
  | malformed (text : String)
  | tooManyDigits (count : Nat)
  deriving DecidableEq, Repr

def LiteralError.message : LiteralError → String
  | .malformed text =>
    "invalid literal for int() with base 10: " ++ String.ofList ((quoted text).toList.take maxShown)
  | .tooManyDigits count =>
    "Exceeds the limit (" ++ decimalNat maxDigits ++
      " digits) for integer string conversion: value has " ++ decimalNat count ++
      " digits; use sys.set_int_max_str_digits() to increase the limit"

/-- Blanks allowed around a literal: the ASCII blanks without the separators
below the space, and all blanks beyond ASCII. -/
def isLiteralBlank (c : Char) : Bool :=
  isBlank c && !(0x1c ≤ c.toNat && c.toNat ≤ 0x1f)

/-- The digits a literal starts with, and what follows them. -/
structure DigitRun where
  digits : List Nat
  rest : List Char
  deriving DecidableEq, Repr

/-- Reads digits with single underscores between them, given whether the last
character was an underscore. There is none if an underscore follows another or
ends the run. -/
def digitRun (afterUnderscore : Bool) : List Char → Option DigitRun
  | [] => if afterUnderscore then none else some ⟨[], []⟩
  | c :: rest =>
    if c = '_' then if afterUnderscore then none else digitRun true rest
    else
      match digitValue? c with
      | some d => (digitRun false rest).map (fun run => { run with digits := d :: run.digits })
      | none => if afterUnderscore then none else some ⟨[], c :: rest⟩

/-- The number with the given digits, the most significant first. -/
def ofDigits (ds : List Nat) : Nat := ds.foldl (fun n d => 10 * n + d) 0

/-- The value of the digits that make up all of `cs`. -/
def readDigits (text : String) (cs : List Char) : Except LiteralError Nat :=
  match digitRun true cs with
  | none => .error (.malformed text)
  | some run =>
    if maxDigits < run.digits.length then .error (.tooManyDigits run.digits.length)
    else if run.rest.isEmpty then .ok (ofDigits run.digits)
    else .error (.malformed text)

def readInteger (text : String) : Except LiteralError Int :=
  match trimWhere isLiteralBlank text.toList with
  | '+' :: cs => (readDigits text cs).map Int.ofNat
  | '-' :: cs => (readDigits text cs).map (fun n => -Int.ofNat n)
  | cs => (readDigits text cs).map Int.ofNat

end PacketFilter
