import PacketFilter.Program.Basic
import PacketFilter.Number.Literal

/-
  Decimal dumps.

  A dump is a line with the number of instructions and a line of four integers
  for each of them, with blanks around the whole and around every line.
  `Dump.read` gives the instructions, untagged, or says what is wrong with the
  first line that is.
-/

namespace PacketFilter

open Text

/-- What is wrong with a line of four words. -/
inductive DumpLineError where
  | literal (cause : LiteralError)
  | range (cause : RangeError)
  deriving DecidableEq, Repr

def DumpLineError.message : DumpLineError → String
  | literal cause => cause.message
  | range cause => cause.message

/-- Why a text is no dump. Lines of instructions are counted from one. -/
inductive DumpError where
  | empty
  | count (line : String)
  | lineCount (expected : Int) (found : Nat)
  | wordCount (number : Nat) (line : String)
  | instruction (number : Nat) (cause : DumpLineError)
  deriving DecidableEq, Repr

def DumpError.message : DumpError → String
  | empty => "empty tcpdump output"
  | count line => "invalid instruction count: " ++ quoted line
  | lineCount expected found =>
    "expected " ++ decimal expected ++ " instructions, got " ++ decimalNat found ++ " lines"
  | wordCount number line =>
    "invalid instruction format at line " ++ decimalNat number ++ ": " ++ line
  | instruction number cause =>
    "invalid instruction at line " ++ decimalNat number ++ ": " ++ cause.message

namespace Dump

/-- The instruction of four words: all of them are read before any is checked
for its range. -/
def instruction (a b c d : List Char) : Except DumpLineError Instruction := do
  let a ← (readInteger (String.ofList a)).mapError .literal
  let b ← (readInteger (String.ofList b)).mapError .literal
  let c ← (readInteger (String.ofList c)).mapError .literal
  let d ← (readInteger (String.ofList d)).mapError .literal
  (Instruction.make? (.int a) (.int b) (.int c) (.int d) none).mapError .range

def line (number : Nat) (cs : List Char) : Except DumpError Instruction :=
  let cs := trim cs
  match words cs with
  | [a, b, c, d] => (instruction a b c d).mapError (.instruction number)
  | _ => .error (.wordCount number (String.ofList cs))

/-- The instructions on the lines from `number` on. -/
def linesFrom (number : Nat) : List (List Char) → Except DumpError (List Instruction)
  | [] => .ok []
  | cs :: rest => do
    let i ← line number cs
    let is ← linesFrom (number + 1) rest
    return i :: is

def read (text : String) : Except DumpError (List Instruction) :=
  match lines (trim text.toList) with
  | [] => .error .empty
  | first :: rest =>
    let first := String.ofList (trim first)
    match readInteger first with
    | .error _ => .error (.count first)
    | .ok count =>
      if (rest.length : Int) = count then linesFrom 1 rest
      else .error (.lineCount count rest.length)

end Dump

end PacketFilter
