import PacketFilter.Number.Literal
import PacketFilter.Text.Alphanumeric

/-
  The tokens of filter expressions.

  Blanks and tabs separate tokens. A token is `&&`, a dotted address (four runs
  of decimal digits), or a word of letters, numbers and underscores: a word of
  numeric characters is a number, any other word has to be a keyword in some
  letter case. `scan` cuts a text into tokens up to the first place where none
  can be read, and says what stops it there.
-/

namespace PacketFilter.Expression

open Text

inductive Keyword where
  | dst
  | src
  | host
  | port
  | tcp
  | udp
  | icmp
  | and
  deriving DecidableEq, Repr

namespace Keyword

/-- The keyword in lower case. -/
def text : Keyword → String
  | dst => "dst"
  | src => "src"
  | host => "host"
  | port => "port"
  | tcp => "tcp"
  | udp => "udp"
  | icmp => "icmp"
  | and => "and"

def all : List Keyword := [dst, src, host, port, tcp, udp, icmp, and]

/-- The keyword a word spells, in any letter case. -/
def ofWord? (word : String) : Option Keyword := all.find? (fun k => k.text == lower word)

end Keyword

/-- A token. A keyword keeps its spelling. -/
inductive Token where
  | keyword (k : Keyword) (spelling : String)
  | address (text : String)
  | number (n : Int)
  deriving DecidableEq, Repr

def Token.text : Token → String
  | keyword _ spelling => spelling
  | address text => text
  | number n => decimal n

inductive ScanError where
  | illegalCharacter (c : Char) (position : Nat)
  | unsupportedKeyword (word : String)
  | numeral (cause : LiteralError)
  deriving DecidableEq, Repr

/-- A run of decimal digits and a point, taken from the front of a text: the
characters taken, and the rest. -/
def digitsAndPoint? (cs : List Char) : Option (List Char × List Char) :=
  let digits := cs.takeWhile isDecimal
  match cs.dropWhile isDecimal with
  | '.' :: rest => if digits.isEmpty then none else some (digits ++ ['.'], rest)
  | _ => none

/-- The dotted address at the front of a text. -/
def dotted? (cs : List Char) : Option (List Char) := do
  let (a, cs) ← digitsAndPoint? cs
  let (b, cs) ← digitsAndPoint? cs
  let (c, cs) ← digitsAndPoint? cs
  let d := cs.takeWhile isDecimal
  if d.isEmpty then none else some (a ++ b ++ c ++ d)

def wordToken (word : String) : Except ScanError Token :=
  if word.toList.all isNumeric then
    match readInteger word with
    | .ok n => .ok (.number n)
    | .error cause => .error (.numeral cause)
  else
    match Keyword.ofWord? word with
    | some k => .ok (.keyword k word)
    | none => .error (.unsupportedKeyword word)

/-- The token at the front of a text that starts with `c`, and how many
characters after `c` belong to it. -/
def tokenAt (position : Nat) (c : Char) (cs : List Char) : Except ScanError (Token × Nat) :=
  if c = '&' ∧ cs.head? = some '&' then .ok (.keyword .and "&&", 1)
  else
    match dotted? (c :: cs) with
    | some chars => .ok (.address (String.ofList chars), chars.length - 1)
    | none =>
      if isWordChar c then
        let tail := cs.takeWhile isWordChar
        (wordToken (String.ofList (c :: tail))).map (fun t => (t, tail.length))
      else .error (.illegalCharacter c position)

/-- The tokens of a text up to the first place where none can be read, and what
stops the reading there. -/
structure Scan where
  tokens : List Token
  stop : Option ScanError
  deriving DecidableEq, Repr

/-- Blanks between tokens. -/
def isGap (c : Char) : Bool := c == ' ' || c == '\t'

/-- The tokens of a text from `position` on. -/
def scanFrom (position : Nat) : List Char → Scan
  | [] => ⟨[], none⟩
  | c :: cs =>
    if isGap c then scanFrom (position + 1) cs
    else
      match tokenAt position c cs with
      | .error e => ⟨[], some e⟩
      | .ok (token, length) =>
        let later := scanFrom (position + 1 + length) (cs.drop length)
        { later with tokens := token :: later.tokens }
termination_by cs => cs.length
decreasing_by
  all_goals simp only [List.length_cons, List.length_drop]; omega

def scan (text : String) : Scan := scanFrom 0 text.toList

end PacketFilter.Expression
