import PacketFilter.Json.Text

/-
  JSON in writing.

  `render` writes a value on one line, or over several lines with a given
  indentation. Characters other than the printable ASCII ones are written by
  their UTF-16 units.
-/

namespace PacketFilter.Json

open PacketFilter.Text

/-- A UTF-16 unit by its code. -/
def unitEscape (n : Nat) : List Char := ['\\', 'u'] ++ hexFixed 4 n

/-- A character inside a JSON text. -/
def escapeChar (c : Char) : List Char :=
  let n := c.toNat
  if c = '\x22' || c = '\\' then ['\\', c]
  else if c = '\n' then ['\\', 'n']
  else if c = '\r' then ['\\', 'r']
  else if c = '\t' then ['\\', 't']
  else if n = 0x08 then ['\\', 'b']
  else if n = 0x0c then ['\\', 'f']
  else if 0x20 ≤ n && n < 0x7f then [c]
  else if n < 0x10000 then unitEscape n
  else unitEscape (0xd800 + (n - 0x10000) / 0x400) ++ unitEscape (0xdc00 + (n - 0x10000) % 0x400)

/-- A unit of a text inside a JSON text. -/
def escapeUnit : TextUnit → List Char
  | .char c => escapeChar c
  | .lone offset => unitEscape (TextUnit.loneCode offset)

def stringLiteral (s : LooseText) : String :=
  String.ofList ('\x22' :: s.units.flatMap escapeUnit ++ ['\x22'])

/-- A number as JSON writes it; infinities and the number that is none have
names of their own. -/
def numberLiteral : Number → String
  | .real (.infinite s) => Binary64.signText s ++ "Infinity"
  | .real .nan => "NaN"
  | n => n.text

/-- How the items of a list or an object are set apart. -/
structure Style where
  /-- What indents a line once per level; without it all is on one line. -/
  indent? : Option String
  deriving DecidableEq, Repr

namespace Style

/-- Everything on one line. -/
def compact : Style := ⟨none⟩

/-- A line per item, indented by `n` blanks per level. -/
def indented (n : Nat) : Style := ⟨some (String.ofList (List.replicate n ' '))⟩

/-- What stands before the first item and after the last at a nesting depth. -/
def lineBreak (style : Style) (depth : Nat) : String :=
  match style.indent? with
  | none => ""
  | some indent => "\n" ++ String.join (List.replicate depth indent)

/-- What stands between two items at a nesting depth. -/
def separator (style : Style) (depth : Nat) : String :=
  match style.indent? with
  | none => ", "
  | some _ => "," ++ style.lineBreak depth

/-- Items in brackets at a nesting depth. -/
def bracket (style : Style) (depth : Nat) (opening closing : String) (items : List String) : String :=
  if items.isEmpty then opening ++ closing
  else
    opening ++ style.lineBreak (depth + 1) ++ (style.separator (depth + 1)).intercalate items ++
      style.lineBreak depth ++ closing

end Style

mutual

/-- A value at a nesting depth. -/
def renderAt (style : Style) (depth : Nat) : Json → String
  | null => "null"
  | bool b => if b then "true" else "false"
  | num n => numberLiteral n
  | str s => stringLiteral s
  | arr items => style.bracket depth "[" "]" (renderItems style (depth + 1) items)
  | obj fields => style.bracket depth "\x7b" "\x7d" (renderFields style (depth + 1) fields)

def renderItems (style : Style) (depth : Nat) : List Json → List String
  | [] => []
  | v :: rest => renderAt style depth v :: renderItems style depth rest

def renderFields (style : Style) (depth : Nat) : List (LooseText × Json) → List String
  | [] => []
  | (name, v) :: rest =>
    (stringLiteral name ++ ": " ++ renderAt style depth v) :: renderFields style depth rest

end

def render (style : Style) (v : Json) : String := renderAt style 0 v

end PacketFilter.Json
