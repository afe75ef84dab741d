import PacketFilter.Json.Basic
import PacketFilter.Number.Literal

/-
  JSON from text.

  `Json.read` reads one value with blanks around it. Whole numbers and
  floating-point numbers stay apart, the last of repeated names wins, and the
  names `NaN`, `Infinity` and `-Infinity` are numbers. A text that is no JSON is
  refused with the place of the first fault, counted in characters, lines and
  columns.
-/

namespace PacketFilter

open Text

/-- What is wrong at a place of a text that is no JSON. -/
inductive JsonFault where
  | expectingValue
  | expectingName
  | expectingColon
  | expectingComma
  | extraData
  | controlCharacter
  | unterminatedString
  | badEscape
  | badUnitEscape
  | byteOrderMark
  deriving DecidableEq, Repr

def JsonFault.text : JsonFault → String
  | expectingValue => "Expecting value"
  | expectingName => "Expecting property name enclosed in double quotes"
  | expectingColon => "Expecting ':' delimiter"
  | expectingComma => "Expecting ',' delimiter"
  | extraData => "Extra data"
  | controlCharacter => "Invalid control character at"
  | unterminatedString => "Unterminated string starting at"
  | badEscape => "Invalid \\escape"
  | badUnitEscape => "Invalid \\uXXXX escape"
  | byteOrderMark => "Unexpected UTF-8 BOM (decode using utf-8-sig)"

inductive Nest where
  | list
  | object
  deriving DecidableEq, Repr

def Nest.name : Nest → String
  | list => "array"
  | object => "object"

/-- Why a text is refused: a fault at a place, a number of too many digits, or
lists and objects inside each other too many times. -/
inductive JsonError where
  | fault (what : JsonFault) (position line column : Nat)
  | number (cause : LiteralError)
  | tooDeep (nest : Nest)
  deriving DecidableEq, Repr

def JsonError.message : JsonError → String
  | fault what position line column =>
    what.text ++ ": line " ++ decimalNat line ++ " column " ++ decimalNat column ++
      " (char " ++ decimalNat position ++ ")"
  | number cause => cause.message
  | tooDeep nest =>
    "maximum recursion depth exceeded while decoding a JSON " ++ nest.name ++
      " from a unicode string"

namespace Json.Reader

/-- What is left of the text, and how many characters came before it. -/
structure Cursor where
  rest : List Char
  position : Nat
  deriving DecidableEq, Repr

inductive Stop where
  | fault (what : JsonFault) (position : Nat)
  | number (cause : LiteralError)
  | tooDeep (nest : Nest)
  deriving DecidableEq, Repr

def isSpace (c : Char) : Bool := c == ' ' || c == '\t' || c == '\n' || c == '\r'

/-- The place after the blanks. -/
def skipSpace (cur : Cursor) : Cursor :=
  let space := cur.rest.takeWhile isSpace
  ⟨cur.rest.dropWhile isSpace, cur.position + space.length⟩

def hexValue? (c : Char) : Option Nat :=
  if '0' ≤ c ∧ c ≤ '9' then some (c.toNat - 48)
  else if 'a' ≤ c ∧ c ≤ 'f' then some (c.toNat - 87)
  else if 'A' ≤ c ∧ c ≤ 'F' then some (c.toNat - 55)
  else none

/-- The UTF-16 unit written with four hexadecimal digits. -/
def unit? (a b c d : Char) : Option Nat := do
  let a ← hexValue? a
  let b ← hexValue? b
  let c ← hexValue? c
  let d ← hexValue? d
  return ((a * 16 + b) * 16 + c) * 16 + d

/-- The character of a pair of UTF-16 units, if they form one. -/
def pairChar? (high low : Nat) : Option Char :=
  if 0xd800 ≤ high ∧ high < 0xdc00 ∧ 0xdc00 ≤ low ∧ low < 0xe000 then
    some (Char.ofNat (0x10000 + (high - 0xd800) * 0x400 + (low - 0xdc00)))
  else none

/-- The character after a backslash, other than the escape of a unit. -/
def escape? (c : Char) : Option Char :=
  if c = '\x22' ∨ c = '\\' ∨ c = '/' then some c
  else if c = 'b' then some '\x08'
  else if c = 'f' then some '\x0c'
  else if c = 'n' then some '\n'
  else if c = 'r' then some '\r'
  else if c = 't' then some '\t'
  else none

/-- What follows a UTF-16 unit. -/
inductive Partner where
  /-- Nothing that forms a pair with it. -/
  | none
  /-- The escape of a unit that cannot be read. -/
  | bad
  /-- The escape of a unit that forms a pair with it. -/
  | pair (c : Char)
  deriving DecidableEq, Repr

/-- What follows a UTF-16 unit. An escape counts only if something follows it. -/
def partner (unit : Nat) : List Char → Partner
  | '\\' :: 'u' :: a :: b :: c :: d :: _ :: _ =>
    if 0xd800 ≤ unit ∧ unit < 0xdc00 then
      match unit? a b c d with
      | none => .bad
      | some low =>
        match pairChar? unit low with
        | some ch => .pair ch
        | none => .none
    else .none
  | _ => .none

/-- The units of a string after its opening quote, which stood at `opening`;
`done` holds those already read, in reverse. -/
def stringFrom (opening : Nat) (done : List TextUnit) (position : Nat) :
    List Char → Except Stop (LooseText × Cursor)
  | [] => .error (.fault .unterminatedString opening)
  | '\\' :: [] => .error (.fault .unterminatedString opening)
  | '\\' :: 'u' :: a :: b :: c :: d :: after :: rest =>
    match unit? a b c d with
    | none => .error (.fault .badUnitEscape (position + 1))
    | some unit =>
      match partner unit (after :: rest) with
      | .bad => .error (.fault .badUnitEscape (position + 7))
      | .none => stringFrom opening (.ofCode unit :: done) (position + 6) (after :: rest)
      | .pair ch =>
        match rest with
        | _ :: _ :: _ :: _ :: _ :: rest => stringFrom opening (.char ch :: done) (position + 12) rest
        | _ => .error (.fault .unterminatedString opening)
  | '\\' :: 'u' :: _ => .error (.fault .badUnitEscape (position + 1))
  | '\\' :: c :: rest =>
    match escape? c with
    | some ch => stringFrom opening (.char ch :: done) (position + 2) rest
    | none => .error (.fault .badEscape position)
  | c :: rest =>
    if c = '\x22' then .ok (⟨done.reverse⟩, ⟨rest, position + 1⟩)
    else if c.toNat < 0x20 then .error (.fault .controlCharacter position)
    else stringFrom opening (.char c :: done) (position + 1) rest

/-- The ASCII digits a text starts with. -/
def digitsOf (cs : List Char) : List Char := cs.takeWhile Char.isDigit

def digitsValue (cs : List Char) : Nat := ofDigits (cs.map (fun c => c.toNat - 48))

/-- The exponent a text starts with: its value and its length. There is none
without a digit. -/
def exponent? : List Char → Option (Int × Nat)
  | e :: cs =>
    if e = 'e' ∨ e = 'E' then
      let (negative, cs, length) :=
        match cs with
        | '-' :: cs => (true, cs, 2)
        | '+' :: cs => (false, cs, 2)
        | cs => (false, cs, 1)
      let digits := digitsOf cs
      if digits.isEmpty then none
      else
        let n : Int := digitsValue digits
        some (if negative then -n else n, length + digits.length)
    else none
  | [] => none

/-- The fraction a text starts with: the digits after the point. -/
def fraction : List Char → List Char
  | '.' :: cs => digitsOf cs
  | _ => []

def number (cur : Cursor) : Except Stop (Number × Cursor) :=
  let negative := cur.rest.head? == some '-'
  let cs := if negative then cur.rest.drop 1 else cur.rest
  let whole :=
    match cs with
    | '0' :: _ => ['0']
    | cs => digitsOf cs
  if whole.isEmpty then .error (.fault .expectingValue cur.position)
  else
    let rest := cs.drop whole.length
    let places := fraction rest
    let rest := if places.isEmpty then rest else rest.drop (places.length + 1)
    let tail := exponent? rest
    let rest := rest.drop ((tail.map (·.2)).getD 0)
    let next : Cursor := ⟨rest, cur.position + (cur.rest.length - rest.length)⟩
    if places.isEmpty && tail.isNone then
      if maxDigits < whole.length then .error (.number (.tooManyDigits whole.length))
      else
        let n : Int := digitsValue whole
        .ok (.int (if negative then -n else n), next)
    else
      let e : Int := (tail.map (·.1)).getD 0
      .ok (.real (Binary64.ofDecimal negative (digitsValue (whole ++ places)) (e - places.length)), next)

def names : List (String × Json) :=
  [("null", .null), ("true", .bool true), ("false", .bool false),
   ("NaN", .num (.real .nan)), ("Infinity", .num (.real (.infinite false))),
   ("-Infinity", .num (.real (.infinite true)))]

def named? (cur : Cursor) : Option (Json × Cursor) :=
  (names.find? (fun entry => entry.1.toList.isPrefixOf cur.rest)).map
    (fun entry => (entry.2, ⟨cur.rest.drop entry.1.length, cur.position + entry.1.length⟩))

def Cursor.next (cur : Cursor) : Cursor := ⟨cur.rest.drop 1, cur.position + 1⟩

mutual

/-- The value at the cursor, with room for `room` lists and objects inside each
other. The first argument bounds the steps taken. -/
def value : Nat → Nat → Cursor → Except Stop (Json × Cursor)
  | 0, _, cur => .error (.fault .expectingValue cur.position)
  | fuel + 1, room, cur =>
    match cur.rest with
    | '\x22' :: rest =>
      (stringFrom cur.position [] (cur.position + 1) rest).map (fun r => (.str r.1, r.2))
    | '\x7b' :: _ =>
      if room = 0 then .error (.tooDeep .object)
      else
        let cur := skipSpace cur.next
        match cur.rest with
        | '\x7d' :: _ => .ok (.obj [], cur.next)
        | _ => members fuel (room - 1) [] cur
    | '[' :: _ =>
      if room = 0 then .error (.tooDeep .list)
      else
        let cur := skipSpace cur.next
        match cur.rest with
        | ']' :: _ => .ok (.arr [], cur.next)
        | _ => items fuel (room - 1) [] cur
    | _ =>
      match named? cur with
      | some found => .ok found
      | none => (number cur).map (fun r => (.num r.1, r.2))

/-- The items of a list from the cursor on, after those in `done`, which are in
reverse. -/
def items : Nat → Nat → List Json → Cursor → Except Stop (Json × Cursor)
  | 0, _, _, cur => .error (.fault .expectingValue cur.position)
  | fuel + 1, room, done, cur => do
    let (v, cur) ← value fuel room cur
    let cur := skipSpace cur
    match cur.rest with
    | ']' :: _ => .ok (.arr (v :: done).reverse, cur.next)
    | ',' :: _ => items fuel room (v :: done) (skipSpace cur.next)
    | _ => .error (.fault .expectingComma cur.position)

/-- The fields of an object from the cursor on, after those in `done`. -/
def members : Nat → Nat → List (LooseText × Json) → Cursor → Except Stop (Json × Cursor)
  | 0, _, _, cur => .error (.fault .expectingName cur.position)
  | fuel + 1, room, done, cur =>
    match cur.rest with
    | '\x22' :: rest => do
      let (name, cur) ← stringFrom cur.position [] (cur.position + 1) rest
      let cur := skipSpace cur
      match cur.rest with
      | ':' :: _ => do
        let (v, cur) ← value fuel room (skipSpace cur.next)
        let cur := skipSpace cur
        let done := setField name v done
        match cur.rest with
        | '\x7d' :: _ => .ok (.obj done, cur.next)
        | ',' :: _ => members fuel room done (skipSpace cur.next)
        | _ => .error (.fault .expectingComma cur.position)
      | _ => .error (.fault .expectingColon cur.position)
    | _ => .error (.fault .expectingName cur.position)

end

/-- The value that makes up the whole text, with room for `room` lists and objects
inside each other. -/
def document (room : Nat) (cs : List Char) : Except Stop Json :=
  if cs.head? = some '\uFEFF' then .error (.fault .byteOrderMark 0)
  else do
    -- a level of nesting takes two steps and at least one character
    let (v, cur) ← value (2 * cs.length + 2) room (skipSpace ⟨cs, 0⟩)
    let cur := skipSpace cur
    if cur.rest.isEmpty then .ok v else .error (.fault .extraData cur.position)

/-- The line of a position, from one. -/
def lineOf (cs : List Char) (position : Nat) : Nat := (cs.take position).count '\n' + 1

/-- The column of a position, from one. -/
def columnOf (cs : List Char) (position : Nat) : Nat :=
  ((cs.take position).reverse.takeWhile (· != '\n')).length + 1

end Json.Reader

/-- The value a text holds. A reader that goes down into lists and objects on a
stack has room for `room` of them inside each other. -/
def Json.read (room : Nat) (text : String) : Except JsonError Json :=
  let cs := text.toList
  match Json.Reader.document room cs with
  | .ok v => .ok v
  | .error (.number cause) => .error (.number cause)
  | .error (.tooDeep nest) => .error (.tooDeep nest)
  | .error (.fault what position) =>
    .error (.fault what position (Json.Reader.lineOf cs position) (Json.Reader.columnOf cs position))

end PacketFilter
