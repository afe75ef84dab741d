import PacketFilter.Text.Printable

/-
  Quoted text, as messages show a value they were given.

  A text stands between single quotes, or between double quotes if it holds a
  single quote and no double one. A backslash and the quote in use are escaped,
  so are line feed, carriage return and tab, and a character that cannot be
  printed is written by its code point.
-/

namespace PacketFilter.Text

/-- The digit of value `d` below 16, in lower case. -/
def hexDigit (d : Nat) : Char :=
  if d < 10 then Char.ofNat (0x30 + d) else Char.ofNat (0x57 + d)

/-- The last `width` digits of `n` in base 16. -/
def hexFixed : Nat → Nat → List Char
  | 0, _ => []
  | width + 1, n => hexFixed width (n / 16) ++ [hexDigit (n % 16)]

/-- A character inside a text quoted with `quote`. -/
def quotedChar (quote c : Char) : List Char :=
  if c = quote || c = '\\' then ['\\', c]
  else if c = '\n' then ['\\', 'n']
  else if c = '\r' then ['\\', 'r']
  else if c = '\t' then ['\\', 't']
  else if isPrintable c then [c]
  else if c.toNat < 0x100 then ['\\', 'x'] ++ hexFixed 2 c.toNat
  else if c.toNat < 0x10000 then ['\\', 'u'] ++ hexFixed 4 c.toNat
  else ['\\', 'U'] ++ hexFixed 8 c.toNat

/-- The quote a text is shown with. -/
def quoteFor (cs : List Char) : Char :=
  if cs.contains '\x27' && !cs.contains '\x22' then '\x22' else '\x27'

/-- A text in quotes. -/
def quotedChars (cs : List Char) : List Char :=
  let quote := quoteFor cs
  quote :: cs.flatMap (quotedChar quote) ++ [quote]

def quoted (s : String) : String := String.ofList (quotedChars s.toList)

end PacketFilter.Text
