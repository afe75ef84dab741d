import PacketFilter.Text.Quoted

/-
  Text that may hold half a character.

  A character beyond the first 65536 may be written as a pair of surrogates, and
  a text from outside may hold one of the two alone. A loose text keeps such a
  surrogate, so that a message can quote it. Where the text has to be made of
  characters, the replacement character stands for it.
-/

namespace PacketFilter

/-- A character, or a surrogate that stands alone, counted from 0xd800. -/
inductive TextUnit where
  | char (c : Char)
  | lone (offset : Fin 0x800)
  deriving DecidableEq, Repr

namespace TextUnit

/-- What stands for a surrogate where only characters may stand. -/
def replacement : Char := '\uFFFD'

/-- The unit with a code of at most 16 bits. -/
def ofCode (n : Nat) : TextUnit :=
  if h : 0xd800 ≤ n ∧ n < 0xe000 then .lone ⟨n - 0xd800, by omega⟩ else .char (Char.ofNat n)

def loneCode (offset : Fin 0x800) : Nat := 0xd800 + offset.val

def toChar : TextUnit → Char
  | char c => c
  | lone _ => replacement

/-- The unit inside a text quoted with `quote`. -/
def quoted (quote : Char) : TextUnit → List Char
  | char c => Text.quotedChar quote c
  | lone offset => ['\\', 'u'] ++ Text.hexFixed 4 (loneCode offset)

end TextUnit

/-- A text that may hold surrogates that stand alone. -/
structure LooseText where
  units : List TextUnit
  deriving DecidableEq, Repr, Inhabited

namespace LooseText

def ofString (s : String) : LooseText := ⟨s.toList.map .char⟩

instance : Coe String LooseText := ⟨ofString⟩

def text (t : LooseText) : String := String.ofList (t.units.map TextUnit.toChar)

def isEmpty (t : LooseText) : Bool := t.units.isEmpty

def quoted (t : LooseText) : String :=
  let quote := Text.quoteFor (t.units.map TextUnit.toChar)
  String.ofList (quote :: t.units.flatMap (TextUnit.quoted quote) ++ [quote])

end LooseText

end PacketFilter
