import PacketFilter.Instruction.Basic

/-
  Assembly text.

  The opcode is cut into bit fields, each of which names a part of the text: the
  class, and then the size and addressing mode of a load, the operation and
  operand of arithmetic and jumps, or what is returned. Jumps are printed as they
  are given. An opcode without a name is written as data.
-/

namespace PacketFilter.Assembly

open Text

/-- The immediate in capitals, at least four digits. -/
def immediate (k : UInt32) : String := "0x" ++ hexUpper 4 k.toNat

def literal (k : UInt32) : String := "#" ++ immediate k

/-- The letter for the size of a load: word, half-word or byte. -/
def sizeLetter? (opcode : UInt16) : Option String :=
  match (opcode &&& 0x18).toNat with
  | 0x00 => some ""
  | 0x08 => some "h"
  | 0x10 => some "b"
  | _ => none

/-- The operand of a load by its addressing mode. -/
def loadOperand? (opcode : UInt16) (k : UInt32) : Option String :=
  match (opcode &&& 0xe0).toNat with
  | 0x00 => some (literal k)
  | 0x20 => some ("[" ++ immediate k ++ "]")
  | 0x40 => some ("[x + " ++ immediate k ++ "]")
  | 0x60 => some ("M[" ++ immediate k ++ "]")
  | 0x80 => some "#pktlen"
  | 0xa0 => some ("4*([" ++ immediate k ++ "]&0xf)")
  | _ => none

def arithmeticName? (opcode : UInt16) : Option String :=
  match (opcode &&& 0xf0).toNat with
  | 0x00 => some "add"
  | 0x10 => some "sub"
  | 0x20 => some "mul"
  | 0x30 => some "div"
  | 0x40 => some "or"
  | 0x50 => some "and"
  | 0x60 => some "lsh"
  | 0x70 => some "rsh"
  | 0x80 => some "neg"
  | 0x90 => some "mod"
  | 0xa0 => some "xor"
  | _ => none

def jumpName? (opcode : UInt16) : Option String :=
  match (opcode &&& 0xf0).toNat with
  | 0x00 => some "ja"
  | 0x10 => some "jeq"
  | 0x20 => some "jgt"
  | 0x30 => some "jge"
  | 0x40 => some "jset"
  | _ => none

/-- The operand of arithmetic and jumps: the index register or the immediate. -/
def operand (opcode : UInt16) (k : UInt32) : String :=
  if opcode &&& 0x08 ≠ 0 then "x" else literal k

/-- A load into the register that `name` stands for. -/
def load? (name : String) (i : Instruction) : Option String := do
  let size ← sizeLetter? i.opcode
  let operand ← loadOperand? i.opcode i.k
  return name ++ size ++ "\t" ++ operand

/-- A store of the register that `name` stands for. -/
def store (name : String) (i : Instruction) : String := name ++ "\tM[" ++ immediate i.k ++ "]"

/-- An arithmetic operation; negation takes no operand. -/
def arithmetic? (i : Instruction) : Option String := do
  let name ← arithmeticName? i.opcode
  return if i.opcode &&& 0xf0 = 0x80 then name else name ++ "\t" ++ operand i.opcode i.k

/-- Where a jump goes: by `k`, or by either of two distances. -/
def jumpTarget (i : Instruction) : String :=
  if i.opcode &&& 0xf0 = 0x00 then "+" ++ i.kFigure.text
  else
    operand i.opcode i.k ++ " jt +" ++ i.jtFigure.text ++ " jf +" ++ i.jfFigure.text

def jump? (i : Instruction) : Option String :=
  (jumpName? i.opcode).map (fun name => name ++ "\t" ++ jumpTarget i)

/-- A return of the accumulator, the index register or the immediate. -/
def ret (i : Instruction) : String :=
  match (i.opcode &&& 0x18).toNat with
  | 0x10 => "ret\ta"
  | 0x08 => "ret\tx"
  | _ => "ret\t" ++ literal i.k

/-- A copy from one register to the other. -/
def transfer? (i : Instruction) : Option String :=
  match (i.opcode &&& 0xf8).toNat with
  | 0x00 => some "tax"
  | 0x80 => some "txa"
  | _ => none

def data (i : Instruction) : String :=
  ".word\t0x" ++ hex 4 i.opcode.toNat ++ " " ++ i.jtFigure.text ++ " " ++
    i.jfFigure.text ++ " 0x" ++ hex 8 i.k.toNat

/-- The text of an instruction that has a name. -/
def named? (i : Instruction) : Option String :=
  match (i.opcode &&& 0x07).toNat with
  | 0 => load? "ld" i
  | 1 => load? "ldx" i
  | 2 => some (store "st" i)
  | 3 => some (store "stx" i)
  | 4 => arithmetic? i
  | 5 => jump? i
  | 6 => some (ret i)
  | _ => transfer? i

def text (i : Instruction) : String := (named? i).getD (data i)

def line (position : Nat) (i : Instruction) : String :=
  "(" ++ String.ofList (zeroFill 3 (Nat.toDigits 10 position)) ++ ") " ++ text i

end PacketFilter.Assembly
