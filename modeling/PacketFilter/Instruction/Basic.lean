import PacketFilter.Json.Text
import PacketFilter.Purpose
import PacketFilter.Text.Layout

/-
  Instructions of the classic packet-filter machine.

  An instruction is a 16-bit opcode, two 8-bit forward jumps and a 32-bit
  immediate (its encoding), and may carry a tag that says what it is for. Two
  instructions are the same code if their encodings agree. `Instruction.make?`
  builds one from loose values and names the first field that does not fit. A
  field may be given as a truth value; it is then encoded as zero or one, and the
  instruction remembers how it was spelled. No other number is ever spelled in
  that way, which an instruction carries with it (`Spelling.Suits`).
-/

namespace PacketFilter

/-- The four fields an instruction is encoded in. -/
structure Encoding where
  opcode : UInt16
  jt : UInt8
  jf : UInt8
  k : UInt32
  deriving DecidableEq, Repr, Inhabited

/-- Which fields of an instruction were given as truth values. -/
structure Spelling where
  opcode : Bool := false
  jt : Bool := false
  jf : Bool := false
  k : Bool := false
  deriving DecidableEq, Repr, Inhabited

def Encoding.ofWholes (opcode jt jf k : Whole) : Encoding :=
  ⟨opcode.value.toNat.toUInt16, jt.value.toNat.toUInt8, jf.value.toNat.toUInt8,
    k.value.toNat.toUInt32⟩

namespace Spelling

def ofWholes (opcode jt jf k : Whole) : Spelling :=
  ⟨opcode.isTruth, jt.isTruth, jf.isTruth, k.isTruth⟩

/-- A field that is spelled as a truth value is zero or one. -/
structure Suits (s : Spelling) (e : Encoding) : Prop where
  opcode : s.opcode = true → e.opcode.toNat ≤ 1
  jt : s.jt = true → e.jt.toNat ≤ 1
  jf : s.jf = true → e.jf.toNat ≤ 1
  k : s.k = true → e.k.toNat ≤ 1

/-- Whether only zero and one are spelled as truth values. Numbers that are all
spelled as numbers need not be looked at. -/
def suits (s : Spelling) (e : Encoding) : Bool :=
  (!s.opcode || decide (e.opcode.toNat ≤ 1)) && (!s.jt || decide (e.jt.toNat ≤ 1)) &&
    (!s.jf || decide (e.jf.toNat ≤ 1)) && (!s.k || decide (e.k.toNat ≤ 1))

theorem suits_iff {s : Spelling} {e : Encoding} : s.suits e = true ↔ s.Suits e := by
  have himp (b : Bool) (p : Prop) [Decidable p] : (!b || decide p) = true ↔ (b = true → p) := by
    cases b <;> simp
  simp only [suits, Bool.and_eq_true, himp]
  exact ⟨fun ⟨⟨⟨ho, ht⟩, hf⟩, hk⟩ => ⟨ho, ht, hf, hk⟩, fun h => ⟨⟨⟨h.opcode, h.jt⟩, h.jf⟩, h.k⟩⟩

theorem ofWholes_suits (opcode jt jf k : Whole) :
    (ofWholes opcode jt jf k).Suits (.ofWholes opcode jt jf k) where
  opcode h := Nat.le_trans (Nat.mod_le ..) (Whole.value_toNat_le_one h)
  jt h := Nat.le_trans (Nat.mod_le ..) (Whole.value_toNat_le_one h)
  jf h := Nat.le_trans (Nat.mod_le ..) (Whole.value_toNat_le_one h)
  k h := Nat.le_trans (Nat.mod_le ..) (Whole.value_toNat_le_one h)

end Spelling

/-- An instruction: its encoding, what it is for if it says so, and how its
fields are spelled. -/
@[ext]
structure Instruction extends Encoding where
  purpose : Option Purpose := none
  spelling : Spelling := {}
  suits : spelling.suits toEncoding = true := by exact Eq.refl true
  deriving DecidableEq, Repr

inductive FieldName where
  | opcode
  | jt
  | jf
  | k
  deriving DecidableEq, Repr

namespace FieldName

def text : FieldName → String
  | opcode => "opcode"
  | jt => "jt"
  | jf => "jf"
  | k => "k"

/-- The greatest value the field holds. -/
def limit : FieldName → Nat
  | opcode => 0xffff
  | jt => 0xff
  | jf => 0xff
  | k => 0xffffffff

end FieldName

/-- A value that does not fit in a field. -/
structure RangeError where
  field : FieldName
  value : Json
  deriving DecidableEq, Repr

def RangeError.message (e : RangeError) : String :=
  e.field.text ++ " " ++ e.value.quoted ++ " does not fit in 0.." ++ Text.decimalNat e.field.limit

namespace FieldName

/-- The value of a field, which is a whole number within its limit. -/
def fit (field : FieldName) (v : Json) : Except RangeError Whole :=
  match v.whole? with
  | some w => if 0 ≤ w.value ∧ w.value ≤ field.limit then .ok w else .error ⟨field, v⟩
  | none => .error ⟨field, v⟩

end FieldName

namespace Encoding

/-- The fields as a row of a table of bytecode. -/
def row (e : Encoding) : String :=
  "\x7b 0x" ++ Text.hex 4 e.opcode.toNat ++ ", " ++ Text.padLeft 3 (Text.decimalNat e.jt.toNat) ++
    ", " ++ Text.padLeft 3 (Text.decimalNat e.jf.toNat) ++ ", 0x" ++ Text.hex 8 e.k.toNat ++ " \x7d"

end Encoding

namespace Instruction

def ofWholes (opcode jt jf k : Whole) (purpose : Option Purpose) : Instruction where
  toEncoding := .ofWholes opcode jt jf k
  purpose := purpose
  spelling := .ofWholes opcode jt jf k
  suits := Spelling.suits_iff.mpr (Spelling.ofWholes_suits opcode jt jf k)

section
variable (opcode jt jf k : Whole) (purpose : Option Purpose)

@[simp] theorem toEncoding_ofWholes :
    (ofWholes opcode jt jf k purpose).toEncoding = .ofWholes opcode jt jf k := rfl

@[simp] theorem spelling_ofWholes :
    (ofWholes opcode jt jf k purpose).spelling = .ofWholes opcode jt jf k := rfl

@[simp] theorem purpose_ofWholes : (ofWholes opcode jt jf k purpose).purpose = purpose := rfl

end

/-- The instruction with the given fields, each of which has to fit. -/
def make? (opcode jt jf k : Json) (purpose : Option Purpose) : Except RangeError Instruction := do
  let opcode ← FieldName.opcode.fit opcode
  let jt ← FieldName.jt.fit jt
  let jf ← FieldName.jf.fit jf
  let k ← FieldName.k.fit k
  return .ofWholes opcode jt jf k purpose

def opcodeFigure (i : Instruction) : Whole := .ofNat i.opcode.toNat i.spelling.opcode

/-- The jump taken if a check holds, as it is spelled. -/
def jtFigure (i : Instruction) : Whole := .ofNat i.jt.toNat i.spelling.jt

/-- The jump taken if a check fails, as it is spelled. -/
def jfFigure (i : Instruction) : Whole := .ofNat i.jf.toNat i.spelling.jf

def kFigure (i : Instruction) : Whole := .ofNat i.k.toNat i.spelling.k

/-- The four fields as they are spelled. -/
def figures (i : Instruction) : List Whole :=
  [i.opcodeFigure, i.jtFigure, i.jfFigure, i.kFigure]

section
variable (i : Instruction)

theorem truths : i.spelling.Suits i.toEncoding := Spelling.suits_iff.mp i.suits

@[simp] theorem opcodeFigure_value : i.opcodeFigure.value = i.opcode.toNat :=
  Whole.value_ofNat i.truths.opcode

@[simp] theorem jtFigure_value : i.jtFigure.value = i.jt.toNat := Whole.value_ofNat i.truths.jt

@[simp] theorem jfFigure_value : i.jfFigure.value = i.jf.toNat := Whole.value_ofNat i.truths.jf

@[simp] theorem kFigure_value : i.kFigure.value = i.k.toNat := Whole.value_ofNat i.truths.k

/-- The figures of an instruction make it again. -/
theorem ofWholes_figures :
    ofWholes i.opcodeFigure i.jtFigure i.jfFigure i.kFigure i.purpose = i := by
  have hspelling : Spelling.ofWholes i.opcodeFigure i.jtFigure i.jfFigure i.kFigure = i.spelling := by
    simp [Spelling.ofWholes, opcodeFigure, jtFigure, jfFigure, kFigure]
  ext <;> simp [Encoding.ofWholes, hspelling]

end

/-- The fields with blanks between them. -/
def words (i : Instruction) : String := " ".intercalate (i.figures.map Whole.text)

def toJson (i : Instruction) : Json :=
  .obj (("code", .arr (i.figures.map .whole)) ::
    (match i.purpose with
     | some p => [("purpose", .str p.name)]
     | none => []))

end Instruction

end PacketFilter
