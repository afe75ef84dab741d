import PacketFilter.Program.Basic

/-
  Building a program step by step.

  A builder collects instructions and notes; the jumps of an instruction can be
  set again after it was added, once their targets are known. `finalize` hands
  out the program and retires the builder: no later step changes it. Jumps are
  only checked to be numbers within range when they are set; that they are whole
  numbers is checked when an instruction is made of them.
-/

namespace PacketFilter

inductive BuilderError where
  /-- The builder has handed out its program. -/
  | finalized
  /-- There is no instruction to set the jumps of. -/
  | noInstruction (position : Json)
  /-- There is no instruction to look at. -/
  | outOfRange
  /-- A position that no list is long enough for. -/
  | hugePosition
  /-- A position that is no whole number. -/
  | notPosition (value : Json)
  /-- A value that is no number and has no place before or after numbers. -/
  | notOrdered (value : Json)
  /-- A jump is too long for its field. -/
  | jumpTooFar (jt jf : Json)
  /-- A field does not fit. -/
  | range (cause : RangeError)
  deriving DecidableEq, Repr

def BuilderError.message : BuilderError → String
  | finalized => "Invalid state - program already finalized"
  | noInstruction position => "No instruction at position " ++ position.plain
  | outOfRange => "list index out of range"
  | hugePosition => "cannot fit 'int' into an index-sized integer"
  | notPosition value => "list indices must be integers or slices, not " ++ value.kind
  | notOrdered value =>
    "'<' not supported between instances of '" ++ value.kind ++ "' and 'int'"
  | jumpTooFar jt jf => "A jump of " ++ jt.plain ++ " " ++ jf.plain ++ " is a jump too far"
  | range cause => cause.message

/-- An instruction under construction: its fields as they were given. -/
structure Draft where
  opcode : Json
  jt : Json
  jf : Json
  k : Json
  purpose : Option Purpose
  deriving DecidableEq, Repr

def Draft.instruction (d : Draft) : Except RangeError Instruction :=
  Instruction.make? d.opcode d.jt d.jf d.k d.purpose

/-- The instructions and notes collected so far. -/
structure Builder where
  drafts : List Draft := []
  notes : List String := []
  finalized : Bool := false
  deriving DecidableEq, Repr, Inhabited

namespace Builder

def empty : Builder := {}

/-- How many instructions there are, which is where the next one goes. -/
def size (b : Builder) : Nat := b.drafts.length

/-- Refuses every step once the program is handed out. -/
def whileOpen {α : Type} (b : Builder) (step : Except BuilderError α) : Except BuilderError α :=
  if b.finalized then .error .finalized else step

/-- The builder with one more instruction, and where it went. -/
def add (b : Builder) (opcode jt jf k : Json) (purpose : Option Purpose) :
    Except BuilderError (Builder × Nat) :=
  b.whileOpen <|
    let draft : Draft := ⟨opcode, jt, jf, k, purpose⟩
    match draft.instruction with
    | .ok _ => .ok ({ b with drafts := b.drafts ++ [draft] }, b.size)
    | .error cause => .error (.range cause)

/-- The number a value is, so that it can be compared with others. -/
def ordered (v : Json) : Except BuilderError Number :=
  match v.number? with
  | some n => .ok n
  | none => .error (.notOrdered v)

/-- Checks that a value lies within the positions of the builder. -/
def checkPosition (b : Builder) (position : Json) : Except BuilderError Unit := do
  let n ← ordered position
  if n.below 0 || n.atLeast b.size then .error (.noInstruction position) else .ok ()

/-- Checks that both jumps fit in their fields. The second is not looked at if the
first is negative. -/
def checkJumps (jt jf : Json) : Except BuilderError Unit := do
  let t ← ordered jt
  if t.below 0 then .error (.jumpTooFar jt jf)
  else
    let f ← ordered jf
    if f.below 0 || t.above FieldName.jt.limit || f.above FieldName.jf.limit then
      .error (.jumpTooFar jt jf)
    else .ok ()

/-- The builder with the jumps of an instruction set. -/
def patch (b : Builder) (position jt jf : Json) : Except BuilderError Builder :=
  b.whileOpen <| do
    b.checkPosition position
    checkJumps jt jf
    match position.int? with
    | some n =>
      .ok { b with drafts := b.drafts.modify n.toNat (fun d => { d with jt := jt, jf := jf }) }
    | none => .error (.notPosition position)

def note (b : Builder) (text : String) : Except BuilderError Builder :=
  b.whileOpen (.ok { b with notes := b.notes ++ [text] })

/-- The draft at a position; a negative position counts from the end. -/
def draft? (b : Builder) (position : Int) : Option Draft :=
  if 0 ≤ position then b.drafts[position.toNat]?
  else if position.natAbs ≤ b.size then b.drafts[b.size - position.natAbs]?
  else none

/-- Whether a list may be long enough to have a position. -/
def isIndex (position : Int) : Bool :=
  -0x8000000000000000 ≤ position && position < 0x8000000000000000

/-- The instruction at a position, as it stands. -/
def get (b : Builder) (position : Json) : Except BuilderError Instruction :=
  match position.int? with
  | none => .error (.notPosition position)
  | some n =>
    if !isIndex n then .error .hugePosition
    else
      match b.draft? n with
      | some d => d.instruction.mapError .range
      | none => .error .outOfRange

/-- The retired builder and its program. The builder is retired even if a draft
stands for no instruction. -/
def finalize (b : Builder) (filterExpr : String) (rationale : Option String) :
    Builder × Except BuilderError Program :=
  if b.finalized then (b, .error .finalized)
  else
    ({ b with finalized := true },
     match b.drafts.mapM Draft.instruction with
     | .ok is =>
       .ok { instructions := is, filterExpr := filterExpr, rationale := rationale,
             optimizations := b.notes }
     | .error cause => .error (.range cause))

end Builder

end PacketFilter
