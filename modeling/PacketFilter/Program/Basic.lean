import PacketFilter.Instruction.Assembly

/-
  Programs: a sequence of instructions and where it came from.

  A program is exported as a decimal dump (`dump`: the count, then a line per
  instruction), as one line of bytecode (`bytecode`), as an assembly listing and
  as a document. Programs are the same code if their encodings agree in order.
-/

namespace PacketFilter

def Origin.generated : String := "generated"

def Origin.reference : String := "oracle"

structure Program where
  instructions : List Instruction
  /-- The filter the program is for. -/
  filterExpr : String := ""
  origin : String := Origin.generated
  /-- How the program was put together. -/
  rationale : Option String := none
  optimizations : List String := []
  /-- Whether a reference program stands in for a real one. -/
  mocked : Option Bool := none
  /-- The dump a reference program was read from. -/
  rawOutput : Option String := none
  deriving DecidableEq, Repr, Inhabited

namespace Program

/-- The encodings in order: what two programs with the same code share. -/
def code (p : Program) : List Encoding := p.instructions.map (·.toEncoding)

def sameCode (p q : Program) : Bool := p.code == q.code

def size (p : Program) : Nat := p.instructions.length

/-- How many different encodings there are. -/
def distinct (p : Program) : Nat := p.code.eraseDups.length

/-- Whether every instruction says what it is for. -/
def isTagged (p : Program) : Bool := p.instructions.all (·.purpose.isSome)

/-- The decimal dump of instructions: their count, then one per line. -/
def dumpOf (is : List Instruction) : String :=
  Text.unlines (Text.decimalNat is.length :: is.map Instruction.words)

def dump (p : Program) : String := dumpOf p.instructions

/-- The bytecode on one line. -/
def bytecode (p : Program) : String :=
  Text.decimalNat p.size ++ String.join (p.instructions.map (fun i => "," ++ i.words))

def listing (p : Program) : List String :=
  p.instructions.zipIdx.map (fun (i, position) => Assembly.line position i)

def toJson (p : Program) : Json :=
  .obj
    [("filter_expr", .str p.filterExpr),
     ("origin", .str p.origin),
     ("rationale", .ofText? p.rationale),
     ("optimizations", .texts p.optimizations),
     ("mocked", match p.mocked with
        | some b => .bool b
        | none => .null),
     ("raw_output", .ofText? p.rawOutput),
     ("instructions", .arr (p.instructions.map Instruction.toJson))]

end Program

end PacketFilter
