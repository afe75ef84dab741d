import PacketFilter.Address.V4
import PacketFilter.Builder
import PacketFilter.Filter.Phrases
import PacketFilter.Instruction.Opcode
import PacketFilter.Log

/-
  Compiling a filter to a fail-fast program.

  The program has five stages, each present only if the filter asks for it: the
  Ethernet type, the protocol, the addresses, the ports of a packet that is no
  later fragment, and the pair of returns. Every check is added with jumps yet
  to be set. Once the returns are there, the true jump of each check goes to the
  accepting one and the false jump to the rejecting one, counted from the check
  itself; the jumps of the fragment check are set as soon as the port checks are
  out.
-/

namespace PacketFilter

/-- Why a filter that was not checked cannot be compiled. -/
inductive CompileError where
  /-- A protocol without a number. -/
  | protocol (value : Json)
  | address (cause : Address.V4Error)
  | builder (cause : BuilderError)
  | label (cause : JoinError)
  deriving DecidableEq, Repr

namespace CompileError

/-- An instruction of the program does not fit. -/
def range (cause : RangeError) : CompileError := .builder (.range cause)

def message : CompileError → String
  | protocol value =>
    match value with
    | .arr _ | .obj _ => "unhashable type: '" ++ value.kind ++ "'"
    | _ => value.quoted
  | address cause => cause.message
  | builder cause => cause.message
  | label cause => cause.message

end CompileError

/-- The number of a protocol by its exact name. -/
def protocolNumber (v : Json) : Except CompileError Nat :=
  match v with
  | .str s =>
    match Protocol.ofName? s.text with
    | some p => .ok p.number
    | none => .error (.protocol v)
  | _ => .error (.protocol v)

def addressWord (v : Json) : Except CompileError Nat := (Address.V4.ofJson v).mapError .address

namespace FailFast

/-- A program under construction: the builder, where the checks are, and the
reasons given so far. -/
structure Work where
  builder : Builder := .empty
  checks : List Nat := []
  reasons : List String := []
  deriving DecidableEq, Repr

namespace Work

def because (w : Work) (reason : String) : Work := { w with reasons := w.reasons ++ [reason] }

/-- Adds an instruction without jumps, and says where it went. -/
def emit (w : Work) (opcode : UInt16) (k : Json) (purpose : Purpose) :
    Except CompileError (Work × Nat) :=
  match w.builder.add (.nat opcode.toNat) (.nat 0) (.nat 0) k (some purpose) with
  | .ok (b, position) => .ok ({ w with builder := b }, position)
  | .error cause => .error (.builder cause)

def load (w : Work) (opcode : UInt16) (k : Nat) (purpose : Purpose) : Except CompileError Work :=
  (w.emit opcode (.nat k) purpose).map (·.1)

/-- Adds a check for equality, whose jumps are set at the end. -/
def check (w : Work) (k : Json) (purpose : Purpose) : Except CompileError Work := do
  let (w, position) ← w.emit Opcode.jumpEqual k purpose
  return { w with checks := w.checks ++ [position] }

def patch (w : Work) (position : Nat) (jt jf : Int) : Except CompileError Work :=
  match w.builder.patch (.nat position) (.int jt) (.int jf) with
  | .ok b => .ok { w with builder := b }
  | .error cause => .error (.builder cause)

def note (w : Work) (text : String) : Except CompileError Work :=
  match w.builder.note text with
  | .ok b => .ok { w with builder := b }
  | .error cause => .error (.builder cause)

end Work

/-- Stage 1: the packet is IPv4. -/
def ethertypeStage (w : Work) : Except CompileError Work := do
  let w := w.because "1) Early IP validation"
  let w ← w.load Opcode.loadHalf Offset.ethertype .loadEthertype
  w.check (.nat ethertypeIPv4) .checkEthertype

/-- Stage 2: the protocol. -/
def protocolStage (f : Filter) (w : Work) : Except CompileError Work :=
  match f.protocol with
  | none => .ok w
  | some v => do
    let w := w.because "2) Protocol-specific filtering"
    let w ← w.load Opcode.loadByte Offset.protocol .loadProtocol
    let number ← protocolNumber v
    w.check (.nat number) .checkProtocol

def addressCheck (address : Option Json) (offset : Nat) (loading checking : Purpose) (w : Work) :
    Except CompileError Work :=
  match address with
  | none => .ok w
  | some v => do
    let w ← w.load Opcode.loadWord offset loading
    let word ← addressWord v
    w.check (.nat word) checking

/-- Stage 3: the addresses. -/
def addressStage (f : Filter) (w : Work) : Except CompileError Work :=
  if f.srcIp.isNone && f.dstIp.isNone then .ok w
  else do
    let w := w.because "3) IP address filtering"
    let w ← addressCheck f.srcIp Offset.srcAddr .loadSrcAddr .checkSrcAddr w
    addressCheck f.dstIp Offset.dstAddr .loadDstAddr .checkDstAddr w

def portCheck (port : Option Json) (offset : Nat) (loading checking : Purpose) (w : Work) :
    Except CompileError Work :=
  match port with
  | none => .ok w
  | some v => do
    let w ← w.load Opcode.loadHalfIndexed offset loading
    w.check v checking

/-- Stage 4: the ports, which only the first fragment of a packet holds. The
fragment check jumps past the accepting return, which comes right after the last
port check. -/
def portStage (f : Filter) (w : Work) : Except CompileError Work :=
  if !f.hasPorts then .ok w
  else do
    let w := w.because "4) Fragment-aware port filtering"
    let w ← w.load Opcode.loadHalf Offset.fragment .loadFragInfo
    let (w, fragment) ← w.emit Opcode.jumpSet (.nat fragmentMask) .checkFragment
    let w ← w.load Opcode.loadHeaderLen Offset.ipHeader .loadHeaderLen
    let w ← portCheck f.srcPort Offset.srcPort .loadSrcPort .checkSrcPort w
    let w ← portCheck f.dstPort Offset.dstPort .loadDstPort .checkDstPort w
    let rejecting := w.builder.size + 1
    w.patch fragment ((rejecting : Int) - fragment) 1

/-- Stage 5: the accepting and the rejecting return, and where they are. -/
def returnStage (w : Work) : Except CompileError (Work × Nat × Nat) := do
  let w := w.because "5) Optimized accept/reject with minimal instructions"
  let (w, accepting) ← w.emit Opcode.ret (.nat acceptLength) .accept
  let (w, rejecting) ← w.emit Opcode.ret (.nat rejectLength) .reject
  return (w, accepting, rejecting)

/-- Sets the jumps of the checks at the given positions. -/
def resolve (accepting rejecting : Nat) : List Nat → Work → Except CompileError Work
  | [], w => .ok w
  | position :: rest, w => do
    let w ← w.patch position ((accepting : Int) - position) ((rejecting : Int) - position)
    resolve accepting rejecting rest w

/-- What is worth noting about the program for a filter. -/
def notes (f : Filter) : List String :=
  (if f.protocol.isSome && f.hasPorts then
    ["Combined protocol and port filtering in single pass"] else []) ++
  (if f.srcIp.isSome && f.dstIp.isSome then
    ["Dual IP address filtering with early termination"] else []) ++
  (if f.hasPorts then ["Fragment-aware port filtering prevents false matches"] else []) ++
  ["Minimal instruction count with structured validation"]

/-- The instructions of the program, with all jumps set. -/
def assemble (f : Filter) : Except CompileError Work := do
  let w ← ethertypeStage {}
  let w ← protocolStage f w
  let w ← addressStage f w
  let w ← portStage f w
  let (w, accepting, rejecting) ← returnStage w
  let w ← resolve accepting rejecting w.checks w
  (notes f).foldlM Work.note w

/-- A compiled filter: the program, and where its checks are. -/
structure Compilation where
  program : Program
  checks : List Nat
  deriving DecidableEq, Repr

def Compilation.log (c : Compilation) : List LogEntry :=
  let check (position : Nat) : Option LogEntry :=
    c.program.instructions[position]?.map (fun i =>
      ⟨.debug, "bpf_objects", "check at " ++ Text.decimalNat position ++ ": " ++ i.row⟩)
  let counted := Text.decimalNat c.program.size ++ " instructions for "
  c.checks.filterMap check ++
    [⟨.debug, "code_objects", "finalized " ++ counted ++ Text.quoted c.program.filterExpr⟩,
     ⟨.info, "bpf_objects", "generated " ++ counted ++ c.program.filterExpr⟩]

def compile (f : Filter) : Except CompileError Compilation := do
  let w ← assemble f
  let label ← f.label.mapError .label
  let rationale := "Fail-fast approach: " ++ ", ".intercalate w.reasons
  match (w.builder.finalize label (some rationale)).2 with
  | .ok program => return ⟨program, w.checks⟩
  | .error cause => throw (.builder cause)

def program (f : Filter) : Except CompileError Program := (compile f).map (·.program)

end FailFast

end PacketFilter
