import PacketFilter.Compile.FailFast
import PacketFilter.Errno
import PacketFilter.Log
import PacketFilter.Program.Dump
import PacketFilter.Signal
import PacketFilter.Text.Charset

/-
  Reference programs.

  A reference program comes from an external compiler, from a saved dump of its
  output, or, if the compiler is not installed, from `Synthetic`, which writes
  the program the compiler would. Its jumps are counted from the instruction
  after the jump.
-/

namespace PacketFilter

namespace Synthetic

/-- Which of its jumps leads an instruction to the rejecting return. -/
inductive Exit where
  | onTrue
  | onFalse
  | never
  deriving DecidableEq, Repr

/-- An instruction whose jumps are not worked out yet. -/
structure Line where
  opcode : UInt16
  k : Json
  exit : Exit
  deriving DecidableEq, Repr

def Line.load (opcode : UInt16) (k : Nat) : Line := ⟨opcode, .nat k, .never⟩

def Line.check (k : Json) : Line := ⟨Opcode.jumpEqual, k, .onFalse⟩

def protocolLines (f : Filter) : Except CompileError (List Line) :=
  match f.protocol with
  | none => .ok []
  | some v =>
    (protocolNumber v).map (fun n => [.load Opcode.loadByte Offset.protocol, .check (.nat n)])

def addressLines (address : Option Json) (offset : Nat) : Except CompileError (List Line) :=
  match address with
  | none => .ok []
  | some v => (addressWord v).map (fun w => [.load Opcode.loadWord offset, .check (.nat w)])

def portLines (port : Option Json) (offset : Nat) : List Line :=
  match port with
  | none => []
  | some v => [.load Opcode.loadHalfIndexed offset, .check v]

/-- The checks of the ports, after that of the fragment. -/
def portsLines (f : Filter) : List Line :=
  if f.hasPorts then
    [.load Opcode.loadHalf Offset.fragment,
     ⟨Opcode.jumpSet, .nat fragmentMask, .onTrue⟩,
     .load Opcode.loadHeaderLen Offset.ipHeader] ++
    portLines f.srcPort Offset.srcPort ++ portLines f.dstPort Offset.dstPort
  else []

/-- The whole program, its jumps not worked out. -/
def lines (f : Filter) : Except CompileError (List Line) := do
  let protocol ← protocolLines f
  let srcIp ← addressLines f.srcIp Offset.srcAddr
  let dstIp ← addressLines f.dstIp Offset.dstAddr
  return [.load Opcode.loadHalf Offset.ethertype, .check (.nat ethertypeIPv4)] ++
    protocol ++ srcIp ++ dstIp ++ portsLines f ++
    [⟨Opcode.ret, .nat acceptLength, .never⟩, ⟨Opcode.ret, .nat rejectLength, .never⟩]

/-- The instruction of a line: `distance` is how far the rejecting return is from
the next instruction. -/
def Line.instruction (l : Line) (distance : Int) : Except RangeError Instruction :=
  let jt := if l.exit = .onTrue then distance else 0
  let jf := if l.exit = .onFalse then distance else 0
  Instruction.make? (.nat l.opcode.toNat) (.int jt) (.int jf) l.k none

/-- The instructions of the lines from `position` on, the rejecting return being
at `rejecting`. -/
def resolveFrom (rejecting : Int) (position : Nat) : List Line → Except RangeError (List Instruction)
  | [] => .ok []
  | l :: rest => do
    let i ← l.instruction (rejecting - position - 1)
    let is ← resolveFrom rejecting (position + 1) rest
    return i :: is

def instructions (f : Filter) : Except CompileError (List Instruction) := do
  let ls ← lines f
  (resolveFrom (ls.length - 1) 0 ls).mapError CompileError.range

end Synthetic

/-- What comes of running the external compiler. -/
inductive ToolRun where
  /-- It could not be started. -/
  | notStarted (errno : Int)
  /-- It ended, and left these bytes. A negative status is the signal that ended
  it, and any status but zero is a failure. -/
  | ended (status : Int) (stdout stderr : List UInt8)
  deriving DecidableEq, Repr

/-- The external compiler: where the system finds it by the name it goes by, how
the system makes text of what it writes, and what comes of running it. -/
structure Tool where
  path : String → String
  decode : List UInt8 → Except Text.DecodeError String := Text.Charset.utf8.decode
  run : ToolRun

inductive ReferenceError where
  | emptyExpression
  | failed (command : List String) (status : Int) (stderr : String)
  | notStarted (errno : Int)
  | dump (cause : DumpError)
  deriving DecidableEq, Repr

/-- How a command ended that failed. -/
def endText (status : Int) : String :=
  if status < 0 then "died with " ++ signalText status.natAbs
  else "returned non-zero exit status " ++ Text.decimal status

def ReferenceError.message : ReferenceError → String
  | emptyExpression => "empty filter expression"
  | failed command status stderr =>
    "tcpdump failed: Command '" ++ (Json.texts command).quoted ++ "' " ++ endText status ++
      ".\nStderr: " ++ stderr
  | notStarted errno => "failed to execute tcpdump: " ++ errnoMessage errno
  | dump cause => cause.message

namespace Reference

inductive Failure where
  | reference (cause : ReferenceError)
  /-- What the compiler wrote is no text. -/
  | decode (cause : Text.DecodeError)
  | compile (cause : CompileError)
  | expression (cause : JoinError)
  deriving DecidableEq, Repr

def Failure.message : Failure → String
  | reference cause => cause.message
  | decode cause => cause.message
  | compile cause => cause.message
  | expression cause => cause.message

def toolName : String := "tcpdump"

/-- Where the compiler is, by the name it goes by or its usual one. -/
def toolPath (tool : Tool) (name : String) : String :=
  tool.path (if name.isEmpty then toolName else name)

/-- The output of the compiler when it is run by `command`. What it writes on
either channel has to be text, also if it fails. -/
def output (tool : Tool) (command : List String) : Except Failure String :=
  match tool.run with
  | .notStarted errno => .error (.reference (.notStarted errno))
  | .ended status stdout stderr => do
    let out ← (tool.decode stdout).mapError .decode
    let err ← (tool.decode stderr).mapError .decode
    if status = 0 then .ok out else .error (.reference (.failed command status err))

/-- The platform named when the compiler is not installed. -/
def platform : String := "linux"

def log (level : LogLevel) (message : String) : LogEntry := ⟨level, "tcpdump_oracle", message⟩

/-- The program that stands in for the compiler's. -/
def standIn (f : Filter) (expression : String) : Except CompileError Program :=
  (Synthetic.instructions f).map (fun is =>
    { instructions := is
      filterExpr := expression
      origin := Origin.reference
      mocked := some true
      rawOutput := some (Program.dumpOf is) })

/-- The program read from the compiler's output. -/
def ofDump (output expression : String) : Except DumpError Program :=
  (Dump.read output).map (fun is =>
    { instructions := is
      filterExpr := expression
      origin := Origin.reference
      mocked := some false
      rawOutput := some output })

/-- The reference program for a filter, and what is logged on the way, with the
compiler if it is installed. -/
def obtain (f : Filter) (name : String) (tool : Option Tool) :
    List LogEntry × Except Failure Program :=
  match f.expression with
  | .error e => ([], .error (.expression e))
  | .ok expression =>
    if expression.isEmpty then ([], .error (.reference .emptyExpression))
    else
      match tool with
      | none =>
        ([log .warning ("tcpdump not available on " ++ platform ++ ", using synthetic reference")],
         (standIn f expression).mapError .compile)
      | some tool =>
        let command := [toolPath tool name, "-ddd", expression]
        let executing := log .info ("executing: " ++ " ".intercalate command)
        match output tool command with
        | .error cause => ([executing], .error cause)
        | .ok out =>
          let raw := log .debug ("raw tcpdump output:\n" ++ out)
          match ofDump out expression with
          | .error cause => ([executing, raw], .error (.reference (.dump cause)))
          | .ok program =>
            ([executing, raw,
              log .info ("parsed " ++ Text.decimalNat program.size ++ " instructions")],
             .ok program)

inductive LoadError where
  | decode (cause : Text.DecodeError)
  | dump (cause : DumpError)
  deriving DecidableEq, Repr

def ofFile (bytes : List UInt8) (expression : String) : Except LoadError Program := do
  let output ← (Text.Charset.ascii.decode bytes).mapError .decode
  (ofDump output expression).mapError .dump

end Reference

end PacketFilter
