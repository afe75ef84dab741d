import PacketFilter.Command.Directory
import PacketFilter.Command.Options
import PacketFilter.Comparison.Basic
import PacketFilter.Expression.Grammar
import PacketFilter.Filter.Validation
import PacketFilter.Json.Printer
import PacketFilter.Json.Reader
import PacketFilter.Report

/-
  A run of the command: generate a program for a filter, compare it with the
  reference, and write what was asked for.

  The filter comes from an expression, from a file or from single options, in
  this order of preference. A run that fails in a way it knows about says so and
  exits with 1; arguments that make no sense exit with 2. Faults that a run does
  not know about end it (`Crash`). A run finds files and the external compiler in
  its `World`.
-/

namespace PacketFilter.Command

inductive RunError where
  | filter (cause : FilterError)
  | expression (cause : Expression.ExpressionError)
  | json (cause : JsonError)
  | file (cause : OpenError)
  /-- There is no expression to read, although one was asked for. -/
  | blankExpression
  | reference (cause : ReferenceError)
  | decode (cause : Text.DecodeError)
  | compile (cause : CompileError)
  | join (cause : JoinError)
  deriving DecidableEq, Repr

namespace RunError

def message : RunError → String
  | filter cause => cause.message
  | expression cause => cause.message
  | json cause => cause.message
  | file cause => cause.message
  | blankExpression => "'list' object has no attribute 'strip'"
  | reference cause => cause.message
  | decode cause => cause.message
  | compile cause => cause.message
  | join cause => cause.message

/-- Whether a run knows about an error. It does not expect numbers that cannot be
read, values nested too deep, bytes that are no text, or options left blank. -/
def isKnown : RunError → Bool
  | filter _ => true
  | expression (.scan (.numeral _)) => false
  | expression _ => true
  | json (.fault _ _ _ _) => true
  | json _ => false
  | file (.system _ _) => true
  | file _ => false
  | blankExpression => false
  | reference _ => true
  | decode _ => false
  | compile _ => false
  | join _ => false

def ofFailure : Reference.Failure → RunError
  | .reference cause => .reference cause
  | .decode cause => .decode cause
  | .compile cause => .compile cause
  | .expression cause => .join cause

def ofLoad : Reference.LoadError → RunError
  | .decode cause => .decode cause
  | .dump cause => .reference (.dump cause)

end RunError

/-- A fault that ends a run at once. -/
inductive Crash where
  | run (cause : RunError)
  | output (cause : OpenError)
  /-- The level of detail was left blank. -/
  | blankLevel
  deriving DecidableEq, Repr

def Crash.message : Crash → String
  | run cause => cause.message
  | output cause => cause.message
  | blankLevel => "'>' not supported between instances of 'int' and 'list'"

/-- What a run leaves behind. -/
structure Outcome where
  status : Nat
  stdout : String
  stderr : String
  /-- The path that was written to, and what was written. -/
  written : Option (String × String)
  deriving DecidableEq, Repr

/-- What a run finds when it starts: what reading a path gives, whether a path
can be written to, the external compiler if it is installed, and how many lists
and objects inside each other its stack has room for. From the command line that
is 991. -/
structure World where
  read : String → Except OpenError (List UInt8)
  write : String → Except OpenError Unit
  tool : Option Tool := none
  nesting : Nat := 991

def Directory.world (dir : Directory) (tool : Option Tool) : World where
  read := dir.read
  write path := (dir.write path).map (fun _ => ())
  tool := tool

/-- A run in progress: it may fail, and what it has said so far stays said. -/
abbrev Running := ExceptT RunError (StateM String)

def say (s : String) : Running Unit := modify (· ++ s)

/-- A result, or an error of the run. -/
def attempt {α ε : Type} (wrap : ε → RunError) (r : Except ε α) : Running α :=
  match r with
  | .ok a => pure a
  | .error e => throw (wrap e)

/-- The least level of log lines that are shown at a level of detail. -/
def logLevel (detail : Int) : LogLevel :=
  if detail ≤ 0 then .warning else if detail = 1 then .info else .debug

def sayLog (detail : Int) (es : List LogEntry) : Running Unit :=
  say (String.join ((LogEntry.atLeast (logLevel detail) es).map LogEntry.text))

/-- An option as data, or null. -/
def settingValue {α : Type} (f : α → Json) (s : Option (Setting α)) : Json :=
  match s with
  | some s => s.toJson f
  | none => .null

def pathOf : Setting String → Except OpenError String
  | .value path => .ok path
  | .blank => .error .noPath

def fileOf (w : World) (s : Setting String) : Except OpenError (List UInt8) := do
  let path ← pathOf s
  w.read path

def filterOfFile (w : World) (bytes : List UInt8) : Except RunError Filter := do
  let text ← (Text.Charset.utf8.decode bytes).mapError .decode
  let value ← (Json.read w.nesting text).mapError .json
  (Filter.ofJson value).mapError .filter

/-- The filter that was asked for, not yet checked. -/
def filterOf (o : Options) (w : World) : Except RunError Filter :=
  match o.expression, o.filterFile with
  | some (.value text), _ => (Expression.parse text).mapError .expression
  | some .blank, _ => .error .blankExpression
  | none, some file => do
    let bytes ← (fileOf w file).mapError .file
    filterOfFile w bytes
  | none, none =>
    .ok (Filter.ofValues (o.protocol.toJson .text) (settingValue .text o.srcIp)
      (settingValue .text o.dstIp) (settingValue .int o.srcPort) (settingValue .int o.dstPort))

def checkedFilter (o : Options) (w : World) : Except RunError Filter := do
  let f ← filterOf o w
  f.validated.mapError .filter

def reference (o : Options) (detail : Int) (w : World) (f : Filter) : Running Program :=
  match o.referenceDump with
  | some file => do
    let expression ← attempt .join f.expression
    let bytes ← attempt .file (fileOf w file)
    attempt .ofLoad (Reference.ofFile bytes expression)
  | none => do
    let (log, result) := Reference.obtain f (o.tcpdump.getD "") w.tool
    sayLog detail log
    attempt .ofFailure result

/-- A value as an indented document. -/
def pretty (v : Json) : String := v.render (.indented 4) ++ "\n"

/-- A program as assembly, after a line that says what it is. -/
def assembly (p : Program) : String :=
  "; " ++ p.origin ++ ": " ++ p.filterExpr ++ "\n" ++ "\n".intercalate p.listing ++ "\n"

/-- What was asked for, in writing. -/
def render (format : OutputFormat) (f : Filter) (c : Comparison) : String :=
  match format with
  | .json => pretty c.toJson
  | .asm => assembly c.reference ++ assembly c.candidate
  | .ddd => c.candidate.dump
  | .iptables => c.candidate.bytecode ++ "\n"
  | .report =>
    "Filter: " ++ f.describe ++ "\n\n" ++ Report.program c.reference ++ "\n" ++
      Report.program c.candidate ++ "\n" ++ Report.comparison c

/-- Generates, compares and renders. -/
def running (o : Options) (detail : Int) (w : World) : Running String := do
  let f ← attempt id (checkedFilter o w)
  if 0 < detail then say (pretty f.toJson)
  let reference ← reference o detail w f
  let compilation ← attempt .compile (FailFast.compile f)
  sayLog detail compilation.log
  let generated := compilation.program
  if 1 < detail then
    say (pretty generated.toJson)
    say (String.join (generated.listing.map (· ++ "\n")))
  let c := Comparison.of reference generated
  sayLog detail c.log
  return render (o.format.getD .report) f c

def commandName : String := "bpf-validate"

/-- What comes of writing the result where it was asked for. -/
def deliver (o : Options) (w : World) (text said : String) : Except Crash Outcome :=
  match o.output with
  | none => .ok ⟨0, text, said, none⟩
  | some s =>
    let opened : Except OpenError String := do
      let path ← pathOf s
      w.write path
      return path
    match opened with
    | .ok path => .ok ⟨0, "", said, some (path, text)⟩
    | .error e => .error (.output e)

def runOptions (o : Options) (w : World) : Except Crash Outcome :=
  match o.debug with
  | .blank => .error .blankLevel
  | .value detail =>
    let (result, said) := (running o detail w).run ""
    match result with
    | .error e =>
      if e.isKnown then .ok ⟨1, "", said ++ "Error: " ++ e.message ++ "\n", none⟩
      else .error (.run e)
    | .ok text => deliver o w text said

def run (args : List String) (w : World) : Except Crash Outcome :=
  match Options.parse args with
  | .error e => .ok ⟨2, "", commandName ++ ": error: " ++ e.message ++ "\n", none⟩
  | .ok .help => .ok ⟨0, "usage: " ++ commandName ++ " [options]\n", "", none⟩
  | .ok (.run o) => runOptions o w

end PacketFilter.Command
