import PacketFilter.Compile.Reference
import PacketFilter.Number.Literal
import PacketFilter.Text.Numeral

/-
  Command line options.

  An option is written in full or as the beginning of one option only, its value
  after an equals sign or as the next argument; the last value counts. All
  arguments are sorted into options and others before the first is taken, and an
  argument that looks like a negative number or holds a blank is no option. Two
  dashes written as the value of an option are no value, and the option is left
  blank. `Options.parse` gives the options, or says what is wrong with the
  arguments.
-/

namespace PacketFilter.Command

open Text

/-- What a run writes. -/
inductive OutputFormat where
  | report
  | json
  | asm
  | ddd
  | iptables
  deriving DecidableEq, Repr

namespace OutputFormat

def name : OutputFormat → String
  | report => "report"
  | json => "json"
  | asm => "asm"
  | ddd => "ddd"
  | iptables => "iptables"

def all : List OutputFormat := [report, json, asm, ddd, iptables]

def ofName? (s : String) : Option OutputFormat := all.find? (fun f => f.name == s)

end OutputFormat

inductive OptionName where
  | help
  | protocol
  | srcIp
  | dstIp
  | srcPort
  | dstPort
  | expression
  | filterFile
  | referenceDump
  | tcpdump
  | format
  | output
  | debug
  deriving DecidableEq, Repr

namespace OptionName

def text : OptionName → String
  | help => "--help"
  | protocol => "--protocol"
  | srcIp => "--src-ip"
  | dstIp => "--dst-ip"
  | srcPort => "--src-port"
  | dstPort => "--dst-port"
  | expression => "--expression"
  | filterFile => "--filter-file"
  | referenceDump => "--reference-dump"
  | tcpdump => "--tcpdump"
  | format => "--format"
  | output => "--output"
  | debug => "--debug"

/-- The option as messages name it. -/
def title : OptionName → String
  | help => "-h/--help"
  | o => o.text

def all : List OptionName :=
  [help, protocol, srcIp, dstIp, srcPort, dstPort, expression, filterFile, referenceDump, tcpdump,
   format, output, debug]

end OptionName

inductive UsageError where
  | ambiguous (arg : String) (candidates : List OptionName)
  | missingValue (option : OptionName)
  | ignoredValue (option : OptionName) (value : String)
  | notInteger (option : OptionName) (value : String)
  | badFormat (value : String)
  | unrecognized (args : List String)
  deriving DecidableEq, Repr

def UsageError.message : UsageError → String
  | ambiguous arg candidates =>
    "ambiguous option: " ++ arg ++ " could match " ++
      ", ".intercalate (candidates.map OptionName.text)
  | missingValue option => "argument " ++ option.title ++ ": expected one argument"
  | ignoredValue option value =>
    "argument " ++ option.title ++ ": ignored explicit argument " ++ quoted value
  | notInteger option value =>
    "argument " ++ option.title ++ ": invalid int value: " ++ quoted value
  | badFormat value =>
    "argument " ++ OptionName.format.title ++ ": invalid choice: " ++ quoted value ++
      " (choose from " ++ ", ".intercalate (OutputFormat.all.map (fun f => quoted f.name)) ++ ")"
  | unrecognized args => "unrecognized arguments: " ++ " ".intercalate args

inductive Argument where
  /-- An option, and the value written with it. -/
  | option (name : OptionName) (value? : Option String)
  /-- An argument that is written as an option but is none. -/
  | unknown (arg : String)
  /-- The mark after which there are no options. -/
  | mark
  | plain (arg : String)
  deriving DecidableEq, Repr

/-- Whether a text looks like a negative number; one line end may follow it. -/
def looksNegative (cs : List Char) : Bool :=
  match cs with
  | '-' :: rest =>
    let rest := if rest.getLast? = some '\n' then rest.dropLast else rest
    match rest.dropWhile isDecimal with
    | [] => !rest.isEmpty
    | '.' :: places => !places.isEmpty && places.all isDecimal
    | _ => false
  | _ => false

/-- A text cut at the first equals sign: what stands before it, and what stands
after it if there is one. -/
def cutAtEquals (cs : List Char) : String × Option String :=
  let before := String.ofList (cs.takeWhile (· != '='))
  match cs.dropWhile (· != '=') with
  | [] => (before, none)
  | _ :: after => (before, some (String.ofList after))

/-- The help option in short, with the letters right after it. The letter may be
repeated, and anything else is a value, which is one too many. -/
def helpLetters (cs : List Char) : Argument :=
  match cs.dropWhile (· == 'h') with
  | [] => .option .help none
  | rest => .option .help (some (String.ofList rest))

/-- The help option in short, with what is written right after it. An equals sign
may stand between, if anything follows it. -/
def shortHelp : List Char → Argument
  | ['='] => .option .help (some "")
  | '=' :: rest => helpLetters rest
  | rest => helpLetters rest

/-- What an argument before the mark is. -/
def classify (arg : String) : Except UsageError Argument :=
  match arg.toList with
  | [] | ['-'] => .ok (.plain arg)
  | '-' :: 'h' :: rest => .ok (shortHelp rest)
  | '-' :: c :: rest =>
    let (name, value?) := cutAtEquals ('-' :: c :: rest)
    match OptionName.all.find? (fun o => o.text == name) with
    | some o => .ok (.option o value?)
    | none =>
      let candidates :=
        if c = '-' then OptionName.all.filter (fun o => name.toList.isPrefixOf o.text.toList) else []
      match candidates with
      | [o] => .ok (.option o value?)
      | _ :: _ :: _ => .error (.ambiguous arg candidates)
      | [] =>
        if looksNegative ('-' :: c :: rest) || rest.contains ' ' || c = ' ' then .ok (.plain arg)
        else .ok (.unknown arg)
  | _ => .ok (.plain arg)

def classifyAll : List String → Except UsageError (List (String × Argument))
  | [] => .ok []
  | arg :: rest =>
    if arg = "--" then .ok ((arg, .mark) :: rest.map (fun a => (a, .plain a)))
    else do
      let a ← classify arg
      let as ← classifyAll rest
      return (arg, a) :: as

/-- The value an option was given: a value, or none although there should be
one. -/
inductive Setting (α : Type) where
  | value (a : α)
  | blank
  deriving DecidableEq, Repr

namespace Setting

def ofText (s : String) : Setting String := if s = "--" then blank else value s

/-- The value, or another if it was left blank. -/
def getD {α : Type} (s : Setting α) (other : α) : α :=
  match s with
  | value a => a
  | blank => other

/-- A setting as data: one left blank is an empty list. -/
def toJson {α : Type} (f : α → Json) : Setting α → Json
  | value a => f a
  | blank => .arr []

end Setting

structure Options where
  protocol : Setting String := .value ""
  srcIp : Option (Setting String) := none
  dstIp : Option (Setting String) := none
  srcPort : Option (Setting Int) := none
  dstPort : Option (Setting Int) := none
  expression : Option (Setting String) := none
  filterFile : Option (Setting String) := none
  referenceDump : Option (Setting String) := none
  tcpdump : Setting String := .value Reference.toolName
  format : Setting OutputFormat := .value .report
  output : Option (Setting String) := none
  debug : Setting Int := .value 0
  deriving DecidableEq, Repr

namespace Options

def integer (option : OptionName) : Setting String → Except UsageError (Setting Int)
  | .blank => .ok .blank
  | .value s =>
    match readInteger s with
    | .ok n => .ok (.value n)
    | .error _ => .error (.notInteger option s)

def formatOf : Setting String → Except UsageError (Setting OutputFormat)
  | .blank => .ok .blank
  | .value s =>
    match OutputFormat.ofName? s with
    | some f => .ok (.value f)
    | none => .error (.badFormat s)

/-- The options with one of them set; help has no value and sets nothing. -/
def set (o : Options) (name : OptionName) (s : Setting String) : Except UsageError Options :=
  match name with
  | .help => .ok o
  | .protocol => .ok { o with protocol := s }
  | .srcIp => .ok { o with srcIp := some s }
  | .dstIp => .ok { o with dstIp := some s }
  | .srcPort => (integer name s).map (fun n => { o with srcPort := some n })
  | .dstPort => (integer name s).map (fun n => { o with dstPort := some n })
  | .expression => .ok { o with expression := some s }
  | .filterFile => .ok { o with filterFile := some s }
  | .referenceDump => .ok { o with referenceDump := some s }
  | .tcpdump => .ok { o with tcpdump := s }
  | .format => (formatOf s).map (fun f => { o with format := f })
  | .output => .ok { o with output := some s }
  | .debug => (integer name s).map (fun n => { o with debug := n })

/-- What the arguments ask for: help, or a run. -/
inductive Request where
  | help
  | run (options : Options)
  deriving DecidableEq, Repr

/-- Takes the arguments from the left; `extra` holds those that were of no use,
in reverse. -/
def take (o : Options) (extra : List String) : List (String × Argument) → Except UsageError Request
  | [] => if extra.isEmpty then .ok (.run o) else .error (.unrecognized extra.reverse)
  | (arg, .mark) :: rest => take o (arg :: extra) rest
  | (arg, .plain _) :: rest => take o (arg :: extra) rest
  | (arg, .unknown _) :: rest => take o (arg :: extra) rest
  | (_, .option .help none) :: _ => .ok .help
  | (_, .option .help (some value)) :: _ => .error (.ignoredValue .help value)
  | (_, .option name (some value)) :: rest => do
    take (← o.set name (.ofText value)) extra rest
  | (_, .option name none) :: (_, .plain value) :: rest => do
    take (← o.set name (.ofText value)) extra rest
  | (_, .option name none) :: _ => .error (.missingValue name)

def parse (args : List String) : Except UsageError Request := do
  take {} [] (← classifyAll args)

end Options

end PacketFilter.Command
