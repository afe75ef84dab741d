import PacketFilter.Command.Run

/-
  The command line program. It reads the files its options name, runs, and
  writes what the run leaves behind. The external compiler is not started from
  here, so references are synthetic or come from saved dumps.
-/

namespace PacketFilter

open Command

def errnoOf : IO.Error → Nat
  | .noFileOrDirectory _ code _ => code.toNat
  | .permissionDenied _ code _ => code.toNat
  | .inappropriateType _ code _ => code.toNat
  | .invalidArgument _ code _ => code.toNat
  | .resourceExhausted _ code _ => code.toNat
  | _ => Errno.notFound

def readPath (path : String) : IO (Except OpenError (List UInt8)) := do
  if path.toList.contains '\x00' then return .error .nullCharacter
  try
    let bytes ← IO.FS.readBinFile path
    return .ok bytes.toList
  catch e => return .error (.system (errnoOf e) path)

def readPaths (paths : List String) : IO (String → Except OpenError (List UInt8)) := do
  let found ← paths.mapM (fun path => do return (path, ← readPath path))
  return fun path =>
    match found.find? (fun entry => entry.1 == path) with
    | some entry => entry.2
    | none => .error (.system Errno.notFound path)

/-- The paths that options name for reading. -/
def namedPaths (args : List String) : List String :=
  let path : Option (Setting String) → List String
    | some (.value s) => [s]
    | _ => []
  match Options.parse args with
  | .ok (.run o) => path o.filterFile ++ path o.referenceDump
  | _ => []

def runCommand (args : List String) : IO UInt32 := do
  let read ← readPaths (namedPaths args)
  match run args { read := read, write := fun _ => .ok () } with
  | .error fault => throw (IO.userError fault.message)
  | .ok outcome =>
    IO.eprint outcome.stderr
    IO.print outcome.stdout
    match outcome.written with
    | some (path, content) => IO.FS.writeFile path content
    | none => pure ()
    return outcome.status.toUInt32

end PacketFilter

def main (args : List String) : IO UInt32 := PacketFilter.runCommand args
