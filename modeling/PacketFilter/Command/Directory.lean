import PacketFilter.Errno
import PacketFilter.Text.Blank
import PacketFilter.Text.Quoted

/-
  The directory a run works in.

  A directory holds files, each by the names that lead to it joined with slashes,
  and the directories they are in. Some other places are known by their absolute
  path. A path is followed step by step: `.` stays, `..` goes up, and a name leads
  to what the place holds under it. `Directory.read` and `Directory.write` open
  what a path leads to, or fail the way the system does.
-/

namespace PacketFilter.Command

inductive OpenError where
  /-- A list stands where a path should. -/
  | noPath
  /-- The path holds a null character. -/
  | nullCharacter
  /-- The system refuses, with a number that says why. -/
  | system (errno : Nat) (path : String)
  deriving DecidableEq, Repr

def OpenError.message : OpenError → String
  | noPath => "expected str, bytes or os.PathLike object, not list"
  | nullCharacter => "embedded null byte"
  | system errno path => errnoMessage errno ++ ": " ++ Text.quoted path

/-- What is known at an absolute path. -/
inductive Landmark where
  | directory
  /-- A device that is empty to read and keeps nothing that is written. -/
  | void
  deriving DecidableEq, Repr

/-- The files in the working directory by their paths from it, and what is known
elsewhere, by the steps from the root. -/
structure Directory where
  files : List (String × List UInt8) := []
  landmarks : List (List String × Landmark) := []
  deriving DecidableEq, Repr, Inhabited

/-- Where a path has led so far. -/
inductive Place where
  /-- The directory some steps into the working directory. -/
  | within (steps : List String)
  /-- A directory above it, in which nothing else is known. -/
  | above
  /-- The directory some steps from the root. -/
  | fromRoot (steps : List String)
  deriving DecidableEq, Repr

def Place.up : Place → Place
  | within [] => above
  | within steps => within steps.dropLast
  | above => above
  | fromRoot steps => fromRoot steps.dropLast

/-- What a name stands for at a place. -/
inductive Entry where
  | directory (place : Place)
  /-- A file in the working directory, by its path from there. -/
  | file (path : String) (content : List UInt8)
  | void
  | missing
  deriving DecidableEq, Repr

namespace Directory

/-- The content of a file in the working directory. -/
def find? (dir : Directory) (path : String) : Option (List UInt8) :=
  (dir.files.find? (fun f => f.1 == path)).map (·.2)

def join (steps : List String) : String := "/".intercalate steps

/-- Whether there is a file some steps into the working directory, or further. -/
def holds (dir : Directory) (steps : List String) : Bool :=
  dir.files.any (fun f => (join steps ++ "/").toList.isPrefixOf f.1.toList)

def landmark? (dir : Directory) (steps : List String) : Option Landmark :=
  (dir.landmarks.find? (fun l => l.1 == steps)).map (·.2)

/-- The greatest number of bytes in a name. -/
def maxName : Nat := 255

/-- The least number of bytes that a path may not have. -/
def pathLimit : Nat := 4096

def entry (dir : Directory) (place : Place) (name : String) : Except Nat Entry :=
  if maxName < name.utf8ByteSize then .error Errno.nameTooLong
  else
    match place with
    | .within steps =>
      let path := join (steps ++ [name])
      match dir.find? path with
      | some content => .ok (.file path content)
      | none =>
        if dir.holds (steps ++ [name]) then .ok (.directory (.within (steps ++ [name])))
        else .ok .missing
    | .above => .ok .missing
    | .fromRoot steps =>
      match dir.landmark? (steps ++ [name]) with
      | some .directory => .ok (.directory (.fromRoot (steps ++ [name])))
      | some .void => .ok .void
      | none => .ok .missing

/-- The directory that some steps lead to. -/
def walk (dir : Directory) (place : Place) : List String → Except Nat Place
  | [] => .ok place
  | "." :: rest => walk dir place rest
  | ".." :: rest => walk dir place.up rest
  | name :: rest => do
    match ← dir.entry place name with
    | .directory next => walk dir next rest
    | .missing => .error Errno.notFound
    | _ => .error Errno.notDirectory

inductive LastStep where
  /-- It leads to a directory, whatever there is. -/
  | directory
  /-- A name at a place; `slash` says whether a slash follows it. -/
  | name (place : Place) (name : String) (slash : Bool)
  deriving DecidableEq, Repr

/-- The last step of a path, after all others have been taken. -/
def lastStep (dir : Directory) (path : String) : Except Nat LastStep :=
  if path.isEmpty then .error Errno.notFound
  else if pathLimit ≤ path.utf8ByteSize then .error Errno.nameTooLong
  else
    let cs := path.toList
    let start := if cs.head? = some '/' then Place.fromRoot [] else .within []
    let steps := ((Text.splitAt '/' cs).map String.ofList).filter (fun step => !step.isEmpty)
    match steps.getLast? with
    | none => .ok .directory
    | some last => do
      let place ← dir.walk start steps.dropLast
      if last = "." || last = ".." then .ok .directory
      else .ok (.name place last (cs.getLast? = some '/'))

/-- What reading a path gives. -/
def content (dir : Directory) (path : String) : Except Nat (List UInt8) := do
  match ← dir.lastStep path with
  | .directory => .error Errno.isDirectory
  | .name place name slash =>
    match ← dir.entry place name with
    | .directory _ => .error Errno.isDirectory
    | .missing => .error Errno.notFound
    | .file _ bytes => if slash then .error Errno.notDirectory else .ok bytes
    | .void => if slash then .error Errno.notDirectory else .ok []

/-- The file that a missing name at a place stands for once it is written, if it is
in the working directory. -/
def fresh (place : Place) (name : String) : Option String :=
  match place with
  | .within steps => some (join (steps ++ [name]))
  | _ => none

/-- The file in the working directory that writing to a path makes, if it makes
one there. -/
def made (dir : Directory) (path : String) : Except Nat (Option String) := do
  match ← dir.lastStep path with
  | .directory => .error Errno.isDirectory
  | .name _ _ true => .error Errno.isDirectory
  | .name place name false =>
    match ← dir.entry place name with
    | .directory _ => .error Errno.isDirectory
    | .file path _ => .ok (some path)
    | .void => .ok none
    | .missing => .ok (fresh place name)

/-- A path that the system is asked to open. -/
def opening {α : Type} (path : String) (result : Except Nat α) : Except OpenError α :=
  if path.toList.contains '\x00' then .error .nullCharacter
  else result.mapError (fun errno => .system errno path)

def read (dir : Directory) (path : String) : Except OpenError (List UInt8) :=
  opening path (dir.content path)

/-- The file in the working directory that writing to a path makes, if it makes
one there. -/
def write (dir : Directory) (path : String) : Except OpenError (Option String) :=
  opening path (dir.made path)

end Directory

end PacketFilter.Command
