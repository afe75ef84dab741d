import PacketFilter.Comparison.Verdict
import PacketFilter.Log
import PacketFilter.Meaning

/-
  Comparing a candidate with a reference.

  Programs are compared by how often each purpose occurs in them; the jumps do
  not count. Both are read the same way: tags are believed only if every
  instruction of both programs has one. Each purpose that occurs is an agreement,
  a difference, missing or extra, and programs of the same size agree once more.
-/

namespace PacketFilter

open Text

/-- How often each purpose occurs, in the order of first occurrence. -/
abbrev Histogram := List (Purpose × Nat)

namespace Histogram

/-- Counts one more occurrence. -/
def add (p : Purpose) : Histogram → Histogram
  | [] => [(p, 1)]
  | (q, n) :: rest => if q = p then (q, n + 1) :: rest else (q, n) :: add p rest

def ofPurposes (ps : List Purpose) : Histogram := ps.foldl (fun h p => add p h) []

def count? (h : Histogram) (p : Purpose) : Option Nat := (h.find? (fun e => e.1 == p)).map (·.2)

def has (h : Histogram) (p : Purpose) : Bool := (h.count? p).isSome

end Histogram

/-- A purpose that occurs equally often in both programs. -/
structure Agreement where
  purpose : Purpose
  count : Nat
  deriving DecidableEq, Repr

/-- A purpose that occurs in both programs, but not equally often. -/
structure Difference where
  purpose : Purpose
  reference : Nat
  candidate : Nat
  deriving DecidableEq, Repr

/-- A purpose that occurs in one program only. -/
structure Lone where
  purpose : Purpose
  count : Nat
  deriving DecidableEq, Repr

def Agreement.text (a : Agreement) : String :=
  "Both implement " ++ a.purpose.words ++ " (" ++ decimalNat a.count ++ " instructions)"

def Difference.text (d : Difference) : String :=
  d.purpose.words ++ ": reference has " ++ decimalNat d.reference ++ ", candidate has " ++
    decimalNat d.candidate

/-- A purpose only the reference has, in words. -/
def Lone.missingText (l : Lone) : String :=
  "Missing " ++ l.purpose.words ++ " (" ++ decimalNat l.count ++ " instructions)"

/-- A purpose only the candidate has, in words. -/
def Lone.extraText (l : Lone) : String :=
  "Extra " ++ l.purpose.words ++ " (" ++ decimalNat l.count ++ " instructions)"

inductive ShapeDifference where
  | longer (count : Nat)
  | shorter (count : Nat)
  | fragmentHandling
  | addressFiltering
  deriving DecidableEq, Repr

def ShapeDifference.text : ShapeDifference → String
  | longer count => "Candidate has " ++ decimalNat count ++ " more instructions than reference"
  | shorter count => "Candidate has " ++ decimalNat count ++ " fewer instructions than reference"
  | fragmentHandling => "Candidate includes fragment handling that reference does not have"
  | addressFiltering => "Candidate implements IP address filtering that reference does not have"

structure Comparison where
  reference : Program
  candidate : Program
  /-- Whether tags were believed. -/
  trusted : Bool
  referenceMeaning : List Meaning
  candidateMeaning : List Meaning
  referenceCounts : Histogram
  candidateCounts : Histogram
  agreements : List Agreement
  sameSize : Bool
  differences : List Difference
  missing : List Lone
  extra : List Lone
  shape : List ShapeDifference
  verdict : Verdict
  deriving DecidableEq, Repr

namespace Comparison

def purposes (ms : List Meaning) : List Purpose := ms.map (·.purpose)

/-- The purposes that occur equally often. -/
def agreementsOf (reference candidate : Histogram) : List Agreement :=
  reference.filterMap (fun (p, n) =>
    match candidate.count? p with
    | some m => if n = m then some ⟨p, n⟩ else none
    | none => none)

/-- The purposes that occur in both programs, but not equally often. -/
def differencesOf (reference candidate : Histogram) : List Difference :=
  reference.filterMap (fun (p, n) =>
    match candidate.count? p with
    | some m => if n = m then none else some ⟨p, n, m⟩
    | none => none)

/-- The purposes of the first program that do not occur in the second. -/
def loneOf (first second : Histogram) : List Lone :=
  first.filterMap (fun (p, n) => if second.has p then none else some ⟨p, n⟩)

def hasAny (ps : List Purpose) (h : Histogram) : Bool := ps.any h.has

/-- How the candidate's shape differs: its size, and whether it handles fragments
or filters addresses where the reference does not. -/
def shapeOf (referenceSize candidateSize : Nat) (reference candidate : Histogram) :
    List ShapeDifference :=
  let gained (ps : List Purpose) : Bool := hasAny ps candidate && !hasAny ps reference
  (if referenceSize < candidateSize then [.longer (candidateSize - referenceSize)]
   else if candidateSize < referenceSize then [.shorter (referenceSize - candidateSize)]
   else []) ++
  (if gained [.checkFragment] then [.fragmentHandling] else []) ++
  (if gained [.checkSrcAddr, .checkDstAddr] then [.addressFiltering] else [])

/-- The matches: the agreements, and that the sizes are the same. -/
def matching (c : Comparison) : List String :=
  c.agreements.map Agreement.text ++ (if c.sameSize then ["Same instruction count"] else [])

/-- How many things are amiss: differences and what is missing. -/
def issues (c : Comparison) : Nat := c.differences.length + c.missing.length

/-- Compares a candidate with a reference. -/
def of (reference candidate : Program) : Comparison :=
  let trusted := reference.isTagged && candidate.isTagged
  let referenceMeaning := reference.meaning trusted
  let candidateMeaning := candidate.meaning trusted
  let referenceCounts := Histogram.ofPurposes (purposes referenceMeaning)
  let candidateCounts := Histogram.ofPurposes (purposes candidateMeaning)
  let agreements := agreementsOf referenceCounts candidateCounts
  let differences := differencesOf referenceCounts candidateCounts
  let missing := loneOf referenceCounts candidateCounts
  let extra := loneOf candidateCounts referenceCounts
  let sameSize := reference.size == candidate.size
  let matched := agreements.length + (if sameSize then 1 else 0)
  { reference, candidate, trusted, referenceMeaning, candidateMeaning, referenceCounts,
    candidateCounts, agreements, sameSize, differences, missing, extra
    shape := shapeOf reference.size candidate.size referenceCounts candidateCounts
    verdict := .ofCounts matched (matched + differences.length + missing.length + extra.length)
      (missing.map (·.purpose)) (referenceMeaning.isEmpty && candidateMeaning.isEmpty) }

def log (c : Comparison) : List LogEntry :=
  [⟨.info, "comparison",
    "comparison complete: " ++ c.verdict.rating.name ++ " (score " ++ c.verdict.score.fixed 2 ++
      ", tags " ++ (if c.trusted then "trusted" else "inferred") ++ ")"⟩]

def toJson (c : Comparison) : Json :=
  .obj
    [("reference", c.reference.toJson),
     ("candidate", c.candidate.toJson),
     ("reference_semantic", .arr (c.referenceMeaning.map Meaning.toJson)),
     ("candidate_semantic", .arr (c.candidateMeaning.map Meaning.toJson)),
     ("matches", .texts c.matching),
     ("differences", .texts (c.differences.map Difference.text)),
     ("missing_in_second", .texts (c.missing.map Lone.missingText)),
     ("extra_in_second", .texts (c.extra.map Lone.extraText)),
     ("structural_diffs", .texts (c.shape.map ShapeDifference.text)),
     ("score", .num (.real c.verdict.score)),
     ("rating", .str c.verdict.rating.name),
     ("verdict", .str c.verdict.text)]

end Comparison

end PacketFilter
