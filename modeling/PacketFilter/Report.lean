import PacketFilter.Comparison.Basic

/-
  Reports as text.

  `Report.program` lists a program, `Report.comparison` sets reference and
  candidate side by side in a box of eighty columns and adds the verdict. Of the
  differences the box shows the four that matter most (`keyDifferences`).
-/

namespace PacketFilter.Report

open Text

/-- The columns inside the box. -/
def width : Nat := 78

def leftWidth : Nat := 38

def rightWidth : Nat := 39

/-- How many differences are shown. -/
def maxDifferences : Nat := 4

/-- The purposes shown side by side, and what they are called. -/
def corePurposes : List (Purpose × String) :=
  [(.checkEthertype, "IP Validation"),
   (.checkProtocol, "Protocol Check"),
   (.checkSrcAddr, "Source IP Filter"),
   (.checkDstAddr, "Dest IP Filter"),
   (.checkSrcPort, "Source Port Filter"),
   (.checkDstPort, "Dest Port Filter"),
   (.checkFragment, "Fragment Handling"),
   (.accept, "Accept Logic"),
   (.reject, "Reject Logic")]

/-- Whether an extra purpose makes a filter stricter. -/
def isEnhancement : Purpose → Bool
  | .loadFragInfo | .checkFragment | .loadSrcAddr | .checkSrcAddr | .loadDstAddr | .checkDstAddr =>
    true
  | _ => false

/-- Whether a missing purpose is one a filter cannot do without. -/
def isCritical (p : Purpose) : Bool := p.lack?.isSome

/-- A program: what it is for, how it was made, and its bytecode. -/
def program (p : Program) : String :=
  let title :=
    if p.origin = Origin.reference then
      ("Tcpdump Filter: " ++ p.filterExpr) ::
        (if p.mocked = some true then ["(Using mock data - tcpdump not available)"] else [])
    else ["Generated Filter: " ++ p.filterExpr]
  let reasoning :=
    match p.rationale with
    | some r => if r.isEmpty then [] else ["Reasoning: " ++ r]
    | none => []
  let notes :=
    if p.optimizations.isEmpty then []
    else "Optimizations applied:" :: p.optimizations.map ("  - " ++ ·)
  let rows :=
    p.code.zipIdx.map (fun (e, i) => "  [" ++ padLeft 2 (decimalNat i) ++ "] " ++ e.row)
  unlines
    (title ++ ["Instructions: " ++ decimalNat p.size] ++ reasoning ++ notes ++ ["BPF Bytecode:"] ++
      rows)

/-- How a horizontal rule of the box ends, and how its cells meet. -/
structure Rule where
  left : String := "─"
  joint : String := "┬"
  right : String := "─"
  split : Bool := true
  deriving DecidableEq, Repr

def Rule.text (r : Rule) : String :=
  if r.split then
    r.left ++ repeated leftWidth "─" ++ r.joint ++ repeated rightWidth "─" ++ r.right
  else r.left ++ repeated width "─" ++ r.right

/-- A line over the whole width of the box. -/
def boxed (s : String) : String := "│" ++ s ++ "│"

/-- A line of two cells. -/
def cells (left right : String) : String := "│" ++ left ++ "│" ++ right ++ "│"

/-- A difference worth showing: its rank, the mark it is shown with, and its
text. -/
structure KeyDifference where
  rank : Nat
  mark : String
  text : String
  deriving DecidableEq, Repr

def ofMissing (l : Lone) : KeyDifference :=
  if isCritical l.purpose then ⟨1, "!", "CRITICAL: " ++ l.missingText⟩
  else ⟨3, "x", l.missingText⟩

def ofExtra (l : Lone) : KeyDifference :=
  if isEnhancement l.purpose then ⟨2, "*", "ENHANCEMENT: " ++ l.extraText⟩
  else ⟨4, "+", l.extraText⟩

def ofShape (s : ShapeDifference) : KeyDifference := ⟨5, "~", s.text⟩

/-- The differences that matter most, those of one rank in the order of the
comparison. -/
def keyDifferences (c : Comparison) : List KeyDifference :=
  let all := c.missing.map ofMissing ++ c.extra.map ofExtra ++ c.shape.map ofShape
  (all.mergeSort (fun a b => a.rank ≤ b.rank)).take maxDifferences

/-- A bar filled in proportion to a score. -/
def scoreBar (score : Binary64) (barWidth : Int) : String :=
  let filled := (score.mul (Binary64.ofInt barWidth)).truncate
  "[" ++ repeated filled "#" ++ repeated (barWidth - filled) "." ++ "]"

/-- A purpose and whether each program has it; none of them, no line. -/
def purposeLine (c : Comparison) (purpose : Purpose) (name : String) : List String :=
  let reference := c.referenceCounts.has purpose
  let candidate := c.candidateCounts.has purpose
  let mark (present : Bool) : String := if present then "✓" else "✗"
  if reference || candidate then
    [cells (" " ++ mark reference ++ " " ++ padRight 34 name ++ " ")
      (" " ++ mark candidate ++ " " ++ padRight 35 name ++ " ")]
  else []

/-- The head of the box: both programs and where they come from. -/
def head (c : Comparison) : List String :=
  let source := if c.reference.mocked = some true then "Mock Data" else "Real tcpdump"
  [Rule.text { left := "┌", joint := "─", right := "┐", split := false },
   boxed (center width "BPF VALIDATION COMPARISON"),
   Rule.text { left := "├", joint := "┬", right := "┤" },
   cells (center leftWidth "TCPDUMP REFERENCE") (center rightWidth "GENERATED CANDIDATE"),
   Rule.text { left := "├", joint := "┼", right := "┤" },
   cells (" Instructions: " ++ padRight 22 (decimalNat c.reference.size) ++ " ")
     (" Instructions: " ++ padRight 23 (decimalNat c.candidate.size) ++ " "),
   cells (" Filter: " ++ padRight 28 (truncate 28 c.reference.filterExpr) ++ " ")
     (" Filter: " ++ padRight 29 (truncate 29 c.candidate.filterExpr) ++ " "),
   cells (" Source: " ++ padRight 28 source ++ " ") (" Source: " ++ padRight 29 "Generated" ++ " "),
   Rule.text { left := "├", joint := "┼", right := "┤" }]

/-- The foot of the box: the differences that matter most. -/
def foot (c : Comparison) : List String :=
  let diffs := keyDifferences c
  let shown :=
    if diffs.isEmpty then [boxed (center width "No significant differences found")]
    else
      diffs.map (fun d =>
        boxed (" " ++ d.mark ++ " " ++ padRight (width - 4) (truncate (width - 4 : Nat) d.text) ++ " "))
  [Rule.text { left := "├", joint := "┴", right := "┤" },
   boxed (center width "KEY DIFFERENCES"),
   Rule.text { left := "├", joint := "─", right := "┤", split := false }] ++
  shown ++
  [Rule.text { left := "└", joint := "─", right := "┘", split := false }]

def box (c : Comparison) : List String :=
  head c ++ corePurposes.flatMap (fun (purpose, name) => purposeLine c purpose name) ++ foot c

/-- The lines below the box. -/
def summary (c : Comparison) : List String :=
  let score := c.verdict.score
  ["",
   "SCORE: " ++ (score.mul (Binary64.ofInt 10)).fixed 1 ++ "/10 " ++ scoreBar score 50,
   "",
   "VERDICT: " ++ c.verdict.text,
   "",
   "QUICK STATS: " ++ decimalNat c.matching.length ++ " matches  " ++ decimalNat c.issues ++
     " issues  " ++ decimalNat c.extra.length ++ " enhancements",
   "",
   "KEY TAKEAWAY: " ++ c.verdict.rating.takeaway]

/-- A comparison side by side, with its verdict. -/
def comparison (c : Comparison) : String := unlines (box c ++ summary c)

end PacketFilter.Report
