import PacketFilter.Number.Basic
import PacketFilter.Purpose

/-
  Scores, ratings and verdicts.

  The score of a comparison is the share of matches among all entries. The
  rating is the first whose threshold the score reaches. A verdict says the
  rating in words, and says first if the candidate lacks a check that a filter
  cannot do without. With nothing to compare there is no verdict.
-/

namespace PacketFilter

inductive Rating where
  | excellent
  | good
  | incomplete
  | poor
  | inconclusive
  deriving DecidableEq, Repr

namespace Rating

def name : Rating → String
  | excellent => "excellent"
  | good => "good"
  | incomplete => "partial"
  | poor => "poor"
  | inconclusive => "inconclusive"

def words : Rating → String
  | excellent => "EXCELLENT MATCH: Candidate closely matches reference behavior"
  | good => "GOOD MATCH: Candidate implements core functionality with some differences"
  | incomplete => "PARTIAL MATCH: Candidate covers some functionality but has significant gaps"
  | poor => "POOR MATCH: Candidate differs significantly from reference approach"
  | inconclusive => "INCONCLUSIVE: No comparable instructions found"

def takeaway : Rating → String
  | excellent => "Candidate successfully implements reference functionality."
  | good => "Candidate covers core functionality but has some implementation differences."
  | incomplete => "Candidate partially implements the required functionality - review needed."
  | poor => "Candidate requires significant improvements to match reference behavior."
  | inconclusive => "Nothing to compare - both programs are empty."

/-- Whether a score reaches `fifths` fifths. -/
def reaches (fifths : Nat) (score : Binary64) : Bool :=
  !score.less (Binary64.ofRatio false fifths 5)

def ofScore (score : Binary64) : Rating :=
  if reaches 4 score then .excellent
  else if reaches 3 score then .good
  else if reaches 2 score then .incomplete
  else .poor

end Rating

/-- What the lack of a purpose is called, if a filter cannot do without it. -/
def Purpose.lack? : Purpose → Option String
  | .checkEthertype => some "Missing IP validation"
  | .checkProtocol => some "Missing protocol validation"
  | _ => none

/-- A score, its rating and what to say of it. -/
structure Verdict where
  score : Binary64
  rating : Rating
  text : String
  deriving DecidableEq, Repr

namespace Verdict

/-- The words for a rating, given the purposes the candidate lacks. -/
def words (rating : Rating) (missing : List Purpose) : String :=
  match missing.findSome? Purpose.lack? with
  | some lack => "CRITICAL ISSUE: " ++ rating.words ++ " (" ++ lack ++ ")"
  | none => rating.words

/-- The verdict when there is nothing to compare. -/
def inconclusive : Verdict := ⟨Binary64.zero, .inconclusive, Rating.inconclusive.words⟩

/-- The verdict on so many matches among so many entries, given the purposes the
candidate lacks and whether both programs are empty. -/
def ofCounts (matching total : Nat) (missing : List Purpose) (empty : Bool) : Verdict :=
  if total = 0 ∨ empty then inconclusive
  else
    let score := Binary64.ofRatio false matching total
    let rating := Rating.ofScore score
    ⟨score, rating, words rating missing⟩

end Verdict

end PacketFilter
