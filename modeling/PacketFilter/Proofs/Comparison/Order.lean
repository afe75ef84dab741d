import PacketFilter.Proofs.Comparison.Accounting

/-
  What a comparison owes to order.

  A comparison has two orders: which of the programs is the reference, and where the
  instructions stand in each. It counts purposes, so neither order decides what is found,
  but both show in how it is told. The entries follow the first occurrences in one of the
  programs, and the verdict names the first check that is missing.

  What is proved: histograms of the same purposes have the same entries in some order
  (`ofPurposes_perm`) and give the same answers (`count?_perm`); two programs exchanged
  give the mirror image of their comparison (`of_mirrors`); and instructions put in
  another order, with other jumps, change the order of entries at most, and the words of
  the verdict only if they are those of the reference (`rearranged_compares`).
-/

namespace PacketFilter

/-! ## Histograms of the same purposes -/

namespace Histogram

variable {a b : List Purpose}

theorem count?_perm (h : a.Perm b) : count? (ofPurposes a) = count? (ofPurposes b) := by
  funext p
  simp only [count?_ofPurposes, h.mem_iff, h.count_eq]

theorem has_perm (h : a.Perm b) : has (ofPurposes a) = has (ofPurposes b) := by
  funext p
  rw [has, has, count?_perm h]

theorem ofPurposes_perm (h : a.Perm b) : (ofPurposes a).Perm (ofPurposes b) := by
  have hkeys : a.eraseDups.Perm b.eraseDups := by
    rw [List.perm_ext_iff_of_nodup (nodup_eraseDups a) (nodup_eraseDups b)]
    intro p
    rw [List.mem_eraseDups, List.mem_eraseDups, h.mem_iff]
  have hcount : (fun p => (p, a.count p)) = (fun p => (p, b.count p)) := by
    funext p
    rw [h.count_eq]
  rw [ofPurposes_eq, ofPurposes_eq, hcount]
  exact hkeys.map _

end Histogram

namespace Verdict

/-- The purposes that are missing show in the words of a verdict alone. -/
theorem ofCounts_missing (matching total : Nat) (missing missing' : List Purpose) (empty : Bool) :
    (ofCounts matching total missing empty).score = (ofCounts matching total missing' empty).score ∧
      (ofCounts matching total missing empty).rating =
        (ofCounts matching total missing' empty).rating := by
  unfold ofCounts
  split
  · exact ⟨rfl, rfl⟩
  · exact ⟨rfl, rfl⟩

end Verdict

/-! ## Exchanged programs -/

/-- The difference with its two counts exchanged. -/
def Difference.exchanged (d : Difference) : Difference := ⟨d.purpose, d.candidate, d.reference⟩

namespace Comparison

/-- One comparison is the mirror image of another: what is missing in one is extra in the
other, and all else is the same but for its order. -/
structure Mirrors (c d : Comparison) : Prop where
  score : c.verdict.score = d.verdict.score
  rating : c.verdict.rating = d.verdict.rating
  missing : c.missing = d.extra
  missingPurposes : c.missingPurposes = d.extraPurposes
  extra : c.extra = d.missing
  extraPurposes : c.extraPurposes = d.missingPurposes
  matching : c.matching.Perm d.matching
  differences : c.differences.Perm (d.differences.map Difference.exchanged)

/-- Entries for the distinct purposes of two lists are the same if the same purposes have
entries and each has the same one. -/
theorem entries_perm {β : Type} {a b : List Purpose} {c d : Purpose → Bool}
    {entry entry' : Purpose → β} (hmem : ∀ p, (p ∈ a ∧ c p = true) ↔ (p ∈ b ∧ d p = true))
    (hentry : ∀ p, c p = true → entry p = entry' p) :
    ((a.eraseDups.filter c).map entry).Perm ((b.eraseDups.filter d).map entry') := by
  have hkeys : (a.eraseDups.filter c).Perm (b.eraseDups.filter d) := by
    have ha : (a.eraseDups.filter c).Nodup := List.Pairwise.filter c (nodup_eraseDups a)
    have hb : (b.eraseDups.filter d).Nodup := List.Pairwise.filter d (nodup_eraseDups b)
    rw [List.perm_ext_iff_of_nodup ha hb]
    intro p
    rw [List.mem_filter, List.mem_filter, List.mem_eraseDups, List.mem_eraseDups, hmem p]
  have hmap : (a.eraseDups.filter c).map entry = (a.eraseDups.filter c).map entry' := by
    apply List.map_congr_left
    intro p hp
    exact hentry p (List.mem_filter.mp hp).2
  rw [hmap]
  exact hkeys.map entry'

section
variable (a b : List Purpose)

theorem agreementsOf_exchanged :
    (agreementsOf (Histogram.ofPurposes a) (Histogram.ofPurposes b)).Perm
      (agreementsOf (Histogram.ofPurposes b) (Histogram.ofPurposes a)) := by
  rw [agreementsOf_ofPurposes, agreementsOf_ofPurposes]
  apply entries_perm
  · intro p
    simp only [decide_eq_true_eq]
    -- Equal counts are both positive or both zero, so the purpose is in both lists or in none.
    rw [← List.count_pos_iff, ← List.count_pos_iff]
    omega
  · intro p hp
    rw [decide_eq_true_eq] at hp
    rw [hp]

theorem differencesOf_exchanged :
    (differencesOf (Histogram.ofPurposes a) (Histogram.ofPurposes b)).Perm
      ((differencesOf (Histogram.ofPurposes b) (Histogram.ofPurposes a)).map
        Difference.exchanged) := by
  rw [differencesOf_ofPurposes, differencesOf_ofPurposes, List.map_map]
  apply entries_perm
  · intro p
    simp only [decide_eq_true_eq]
    refine ⟨?_, ?_⟩
    · intro h
      obtain ⟨ha, hb, hne⟩ := h
      exact ⟨hb, ha, hne.symm⟩
    · intro h
      obtain ⟨hb, ha, hne⟩ := h
      exact ⟨ha, hb, hne.symm⟩
  · intro p _
    rfl

end

theorem of_sameSize (p q : Program) : (Comparison.of p q).sameSize = (p.size == q.size) := rfl

theorem matching_perm {c d : Comparison} (hagree : c.agreements.Perm d.agreements)
    (hsize : c.sameSize = d.sameSize) : c.matching.Perm d.matching := by
  rw [matching, matching, hsize]
  exact List.Perm.append (hagree.map _) (List.Perm.refl _)

theorem of_rating_congr {p q p' q' : Program}
    (hmatching : (Comparison.of p q).matching.length = (Comparison.of p' q').matching.length)
    (hentries : (Comparison.of p q).entries = (Comparison.of p' q').entries)
    (hempty : (p.instructions = [] ∧ q.instructions = []) ↔
      (p'.instructions = [] ∧ q'.instructions = [])) :
    (Comparison.of p q).verdict.score = (Comparison.of p' q').verdict.score ∧
      (Comparison.of p q).verdict.rating = (Comparison.of p' q').verdict.rating := by
  rw [of_verdict, of_verdict, hmatching, hentries, decide_eq_decide.mpr hempty]
  exact Verdict.ofCounts_missing _ _ _ _ _

/-- **Exchanging the programs mirrors their comparison.** The score and the rating stay,
what was missing is extra and what was extra is missing, in the same order, the matches
are the same in some order, and so are the differences, with their counts exchanged. -/
theorem of_mirrors (p q : Program) : (Comparison.of p q).Mirrors (Comparison.of q p) := by
  obtain ⟨hagree, hdiff, hmiss, hextra, -⟩ := of_lists p q
  obtain ⟨hagree', hdiff', hmiss', hextra', -⟩ := of_lists q p
  have hmissing : (Comparison.of p q).missing = (Comparison.of q p).extra := hmiss.trans hextra'.symm
  have hextras : (Comparison.of p q).extra = (Comparison.of q p).missing := hextra.trans hmiss'.symm
  have hmatching : (Comparison.of p q).matching.Perm (Comparison.of q p).matching := by
    apply matching_perm
    · rw [hagree, hagree']
      exact agreementsOf_exchanged _ _
    · rw [of_sameSize, of_sameSize, Bool.beq_comm]
  have hdifferences : (Comparison.of p q).differences.Perm
      ((Comparison.of q p).differences.map Difference.exchanged) := by
    rw [hdiff, hdiff']
    exact differencesOf_exchanged _ _
  have hentries : (Comparison.of p q).entries = (Comparison.of q p).entries := by
    have hlength := hdifferences.length_eq
    rw [List.length_map] at hlength
    rw [entries, entries, hmatching.length_eq, hlength, hmissing, hextras]
    omega
  obtain ⟨hscore, hrating⟩ := of_rating_congr hmatching.length_eq hentries and_comm
  exact {
    score := hscore
    rating := hrating
    missing := hmissing
    missingPurposes := by rw [Comparison.missingPurposes, Comparison.extraPurposes, hmissing]
    extra := hextras
    extraPurposes := by rw [Comparison.extraPurposes, Comparison.missingPurposes, hextras]
    matching := hmatching
    differences := hdifferences }

end Comparison

/-! ## Rearranged programs -/

def Instruction.jumpless (i : Instruction) : Instruction :=
  { i with
    jt := 0
    jf := 0
    spelling := { i.spelling with jt := false, jf := false }
    suits := Spelling.suits_iff.mpr
      { i.truths with jt := fun _ => Nat.zero_le 1, jf := fun _ => Nat.zero_le 1 } }

/-- The second program has the instructions of the first, tags included, in some order and
with any jumps. -/
def Program.Rearranged (p q : Program) : Prop :=
  (p.instructions.map Instruction.jumpless).Perm (q.instructions.map Instruction.jumpless)

/-- Neither the position of an instruction nor its jumps decide what it is for. -/
theorem Meaning.purpose_jumpless (trustTags : Bool) (index : Nat) (i : Instruction) :
    (ofInstruction trustTags index i).purpose = (ofInstruction trustTags 0 i.jumpless).purpose := by
  have hclassify (index index' : Whole) (tag : Option Purpose) :
      (classify i.opcode.toNat i.kFigure index tag).purpose =
        (classify i.opcode.toNat i.kFigure index' tag).purpose := by
    cases tag with
    | none => rfl
    | some p => simp only [classify, apply_ite Meaning.purpose]
  exact hclassify _ _ _

namespace Program

theorem purposes_jumpless (p : Program) (trustTags : Bool) :
    Comparison.purposes (p.meaning trustTags) =
      (p.instructions.map Instruction.jumpless).map
        (fun i => (Meaning.ofInstruction trustTags 0 i).purpose) := by
  rw [Comparison.purposes, map_meaning]
  apply List.ext_getElem?
  intro n
  rw [List.getElem?_mapIdx, List.getElem?_map, List.getElem?_map, Option.map_map]
  congr 1
  funext i
  exact Meaning.purpose_jumpless trustTags n i

namespace Rearranged

variable {p q : Program} (h : p.Rearranged q)
include h

theorem size_eq : p.size = q.size := by
  have hlength := h.length_eq
  rw [List.length_map, List.length_map] at hlength
  exact hlength

theorem instructions_eq_nil : p.instructions = [] ↔ q.instructions = [] := by
  rw [← List.length_eq_zero_iff, ← List.length_eq_zero_iff]
  exact iff_of_eq (congrArg (· = 0) h.size_eq)

theorem isTagged_eq : p.isTagged = q.isTagged := by
  have hall := h.all_eq (f := fun i => i.purpose.isSome)
  rw [List.all_map, List.all_map] at hall
  exact hall

theorem purposesBeside_perm (other : Program) :
    (p.purposesBeside other).Perm (q.purposesBeside other) := by
  rw [purposesBeside, purposesBeside, purposes_jumpless, purposes_jumpless, h.isTagged_eq]
  exact List.Perm.map _ h

theorem beside_eq (other : Program) : other.purposesBeside p = other.purposesBeside q := by
  rw [purposesBeside, purposesBeside, h.isTagged_eq]

end Rearranged

end Program

namespace Comparison

theorem hasAny_perm {a b : List Purpose} (h : a.Perm b) (ps : List Purpose) :
    hasAny ps (Histogram.ofPurposes a) = hasAny ps (Histogram.ofPurposes b) := by
  rw [hasAny, hasAny, Histogram.has_perm h]

theorem shapeOf_congr {a a' b b' : List Purpose} (ha : a.Perm a') (hb : b.Perm b') (m n : Nat) :
    shapeOf m n (Histogram.ofPurposes a) (Histogram.ofPurposes b) =
      shapeOf m n (Histogram.ofPurposes a') (Histogram.ofPurposes b') := by
  simp only [shapeOf, hasAny_perm ha, hasAny_perm hb]

/-- The comparisons of one reference with two candidates tell the same, but for the order
of what is extra. -/
structure AgreesOnReference (c d : Comparison) : Prop where
  score : c.verdict.score = d.verdict.score
  rating : c.verdict.rating = d.verdict.rating
  text : c.verdict.text = d.verdict.text
  missing : c.missing = d.missing
  shape : c.shape = d.shape
  matching : c.matching = d.matching
  differences : c.differences = d.differences
  extra : c.extra.Perm d.extra

/-- The comparisons of two references with one candidate tell the same, but for the order
of entries and the words of the verdict. -/
structure AgreesOnCandidate (c d : Comparison) : Prop where
  score : c.verdict.score = d.verdict.score
  rating : c.verdict.rating = d.verdict.rating
  shape : c.shape = d.shape
  matching : c.matching.Perm d.matching
  differences : c.differences.Perm d.differences
  missing : c.missing.Perm d.missing
  extra : c.extra = d.extra

section
variable {p q : Program} (h : p.Rearranged q) (other : Program)
include h

theorem of_candidate_rearranged :
    (Comparison.of other p).AgreesOnReference (Comparison.of other q) := by
  have hperm := h.purposesBeside_perm other
  obtain ⟨hagree, hdiff, hmiss, hextra, hshape⟩ := of_lists other p
  obtain ⟨hagree', hdiff', hmiss', hextra', hshape'⟩ := of_lists other q
  rw [h.beside_eq other] at hagree hdiff hmiss hextra hshape
  -- The candidate is only looked up in the entries of the reference.
  have hagreements : (Comparison.of other p).agreements = (Comparison.of other q).agreements := by
    rw [hagree, hagree', agreementsOf, agreementsOf, Histogram.count?_perm hperm]
  have hdifferences : (Comparison.of other p).differences = (Comparison.of other q).differences := by
    rw [hdiff, hdiff', differencesOf, differencesOf, Histogram.count?_perm hperm]
  have hmissing : (Comparison.of other p).missing = (Comparison.of other q).missing := by
    rw [hmiss, hmiss', loneOf, loneOf, Histogram.has_perm hperm]
  have hextras : (Comparison.of other p).extra.Perm (Comparison.of other q).extra := by
    rw [hextra, hextra']
    exact (Histogram.ofPurposes_perm hperm).filterMap _
  have hmatching : (Comparison.of other p).matching = (Comparison.of other q).matching := by
    rw [matching, matching, hagreements, of_sameSize, of_sameSize, h.size_eq]
  have hverdict : (Comparison.of other p).verdict = (Comparison.of other q).verdict := by
    rw [of_verdict, of_verdict, entries, entries, missingPurposes, missingPurposes, hmatching,
      hdifferences, hmissing, hextras.length_eq,
      decide_eq_decide.mpr (and_congr_right fun _ => h.instructions_eq_nil)]
  exact {
    score := by rw [hverdict]
    rating := by rw [hverdict]
    text := by rw [hverdict]
    missing := hmissing
    shape := by
      rw [hshape, hshape', h.size_eq]
      exact shapeOf_congr (List.Perm.refl _) hperm _ _
    matching := hmatching
    differences := hdifferences
    extra := hextras }

theorem of_reference_rearranged :
    (Comparison.of p other).AgreesOnCandidate (Comparison.of q other) := by
  have hperm := h.purposesBeside_perm other
  have hentriesPerm := Histogram.ofPurposes_perm hperm
  obtain ⟨hagree, hdiff, hmiss, hextra, hshape⟩ := of_lists p other
  obtain ⟨hagree', hdiff', hmiss', hextra', hshape'⟩ := of_lists q other
  rw [h.beside_eq other] at hagree hdiff hmiss hextra hshape
  have hagreements : (Comparison.of p other).agreements.Perm (Comparison.of q other).agreements := by
    rw [hagree, hagree']
    exact hentriesPerm.filterMap _
  have hdifferences : (Comparison.of p other).differences.Perm (Comparison.of q other).differences := by
    rw [hdiff, hdiff']
    exact hentriesPerm.filterMap _
  have hmissing : (Comparison.of p other).missing.Perm (Comparison.of q other).missing := by
    rw [hmiss, hmiss']
    exact hentriesPerm.filterMap _
  have hextras : (Comparison.of p other).extra = (Comparison.of q other).extra := by
    rw [hextra, hextra', loneOf, loneOf, Histogram.has_perm hperm]
  have hmatching : (Comparison.of p other).matching.Perm (Comparison.of q other).matching := by
    apply matching_perm hagreements
    rw [of_sameSize, of_sameSize, h.size_eq]
  have hentries : (Comparison.of p other).entries = (Comparison.of q other).entries := by
    rw [entries, entries, hmatching.length_eq, hdifferences.length_eq, hmissing.length_eq, hextras]
  obtain ⟨hscore, hrating⟩ := of_rating_congr hmatching.length_eq hentries
    (and_congr_left fun _ => h.instructions_eq_nil)
  exact {
    score := hscore
    rating := hrating
    shape := by
      rw [hshape, hshape', h.size_eq]
      exact shapeOf_congr hperm (List.Perm.refl _) _ _
    matching := hmatching
    differences := hdifferences
    missing := hmissing
    extra := hextras }

end

/-- **A comparison does not depend on where instructions stand or jump.** With a
rearranged candidate it has the same score, rating, verdict, matches, differences,
missing entries and shape, and the same extra entries in some order. With a rearranged
reference it has the same score, rating and shape, and the same entries in some order. -/
theorem rearranged_compares {p q : Program} (h : p.Rearranged q) (other : Program) :
    (Comparison.of other p).AgreesOnReference (Comparison.of other q) ∧
      (Comparison.of p other).AgreesOnCandidate (Comparison.of q other) :=
  ⟨of_candidate_rearranged h other, of_reference_rearranged h other⟩

end Comparison

/-! ## A verdict that does depend on the order -/

/-- Checks of the Ethernet type and of the protocol. -/
def typeFirst : Program where
  instructions :=
    [{ opcode := Opcode.jumpEqual, jt := 1, jf := 2, k := 0x0800, purpose := some .checkEthertype },
     { opcode := Opcode.jumpEqual, jt := 2, jf := 1, k := 6 }]

/-- The same checks the other way round, with other jumps. -/
def typeLast : Program where
  instructions :=
    [{ opcode := Opcode.jumpEqual, jt := 7, jf := 0, k := 6 },
     { opcode := Opcode.jumpEqual, jt := 0, jf := 7, k := 0x0800, purpose := some .checkEthertype }]

/-- A program that rejects every packet. -/
def rejectAll : Program where
  instructions := [{ opcode := Opcode.ret, jt := 0, jf := 0, k := 0 }]

/-- A program that lacks both checks is found lacking in the same way, but the verdict
names the one that comes first. -/
theorem rearranged_compares_typeLast :
    typeFirst.Rearranged typeLast ∧
      (Comparison.of rejectAll typeFirst).AgreesOnReference (Comparison.of rejectAll typeLast) ∧
      (Comparison.of typeFirst rejectAll).AgreesOnCandidate (Comparison.of typeLast rejectAll) ∧
      (Comparison.of typeFirst rejectAll).verdict.text ≠
        (Comparison.of typeLast rejectAll).verdict.text := by
  have h : typeFirst.Rearranged typeLast := List.Perm.swap _ _ _
  obtain ⟨hcandidate, hreference⟩ := Comparison.rearranged_compares h rejectAll
  exact ⟨h, hcandidate, hreference, by decide +kernel⟩

end PacketFilter
