import PacketFilter.Proofs.Comparison.Histogram
import PacketFilter.Proofs.Number.Ratio

/-
  What a comparison says of each purpose.

  A comparison reads a list of purposes off each program. A purpose that occurs in
  one of the lists has one entry: an agreement, a difference, missing or extra, by
  how often it occurs in each.

  What is proved: the entries are the distinct purposes of the lists, filtered by
  their counts (`agreementsOf_ofPurposes`, `differencesOf_ofPurposes`,
  `loneOf_ofPurposes`); nothing is amiss exactly if one list is the other in another
  order (`nothingAmiss_iff_perm`); and so every purpose is accounted for once, and
  the score is one exactly if the programs have the same purposes equally often
  (`of_accounts`).
-/

namespace PacketFilter

theorem filterMap_eq_map_filter {α β : Type} {f : α → Option β} {c : α → Bool} {g : α → β}
    {l : List α} (h : ∀ x ∈ l, f x = if c x then some (g x) else none) :
    l.filterMap f = (l.filter c).map g := by
  induction l with
  | nil => rfl
  | cons x l ih =>
    rw [List.filterMap_cons, h x List.mem_cons_self, ih (fun y hy => h y (List.mem_cons_of_mem x hy))]
    by_cases hx : c x <;> simp [hx]

theorem length_filter_of_three {α : Type} {l : List α} {P Q R : α → Bool}
    (h : ∀ x ∈ l, (P x ∧ !Q x ∧ !R x) ∨ (!P x ∧ Q x ∧ !R x) ∨ (!P x ∧ !Q x ∧ R x)) :
    (l.filter P).length + (l.filter Q).length + (l.filter R).length = l.length := by
  induction l with
  | nil => rfl
  | cons x l ih =>
    have hrest := ih (fun y hy => h y (List.mem_cons_of_mem x hy))
    rcases h x List.mem_cons_self with ⟨hP, hQ, hR⟩ | ⟨hP, hQ, hR⟩ | ⟨hP, hQ, hR⟩
    all_goals
      simp only [Bool.not_eq_true'] at hP hQ hR
      simp only [List.filter_cons, hP, hQ, hR, ↓reduceIte, Bool.false_eq_true, List.length_cons]
      omega

theorem Purpose.mem_all (p : Purpose) : p ∈ all := by
  cases p <;> decide

theorem count_ne_of_mem {a b : List Purpose} {p : Purpose} (ha : p ∈ a) (hb : p ∉ b) :
    a.count p ≠ b.count p := by
  have hpos : 0 < a.count p := List.count_pos_iff.mpr ha
  rw [List.count_eq_zero.mpr hb]
  omega

namespace Program

theorem meaning_length (p : Program) (trustTags : Bool) : (p.meaning trustTags).length = p.size := by
  simp [meaning, size]

theorem meaning_eq (p : Program) (trustTags : Bool) :
    p.meaning trustTags = p.instructions.mapIdx (Meaning.ofInstruction trustTags) := by
  rw [meaning, List.mapIdx_eq_zipIdx_map]

theorem map_meaning {α : Type} (view : Meaning → α) (p : Program) (trustTags : Bool) :
    (p.meaning trustTags).map view =
      p.instructions.mapIdx (fun n i => view (Meaning.ofInstruction trustTags n i)) := by
  rw [meaning_eq]
  apply List.ext_getElem?
  intro n
  simp only [List.getElem?_map, List.getElem?_mapIdx, Option.map_map]
  rfl

end Program

namespace Comparison

/-! ## The entries for two lists of purposes -/

section
variable (a b : List Purpose)

theorem agreementsOf_ofPurposes :
    agreementsOf (Histogram.ofPurposes a) (Histogram.ofPurposes b) =
      (a.eraseDups.filter (fun p => a.count p = b.count p)).map (fun p => ⟨p, a.count p⟩) := by
  rw [agreementsOf, Histogram.ofPurposes_eq a, List.filterMap_map]
  apply filterMap_eq_map_filter
  intro p hp
  simp only [Function.comp_apply, Histogram.count?_ofPurposes, decide_eq_true_eq]
  by_cases hb : p ∈ b
  · simp only [hb, ↓reduceIte]
  · have hne := count_ne_of_mem (List.mem_eraseDups.mp hp) hb
    simp only [hb, ↓reduceIte, hne]

theorem differencesOf_ofPurposes :
    differencesOf (Histogram.ofPurposes a) (Histogram.ofPurposes b) =
      (a.eraseDups.filter (fun p => p ∈ b ∧ a.count p ≠ b.count p)).map
        (fun p => ⟨p, a.count p, b.count p⟩) := by
  rw [differencesOf, Histogram.ofPurposes_eq a, List.filterMap_map]
  apply filterMap_eq_map_filter
  intro p _
  simp only [Function.comp_apply, Histogram.count?_ofPurposes, decide_eq_true_eq]
  by_cases hb : p ∈ b <;> by_cases heq : a.count p = b.count p <;> simp [hb, heq]

theorem loneOf_ofPurposes :
    loneOf (Histogram.ofPurposes a) (Histogram.ofPurposes b) =
      (a.eraseDups.filter (fun p => p ∉ b)).map (fun p => ⟨p, a.count p⟩) := by
  rw [loneOf, Histogram.ofPurposes_eq a, List.filterMap_map]
  apply filterMap_eq_map_filter
  intro p _
  simp only [Function.comp_apply, Histogram.has_ofPurposes, decide_eq_true_eq]
  by_cases hb : p ∈ b <;> simp [hb]

theorem entries_length :
    (agreementsOf (Histogram.ofPurposes a) (Histogram.ofPurposes b)).length +
        (differencesOf (Histogram.ofPurposes a) (Histogram.ofPurposes b)).length +
        (loneOf (Histogram.ofPurposes a) (Histogram.ofPurposes b)).length =
      a.eraseDups.length := by
  rw [agreementsOf_ofPurposes, differencesOf_ofPurposes, loneOf_ofPurposes]
  simp only [List.length_map]
  apply length_filter_of_three
  intro p hp
  by_cases hb : p ∈ b
  · by_cases heq : a.count p = b.count p <;> simp [hb, heq]
  · have hne := count_ne_of_mem (List.mem_eraseDups.mp hp) hb
    simp [hb, hne]

theorem distinct_length :
    (a ++ b).eraseDups.length =
      a.eraseDups.length +
        (loneOf (Histogram.ofPurposes b) (Histogram.ofPurposes a)).length := by
  -- Both sides are free of repetitions, so it is enough that they have the same members.
  have hperm : (b.removeAll a).eraseDups.Perm (b.eraseDups.filter (fun p => p ∉ a)) := by
    rw [List.perm_ext_iff_of_nodup (nodup_eraseDups _) (List.Pairwise.filter _ (nodup_eraseDups _))]
    intro p
    simp [List.mem_eraseDups, List.removeAll]
  rw [List.eraseDups_append, List.length_append, hperm.length_eq, loneOf_ofPurposes, List.length_map]

/-- **Nothing is amiss exactly if one list is the other in another order.** -/
theorem nothingAmiss_iff_perm :
    (differencesOf (Histogram.ofPurposes a) (Histogram.ofPurposes b) = [] ∧
        loneOf (Histogram.ofPurposes a) (Histogram.ofPurposes b) = [] ∧
        loneOf (Histogram.ofPurposes b) (Histogram.ofPurposes a) = []) ↔
      a.Perm b := by
  simp only [differencesOf_ofPurposes, loneOf_ofPurposes, List.map_eq_nil_iff, List.filter_eq_nil_iff,
    List.mem_eraseDups, decide_eq_true_eq, Classical.not_not, not_and]
  constructor
  · rintro ⟨hcounts, hab, hba⟩
    rw [List.perm_iff_count]
    intro p
    by_cases ha : p ∈ a
    · exact hcounts p ha (hab p ha)
    · rw [List.count_eq_zero.mpr ha, List.count_eq_zero.mpr (fun hb => ha (hba p hb))]
  · intro hperm
    exact ⟨fun p _ _ => hperm.count_eq p, fun p => hperm.mem_iff.mp, fun p => hperm.mem_iff.mpr⟩

theorem shapeOf_perm {a b : List Purpose} (h : a.Perm b) (n : Nat) :
    shapeOf n n (Histogram.ofPurposes a) (Histogram.ofPurposes b) = [] := by
  have hany (ps : List Purpose) :
      hasAny ps (Histogram.ofPurposes a) = hasAny ps (Histogram.ofPurposes b) := by
    rw [hasAny, hasAny]
    congr 1
    funext p
    simp only [Histogram.has_ofPurposes, h.mem_iff]
  simp [shapeOf, hany]

theorem filter_entries {β : Type} {key : β → Purpose} {entry : Purpose → β}
    (hkey : ∀ p, key (entry p) = p) (c : Purpose → Bool) (p : Purpose) :
    ((a.eraseDups.filter c).map entry).filter (fun e => key e = p) =
      if 0 < a.count p ∧ c p then [entry p] else [] := by
  -- The purpose is among the distinct ones at most once.
  have hcount : (a.eraseDups.filter c).count p = if 0 < a.count p ∧ c p then 1 else 0 := by
    have hnodup : (a.eraseDups.filter c).Nodup := List.Pairwise.filter c (nodup_eraseDups a)
    rw [hnodup.count]
    simp [List.mem_eraseDups, List.count_pos_iff]
  rw [List.filter_map]
  have hcomp : (fun e => decide (key e = p)) ∘ entry = (fun q => decide (q = p)) := by
    funext q
    simp [hkey]
  rw [hcomp, List.filter_eq, hcount]
  split <;> rfl

end

/-! ## What is read off two programs -/

end Comparison

/-- The purposes of a program beside another: the tags are believed only if each
instruction of both programs has one. -/
def Program.purposesBeside (p other : Program) : List Purpose :=
  Comparison.purposes (p.meaning (p.isTagged && other.isTagged))

namespace Comparison

def missingPurposes (c : Comparison) : List Purpose := c.missing.map (·.purpose)

def extraPurposes (c : Comparison) : List Purpose := c.extra.map (·.purpose)

/-- How many entries there are, matches and all others. -/
def entries (c : Comparison) : Nat :=
  c.matching.length + c.differences.length + c.missing.length + c.extra.length

/-- The score before rounding. -/
def exactScore (c : Comparison) : Rat :=
  if c.reference.instructions = [] ∧ c.candidate.instructions = [] then 0
  else (c.matching.length : Rat) / (c.entries : Rat)

/-- The entries for a purpose that occurs `m` times in the reference and `n` times in
the candidate: one in one of the four groups, or none if it does not occur. -/
structure EntriesOn (c : Comparison) (p : Purpose) (m n : Nat) : Prop where
  agreement : c.agreements.filter (·.purpose = p) = if 0 < m ∧ m = n then [⟨p, m⟩] else []
  difference : c.differences.filter (·.purpose = p) =
    if 0 < m ∧ 0 < n ∧ m ≠ n then [⟨p, m, n⟩] else []
  missing : c.missing.filter (·.purpose = p) = if 0 < m ∧ n = 0 then [⟨p, m⟩] else []
  extra : c.extra.filter (·.purpose = p) = if m = 0 ∧ 0 < n then [⟨p, n⟩] else []
  missingPurpose : c.missingPurposes.count p = if 0 < m ∧ n = 0 then 1 else 0
  extraPurpose : c.extraPurposes.count p = if m = 0 ∧ 0 < n then 1 else 0

/-- Every purpose of the two programs is accounted for, and the score is their account. -/
structure Accounts (c : Comparison) (reference candidate : Program) : Prop where
  entriesOn : ∀ p, c.EntriesOn p ((reference.purposesBeside candidate).count p)
    ((candidate.purposesBeside reference).count p)
  total : c.entries =
    (reference.purposesBeside candidate ++ candidate.purposesBeside reference).eraseDups.length +
      if reference.size = candidate.size then 1 else 0
  bounds : 0 ≤ c.exactScore ∧ c.exactScore ≤ 1
  /-- Unless both programs are empty, the score is the share of the matches, and it is
  one, before and after rounding, exactly if the purposes are the same. -/
  score : ¬ (reference.instructions = [] ∧ candidate.instructions = []) →
    c.verdict.score = Binary64.ofRatio false c.matching.length c.entries ∧
      (c.exactScore = 1 ↔
        (reference.purposesBeside candidate).Perm (candidate.purposesBeside reference)) ∧
      (c.verdict.score = .ofInt 1 ↔
        (reference.purposesBeside candidate).Perm (candidate.purposesBeside reference))
  shape : (reference.purposesBeside candidate).Perm (candidate.purposesBeside reference) →
    c.shape = []

section
variable (reference candidate : Program)

theorem purposesBeside_length : (reference.purposesBeside candidate).length = reference.size := by
  rw [Program.purposesBeside, purposes, List.length_map, Program.meaning_length]

theorem of_lists :
    let c := Comparison.of reference candidate
    let first := Histogram.ofPurposes (reference.purposesBeside candidate)
    let second := Histogram.ofPurposes (candidate.purposesBeside reference)
    c.agreements = agreementsOf first second ∧ c.differences = differencesOf first second ∧
      c.missing = loneOf first second ∧ c.extra = loneOf second first ∧
      c.shape = shapeOf reference.size candidate.size first second := by
  have htrusted : candidate.purposesBeside reference =
      purposes (candidate.meaning (reference.isTagged && candidate.isTagged)) := by
    rw [Program.purposesBeside, Bool.and_comm]
  rw [htrusted]
  exact ⟨rfl, rfl, rfl, rfl, rfl⟩

theorem matching_length (c : Comparison) :
    c.matching.length = c.agreements.length + if c.sameSize then 1 else 0 := by
  rw [matching, List.length_append, List.length_map]
  split <;> rfl

theorem of_verdict : (Comparison.of reference candidate).verdict =
    .ofCounts (Comparison.of reference candidate).matching.length
      (Comparison.of reference candidate).entries
      (Comparison.of reference candidate).missingPurposes
      (decide (reference.instructions = [] ∧ candidate.instructions = [])) := by
  have hempty (p : Program) (trust : Bool) :
      (p.meaning trust).isEmpty = decide (p.instructions = []) := by
    rw [Bool.eq_iff_iff, List.isEmpty_iff_length_eq_zero, p.meaning_length, Program.size]
    simp
  rw [entries, matching_length, Bool.decide_and, ← hempty, ← hempty]
  rfl

theorem of_entries : (Comparison.of reference candidate).entries =
    (reference.purposesBeside candidate ++ candidate.purposesBeside reference).eraseDups.length +
      if reference.size = candidate.size then 1 else 0 := by
  obtain ⟨hagree, hdiff, hmiss, hextra, -⟩ := of_lists reference candidate
  have hsize : (if (Comparison.of reference candidate).sameSize then 1 else 0) =
      if reference.size = candidate.size then 1 else 0 := by
    simp [Comparison.of]
  rw [entries, matching_length, hagree, hdiff, hmiss, hextra, hsize, distinct_length,
    ← entries_length _ (candidate.purposesBeside reference)]
  omega

theorem count_purposes (l : List Lone) (p : Purpose) :
    (l.map (·.purpose)).count p = (l.filter (·.purpose = p)).length := by
  rw [List.count_eq_length_filter, List.filter_map, List.length_map]
  rfl

theorem of_entriesOn (p : Purpose) :
    (Comparison.of reference candidate).EntriesOn p ((reference.purposesBeside candidate).count p)
      ((candidate.purposesBeside reference).count p) := by
  obtain ⟨hagree, hdiff, hmiss, hextra, -⟩ := of_lists reference candidate
  generalize reference.purposesBeside candidate = a at *
  generalize candidate.purposesBeside reference = b at *
  have hmissing : (Comparison.of reference candidate).missing.filter (·.purpose = p) =
      if 0 < a.count p ∧ b.count p = 0 then [⟨p, a.count p⟩] else [] := by
    rw [hmiss, loneOf_ofPurposes, filter_entries a (fun _ => rfl)]
    simp only [decide_eq_true_eq, List.count_eq_zero]
  have hlone : (Comparison.of reference candidate).extra.filter (·.purpose = p) =
      if a.count p = 0 ∧ 0 < b.count p then [⟨p, b.count p⟩] else [] := by
    rw [hextra, loneOf_ofPurposes, filter_entries b (fun _ => rfl)]
    simp only [decide_eq_true_eq, List.count_eq_zero, and_comm]
  exact {
    agreement := by
      rw [hagree, agreementsOf_ofPurposes, filter_entries a (fun _ => rfl)]
      simp only [decide_eq_true_eq]
    difference := by
      rw [hdiff, differencesOf_ofPurposes, filter_entries a (fun _ => rfl)]
      simp only [decide_eq_true_eq, List.count_pos_iff]
    missing := hmissing
    extra := hlone
    missingPurpose := by
      rw [missingPurposes, count_purposes, hmissing]
      split <;> rfl
    extraPurpose := by
      rw [extraPurposes, count_purposes, hlone]
      split <;> rfl }

/-! ## The score -/

theorem matching_le_entries (c : Comparison) : c.matching.length ≤ c.entries := by
  rw [entries]
  omega

theorem of_matching_eq_iff :
    (Comparison.of reference candidate).matching.length = (Comparison.of reference candidate).entries ↔
      (reference.purposesBeside candidate).Perm (candidate.purposesBeside reference) := by
  obtain ⟨-, hdiff, hmiss, hextra, -⟩ := of_lists reference candidate
  rw [← nothingAmiss_iff_perm, ← hdiff, ← hmiss, ← hextra, ← List.length_eq_zero_iff,
    ← List.length_eq_zero_iff, ← List.length_eq_zero_iff, entries]
  omega

theorem of_entries_le : (Comparison.of reference candidate).entries ≤ 19 := by
  have hall : (reference.purposesBeside candidate ++ candidate.purposesBeside reference).eraseDups.length ≤
      Purpose.all.length :=
    List.Nodup.length_le_of_subset (nodup_eraseDups _) (fun p _ => p.mem_all)
  have hlen : Purpose.all.length = 18 := rfl
  rw [of_entries]
  split <;> omega

theorem of_entries_lt : (Comparison.of reference candidate).entries < Nat.pow 2 53 :=
  Nat.lt_of_le_of_lt (of_entries_le reference candidate) (by decide)

section
variable {reference candidate}
  (hsome : ¬ (reference.instructions = [] ∧ candidate.instructions = []))
include hsome

theorem of_entries_pos : 0 < (Comparison.of reference candidate).entries := by
  rw [of_entries]
  apply Nat.lt_of_lt_of_le _ (Nat.le_add_right _ _)
  have hlength : 0 < (reference.purposesBeside candidate ++ candidate.purposesBeside reference).length := by
    apply Nat.pos_of_ne_zero
    intro hzero
    rw [List.length_append, purposesBeside_length, purposesBeside_length, Nat.add_eq_zero_iff] at hzero
    exact hsome ⟨List.length_eq_zero_iff.mp hzero.1, List.length_eq_zero_iff.mp hzero.2⟩
  obtain ⟨p, hp⟩ := List.exists_mem_of_length_pos hlength
  exact List.length_pos_of_mem (List.mem_eraseDups.mpr hp)

theorem of_verdict_eq : (Comparison.of reference candidate).verdict =
    let score := Binary64.ofRatio false (Comparison.of reference candidate).matching.length
      (Comparison.of reference candidate).entries
    ⟨score, Rating.ofScore score,
      Verdict.words (Rating.ofScore score) (Comparison.of reference candidate).missingPurposes⟩ := by
  have hcounts : ¬ ((Comparison.of reference candidate).entries = 0 ∨
      decide (reference.instructions = [] ∧ candidate.instructions = []) = true) := by
    have := of_entries_pos hsome
    rw [decide_eq_true_eq]
    exact fun h => h.elim (by omega) hsome
  rw [of_verdict, Verdict.ofCounts, if_neg hcounts]

/-- **The score is one exactly if the programs have the same purposes equally often.** -/
theorem of_score_eq_one_iff :
    (Comparison.of reference candidate).verdict.score = .ofInt 1 ↔
      (reference.purposesBeside candidate).Perm (candidate.purposesBeside reference) := by
  rw [of_verdict_eq hsome, ← of_matching_eq_iff]
  exact Binary64.ofRatio_eq_one_iff (of_entries_pos hsome) (matching_le_entries _) (of_entries_lt _ _)

end

theorem share_bounds {m t : Nat} (hm : m ≤ t) (ht : 0 < t) :
    0 ≤ (m : Rat) / (t : Rat) ∧ (m : Rat) / (t : Rat) ≤ 1 ∧ ((m : Rat) / (t : Rat) = 1 ↔ m = t) := by
  have hpos : (0 : Rat) < (t : Rat) := Rat.natCast_pos.mpr ht
  refine ⟨?_, ?_, ?_⟩
  · rw [← Rat.not_lt, Rat.div_lt_iff hpos, Rat.zero_mul, Rat.not_lt]
    exact Rat.natCast_nonneg
  · rw [← Rat.not_lt, Rat.lt_div_iff hpos, Rat.one_mul, Rat.not_lt]
    exact Rat.natCast_le_natCast.mpr hm
  · constructor
    · intro h
      have hmul : (m : Rat) / (t : Rat) * (t : Rat) = (t : Rat) := by rw [h, Rat.one_mul]
      rw [Rat.div_mul_cancel (Ne.symm (Rat.ne_of_lt hpos))] at hmul
      exact Rat.natCast_inj.mp hmul
    · intro h
      rw [h, Rat.div_def, Rat.mul_inv_cancel _ (Ne.symm (Rat.ne_of_lt hpos))]

/-- **A comparison accounts for every purpose.** Each purpose of either program is in
one of the four groups, once; the entries are as many as the distinct purposes, and one
more if the sizes are the same; and the score, a share, is one exactly if the programs
have the same purposes equally often, whose shapes then do not differ. -/
theorem of_accounts : (Comparison.of reference candidate).Accounts reference candidate := by
  have hle := matching_le_entries (Comparison.of reference candidate)
  refine ⟨of_entriesOn reference candidate, of_entries reference candidate, ?_, ?_, ?_⟩
  · rw [exactScore]
    split
    · decide
    · next hsome =>
      obtain ⟨hlow, hhigh, -⟩ := share_bounds hle (of_entries_pos hsome)
      exact ⟨hlow, hhigh⟩
  · intro hsome
    refine ⟨by rw [of_verdict_eq hsome], ?_, of_score_eq_one_iff hsome⟩
    obtain ⟨-, -, hone⟩ := share_bounds hle (of_entries_pos hsome)
    have hexact : (Comparison.of reference candidate).exactScore =
        ((Comparison.of reference candidate).matching.length : Rat) /
          ((Comparison.of reference candidate).entries : Rat) := if_neg hsome
    rw [hexact, hone, of_matching_eq_iff]
  · intro hperm
    have hsize : reference.size = candidate.size := by
      rw [← purposesBeside_length reference candidate, hperm.length_eq, purposesBeside_length]
    obtain ⟨-, -, -, -, hshape⟩ := of_lists reference candidate
    rw [hshape, hsize, shapeOf_perm hperm]

end

end Comparison

end PacketFilter
