import PacketFilter.Proofs.Comparison.Stages
import PacketFilter.Proofs.Number.Rounding

/-
  How a comparison is rated.

  The rating compares the rounded share of the matches with rounded thresholds, and there
  are few entries, so it is the rating of the share itself, also where the share is exactly
  a threshold. The verdict is critical whatever the rating is: it looks through the
  purposes that the candidate lacks for those that no filter can do without, and these
  stand in the order in which the reference has them first.

  What is proved: the rating of a rounded share is that of the share
  (`Rating.ofScore_ofRatio`); the words of the verdict hang on the first check of the
  reference that is needed and lacking (`findSome?_lack`); and so every comparison is rated
  by its entries, is critical exactly if such a check is lacking, and is inconclusive
  exactly if both programs are empty (`of_judged`).
-/

namespace PacketFilter

/-! ## Ratings -/

namespace Rating

/-- The rating of so many matches among so many entries, without rounding. -/
def ofShare (matching total : Nat) : Rating :=
  if 4 * total ≤ 5 * matching then .excellent
  else if 3 * total ≤ 5 * matching then .good
  else if 2 * total ≤ 5 * matching then .incomplete
  else .poor

section
variable {m t : Nat} (ht : 0 < t) (hm : m ≤ t) (hsmall : t * 5 < Nat.pow 2 52)
include ht hm hsmall

theorem reaches_ofRatio {fifths : Nat} (hfifths : fifths ≤ 5) :
    reaches fifths (Binary64.ofRatio false m t) = true ↔ fifths * t ≤ 5 * m := by
  rw [reaches, Bool.not_eq_true', ← Bool.not_eq_true,
    Binary64.ofRatio_less_iff ht (by decide) hm hfifths hsmall]
  omega

/-- **The rating of a rounded share is that of the share.** -/
theorem ofScore_ofRatio : ofScore (Binary64.ofRatio false m t) = ofShare m t := by
  have hreaches {fifths : Nat} := @reaches_ofRatio m t ht hm hsmall fifths
  simp only [ofScore, ofShare, hreaches (show 4 ≤ 5 by decide), hreaches (show 3 ≤ 5 by decide),
    hreaches (show 2 ≤ 5 by decide)]

end

theorem ofShare_ne_inconclusive (matching total : Nat) :
    ofShare matching total ≠ .inconclusive := by
  unfold ofShare
  repeat' split
  all_goals decide

end Rating

/-! ## Checks that are lacking -/

theorem findSome?_eq_bind_find? {α β : Type} (f : α → Option β) (l : List α) :
    l.findSome? f = (l.find? (fun a => (f a).isSome)).bind f := by
  induction l with
  | nil => rfl
  | cons a l ih =>
    rw [List.findSome?_cons, List.find?_cons, ih]
    cases h : f a with
    | none => rfl
    | some b => exact h.symm

theorem find?_eraseDups {α : Type} [BEq α] [LawfulBEq α] (q : α → Bool) :
    ∀ l : List α, l.eraseDups.find? q = l.find? q
  | [] => rfl
  | a :: l => by
    have hshorter : (l.filter (fun b => !b == a)).length < l.length + 1 :=
      Nat.lt_succ_of_le (List.length_filter_le _ _)
    rw [List.eraseDups_cons, List.find?_cons, List.find?_cons, find?_eraseDups q, List.find?_filter]
    cases hq : q a with
    | true => rfl
    | false =>
      -- Repetitions of an element without the property are passed over as well.
      show l.find? _ = l.find? q
      congr 1
      funext b
      by_cases hb : b = a
      · simp [hb, hq]
      · simp [hb]
termination_by l => l.length

namespace Comparison

/-- The first check in a reference that no filter can do without and the candidate
lacks. -/
def firstLack (reference candidate : List Purpose) : Option Purpose :=
  reference.find? (fun p => (p = .checkEthertype ∨ p = .checkProtocol) ∧ p ∉ candidate)

theorem findSome?_lack (a b : List Purpose) :
    (a.eraseDups.filter (fun p => p ∉ b)).findSome? Purpose.lack? =
      (firstLack a b).bind Purpose.lack? := by
  rw [findSome?_eq_bind_find?, List.find?_filter, find?_eraseDups, firstLack]
  simp only [Purpose.lack?_isSome, decide_eq_true_eq, and_comm]

theorem firstLack_eq_some {a b : List Purpose}
    (h : ∃ p, (p = .checkEthertype ∨ p = .checkProtocol) ∧ p ∈ a ∧ p ∉ b) :
    ∃ p lack, firstLack a b = some p ∧ p.lack? = some lack := by
  obtain ⟨q, hneeded, hmem, hlacking⟩ := h
  have hsome : (firstLack a b).isSome = true :=
    List.find?_isSome.mpr ⟨q, hmem, decide_eq_true ⟨hneeded, hlacking⟩⟩
  obtain ⟨p, hp⟩ := Option.isSome_iff_exists.mp hsome
  have hfound := List.find?_some hp
  rw [decide_eq_true_eq] at hfound
  obtain ⟨lack, hlack⟩ := Option.isSome_iff_exists.mp (p.lack?_isSome.mpr hfound.1)
  exact ⟨p, lack, hp, hlack⟩

/-! ## Verdicts -/

/-- The comparison is rated by its entries, and looked through for checks that are
lacking. -/
structure Judged (c : Comparison) (reference candidate : Program) : Prop where
  /-- With something to compare, the rating is by fifths of the entries. -/
  rating : ¬ (reference.instructions = [] ∧ candidate.instructions = []) →
    0 < c.entries ∧ c.verdict.rating =
      if 4 * c.entries ≤ 5 * c.matching.length then .excellent
      else if 3 * c.entries ≤ 5 * c.matching.length then .good
      else if 2 * c.entries ≤ 5 * c.matching.length then .incomplete
      else .poor
  /-- The verdict is critical if a check that is needed is lacking. -/
  critical : "CRITICAL ISSUE: ".toList <+: c.verdict.text.toList ↔
    ∃ p, (p = .checkEthertype ∨ p = .checkProtocol) ∧
      p ∈ reference.purposesBeside candidate ∧ p ∉ candidate.purposesBeside reference
  /-- It then names the one that the reference has first. -/
  named : "CRITICAL ISSUE: ".toList <+: c.verdict.text.toList →
    ∃ p lack,
      firstLack (reference.purposesBeside candidate) (candidate.purposesBeside reference) = some p ∧
      p.lack? = some lack ∧
      c.verdict.text = "CRITICAL ISSUE: " ++ c.verdict.rating.words ++ " (" ++ lack ++ ")"
  /-- There is no rating only if there is nothing to compare. -/
  inconclusive : c.verdict.rating = .inconclusive ∧ c.verdict.score = .zero ↔
    reference.instructions = [] ∧ candidate.instructions = []

section
variable {reference candidate : Program}

theorem of_missingPurposes : (Comparison.of reference candidate).missingPurposes =
    (reference.purposesBeside candidate).eraseDups.filter
      (fun p => p ∉ candidate.purposesBeside reference) := by
  obtain ⟨-, -, hmissing, -, -⟩ := of_lists reference candidate
  rw [missingPurposes, hmissing, loneOf_ofPurposes, List.map_map]
  exact List.map_id _

theorem of_verdict_empty (h : reference.instructions = [] ∧ candidate.instructions = []) :
    (Comparison.of reference candidate).verdict = .inconclusive := by
  rw [of_verdict, Verdict.ofCounts, if_pos (.inr (decide_eq_true h))]

theorem of_text : (Comparison.of reference candidate).verdict.text =
    Verdict.words (Comparison.of reference candidate).verdict.rating
      (Comparison.of reference candidate).missingPurposes := by
  by_cases h : reference.instructions = [] ∧ candidate.instructions = []
  · have hnone : reference.purposesBeside candidate = [] := by
      rw [Program.purposesBeside, Program.meaning, h.1]
      rfl
    rw [of_missingPurposes, hnone, of_verdict_empty h]
    rfl
  · rw [of_verdict_eq h]

theorem of_rating (h : ¬ (reference.instructions = [] ∧ candidate.instructions = [])) :
    (Comparison.of reference candidate).verdict.rating =
      .ofShare (Comparison.of reference candidate).matching.length
        (Comparison.of reference candidate).entries := by
  have hsmall : (Comparison.of reference candidate).entries * 5 < Nat.pow 2 52 := by
    have := of_entries_le reference candidate
    rw [Binary64.two_pow_52]
    omega
  rw [of_verdict_eq h]
  exact Rating.ofScore_ofRatio (of_entries_pos h) (matching_le_entries _) hsmall

end

/-- **How a comparison is judged.** The rating is by the share of the matches, the
thresholds included; the verdict is critical exactly if the reference has a check of the
Ethernet type or of the protocol and the candidate has none, and names the first such
check; and nothing but two empty programs is inconclusive. -/
theorem of_judged (reference candidate : Program) :
    (Comparison.of reference candidate).Judged reference candidate := by
  have hcritical : "CRITICAL ISSUE: ".toList <+:
        (Comparison.of reference candidate).verdict.text.toList ↔
      ∃ p, (p = .checkEthertype ∨ p = .checkProtocol) ∧
        p ∈ reference.purposesBeside candidate ∧ p ∉ candidate.purposesBeside reference := by
    rw [of_text, Verdict.critical_iff, of_missingPurposes]
    simp only [List.mem_filter, List.mem_eraseDups, decide_eq_true_eq, or_and_right, exists_or,
      exists_eq_left]
  refine ⟨?_, hcritical, ?_, ?_⟩
  · intro h
    exact ⟨of_entries_pos h, of_rating h⟩
  · intro h
    obtain ⟨p, lack, hp, hlack⟩ := firstLack_eq_some (hcritical.mp h)
    refine ⟨p, lack, hp, hlack, ?_⟩
    rw [of_text, Verdict.words, of_missingPurposes, findSome?_lack, hp, Option.bind_some, hlack]
  · constructor
    · rintro ⟨hrating, -⟩
      apply Classical.byContradiction
      intro h
      rw [of_rating h] at hrating
      exact Rating.ofShare_ne_inconclusive _ _ hrating
    · intro h
      rw [of_verdict_empty h]
      exact ⟨rfl, rfl⟩

end Comparison

end PacketFilter
