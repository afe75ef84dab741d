import PacketFilter.Proofs.Comparison.Accounting
import PacketFilter.Proofs.Number.Literal
import PacketFilter.Report

/-
  The differences that a report shows.

  The entries of a comparison that something is missing, extra or of another shape are sorted
  by rank, and the first four are shown.

  What is proved:
    1. `mergeSort_eq_flatMap`: a stable sort by rank puts the elements of each rank one after
       the other, in the order they had.
    2. `keyDifferences_eq`: so the entries shown are the first of `ranked`, which lists the five
       groups by hand.
    3. `ranked_nodup` and `critical_length_le`: no entry is there twice, and at most two are
       critical.
    4. `keyDifferences_shown`: hence no critical entry is cut off, nothing is shown twice, and
       nothing is shown exactly if there is nothing to show.
-/

namespace PacketFilter

/-! ## Sorting by rank -/

section
variable {α : Type} (rank : α → Nat)

theorem rankLe_trans (a b c : α) (hab : decide (rank a ≤ rank b) = true)
    (hbc : decide (rank b ≤ rank c) = true) : decide (rank a ≤ rank c) = true := by
  simp only [decide_eq_true_eq] at hab hbc ⊢
  exact Nat.le_trans hab hbc

theorem rankLe_total (a b : α) :
    (decide (rank a ≤ rank b) || decide (rank b ≤ rank a)) = true := by
  simp only [Bool.or_eq_true, decide_eq_true_eq]
  exact Nat.le_total _ _

/-- A stable sort by rank keeps the order of the elements of one rank. -/
theorem filter_mergeSort (l : List α) (r : Nat) :
    (l.mergeSort (fun a b => rank a ≤ rank b)).filter (fun x => rank x = r) =
      l.filter (fun x => rank x = r) := by
  have hsame : (l.filter (fun x => rank x = r)).Pairwise
      (fun a b => decide (rank a ≤ rank b) = true) := by
    rw [List.pairwise_iff_forall_sublist]
    intro a b hab
    have ha := (List.mem_filter.mp (hab.subset List.mem_cons_self)).2
    have hb := (List.mem_filter.mp (hab.subset (List.mem_cons_of_mem a List.mem_cons_self))).2
    simp only [decide_eq_true_eq] at ha hb ⊢
    omega
  have hsub := (List.sublist_mergeSort (rankLe_trans rank) (rankLe_total rank) hsame
    List.filter_sublist).filter (fun x => decide (rank x = r))
  rw [List.filter_filter] at hsub
  simp only [Bool.and_self] at hsub
  refine (hsub.eq_of_length ?_).symm
  exact ((List.mergeSort_perm l _).filter _).length_eq.symm

theorem filter_append_filter_of_sorted {l : List α} (hl : l.Pairwise (fun a b => rank a ≤ rank b))
    {r : Nat} (hr : ∀ x ∈ l, r ≤ rank x) :
    l.filter (fun x => rank x = r) ++ l.filter (fun x => rank x ≠ r) = l := by
  induction l with
  | nil => rfl
  | cons x l ih =>
    obtain ⟨hx, hl⟩ := List.pairwise_cons.mp hl
    by_cases hleast : rank x = r
    · have hrest := ih hl (fun y hy => hr y (List.mem_cons_of_mem x hy))
      simpa [List.filter_cons, hleast] using hrest
    · have hlater : ∀ y ∈ x :: l, rank y ≠ r := by
        intro y hy
        have hxr := hr x List.mem_cons_self
        rcases List.mem_cons.mp hy with rfl | hy
        · exact hleast
        · have := hx y hy
          omega
      have hnone : (x :: l).filter (fun y => rank y = r) = [] := by
        simpa [List.filter_eq_nil_iff] using hlater
      have hall : (x :: l).filter (fun y => rank y ≠ r) = x :: l := by
        simpa [List.filter_eq_self] using hlater
      rw [hnone, hall]
      rfl

theorem flatMap_filter_of_sorted {ranks : List Nat} (hranks : ranks.Pairwise (· < ·)) {l : List α}
    (hl : l.Pairwise (fun a b => rank a ≤ rank b)) (hall : ∀ x ∈ l, rank x ∈ ranks) :
    ranks.flatMap (fun r => l.filter (fun x => rank x = r)) = l := by
  induction ranks generalizing l with
  | nil =>
    cases l with
    | nil => rfl
    | cons x l => exact absurd (hall x List.mem_cons_self) List.not_mem_nil
  | cons r ranks ih =>
    obtain ⟨hr, hranks⟩ := List.pairwise_cons.mp hranks
    have hleast : ∀ x ∈ l, r ≤ rank x := by
      intro x hx
      rcases List.mem_cons.mp (hall x hx) with hxr | hxr
      · exact Nat.le_of_eq hxr.symm
      · exact Nat.le_of_lt (hr _ hxr)
    -- What has another rank is what is left for the ranks that follow.
    have hrest : ranks.flatMap (fun q => l.filter (fun x => rank x = q)) =
        l.filter (fun x => rank x ≠ r) := by
      rw [← ih hranks (l := l.filter (fun x => rank x ≠ r)) (List.Pairwise.filter _ hl)]
      · rw [List.flatMap_def, List.flatMap_def]
        congr 1
        apply List.map_congr_left
        intro q hq
        have hne : q ≠ r := Nat.ne_of_gt (hr q hq)
        rw [List.filter_filter]
        apply List.filter_congr
        intro x _
        by_cases hx : rank x = q <;> simp [hx, hne]
      · intro x hx
        obtain ⟨hmem, hne⟩ := List.mem_filter.mp hx
        exact (List.mem_cons.mp (hall x hmem)).resolve_left (by simpa using hne)
    rw [List.flatMap_cons, hrest]
    exact filter_append_filter_of_sorted rank hl hleast

/-- **A stable sort by rank lists the ranks one after the other.** -/
theorem mergeSort_eq_flatMap {ranks : List Nat} (hranks : ranks.Pairwise (· < ·)) {l : List α}
    (hall : ∀ x ∈ l, rank x ∈ ranks) :
    l.mergeSort (fun a b => rank a ≤ rank b) =
      ranks.flatMap (fun r => l.filter (fun x => rank x = r)) := by
  have hsorted : (l.mergeSort (fun a b => rank a ≤ rank b)).Pairwise
      (fun a b => rank a ≤ rank b) := by
    have h := List.pairwise_mergeSort (rankLe_trans rank) (rankLe_total rank) l
    simpa only [decide_eq_true_eq] using h
  rw [← flatMap_filter_of_sorted rank hranks hsorted]
  · simp only [filter_mergeSort]
  · intro x hx
    exact hall x (List.mem_mergeSort.mp hx)

end

/-! ## Texts that tell their purposes apart -/

namespace Purpose

theorem words_injective {p q : Purpose} (h : p.words = q.words) : p = q := by
  have hfind (r : Purpose) : all.find? (fun s => s.words == r.words) = some r := by
    cases r <;> decide
  have hp := hfind p
  rw [h, hfind q] at hp
  exact (Option.some.inj hp).symm

theorem words_letters (p : Purpose) :
    p.words.toList.all (fun c => c.isAlpha || c == ' ') = true := by
  cases p <;> decide

theorem not_mem_words {c : Char} (hc : (c.isAlpha || c == ' ') = false) (p : Purpose) :
    c ∉ p.words.toList := by
  intro h
  have hletter := List.all_eq_true.mp p.words_letters c h
  rw [hc] at hletter
  contradiction

end Purpose

namespace Report

open Text

/-- A purpose in words up to a bracket can be read off the text. -/
theorem words_inj_of_bracket {lead : String} (hlead : '(' ∉ lead.toList) {p q : Purpose}
    {a b tail : String}
    (h : lead ++ p.words ++ " (" ++ a ++ tail = lead ++ q.words ++ " (" ++ b ++ tail) : p = q := by
  have hfirst (r : Purpose) : ∀ c ∈ (lead ++ r.words ++ " ").toList, (c == '(') = false := by
    intro c hc
    rw [beq_eq_false_iff_ne]
    intro hparen
    rw [hparen, String.toList_append, String.toList_append, List.mem_append, List.mem_append] at hc
    rcases hc with (hc | hc) | hc
    · exact hlead hc
    · exact Purpose.not_mem_words (by decide) r hc
    · exact absurd hc (by decide)
  have hsplit (r : Purpose) (rest : String) :
      splitWhere (· == '(') (lead ++ r.words ++ " (" ++ rest).toList =
        (lead ++ r.words ++ " ").toList :: splitWhere (· == '(') rest.toList := by
    rw [← splitWhere_append (hfirst r) (beq_self_eq_true '(')]
    simp
  have hparts := congrArg (fun s : String => splitWhere (· == '(') s.toList)
    ((String.append_left_inj tail).mp h)
  simp only [hsplit, List.cons.injEq, String.toList_inj, String.append_left_inj,
    String.append_right_inj] at hparts
  exact Purpose.words_injective hparts.1

theorem missingText_inj {k l : Lone} (h : k.missingText = l.missingText) :
    k.purpose = l.purpose := by
  rw [Lone.missingText, Lone.missingText] at h
  exact words_inj_of_bracket (by decide) h

theorem extraText_inj {k l : Lone} (h : k.extraText = l.extraText) : k.purpose = l.purpose := by
  rw [Lone.extraText, Lone.extraText] at h
  exact words_inj_of_bracket (by decide) h

/-! ## The five groups -/

/-- What a filter cannot do without. -/
def criticalPurposes : List Purpose := [.checkEthertype, .checkProtocol]

/-- What makes a filter stricter: loads and checks of fragments and addresses. -/
def enhancements : List Purpose :=
  [.loadFragInfo, .checkFragment, .loadSrcAddr, .checkSrcAddr, .loadDstAddr, .checkDstAddr]

theorem isCritical_eq (p : Purpose) : isCritical p = decide (p ∈ criticalPurposes) := by
  cases p <;> rfl

theorem isEnhancement_eq (p : Purpose) : isEnhancement p = decide (p ∈ enhancements) := by
  cases p <;> rfl

/-- The texts of a comparison by rank, with the mark of each rank. -/
def groups (c : Comparison) : List (String × List String) :=
  [("!", (c.missing.filter (·.purpose ∈ criticalPurposes)).map ("CRITICAL: " ++ ·.missingText)),
   ("*", (c.extra.filter (·.purpose ∈ enhancements)).map ("ENHANCEMENT: " ++ ·.extraText)),
   ("x", (c.missing.filter (·.purpose ∉ criticalPurposes)).map (·.missingText)),
   ("+", (c.extra.filter (·.purpose ∉ enhancements)).map (·.extraText)),
   ("~", c.shape.map (·.text))]

/-- The texts, each with its mark. -/
def marked (gs : List (String × List String)) : List (String × String) :=
  gs.flatMap (fun g => g.2.map (fun text => (g.1, text)))

/-- What is missing, extra or of another shape, one group after the other. -/
def ranked (c : Comparison) : List (String × String) := marked (groups c)

/-- How much is missing, extra or of another shape. -/
def amiss (c : Comparison) : Nat := c.missing.length + c.extra.length + c.shape.length

/-- A difference as it is shown. -/
def KeyDifference.entry (d : KeyDifference) : String × String := (d.mark, d.text)

/-- The differences before they are sorted. -/
def unsorted (c : Comparison) : List KeyDifference :=
  c.missing.map ofMissing ++ c.extra.map ofExtra ++ c.shape.map ofShape

/-- The elements of one rank, where the rank goes by a condition: those that meet it, those
that do not, or none. -/
theorem entries_of_rank {γ : Type} {f : γ → KeyDifference} {P : γ → Prop} [DecidablePred P]
    {first second : Nat} {mark mark' : String} {text text' : γ → String}
    (hf : ∀ x, f x = if P x then ⟨first, mark, text x⟩ else ⟨second, mark', text' x⟩)
    (hne : first ≠ second) (l : List γ) (r : Nat) :
    ((l.map f).filter (fun d => d.rank = r)).map KeyDifference.entry =
      if r = first then ((l.filter (fun x => P x)).map text).map (fun t => (mark, t))
      else if r = second then ((l.filter (fun x => ¬ P x)).map text').map (fun t => (mark', t))
      else [] := by
  induction l with
  | nil => simp
  | cons x l ih =>
    rw [List.map_cons, List.filter_cons, hf x]
    by_cases hx : P x
    · by_cases hr : r = first
      · subst hr
        simpa [hx, KeyDifference.entry] using ih
      · simpa [hx, hr, Ne.symm hr] using ih
    · by_cases hr : r = second
      · subst hr
        simpa [hx, hne, hne.symm, KeyDifference.entry] using ih
      · simpa [hx, hr, Ne.symm hr] using ih

section
variable (c : Comparison)

theorem ofMissing_eq (l : Lone) : ofMissing l =
    if l.purpose ∈ criticalPurposes then ⟨1, "!", "CRITICAL: " ++ l.missingText⟩
    else ⟨3, "x", l.missingText⟩ := by
  simp only [ofMissing, isCritical_eq, decide_eq_true_eq]

theorem ofExtra_eq (l : Lone) : ofExtra l =
    if l.purpose ∈ enhancements then ⟨2, "*", "ENHANCEMENT: " ++ l.extraText⟩
    else ⟨4, "+", l.extraText⟩ := by
  simp only [ofExtra, isEnhancement_eq, decide_eq_true_eq]

theorem rank_mem : ∀ d ∈ unsorted c, d.rank ∈ [1, 2, 3, 4, 5] := by
  intro d hd
  rw [unsorted, List.mem_append, List.mem_append] at hd
  rcases hd with (hd | hd) | hd
  · obtain ⟨l, -, rfl⟩ := List.mem_map.mp hd
    rw [ofMissing]
    split <;> simp
  · obtain ⟨l, -, rfl⟩ := List.mem_map.mp hd
    rw [ofExtra]
    split <;> simp
  · obtain ⟨s, -, rfl⟩ := List.mem_map.mp hd
    simp [ofShape]

theorem shape_of_rank (r : Nat) :
    ((c.shape.map ofShape).filter (fun d => d.rank = r)).map KeyDifference.entry =
      if r = 5 then (c.shape.map (·.text)).map (fun t => ("~", t)) else [] := by
  by_cases hr : r = 5
  · have hall : (c.shape.map ofShape).filter (fun d => d.rank = r) = c.shape.map ofShape := by
      rw [List.filter_eq_self]
      simp [ofShape, hr]
    rw [hall, if_pos hr, List.map_map, List.map_map]
    rfl
  · simp [ofShape, hr, Ne.symm hr]

/-- **Sorted, the differences are the five groups one after the other.** -/
theorem map_entry_sorted :
    ((unsorted c).mergeSort (fun a b => a.rank ≤ b.rank)).map KeyDifference.entry = ranked c := by
  have hranks : [1, 2, 3, 4, 5].Pairwise (· < ·) := by decide
  rw [mergeSort_eq_flatMap KeyDifference.rank hranks (rank_mem c), List.map_flatMap]
  simp only [unsorted, List.filter_append, List.map_append, entries_of_rank ofMissing_eq (by decide),
    entries_of_rank ofExtra_eq (by decide), shape_of_rank]
  simp [ranked, marked, groups]

theorem ranked_length : (ranked c).length = amiss c := by
  rw [← map_entry_sorted, List.length_map, List.length_mergeSort]
  simp [unsorted, amiss, Nat.add_assoc]

theorem keyDifferences_eq :
    (keyDifferences c).map KeyDifference.entry = (ranked c).take 4 := by
  rw [← map_entry_sorted, ← List.map_take]
  rfl

end

/-! ## No entry twice, and none that is critical cut off -/

theorem marked_nodup {gs : List (String × List String)} (hmarks : (gs.map (·.1)).Nodup)
    (htexts : ∀ g ∈ gs, g.2.Nodup) : (marked gs).Nodup := by
  induction gs with
  | nil => exact List.nodup_nil
  | cons g gs ih =>
    rw [List.map_cons, List.nodup_cons] at hmarks
    have hrest := ih hmarks.2 (fun g' hg' => htexts g' (List.mem_cons_of_mem g hg'))
    rw [marked, List.flatMap_cons, List.nodup_append]
    refine ⟨?_, hrest, ?_⟩
    · have hfirst := htexts g List.mem_cons_self
      refine List.pairwise_map.mpr (hfirst.imp ?_)
      intro s t hne h
      exact hne (Prod.mk.inj h).2
    · intro a ha b hb hab
      obtain ⟨s, -, rfl⟩ := List.mem_map.mp ha
      obtain ⟨g', hg', hb⟩ := List.mem_flatMap.mp hb
      obtain ⟨t, -, rfl⟩ := List.mem_map.mp hb
      apply hmarks.1
      rw [(Prod.mk.inj hab).1]
      exact List.mem_map_of_mem hg'

theorem texts_nodup {l : List Lone} (hl : (l.map (·.purpose)).Nodup) {text : Lone → String}
    (htext : ∀ {j k : Lone}, text j = text k → j.purpose = k.purpose) (keep : Lone → Bool) :
    ((l.filter keep).map text).Nodup := by
  have hkept := List.Pairwise.filter keep (List.pairwise_map.mp hl)
  refine List.pairwise_map.mpr (hkept.imp ?_)
  intro j k hne h
  exact hne (htext h)

/-- Twelve characters are enough to tell a difference of size, of fragments and of addresses
apart. -/
theorem shape_opening (s : ShapeDifference) :
    String.ofList (s.text.toList.take 12) =
      match s with
      | .longer _ | .shorter _ => "Candidate ha"
      | .fragmentHandling => "Candidate in"
      | .addressFiltering => "Candidate im" := by
  have hsize (count rest : String) :
      String.ofList (("Candidate has " ++ count ++ rest).toList.take 12) = "Candidate ha" := by
    have hlong : 12 ≤ "Candidate has ".toList.length := by decide
    have htake : String.ofList ("Candidate has ".toList.take 12) = "Candidate ha" := by
      decide
    rw [String.toList_append, String.toList_append, List.append_assoc,
      List.take_append_of_le_length hlong, htake]
  cases s with
  | longer count => exact hsize _ _
  | shorter count => exact hsize _ _
  | fragmentHandling => decide
  | addressFiltering => decide

theorem shapeTexts_nodup (m n : Nat) (first second : Histogram) :
    ((Comparison.shapeOf m n first second).map (·.text)).Nodup := by
  have hsub : ((Comparison.shapeOf m n first second).map
      (fun s => String.ofList (s.text.toList.take 12))).Sublist
      (["Candidate ha"] ++ ["Candidate in"] ++ ["Candidate im"]) := by
    rw [Comparison.shapeOf, List.map_append, List.map_append]
    refine List.Sublist.append (List.Sublist.append ?_ ?_) ?_
    · split
      · simp [shape_opening]
      · split <;> simp [shape_opening]
    · split <;> simp [shape_opening]
    · split <;> simp [shape_opening]
  have hopening := List.pairwise_map.mp (hsub.nodup (by decide))
  refine List.pairwise_map.mpr (hopening.imp ?_)
  intro s t hne h
  exact hne (by rw [h])

section
variable (reference candidate : Program)

theorem of_purposes_nodup :
    ((Comparison.of reference candidate).missing.map (·.purpose)).Nodup ∧
      ((Comparison.of reference candidate).extra.map (·.purpose)).Nodup := by
  have hlone (a b : List Purpose) : ((Comparison.loneOf (Histogram.ofPurposes a)
      (Histogram.ofPurposes b)).map (·.purpose)).Nodup := by
    rw [Comparison.loneOf_ofPurposes, List.map_map]
    exact List.pairwise_map.mpr (List.Pairwise.filter _ (nodup_eraseDups a))
  obtain ⟨-, -, hmissing, hextra, -⟩ := Comparison.of_lists reference candidate
  rw [hmissing, hextra]
  exact ⟨hlone _ _, hlone _ _⟩

theorem ranked_nodup : (ranked (Comparison.of reference candidate)).Nodup := by
  obtain ⟨hmissing, hextra⟩ := of_purposes_nodup reference candidate
  apply marked_nodup
  · show ["!", "*", "x", "+", "~"].Nodup
    decide
  · intro g hg
    simp only [groups, List.mem_cons, List.not_mem_nil, or_false] at hg
    rcases hg with rfl | rfl | rfl | rfl | rfl
    · exact texts_nodup hmissing (fun h => missingText_inj ((String.append_right_inj _).mp h)) _
    · exact texts_nodup hextra (fun h => extraText_inj ((String.append_right_inj _).mp h)) _
    · exact texts_nodup hmissing missingText_inj _
    · exact texts_nodup hextra extraText_inj _
    · exact shapeTexts_nodup _ _ _ _

theorem critical_length_le :
    ((Comparison.of reference candidate).missing.filter (·.purpose ∈ criticalPurposes)).length ≤ 2 := by
  obtain ⟨hmissing, -⟩ := of_purposes_nodup reference candidate
  have hnodup := List.pairwise_map.mpr (List.Pairwise.filter (·.purpose ∈ criticalPurposes)
    (List.pairwise_map.mp hmissing))
  have hsubset : ((Comparison.of reference candidate).missing.filter
      (·.purpose ∈ criticalPurposes)).map (·.purpose) ⊆ criticalPurposes := by
    intro p hp
    obtain ⟨l, hl, rfl⟩ := List.mem_map.mp hp
    simpa using (List.mem_filter.mp hl).2
  rw [← List.length_map (·.purpose)]
  exact List.Nodup.length_le_of_subset hnodup hsubset

end

/-! ## What is shown -/

/-- What is to be shown of a comparison: as much as there is room for of the five groups, and
all that is critical. -/
structure Shows (c : Comparison) (shown : List (String × String)) : Prop where
  total : (ranked c).length = amiss c
  first : shown = (ranked c).take (min 4 (amiss c))
  critical : ∀ l ∈ c.missing, l.purpose ∈ criticalPurposes →
    ("!", "CRITICAL: " ++ l.missingText) ∈ shown
  once : shown.Nodup
  nothing : shown = [] ↔ c.missing = [] ∧ c.extra = [] ∧ c.shape = []

/-- **A report shows the differences that matter most.** They are the first four of the five
groups; no critical one is cut off, none is shown twice, and none is shown only if nothing is
missing, extra or of another shape. -/
theorem keyDifferences_shown (reference candidate : Program) :
    Shows (Comparison.of reference candidate)
      ((keyDifferences (Comparison.of reference candidate)).map KeyDifference.entry) := by
  have hcritical := critical_length_le reference candidate
  have hnodup := ranked_nodup reference candidate
  generalize Comparison.of reference candidate = c at *
  rw [keyDifferences_eq]
  refine ⟨ranked_length c, ?_, ?_, hnodup.sublist (List.take_sublist _ _), ?_⟩
  · rw [List.take_eq_take_min, ranked_length]
  · intro l hl hp
    rw [ranked, marked, groups, List.flatMap_cons, List.take_append]
    apply List.mem_append_left
    rw [List.take_of_length_le]
    · simp only [List.map_map, List.mem_map, List.mem_filter, decide_eq_true_eq]
      exact ⟨l, ⟨hl, hp⟩, rfl⟩
    · simp only [List.length_map]
      omega
  · rw [List.take_eq_nil_iff, ← List.length_eq_zero_iff, ranked_length, amiss]
    simp [List.length_eq_zero_iff, Nat.add_eq_zero_iff, and_assoc]

end Report

end PacketFilter
