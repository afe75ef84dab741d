import PacketFilter.Comparison.Basic

/-
  Histograms of purposes.

  A histogram is a list of entries, a purpose and how often it occurs. Counting
  one more occurrence changes the entry of the purpose where it stands, or adds
  one at the end.

  What is proved: the histogram of a list has an entry for each purpose of the
  list, in the order of first occurrence, with the number of its occurrences
  (`ofPurposes_eq`). So no purpose has two entries (`ofPurposes_nodup`), and
  looking a purpose up finds the one entry it has (`count?_eq_some_iff`,
  `count?_ofPurposes`).
-/

namespace PacketFilter

theorem nodup_eraseDups {α : Type} [BEq α] [LawfulBEq α] (l : List α) : l.eraseDups.Nodup := by
  cases l with
  | nil => exact List.nodup_nil
  | cons a l =>
    rw [List.eraseDups_cons, List.nodup_cons]
    refine ⟨?_, nodup_eraseDups _⟩
    simp [List.mem_eraseDups]
termination_by l.length
decreasing_by exact Nat.lt_succ_of_le (List.length_filter_le _ _)

theorem eraseDups_snoc {α : Type} [BEq α] [LawfulBEq α] [DecidableEq α] (l : List α) (a : α) :
    (l ++ [a]).eraseDups = if a ∈ l then l.eraseDups else l.eraseDups ++ [a] := by
  rw [List.eraseDups_append, List.removeAll]
  by_cases h : a ∈ l
  · simp [h]
  · simp [h, List.eraseDups_cons]

theorem eraseDups_of_nodup {α : Type} [BEq α] [LawfulBEq α] {l : List α} (h : l.Nodup) :
    l.eraseDups = l := by
  induction l with
  | nil => rfl
  | cons a l ih =>
    obtain ⟨hfresh, hrest⟩ := List.nodup_cons.mp h
    have hfilter : l.filter (fun b => !b == a) = l := by
      rw [List.filter_eq_self]
      intro b hb
      have : b ≠ a := fun heq => hfresh (heq ▸ hb)
      simpa using this
    rw [List.eraseDups_cons, hfilter, ih hrest]

namespace Histogram

def keys (h : Histogram) : List Purpose := h.map (·.1)

/-- Counting one more occurrence of a purpose, the counts being given by a function. -/
theorem add_map (p : Purpose) (count : Purpose → Nat) {ps : List Purpose} (hn : ps.Nodup) :
    add p (ps.map (fun q => (q, count q))) =
      if p ∈ ps then ps.map (fun q => (q, if q = p then count q + 1 else count q))
      else ps.map (fun q => (q, count q)) ++ [(p, 1)] := by
  induction ps with
  | nil => rfl
  | cons q ps ih =>
    obtain ⟨hfresh, hrest⟩ := List.nodup_cons.mp hn
    by_cases hq : q = p
    · subst hq
      -- The entry is the first, and no later one is of the same purpose.
      have hlater : ps.map (fun r => (r, if r = q then count r + 1 else count r)) =
          ps.map (fun r => (r, count r)) := by
        apply List.map_congr_left
        intro r hr
        have hne : r ≠ q := fun heq => hfresh (heq ▸ hr)
        rw [if_neg hne]
      simp [add, hlater]
    · have hp : p ≠ q := fun heq => hq heq.symm
      rw [List.map_cons, add, if_neg hq, ih hrest]
      by_cases hmem : p ∈ ps
      · simp [hmem, hq]
      · simp [hmem, hp]

/-- The histogram has an entry for each purpose, in the order of first occurrence,
with the number of its occurrences. -/
theorem ofPurposes_eq (ps : List Purpose) :
    ofPurposes ps = ps.eraseDups.map (fun p => (p, ps.count p)) := by
  -- What is counted after `seen` continues the histogram of `seen`.
  suffices ∀ seen : List Purpose,
      ps.foldl (fun h p => add p h) (seen.eraseDups.map (fun p => (p, seen.count p))) =
        (seen ++ ps).eraseDups.map (fun p => (p, (seen ++ ps).count p)) from this []
  induction ps with
  | nil => intro seen; simp
  | cons p ps ih =>
    intro seen
    have hstep : add p (seen.eraseDups.map (fun q => (q, seen.count q))) =
        (seen ++ [p]).eraseDups.map (fun q => (q, (seen ++ [p]).count q)) := by
      rw [add_map p _ (nodup_eraseDups seen), eraseDups_snoc]
      by_cases hmem : p ∈ seen
      · simp only [List.mem_eraseDups, hmem, ↓reduceIte]
        apply List.map_congr_left
        intro q _
        by_cases hq : q = p
        · simp [hq]
        · have hp : p ≠ q := fun heq => hq heq.symm
          simp [hq, hp]
      · simp only [List.mem_eraseDups, hmem, ↓reduceIte, List.map_append, List.map_cons, List.map_nil]
        congr 1
        · apply List.map_congr_left
          intro q hq
          have hp : p ≠ q := fun heq => hmem (heq ▸ List.mem_eraseDups.mp hq)
          simp [hp]
        · simp [List.count_eq_zero.mpr hmem]
    rw [List.foldl_cons, hstep, ih (seen ++ [p]), List.append_assoc]
    rfl

theorem ofPurposes_nodup (ps : List Purpose) : (keys (ofPurposes ps)).Nodup := by
  have hkeys : keys (ofPurposes ps) = ps.eraseDups := by simp [keys, ofPurposes_eq, Function.comp_def]
  rw [hkeys]
  exact nodup_eraseDups ps

theorem count?_eq_some_iff {h : Histogram} (hn : (keys h).Nodup) {p : Purpose} {n : Nat} :
    count? h p = some n ↔ (p, n) ∈ h := by
  induction h with
  | nil => simp [count?]
  | cons e rest ih =>
    obtain ⟨r, m⟩ := e
    obtain ⟨hfresh, hrest⟩ := List.nodup_cons.mp hn
    by_cases hr : r = p
    · subst hr
      have habsent : (r, n) ∉ rest := fun hmem =>
        hfresh (List.mem_map.mpr ⟨(r, n), hmem, rfl⟩)
      simp [count?, habsent, eq_comm]
    · have hne : ¬ p = r := fun heq => hr heq.symm
      have hlookup : count? ((r, m) :: rest) p = count? rest p := by simp [count?, hr]
      rw [hlookup, ih hrest]
      simp [hne]

theorem count?_ofPurposes (ps : List Purpose) (p : Purpose) :
    count? (ofPurposes ps) p = if p ∈ ps then some (ps.count p) else none := by
  split
  · next h =>
    rw [count?_eq_some_iff (ofPurposes_nodup ps), ofPurposes_eq]
    exact List.mem_map.mpr ⟨p, List.mem_eraseDups.mpr h, rfl⟩
  · next h =>
    rw [Option.eq_none_iff_forall_ne_some]
    intro n hn
    rw [count?_eq_some_iff (ofPurposes_nodup ps), ofPurposes_eq] at hn
    obtain ⟨q, hq, heq⟩ := List.mem_map.mp hn
    cases heq
    exact h (List.mem_eraseDups.mp hq)

theorem has_ofPurposes (ps : List Purpose) (p : Purpose) :
    has (ofPurposes ps) p = decide (p ∈ ps) := by
  rw [has, count?_ofPurposes]
  by_cases h : p ∈ ps <;> simp [h]

end Histogram

end PacketFilter
