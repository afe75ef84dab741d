import PacketFilter.Proofs.Report.KeyDifferences
import PacketFilter.Proofs.Text.Blank

/-
  The box of a report.

  A comparison is shown in a box of eighty columns. Its rows are made in different ways, from
  rules, centred titles, padded cells and texts that are cut to fit.

  What is proved:
    1. what each layout function fills (`padRight_fills`, `truncate_length_le`, `center_fills`,
       `Rule.text_fills`): the number of columns, and one line only;
    2. `inner_row`: hence every row between the top and the bottom rule fills eighty columns,
       but for the row of the sizes, which may need more (`countsWidth_eq_iff`);
    3. `lines_comparison`: the lines of the report are the top rule, these rows, the bottom rule
       and the rest;
    4. `comparison_framed`: so the lines of the box are eighty wide exactly if the sizes fit.
-/

namespace PacketFilter

open Text

/-! ## Texts that fill columns -/

namespace Text

/-- A text of `n` characters in one line. -/
structure Fills (n : Nat) (s : String) : Prop where
  width : s.length = n
  oneLine : '\n' ∉ s.toList

instance (n : Nat) (s : String) : Decidable (Fills n s) :=
  decidable_of_iff (s.length = n ∧ '\n' ∉ s.toList)
    ⟨fun h => ⟨h.1, h.2⟩, fun h => ⟨h.width, h.oneLine⟩⟩

theorem oneLine_append {s t : String} (hs : '\n' ∉ s.toList) (ht : '\n' ∉ t.toList) :
    '\n' ∉ (s ++ t).toList := by
  rw [String.toList_append, List.mem_append]
  exact fun h => h.elim hs ht

theorem Fills.append {m n : Nat} {s t : String} (hs : Fills m s) (ht : Fills n t) :
    Fills (m + n) (s ++ t) :=
  ⟨by rw [String.length_append, hs.width, ht.width], oneLine_append hs.oneLine ht.oneLine⟩

theorem blanks_fills (n : Nat) : Fills n (blanks n) := by
  refine ⟨by simp [blanks], ?_⟩
  rw [blanks, String.toList_ofList]
  intro h
  exact absurd (List.eq_of_mem_replicate h) (by decide)

theorem blank_fills : Fills 1 " " := by
  decide

theorem padRight_fills (n : Nat) {s : String} (hline : '\n' ∉ s.toList) :
    Fills (max n s.length) (padRight n s) := by
  refine ⟨?_, oneLine_append hline (blanks_fills _).oneLine⟩
  rw [padRight, String.length_append, (blanks_fills _).width]
  omega

theorem padRight_fills_of_le {n : Nat} {s : String} (hs : s.length ≤ n) (hline : '\n' ∉ s.toList) :
    Fills n (padRight n s) := by
  have h := padRight_fills n hline
  rwa [Nat.max_eq_left hs] at h

theorem cut_natCast (n : Nat) (s : String) : cut (n : Int) s = String.ofList (s.toList.take n) := by
  rw [cut, if_pos (Int.natCast_nonneg n), Int.toNat_natCast]

theorem cut_oneLine (n : Nat) {s : String} (hline : '\n' ∉ s.toList) :
    '\n' ∉ (cut (n : Int) s).toList := by
  rw [cut_natCast, String.toList_ofList]
  exact fun h => hline (List.mem_of_mem_take h)

theorem truncate_natCast {n : Nat} (hn : 3 ≤ n) (s : String) :
    truncate (n : Int) s = if s.length ≤ n then s else cut ((n - 3 : Nat) : Int) s ++ "..." := by
  have hrest : ((n : Int) - 3) = ((n - 3 : Nat) : Int) := by omega
  rw [truncate, hrest]
  simp only [Int.ofNat_le]

theorem truncate_length_le {n : Nat} (hn : 3 ≤ n) (s : String) :
    (truncate (n : Int) s).length ≤ n := by
  rw [truncate_natCast hn]
  split
  · next h => exact h
  · have hdots : "...".length = 3 := by decide
    rw [String.length_append, cut_natCast, String.length_ofList, List.length_take, hdots]
    omega

theorem truncate_oneLine {n : Nat} (hn : 3 ≤ n) {s : String} (hline : '\n' ∉ s.toList) :
    '\n' ∉ (truncate (n : Int) s).toList := by
  rw [truncate_natCast hn]
  split
  · exact hline
  · exact oneLine_append (cut_oneLine _ hline) (by decide)

theorem center_fills (n : Nat) {s : String} (hline : '\n' ∉ s.toList) : Fills n (center (n : Int) s) := by
  rw [center]
  split
  · next h =>
    refine ⟨?_, cut_oneLine n hline⟩
    rw [cut_natCast, String.length_ofList, List.length_take, String.length_toList]
    omega
  · next h =>
    refine ⟨?_, oneLine_append (oneLine_append (blanks_fills _).oneLine hline) (blanks_fills _).oneLine⟩
    simp only [String.length_append, (blanks_fills _).width, Int.toNat_natCast]
    omega

theorem repeated_toList (n : Nat) {s : String} {c : Char} (hs : s.toList = [c]) :
    (repeated (n : Int) s).toList = List.replicate n c := by
  rw [repeated, Int.toNat_natCast, String.toList_join]
  induction n with
  | zero => rfl
  | succ n ih => rw [List.replicate_succ, List.flatMap_cons, ih, hs, List.singleton_append,
      List.replicate_succ]

theorem decimalNat_oneLine (n : Nat) : '\n' ∉ (decimalNat n).toList :=
  fun h => absurd (isDigit_of_mem_decimalNat h) (by decide)

theorem splitAt_unlines {ls more : List String} (hls : ∀ l ∈ ls, '\n' ∉ l.toList)
    (hmore : more ≠ []) :
    splitAt '\n' (unlines (ls ++ more)).toList =
      ls.map String.toList ++ splitAt '\n' (unlines more).toList := by
  induction ls with
  | nil => rfl
  | cons l ls ih =>
    have hl : ∀ c ∈ l.toList, (c == '\n') = false := by
      intro c hc
      rw [beq_eq_false_iff_ne]
      rintro rfl
      exact hls l List.mem_cons_self hc
    have hcons : (unlines (l :: ls ++ more)).toList = l.toList ++ '\n' :: (unlines (ls ++ more)).toList := by
      have hsome : ls ++ more ≠ [] := by simp [hmore]
      rw [unlines, List.cons_append, String.intercalate_cons_of_ne_nil hsome]
      simp [unlines]
    rw [hcons, splitAt, splitWhere_append hl (beq_self_eq_true '\n'), List.map_cons, List.cons_append]
    exact congrArg (l.toList :: ·) (ih (fun k hk => hls k (List.mem_cons_of_mem l hk)))

end Text

namespace Report

/-! ## The rows of the box -/

/-- A row of the box above the bottom rule. -/
structure Row (n : Nat) (s : String) : Prop where
  fills : Fills n s
  inside : s.toList.head? ≠ some '└'

theorem head_append {s : String} {c : Char} (hs : s.toList.head? = some c) (t : String) :
    (s ++ t).toList.head? = some c := by
  rw [String.toList_append, List.head?_append, hs]
  rfl

theorem row_of_head {n : Nat} {s : String} (hs : Fills n s) {c : Char} (hhead : s.toList.head? = some c)
    (hc : c ≠ '└') : Row n s := by
  refine ⟨hs, ?_⟩
  rw [hhead]
  exact fun h => hc (Option.some.inj h)

theorem bar_edge : Fills 1 "│" ∧ "│".toList.head? = some '│' := by
  decide

theorem boxed_row {s : String} (hs : Fills 78 s) : Row 80 (boxed s) := by
  obtain ⟨hbar, hhead⟩ := bar_edge
  exact row_of_head ((hbar.append hs).append hbar) (head_append (head_append hhead _) _) (by decide)

theorem cells_row {m n : Nat} {left right : String} (hleft : Fills m left) (hright : Fills n right) :
    Row (1 + m + 1 + n + 1) (cells left right) := by
  obtain ⟨hbar, hhead⟩ := bar_edge
  have hedge := head_append (head_append (head_append (head_append hhead left) "│") right) "│"
  exact row_of_head ((((hbar.append hleft).append hbar).append hright).append hbar) hedge (by decide)

theorem bar_toList (n : Nat) : (repeated (n : Int) "─").toList = List.replicate n '─' :=
  repeated_toList n (by decide)

theorem bar_fills (n : Nat) : Fills n (repeated (n : Int) "─") := by
  refine ⟨?_, ?_⟩
  · rw [← String.length_toList, bar_toList, List.length_replicate]
  · rw [bar_toList]
    exact fun h => absurd (List.eq_of_mem_replicate h) (by decide)

theorem Rule.text_fills {r : Rule} (hleft : Fills 1 r.left) (hjoint : Fills 1 r.joint)
    (hright : Fills 1 r.right) : Fills 80 r.text := by
  rw [Rule.text]
  split
  · exact (((hleft.append (bar_fills leftWidth)).append hjoint).append (bar_fills rightWidth)).append
      hright
  · exact (hleft.append (bar_fills width)).append hright

theorem Rule.text_head {r : Rule} {c : Char} (hleft : r.left.toList.head? = some c) :
    r.text.toList.head? = some c := by
  rw [Rule.text]
  split
  · exact head_append (head_append (head_append (head_append hleft _) _) _) _
  · exact head_append (head_append hleft _) _

theorem Rule.text_row {joint : String} (hjoint : Fills 1 joint) (split : Bool) :
    Row 80 (Rule.text { left := "├", joint, right := "┤", split }) := by
  have hleft : Fills 1 "├" := by decide
  have hright : Fills 1 "┤" := by decide
  have hhead : "├".toList.head? = some '├' := by decide
  exact row_of_head (Rule.text_fills hleft hjoint hright) (Rule.text_head hhead) (by decide)

theorem title_row {title : String} (hline : '\n' ∉ title.toList) :
    Row 80 (boxed (center width title)) :=
  boxed_row (center_fills width hline)

/-- The row of the sizes. -/
def counts (c : Comparison) : String :=
  cells (" Instructions: " ++ padRight 22 (decimalNat c.reference.size) ++ " ")
    (" Instructions: " ++ padRight 23 (decimalNat c.candidate.size) ++ " ")

/-- The columns that the row of the sizes takes. -/
def countsWidth (c : Comparison) : Nat :=
  1 + (15 + max 22 (decimalNat c.reference.size).length + 1) + 1 +
    (15 + max 23 (decimalNat c.candidate.size).length + 1) + 1

theorem counts_row (c : Comparison) : Row (countsWidth c) (counts c) := by
  have hlead : Fills 15 " Instructions: " := by decide
  exact cells_row ((hlead.append (padRight_fills 22 (decimalNat_oneLine _))).append blank_fills)
    ((hlead.append (padRight_fills 23 (decimalNat_oneLine _))).append blank_fills)

theorem decimalNat_length_le_iff {n k : Nat} (hk : 0 < k) :
    (decimalNat n).length ≤ k ↔ n < Nat.pow 10 k := by
  rw [decimalNat, String.length_ofList]
  exact Nat.length_toDigits_le_iff (by decide) hk

theorem countsWidth_eq_iff (c : Comparison) :
    countsWidth c = 80 ↔ c.reference.size < Nat.pow 10 22 ∧ c.candidate.size < Nat.pow 10 23 := by
  rw [← decimalNat_length_le_iff (by decide), ← decimalNat_length_le_iff (by decide), countsWidth]
  omega

theorem labelled_fills {label s : String} {m n : Nat} (hlabel : Fills m label) (hs : s.length ≤ n)
    (hline : '\n' ∉ s.toList) : Fills (m + n + 1) (label ++ padRight n s ++ " ") :=
  (hlabel.append (padRight_fills_of_le hs hline)).append blank_fills

theorem truncated_fills {label s : String} {m n : Nat} (hlabel : Fills m label) (hn : 3 ≤ n)
    (hline : '\n' ∉ s.toList) :
    Fills (m + n + 1) (label ++ padRight n (truncate (n : Int) s) ++ " ") :=
  labelled_fills hlabel (truncate_length_le hn s) (truncate_oneLine hn hline)

theorem filters_row {first second : String} (hfirst : '\n' ∉ first.toList)
    (hsecond : '\n' ∉ second.toList) :
    Row 80 (cells (" Filter: " ++ padRight 28 (truncate 28 first) ++ " ")
      (" Filter: " ++ padRight 29 (truncate 29 second) ++ " ")) := by
  have hlabel : Fills 9 " Filter: " := by decide
  have hleft : 3 ≤ 28 := by decide
  have hright : 3 ≤ 29 := by decide
  exact cells_row (truncated_fills hlabel hleft hfirst) (truncated_fills hlabel hright hsecond)

theorem sources_row (mocked : Bool) :
    Row 80 (cells (" Source: " ++ padRight 28 (if mocked then "Mock Data" else "Real tcpdump") ++ " ")
      (" Source: " ++ padRight 29 "Generated" ++ " ")) := by
  have hlabel : Fills 9 " Source: " := by decide
  have hsource : (if mocked then "Mock Data" else "Real tcpdump").length ≤ 28 ∧
      '\n' ∉ (if mocked then "Mock Data" else "Real tcpdump").toList := by
    cases mocked <;> decide
  have hgenerated : "Generated".length ≤ 29 ∧ '\n' ∉ "Generated".toList := by decide
  exact cells_row (labelled_fills hlabel hsource.1 hsource.2)
    (labelled_fills hlabel hgenerated.1 hgenerated.2)

theorem purposeLine_row (c : Comparison) {purpose : Purpose} {name : String}
    (hname : (purpose, name) ∈ corePurposes) : ∀ row ∈ purposeLine c purpose name, Row 80 row := by
  have hall : ∀ e ∈ corePurposes, e.2.length ≤ 34 ∧ '\n' ∉ e.2.toList := by decide
  obtain ⟨hlength, hline⟩ := hall _ hname
  have hmark (present : Bool) : Fills 1 (if present then "✓" else "✗") := by
    cases present <;> decide
  have hcell (present : Bool) {n : Nat} (hn : name.length ≤ n) : Fills (1 + 1 + 1 + n + 1)
      (" " ++ (if present then "✓" else "✗") ++ " " ++ padRight n name ++ " ") :=
    labelled_fills ((blank_fills.append (hmark present)).append blank_fills) hn hline
  intro row hrow
  rw [purposeLine] at hrow
  split at hrow
  · rw [List.mem_singleton.mp hrow]
    exact cells_row (hcell _ hlength) (hcell _ (Nat.le_succ_of_le hlength))
  · exact absurd hrow List.not_mem_nil

/-! ## The differences in their rows -/

theorem loneText_oneLine {lead : String} (hlead : '\n' ∉ lead.toList) (p : Purpose) (n : Nat) :
    '\n' ∉ (lead ++ p.words ++ " (" ++ decimalNat n ++ " instructions)").toList := by
  have hopen : '\n' ∉ " (".toList := by decide
  have hclose : '\n' ∉ " instructions)".toList := by decide
  have hwords := oneLine_append hlead (Purpose.not_mem_words (by decide) p)
  exact oneLine_append (oneLine_append (oneLine_append hwords hopen) (decimalNat_oneLine n)) hclose

theorem shapeText_oneLine (s : ShapeDifference) : '\n' ∉ s.text.toList := by
  have hsize {lead tail : String} (hlead : '\n' ∉ lead.toList) (n : Nat) (htail : '\n' ∉ tail.toList) :
      '\n' ∉ (lead ++ decimalNat n ++ tail).toList :=
    oneLine_append (oneLine_append hlead (decimalNat_oneLine n)) htail
  cases s with
  | longer count => exact hsize (by decide) count (by decide)
  | shorter count => exact hsize (by decide) count (by decide)
  | fragmentHandling => decide
  | addressFiltering => decide

theorem unsorted_oneLine (c : Comparison) :
    ∀ d ∈ unsorted c, Fills 1 d.mark ∧ '\n' ∉ d.text.toList := by
  have hmarks : ∀ mark ∈ ["!", "*", "x", "+", "~"], Fills 1 mark := by decide
  intro d hd
  rw [unsorted, List.mem_append, List.mem_append] at hd
  rcases hd with (hd | hd) | hd
  · obtain ⟨l, -, rfl⟩ := List.mem_map.mp hd
    have htext : '\n' ∉ l.missingText.toList := loneText_oneLine (by decide) _ _
    rw [ofMissing]
    split
    · exact ⟨hmarks "!" (by simp), oneLine_append (by decide) htext⟩
    · exact ⟨hmarks "x" (by simp), htext⟩
  · obtain ⟨l, -, rfl⟩ := List.mem_map.mp hd
    have htext : '\n' ∉ l.extraText.toList := loneText_oneLine (by decide) _ _
    rw [ofExtra]
    split
    · exact ⟨hmarks "*" (by simp), oneLine_append (by decide) htext⟩
    · exact ⟨hmarks "+" (by simp), htext⟩
  · obtain ⟨s, -, rfl⟩ := List.mem_map.mp hd
    exact ⟨hmarks "~" (by simp), shapeText_oneLine s⟩

theorem keyDifferences_subset (c : Comparison) {d : KeyDifference} (hd : d ∈ keyDifferences c) :
    d ∈ unsorted c :=
  List.mem_mergeSort.mp (List.mem_of_mem_take hd)

theorem difference_row (c : Comparison) {d : KeyDifference} (hd : d ∈ keyDifferences c) :
    Row 80 (boxed (" " ++ d.mark ++ " " ++
      padRight (width - 4) (truncate (width - 4 : Nat) d.text) ++ " ")) := by
  obtain ⟨hmark, hline⟩ := unsorted_oneLine c d (keyDifferences_subset c hd)
  have hroom : 3 ≤ width - 4 := by decide
  exact boxed_row (truncated_fills ((blank_fills.append hmark).append blank_fills) hroom hline)

/-! ## The lines of a report -/

/-- The rows between the top and the bottom rule. -/
def inner (c : Comparison) : List String :=
  (head c).tail ++ corePurposes.flatMap (fun (purpose, name) => purposeLine c purpose name) ++
    (foot c).dropLast

def topRule : List Char := '┌' :: List.replicate 78 '─' ++ ['┐']

def bottomRule : List Char := '└' :: List.replicate 78 '─' ++ ['┘']

theorem box_toList (c : Comparison) :
    (box c).map String.toList = topRule :: (inner c).map String.toList ++ [bottomRule] := by
  have hrule (left right : String) :
      (Rule.text { left, joint := "─", right, split := false }).toList =
        left.toList ++ List.replicate 78 '─' ++ right.toList := by
    rw [Rule.text, if_neg Bool.false_ne_true, String.toList_append, String.toList_append, bar_toList]
    rfl
  have htop : (Rule.text { left := "┌", joint := "─", right := "┐", split := false }).toList = topRule := by
    rw [hrule]
    simp [topRule]
  have hbottom : (Rule.text { left := "└", joint := "─", right := "┘", split := false }).toList =
      bottomRule := by
    rw [hrule]
    simp [bottomRule]
  have hhead : head c = Rule.text { left := "┌", joint := "─", right := "┐", split := false } ::
      (head c).tail := rfl
  have hfoot : foot c = (foot c).dropLast ++
      [Rule.text { left := "└", joint := "─", right := "┘", split := false }] := by
    simp only [foot, List.dropLast_concat]
  rw [box, hhead, hfoot, inner]
  simp only [List.map_append, List.map_cons, List.map_nil, List.cons_append, List.append_assoc,
    htop, hbottom]

section
variable {c : Comparison} (hreference : '\n' ∉ c.reference.filterExpr.toList)
  (hcandidate : '\n' ∉ c.candidate.filterExpr.toList)
include hreference hcandidate

theorem head_row : ∀ row ∈ (head c).tail, row = counts c ∨ Row 80 row := by
  have htitle : Row 80 (boxed (center width "BPF VALIDATION COMPARISON")) :=
    title_row (by decide)
  have hsides : Row 80 (cells (center leftWidth "TCPDUMP REFERENCE")
      (center rightWidth "GENERATED CANDIDATE")) :=
    cells_row (center_fills leftWidth (by decide)) (center_fills rightWidth (by decide))
  have hjoint : Fills 1 "┬" := by decide
  have hcross : Fills 1 "┼" := by decide
  intro row hrow
  simp only [head, List.tail_cons, List.mem_cons, List.not_mem_nil, or_false] at hrow
  rcases hrow with rfl | rfl | rfl | rfl | rfl | rfl | rfl | rfl
  · exact .inr htitle
  · exact .inr (Rule.text_row hjoint true)
  · exact .inr hsides
  · exact .inr (Rule.text_row hcross true)
  · exact .inl rfl
  · exact .inr (filters_row hreference hcandidate)
  · have hsource := sources_row (decide (c.reference.mocked = some true))
    simp only [decide_eq_true_eq] at hsource
    exact .inr hsource
  · exact .inr (Rule.text_row hcross true)

end

theorem foot_row (c : Comparison) : ∀ row ∈ (foot c).dropLast, Row 80 row := by
  have hjoint : Fills 1 "┴" := by decide
  have hbar : Fills 1 "─" := by decide
  intro row hrow
  simp only [foot, List.dropLast_concat, List.mem_append, List.mem_cons, List.not_mem_nil,
    or_false] at hrow
  rcases hrow with (rfl | rfl | rfl) | hrow
  · exact Rule.text_row hjoint true
  · exact title_row (by decide)
  · exact Rule.text_row hbar false
  · split at hrow
    · rw [List.mem_singleton.mp hrow]
      exact title_row (by decide)
    · obtain ⟨d, hd, rfl⟩ := List.mem_map.mp hrow
      exact difference_row c hd

section
variable {c : Comparison} (hreference : '\n' ∉ c.reference.filterExpr.toList)
  (hcandidate : '\n' ∉ c.candidate.filterExpr.toList)
include hreference hcandidate

/-- **Every row but the one of the sizes fills the box.** -/
theorem inner_row : ∀ row ∈ inner c, row = counts c ∨ Row 80 row := by
  intro row hrow
  rw [inner, List.mem_append, List.mem_append] at hrow
  rcases hrow with (hrow | hrow) | hrow
  · exact head_row hreference hcandidate row hrow
  · obtain ⟨⟨purpose, name⟩, hname, hrow⟩ := List.mem_flatMap.mp hrow
    exact .inr (purposeLine_row c hname row hrow)
  · exact .inr (foot_row c row hrow)

theorem exists_row {row : String} (hrow : row ∈ inner c) : ∃ n, Row n row := by
  rcases inner_row hreference hcandidate row hrow with rfl | hrow
  · exact ⟨_, counts_row c⟩
  · exact ⟨_, hrow⟩

theorem lines_comparison : splitAt '\n' (comparison c).toList =
    topRule :: (inner c).map String.toList ++ bottomRule :: splitAt '\n' (unlines (summary c)).toList := by
  have hline : ∀ row ∈ box c, '\n' ∉ row.toList := by
    intro row hrow
    have hmem := List.mem_map_of_mem (f := String.toList) hrow
    rw [box_toList, List.mem_append, List.mem_cons, List.mem_singleton] at hmem
    rcases hmem with (htop | hinner) | hbottom
    · rw [htop]
      decide
    · obtain ⟨row', hrow', heq⟩ := List.mem_map.mp hinner
      obtain ⟨n, hrow'⟩ := exists_row hreference hcandidate hrow'
      rw [← heq]
      exact hrow'.fills.oneLine
    · rw [hbottom]
      decide
  have hsummary : summary c ≠ [] := List.cons_ne_nil _ _
  rw [comparison, splitAt_unlines hline hsummary, box_toList]
  simp

theorem bottomRule_not_mem : bottomRule ∉ (inner c).map String.toList := by
  intro hmem
  obtain ⟨row, hrow, heq⟩ := List.mem_map.mp hmem
  obtain ⟨n, hrow⟩ := exists_row hreference hcandidate hrow
  apply hrow.inside
  rw [heq]
  rfl

theorem width_iff :
    (∀ line ∈ topRule :: (inner c).map String.toList ++ [bottomRule], line.length = 80) ↔
      c.reference.size < Nat.pow 10 22 ∧ c.candidate.size < Nat.pow 10 23 := by
  rw [← countsWidth_eq_iff]
  constructor
  · intro hall
    have hcounts : counts c ∈ inner c :=
      List.mem_append_left _ (List.mem_append_left _ (by simp [head, counts]))
    rw [← (counts_row c).fills.width, ← String.length_toList]
    exact hall _ (List.mem_append_left _ (List.mem_cons_of_mem _ (List.mem_map_of_mem hcounts)))
  · intro hwidth line hline
    rw [List.mem_append, List.mem_cons, List.mem_singleton] at hline
    rcases hline with (rfl | hinner) | rfl
    · rfl
    · obtain ⟨row, hrow, rfl⟩ := List.mem_map.mp hinner
      rw [String.length_toList]
      rcases inner_row hreference hcandidate row hrow with rfl | hrow
      · rw [(counts_row c).fills.width, hwidth]
      · exact hrow.fills.width
    · rfl

end

/-- **The box of a report is eighty columns wide.** The lines of the report start with the top
rule, the rows and the bottom rule. These are eighty characters wide each exactly if the sizes of
the programs have no more digits than their cells have room for: 22 and 23. -/
theorem comparison_framed (reference candidate : Program)
    (hreference : '\n' ∉ reference.filterExpr.toList) (hcandidate : '\n' ∉ candidate.filterExpr.toList) :
    ∃ rows rest,
      splitAt '\n' (comparison (Comparison.of reference candidate)).toList =
        topRule :: rows ++ bottomRule :: rest ∧
      bottomRule ∉ rows ∧
      ((∀ line ∈ topRule :: rows ++ [bottomRule], line.length = 80) ↔
        reference.size < Nat.pow 10 22 ∧ candidate.size < Nat.pow 10 23) :=
  ⟨_, _, lines_comparison hreference hcandidate, bottomRule_not_mem hreference hcandidate,
    width_iff hreference hcandidate⟩

/-- A program for a filter whose text is longer than its cell. -/
def crowded : Program where
  instructions :=
    [{ opcode := Opcode.jumpEqual, jt := 0, jf := 1, k := 0x0800, purpose := some .checkEthertype },
     { opcode := Opcode.ret, jt := 0, jf := 0, k := 0, purpose := some .reject }]
  filterExpr := "ip and tcp and src host 192.168.100.200 and dst port 65535"
  mocked := some true

/-- An empty program whose filter looks like the start of the bottom rule. -/
def rulerFilter : Program where
  instructions := []
  filterExpr := "└──────────────────────────────"

theorem comparison_framed_crowded :
    '\n' ∉ crowded.filterExpr.toList ∧ '\n' ∉ rulerFilter.filterExpr.toList ∧
      ∃ rows rest,
        splitAt '\n' (comparison (Comparison.of crowded rulerFilter)).toList =
          topRule :: rows ++ bottomRule :: rest ∧
        bottomRule ∉ rows ∧ ∀ line ∈ topRule :: rows ++ [bottomRule], line.length = 80 := by
  have hcrowded : '\n' ∉ crowded.filterExpr.toList := by decide
  have hruler : '\n' ∉ rulerFilter.filterExpr.toList := by decide
  have hsizes : crowded.size < Nat.pow 10 22 ∧ rulerFilter.size < Nat.pow 10 23 := by decide
  obtain ⟨rows, rest, hlines, hbottom, hwidth⟩ := comparison_framed crowded rulerFilter hcrowded hruler
  exact ⟨hcrowded, hruler, rows, rest, hlines, hbottom, hwidth.mpr hsizes⟩

end Report

end PacketFilter
