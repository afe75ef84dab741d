import PacketFilter.Text.Blank

/-
  Joined texts come apart again.

  Parts joined by a mark are found again when the text is cut at that mark, if the
  mark is in none of them: as the parts between marks (`splitWhere_intercalate`), as
  words between blanks (`words_intercalate`) and as lines (`lines_intercalate`); the parts
  of any text, joined again, are the text (`intercalate_splitAt`). Words
  and lines must not be empty, since blanks in a row make one gap and a line end at the
  end opens no line. A text whose ends are not blank (`Solid`) is what is left when the
  blanks after it are trimmed (`Solid.trimWhere_append`), and what is left of any text is
  such (`solid_trimWhere`) and has the same words (`words_trim`).
-/

namespace PacketFilter.Text

variable {p : Char → Bool}

/-! ## Trimming -/

theorem dropWhile_of_head {cs : List Char} (h : ∀ c, cs.head? = some c → p c = false) :
    cs.dropWhile p = cs := by
  cases cs with
  | nil => rfl
  | cons c rest => rw [List.dropWhile_cons_of_neg (by simp [h c rfl])]

theorem forall_mem_takeWhile (cs : List Char) : ∀ c ∈ cs.takeWhile p, p c = true :=
  fun c hc => List.all_eq_true.mp List.all_takeWhile c hc

theorem dropWhile_eq_nil_iff {cs : List Char} : cs.dropWhile p = [] ↔ ∀ c ∈ cs, p c = true := by
  induction cs with
  | nil => simp
  | cons c rest ih =>
    by_cases hc : p c = true
    · rw [List.dropWhile_cons_of_pos hc, ih, List.forall_mem_cons, and_iff_right hc]
    · simp [List.dropWhile_cons_of_neg hc, hc]

theorem trimWhere_eq_nil_iff {cs : List Char} : trimWhere p cs = [] ↔ ∀ c ∈ cs, p c = true := by
  calc trimWhere p cs = []
      ↔ ∀ c ∈ cs.dropWhile p, p c = true := by
        rw [trimWhere, trimEndWhere, List.reverse_eq_nil_iff, dropWhile_eq_nil_iff]
        simp only [List.mem_reverse]
    _ ↔ ∀ c ∈ cs.takeWhile p ++ cs.dropWhile p, p c = true := by
        rw [List.forall_mem_append, and_iff_right (forall_mem_takeWhile cs)]
    _ ↔ ∀ c ∈ cs, p c = true := by rw [List.takeWhile_append_dropWhile]

/-- A text that is not empty and neither starts nor ends with a character of a
class. -/
structure Solid (p : Char → Bool) (cs : List Char) : Prop where
  nonempty : cs ≠ []
  head : ∀ c, cs.head? = some c → p c = false
  last : ∀ c, cs.getLast? = some c → p c = false

theorem Solid.of_forall {cs : List Char} (hsome : cs ≠ []) (h : ∀ c ∈ cs, p c = false) :
    Solid p cs where
  nonempty := hsome
  head := fun c hc => h c (List.mem_of_head? hc)
  last := fun c hc => h c (List.mem_of_getLast? hc)

theorem Solid.append {a b : List Char} (ha : Solid p a) (hb : Solid p b) (c : Char) :
    Solid p (a ++ c :: b) where
  nonempty := by simp
  head := by
    obtain ⟨x, a, rfl⟩ := List.exists_cons_of_ne_nil ha.nonempty
    exact ha.head
  last := by
    intro d hd
    have hb' := hb.last d
    rcases List.eq_nil_or_concat b with rfl | ⟨b, y, rfl⟩
    · exact absurd rfl hb.nonempty
    · rw [List.concat_eq_append] at hd hb'
      rw [← List.cons_append, ← List.append_assoc, List.getLast?_concat] at hd
      rw [List.getLast?_concat] at hb'
      exact hb' hd

theorem Solid.intercalate (mark : Char) {parts : List (List Char)} (hsome : parts ≠ [])
    (hparts : ∀ part ∈ parts, Solid p part) : Solid p ([mark].intercalate parts) := by
  induction parts with
  | nil => exact absurd rfl hsome
  | cons part rest ih =>
    have hpart := hparts part List.mem_cons_self
    cases rest with
    | nil =>
      rw [List.intercalate_singleton]
      exact hpart
    | cons next rest =>
      rw [List.intercalate_cons_cons, List.append_assoc, List.singleton_append]
      refine hpart.append (ih (List.cons_ne_nil _ _) ?_) mark
      exact fun q hq => hparts q (List.mem_cons_of_mem part hq)

/-- Blanks after a solid text are trimmed, and nothing else. -/
theorem Solid.trimWhere_append {cs blanks : List Char} (h : Solid p cs)
    (hblanks : ∀ c ∈ blanks, p c = true) : trimWhere p (cs ++ blanks) = cs := by
  have hdrop : (cs ++ blanks).dropWhile p = cs ++ blanks := by
    apply dropWhile_of_head
    obtain ⟨c, cs, rfl⟩ := List.exists_cons_of_ne_nil h.nonempty
    exact h.head
  have hrev : ∀ c ∈ blanks.reverse, p c = true := fun c hc => hblanks c (List.mem_reverse.mp hc)
  have hend : cs.reverse.dropWhile p = cs.reverse := by
    apply dropWhile_of_head
    intro c hc
    rw [List.head?_reverse] at hc
    exact h.last c hc
  rw [trimWhere, hdrop, trimEndWhere, List.reverse_append, List.dropWhile_append_of_pos hrev, hend,
    List.reverse_reverse]

theorem Solid.trimWhere {cs : List Char} (h : Solid p cs) : trimWhere p cs = cs := by
  have htrim : Text.trimWhere p (cs ++ []) = cs := h.trimWhere_append (by simp)
  rwa [List.append_nil] at htrim

theorem solid_trimWhere {cs : List Char} (hsome : trimWhere p cs ≠ []) :
    Solid p (trimWhere p cs) := by
  have hfirst (l : List Char) (c : Char) (h : (l.dropWhile p).head? = some c) : p c = false := by
    have hnot := List.head?_dropWhile_not p l
    rwa [h] at hnot
  refine ⟨hsome, ?_, ?_⟩
  · intro c hc
    -- The text starts like the one whose end is not trimmed yet.
    obtain ⟨blanks, hblanks⟩ : trimWhere p cs <+: cs.dropWhile p := by
      rw [← List.reverse_suffix, trimWhere, trimEndWhere, List.reverse_reverse]
      exact List.dropWhile_suffix p
    apply hfirst cs c
    rw [← hblanks, List.head?_append, hc]
    rfl
  · intro c hc
    rw [trimWhere, trimEndWhere, List.getLast?_reverse] at hc
    exact hfirst _ c hc

/-! ## Cutting at a mark -/

theorem splitWhere_of_forall {cs : List Char} (h : ∀ c ∈ cs, p c = false) :
    splitWhere p cs = [cs] := by
  induction cs with
  | nil => rfl
  | cons c cs ih =>
    have hc : ¬ p c = true := by simp [h c List.mem_cons_self]
    rw [splitWhere, if_neg hc, ih (fun d hd => h d (List.mem_cons_of_mem c hd))]
    rfl

theorem splitWhere_append {a : List Char} (ha : ∀ c ∈ a, p c = false) {mark : Char}
    (hmark : p mark = true) (b : List Char) :
    splitWhere p (a ++ mark :: b) = a :: splitWhere p b := by
  induction a with
  | nil => rw [List.nil_append, splitWhere, if_pos hmark]
  | cons c a ih =>
    have hc : ¬ p c = true := by simp [ha c List.mem_cons_self]
    rw [List.cons_append, splitWhere, if_neg hc, ih (fun d hd => ha d (List.mem_cons_of_mem c hd))]
    rfl

theorem splitWhere_intercalate {mark : Char} (hmark : p mark = true) {parts : List (List Char)}
    (hsome : parts ≠ []) (hparts : ∀ part ∈ parts, ∀ c ∈ part, p c = false) :
    splitWhere p ([mark].intercalate parts) = parts := by
  induction parts with
  | nil => exact absurd rfl hsome
  | cons part rest ih =>
    have hpart := hparts part List.mem_cons_self
    cases rest with
    | nil =>
      rw [List.intercalate_singleton]
      exact splitWhere_of_forall hpart
    | cons next rest =>
      rw [List.intercalate_cons_cons, List.append_assoc, List.singleton_append,
        splitWhere_append hpart hmark, ih (List.cons_ne_nil _ _)]
      intro q hq
      exact hparts q (List.mem_cons_of_mem part hq)

theorem splitWhere_ne_nil (cs : List Char) : splitWhere p cs ≠ [] := by
  fun_cases splitWhere p cs
  · simp
  · simp
  · next c rest hc => cases splitWhere p rest <;> simp [consHead]

/-- A mark cuts a text in two that are cut on their own. -/
theorem splitWhere_append_mark {mark : Char} (hmark : p mark = true) (a b : List Char) :
    splitWhere p (a ++ mark :: b) = splitWhere p a ++ splitWhere p b := by
  induction a with
  | nil => exact splitWhere_append (a := []) (by simp) hmark b
  | cons c a ih =>
    obtain ⟨part, parts, hsplit⟩ := List.exists_cons_of_ne_nil (splitWhere_ne_nil (p := p) a)
    rw [List.cons_append, splitWhere, splitWhere, ih, hsplit]
    split
    · rfl
    · rfl

theorem mem_splitWhere {cs part : List Char} (h : part ∈ splitWhere p cs) :
    ∀ c ∈ part, p c = false := by
  induction cs generalizing part with
  | nil =>
    rw [List.mem_singleton.mp h]
    simp
  | cons d cs ih =>
    rw [splitWhere] at h
    split at h
    · rcases List.mem_cons.mp h with rfl | h
      · simp
      · exact ih h
    · next hd =>
      obtain ⟨first, parts, hsplit⟩ := List.exists_cons_of_ne_nil (splitWhere_ne_nil (p := p) cs)
      rw [hsplit] at h ih
      rcases List.mem_cons.mp h with rfl | h
      · intro c hc
        rcases List.mem_cons.mp hc with rfl | hc
        · exact Bool.not_eq_true _ ▸ hd
        · exact ih List.mem_cons_self c hc
      · exact ih (List.mem_cons_of_mem first h)

theorem intercalate_splitAt (mark : Char) (cs : List Char) :
    [mark].intercalate (splitAt mark cs) = cs := by
  rw [splitAt]
  induction cs with
  | nil => rfl
  | cons c rest ih =>
    obtain ⟨part, parts, hsplit⟩ :=
      List.exists_cons_of_ne_nil (splitWhere_ne_nil (p := (· == mark)) rest)
    rw [hsplit] at ih
    rw [splitWhere, hsplit]
    split
    · next hc =>
      rw [List.intercalate_cons_cons, ih, beq_iff_eq.mp hc]
      rfl
    · rw [consHead, ← ih]
      cases parts with
      | nil => simp only [List.intercalate_singleton]
      | cons next parts => simp only [List.intercalate_cons_cons, List.cons_append]

theorem words_intercalate {mark : Char} (hmark : isBlank mark = true) {parts : List (List Char)}
    (hsome : parts ≠ []) (hparts : ∀ part ∈ parts, part ≠ [] ∧ ∀ c ∈ part, isBlank c = false) :
    words ([mark].intercalate parts) = parts := by
  rw [words, splitWhere_intercalate hmark hsome (fun part hpart => (hparts part hpart).2)]
  apply List.filter_eq_self.mpr
  intro part hpart
  simp [(hparts part hpart).1]

theorem mem_words {cs word : List Char} (h : word ∈ words cs) :
    word ≠ [] ∧ ∀ c ∈ word, isBlank c = false := by
  obtain ⟨hpart, hsome⟩ := List.mem_filter.mp h
  refine ⟨?_, mem_splitWhere hpart⟩
  rintro rfl
  contradiction

theorem words_append_blank {blank : Char} (hblank : isBlank blank = true) (a b : List Char) :
    words (a ++ blank :: b) = words a ++ words b := by
  rw [words, splitWhere_append_mark hblank, List.filter_append]
  rfl

theorem words_blanks_append {blanks : List Char} (h : ∀ c ∈ blanks, isBlank c = true)
    (a : List Char) : words (blanks ++ a) = words a := by
  induction blanks with
  | nil => rfl
  | cons c blanks ih =>
    obtain ⟨hc, hblanks⟩ := List.forall_mem_cons.mp h
    exact (words_append_blank hc [] (blanks ++ a)).trans (ih hblanks)

theorem words_append_blanks (a : List Char) {blanks : List Char}
    (h : ∀ c ∈ blanks, isBlank c = true) : words (a ++ blanks) = words a := by
  cases blanks with
  | nil => rw [List.append_nil]
  | cons c blanks =>
    obtain ⟨hc, hblanks⟩ := List.forall_mem_cons.mp h
    have hnone := words_blanks_append hblanks []
    rw [List.append_nil] at hnone
    rw [words_append_blank hc, hnone]
    exact List.append_nil _

/-- **Trimming keeps the words.** -/
theorem words_trim (cs : List Char) : words (trim cs) = words cs := by
  have hend (a : List Char) :
      trimEndWhere isBlank a ++ (a.reverse.takeWhile isBlank).reverse = a := by
    rw [trimEndWhere, ← List.reverse_append, List.takeWhile_append_dropWhile, List.reverse_reverse]
  calc words (trim cs)
      = words (trim cs ++ ((cs.dropWhile isBlank).reverse.takeWhile isBlank).reverse) := by
        rw [words_append_blanks]
        intro c hc
        exact forall_mem_takeWhile _ c (List.mem_reverse.mp hc)
    _ = words (cs.dropWhile isBlank) := by rw [trim, trimWhere, hend]
    _ = words (cs.takeWhile isBlank ++ cs.dropWhile isBlank) := by
        rw [words_blanks_append (forall_mem_takeWhile cs)]
    _ = words cs := by rw [List.takeWhile_append_dropWhile]

theorem intercalate_cons (mark : Char) (part : List Char) (parts : List (List Char)) :
    [mark].intercalate (part :: parts) = part ++ parts.flatMap (mark :: ·) := by
  induction parts generalizing part with
  | nil => simp
  | cons next parts ih =>
    rw [List.intercalate_cons_cons, ih, List.flatMap_cons, List.append_assoc, List.singleton_append,
      List.cons_append]

theorem map_intercalate (f : Char → Char) (mark : Char) (parts : List (List Char)) :
    ([mark].intercalate parts).map f = [f mark].intercalate (parts.map (List.map f)) := by
  cases parts with
  | nil => rfl
  | cons part parts =>
    rw [List.map_cons, intercalate_cons, intercalate_cons, List.map_append, List.map_flatMap,
      List.flatMap_map]
    rfl

theorem mem_intercalate {mark c : Char} {parts : List (List Char)}
    (h : c ∈ [mark].intercalate parts) : c = mark ∨ ∃ part ∈ parts, c ∈ part := by
  induction parts with
  | nil => simp at h
  | cons part rest ih =>
    cases rest with
    | nil =>
      rw [List.intercalate_singleton] at h
      exact .inr ⟨part, List.mem_cons_self, h⟩
    | cons next rest =>
      rw [List.intercalate_cons_cons, List.append_assoc, List.singleton_append] at h
      rcases List.mem_append.mp h with h | h
      · exact .inr ⟨part, List.mem_cons_self, h⟩
      · rcases List.mem_cons.mp h with h | h
        · exact .inl h
        · obtain h | ⟨q, hq, hc⟩ := ih h
          · exact .inl h
          · exact .inr ⟨q, List.mem_cons_of_mem part hq, hc⟩

/-! ## Lines -/

theorem isLineEnd_of_isBlank {c : Char} (h : isBlank c = false) : isLineEnd c = false := by
  simp [isBlank, isLineEnd] at h ⊢
  omega

theorem lines_cons {c : Char} (hc : isLineEnd c = false) (rest : List Char) :
    lines (c :: rest) = consHead c (lines rest) := by
  have hreturn : ∀ rest', c = '\r' → rest = '\n' :: rest' → False := by
    rintro rest' rfl -
    exact absurd hc (by decide)
  rw [lines.eq_3 c rest hreturn, if_neg (by simp [hc])]

theorem lines_of_forall {cs : List Char} (hsome : cs ≠ []) (h : ∀ c ∈ cs, isLineEnd c = false) :
    lines cs = [cs] := by
  induction cs with
  | nil => exact absurd rfl hsome
  | cons c cs ih =>
    rw [lines_cons (h c List.mem_cons_self)]
    cases cs with
    | nil => rfl
    | cons d cs =>
      rw [ih (List.cons_ne_nil _ _) (fun e he => h e (List.mem_cons_of_mem c he))]
      rfl

theorem lines_append {a : List Char} (ha : ∀ c ∈ a, isLineEnd c = false) (b : List Char) :
    lines (a ++ '\n' :: b) = a :: lines b := by
  induction a with
  | nil => rfl
  | cons c a ih =>
    rw [List.cons_append, lines_cons (ha c List.mem_cons_self),
      ih (fun d hd => ha d (List.mem_cons_of_mem c hd))]
    rfl

theorem lines_intercalate {ls : List (List Char)} (hsome : ls ≠ [])
    (hls : ∀ l ∈ ls, l ≠ [] ∧ ∀ c ∈ l, isLineEnd c = false) :
    lines (['\n'].intercalate ls) = ls := by
  induction ls with
  | nil => exact absurd rfl hsome
  | cons l rest ih =>
    obtain ⟨hne, hl⟩ := hls l List.mem_cons_self
    cases rest with
    | nil =>
      rw [List.intercalate_singleton]
      exact lines_of_forall hne hl
    | cons next rest =>
      rw [List.intercalate_cons_cons, List.append_assoc, List.singleton_append, lines_append hl,
        ih (List.cons_ne_nil _ _)]
      intro q hq
      exact hls q (List.mem_cons_of_mem l hq)

end PacketFilter.Text
