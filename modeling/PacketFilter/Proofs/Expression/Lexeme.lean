import PacketFilter.Filter.Basic
import PacketFilter.Proofs.Expression.Token
import PacketFilter.Proofs.Number.Literal

/-
  Words that stand alone.

  A word that ends where a gap follows, or the text, is a lexeme of its own: a keyword in any
  letter case (`lexeme_keyword`), decimal digits that are a number (`lexeme_number`) and a
  quad (`lexeme_quad`). Nothing that may follow can make the lexeme longer or turn digits
  into a quad.
-/

namespace PacketFilter.Expression

open Text

variable {rest : List Char} {word : String} {k : Keyword}

/-! ## What follows -/

/-- A text that extends no lexeme in front of it: the end, or a gap. -/
def Ends (rest : List Char) : Prop := ∀ c, rest.head? = some c → isGap c = true

theorem ends_nil : Ends [] := by
  intro c hc
  contradiction

theorem ends_cons {c : Char} (hc : isGap c = true) (rest : List Char) : Ends (c :: rest) := by
  intro d hd
  cases hd
  exact hc

theorem Ends.head_not {p : Char → Bool} (h : Ends rest) (hblank : p ' ' = false)
    (htab : p '\t' = false) (c : Char) (hc : rest.head? = some c) : p c = false := by
  have hgap := h c hc
  simp only [isGap, Bool.or_eq_true, beq_iff_eq] at hgap
  rcases hgap with rfl | rfl
  · exact hblank
  · exact htab

theorem Ends.dropWhile {p : Char → Bool} (h : Ends rest) (hblank : p ' ' = false)
    (htab : p '\t' = false) : rest.dropWhile p = rest :=
  dropWhile_of_head (h.head_not hblank htab)

theorem Ends.takeWhile {p : Char → Bool} (h : Ends rest) (hblank : p ' ' = false)
    (htab : p '\t' = false) : rest.takeWhile p = [] := by
  cases rest with
  | nil => rfl
  | cons c rest => rw [List.takeWhile_cons_of_neg (by simp [h.head_not hblank htab c rfl])]

/-! ## Keywords, numbers and addresses -/

theorem Keyword.letters (k : Keyword) : ∀ c ∈ k.text.toList, AsciiLetter c := by
  have hall : k.text.toList.all (fun c => decide (AsciiLetter c)) = true := by cases k <;> decide
  intro c hc
  exact of_decide_eq_true (List.all_eq_true.mp hall c hc)

theorem class_of_keyword (hk : lower word = k.text) {p : Char → Bool} {b : Bool}
    (hp : ∀ c, AsciiLetter c → p c = b) : ∀ c ∈ word.toList, p c = b := by
  intro c hc
  exact hp c (letter_of_lower hk k.letters c hc)

theorem ne_nil_of_keyword (hk : lower word = k.text) : word.toList ≠ [] := by
  intro hword
  rw [lower, hword] at hk
  revert hk
  cases k <;> decide

theorem not_blank_of_keyword (hk : lower word = k.text) : ∃ c ∈ word.toList, isBlank c = false := by
  obtain ⟨c, hc⟩ := List.exists_mem_of_ne_nil _ (ne_nil_of_keyword hk)
  exact ⟨c, hc, class_of_keyword hk (fun _ => AsciiLetter.not_blank) c hc⟩

theorem Keyword.exists_protocol : ∀ q : Protocol, ∃ k : Keyword, k.text = q.name
  | .icmp => ⟨.icmp, rfl⟩
  | .tcp => ⟨.tcp, rfl⟩
  | .udp => ⟨.udp, rfl⟩

theorem Keyword.exists_side : ∀ side : Side, ∃ k : Keyword, k.text = side.keyword
  | .src => ⟨.src, rfl⟩
  | .dst => ⟨.dst, rfl⟩

theorem lexeme_keyword (hk : lower word = k.text) (hrest : Ends rest) :
    Lexeme word.toList (.keyword k word) rest := by
  have hrun : RunOf isWordChar word.toList :=
    ⟨ne_nil_of_keyword hk, class_of_keyword hk fun _ => AsciiLetter.wordChar⟩
  have hquad : ∀ quad tail, quad ++ tail = word.toList ++ rest → ¬ Quad quad := by
    -- A quad starts with a digit, a keyword with a letter.
    intro quad tail hfront hquad
    obtain ⟨c, quad, rfl⟩ := List.exists_cons_of_ne_nil hquad.nonempty
    obtain ⟨d, cs, hword⟩ := List.exists_cons_of_ne_nil hrun.nonempty
    rw [hword] at hfront
    obtain ⟨rfl, -⟩ := List.cons.inj hfront
    have hdecimal := class_of_keyword hk (fun _ => AsciiLetter.not_decimal) c (by simp [hword])
    rw [hquad.head] at hdecimal
    contradiction
  have hlexeme := Lexeme.keyword
    ⟨longest_run_iff.mpr ⟨hrun, hrest.takeWhile (by decide) (by decide)⟩, hquad⟩
    (by rwa [String.ofList_toList] : lower (String.ofList word.toList) = k.text)
  rwa [String.ofList_toList] at hlexeme

theorem lexeme_number {n : Int} (hrun : RunOf isDecimal word.toList)
    (hn : readInteger word = .ok n) (hrest : Ends rest) : Lexeme word.toList (.number n) rest := by
  -- The run of digits ends without a point, so it starts no quad.
  have hpoint : digitsAndPoint? (word.toList ++ rest) = none := by
    rw [digitsAndPoint?, hrun.dropWhile_append, hrest.dropWhile (by decide) (by decide)]
    split
    · next tail =>
      exact absurd (hrest '.' rfl) (by decide)
    · rfl
  have hquad : dotted? (word.toList ++ rest) = none := by
    rw [dotted?, hpoint]
    rfl
  have hwordRun : RunOf isWordChar word.toList :=
    ⟨hrun.nonempty, fun c hc => isWordChar_of_isDecimal (hrun.all c hc)⟩
  have hword : Word word.toList rest :=
    ⟨longest_run_iff.mpr ⟨hwordRun, hrest.takeWhile (by decide) (by decide)⟩,
      dotted?_eq_none_iff.mp hquad⟩
  refine .number hword (fun c hc => isNumeric_of_isDecimal (hrun.all c hc)) ?_
  rwa [String.ofList_toList]

theorem lexeme_quad (h : Quad word.toList) (hrest : Ends rest) :
    Lexeme word.toList (.address word) rest := by
  have hlexeme :=
    Lexeme.address (longest_quad_iff.mpr ⟨h, hrest.takeWhile (by decide) (by decide)⟩)
  rwa [String.ofList_toList] at hlexeme

end PacketFilter.Expression
