import PacketFilter.Proofs.Program.Dump

/-
  Fields as they are spelled.

  A field of an instruction is a number, and is written as a truth value if it was given as
  one. Only zero and one are given in that way (`Spelling.Suits`), so that what is written
  says which number it is and how it was given.

  What is proved: whole numbers that are written alike are the same (`Whole.text_inj`), and
  so instructions that are written alike have the same fields in the same spelling
  (`words_eq_iff`, `figures_eq_iff`). Lists made from two programs are compared position by
  position (`Program.mapIdx_eq_iff`).
-/

namespace PacketFilter

open Text

/-! ## Numbers and their spelling -/

theorem decimalNat_inj {n m : Nat} (h : decimalNat n = decimalNat m) : n = m := by
  have hdigits : Nat.toDigits 10 n = Nat.toDigits 10 m := String.ofList_inj.mp h
  calc n = Nat.ofDigitChars 10 (Nat.toDigits 10 n) 0 := Nat.ofDigitChars_ten_toDigits.symm
    _ = Nat.ofDigitChars 10 (Nat.toDigits 10 m) 0 := by rw [hdigits]
    _ = m := Nat.ofDigitChars_ten_toDigits

theorem mem_decimal {n : Int} {c : Char} (h : c ∈ (decimal n).toList) :
    c.isDigit = true ∨ c = '-' ∧ n < 0 := by
  unfold decimal at h
  split at h
  · next hneg =>
    rw [String.toList_append, List.mem_append] at h
    rcases h with h | h
    · exact .inr ⟨by simpa using h, hneg⟩
    · exact .inl (isDigit_of_mem_decimalNat h)
  · exact .inl (isDigit_of_mem_decimalNat h)

theorem decimal_inj {n m : Int} (h : decimal n = decimal m) : n = m := by
  have hsign {n m : Int} (h : decimal n = decimal m) (hn : n < 0) : m < 0 := by
    have hmem : '-' ∈ (decimal m).toList := by
      rw [← h, decimal, if_pos hn]
      simp
    rcases mem_decimal hmem with hdigit | ⟨-, hm⟩
    · contradiction
    · exact hm
  by_cases hn : n < 0
  · have hm := hsign h hn
    rw [decimal, decimal, if_pos hn, if_pos hm, String.append_right_inj] at h
    have := decimalNat_inj h
    omega
  · have hm : ¬ m < 0 := fun hm => hn (hsign h.symm hm)
    rw [decimal, decimal, if_neg hn, if_neg hm] at h
    have := decimalNat_inj h
    omega

namespace Whole

theorem eq_of_value_of_isTruth {k k' : Whole} (h : k.value = k'.value)
    (hspelled : k.isTruth = k'.isTruth) : k = k' := by
  cases k with
  | int n =>
    cases k' with
    | int m => exact congrArg int h
    | truth c => contradiction
  | truth b =>
    cases k' with
    | int m => contradiction
    | truth c => cases b <;> cases c <;> simp_all [value]

/-- Zero and one are the numbers that are spelled in two ways. -/
theorem value_of_isTruth_ne {k k' : Whole} (h : k.value = k'.value)
    (hspelled : k.isTruth ≠ k'.isTruth) : k.value = 0 ∨ k.value = 1 := by
  have htruth (b : Bool) : (truth b).value = 0 ∨ (truth b).value = 1 := by
    cases b <;> decide
  cases k with
  | int n =>
    cases k' with
    | int m => contradiction
    | truth c =>
      rw [h]
      exact htruth c
  | truth b => exact htruth b

/-- **What is written says which number it is and how it is spelled.** -/
theorem text_inj {k k' : Whole} (h : k.text = k'.text) : k = k' := by
  have hname (b : Bool) (n : Int) : truthText b ≠ decimal n := by
    intro heq
    have hmem : 'e' ∈ (decimal n).toList := by
      rw [← heq]
      cases b <;> decide
    rcases mem_decimal hmem with hdigit | ⟨hsign, -⟩ <;> contradiction
  cases k with
  | int n =>
    cases k' with
    | int m => exact congrArg int (decimal_inj h)
    | truth c => exact absurd h.symm (hname c n)
  | truth b =>
    cases k' with
    | int m => exact absurd h (hname b m)
    | truth c =>
      have hnames : ∀ b c, truthText b = truthText c → b = c := by decide
      exact congrArg truth (hnames b c h)

theorem ofNat_inj {n m : Nat} {spelled spelled' : Bool} (hn : spelled = true → n ≤ 1)
    (hm : spelled' = true → m ≤ 1) :
    ofNat n spelled = ofNat m spelled' ↔ n = m ∧ spelled = spelled' := by
  constructor
  · intro h
    have hvalue := congrArg value h
    have hspelled := congrArg isTruth h
    rw [value_ofNat hn, value_ofNat hm] at hvalue
    rw [isTruth_ofNat, isTruth_ofNat] at hspelled
    exact ⟨Int.natCast_inj.mp hvalue, hspelled⟩
  · rintro ⟨rfl, rfl⟩
    rfl

end Whole

/-! ## Instructions -/

namespace Instruction

section
variable {i j : Instruction}

theorem opcodeFigure_eq_iff :
    i.opcodeFigure = j.opcodeFigure ↔
      i.opcode = j.opcode ∧ i.spelling.opcode = j.spelling.opcode := by
  rw [opcodeFigure, opcodeFigure, Whole.ofNat_inj i.truths.opcode j.truths.opcode, UInt16.toNat_inj]

theorem jtFigure_eq_iff :
    i.jtFigure = j.jtFigure ↔ i.jt = j.jt ∧ i.spelling.jt = j.spelling.jt := by
  rw [jtFigure, jtFigure, Whole.ofNat_inj i.truths.jt j.truths.jt, UInt8.toNat_inj]

theorem jfFigure_eq_iff :
    i.jfFigure = j.jfFigure ↔ i.jf = j.jf ∧ i.spelling.jf = j.spelling.jf := by
  rw [jfFigure, jfFigure, Whole.ofNat_inj i.truths.jf j.truths.jf, UInt8.toNat_inj]

theorem kFigure_eq_iff :
    i.kFigure = j.kFigure ↔ i.k = j.k ∧ i.spelling.k = j.spelling.k := by
  rw [kFigure, kFigure, Whole.ofNat_inj i.truths.k j.truths.k, UInt32.toNat_inj]

theorem figures_eq_iff :
    i.figures = j.figures ↔ i.toEncoding = j.toEncoding ∧ i.spelling = j.spelling := by
  constructor
  · intro h
    simp only [figures, List.cons.injEq, and_true, opcodeFigure_eq_iff, jtFigure_eq_iff,
      jfFigure_eq_iff, kFigure_eq_iff] at h
    obtain ⟨⟨ho, hso⟩, ⟨ht, hst⟩, ⟨hf, hsf⟩, hk, hsk⟩ := h
    have hcode : i.toEncoding = j.toEncoding :=
      (Encoding.mk.injEq ..).mpr ⟨ho, ht, hf, hk⟩
    have hspelling : i.spelling = j.spelling :=
      (Spelling.mk.injEq ..).mpr ⟨hso, hst, hsf, hsk⟩
    exact ⟨hcode, hspelling⟩
  · rintro ⟨hcode, hspelling⟩
    simp only [figures, opcodeFigure, jtFigure, jfFigure, kFigure, hcode, hspelling]

end

theorem words_eq_iff {i j : Instruction} : i.words = j.words ↔ i.figures = j.figures := by
  constructor
  · intro h
    have hwords (l : Instruction) : Text.words l.words.toList = l.figureTexts := by
      rw [words_toList]
      exact words_intercalate (by decide) (List.cons_ne_nil _ _) l.figureTexts_nonblank
    have htexts : i.figureTexts = j.figureTexts := by rw [← hwords, ← hwords, h]
    apply (List.map_inj_right ?_).mp htexts
    exact fun w w' heq => Whole.text_inj (String.toList_inj.mp heq)
  · intro h
    rw [words, words, h]

end Instruction

/-! ## Programs -/

namespace Program

theorem size_of_sameCode {p q : Program} (h : p.sameCode q = true) : p.size = q.size := by
  have hcode : p.code = q.code := eq_of_beq h
  simpa only [size, code, List.length_map] using congrArg List.length hcode

/-- Lists made from two programs are the same exactly if the programs are of one size and
the lists agree at each position. -/
theorem mapIdx_eq_iff {α : Type} {p q : Program} {f g : Nat → Instruction → α} :
    p.instructions.mapIdx f = q.instructions.mapIdx g ↔
      p.size = q.size ∧
      ∀ (n : Nat) (i j : Instruction), p.instructions[n]? = some i → q.instructions[n]? = some j →
        f n i = g n j := by
  constructor
  · intro heq
    refine ⟨?_, ?_⟩
    · simpa only [size, List.length_mapIdx] using congrArg List.length heq
    · intro n i j hi hj
      have hat : (p.instructions.mapIdx f)[n]? = (q.instructions.mapIdx g)[n]? := by rw [heq]
      simpa only [List.getElem?_mapIdx, hi, hj, Option.map_some, Option.some.injEq] using hat
  · rintro ⟨hsize, hall⟩
    have hlength : p.instructions.length = q.instructions.length := hsize
    apply List.ext_getElem?
    intro n
    rw [List.getElem?_mapIdx, List.getElem?_mapIdx]
    cases hi : p.instructions[n]? with
    | none =>
      rw [List.getElem?_eq_none_iff, hlength, ← List.getElem?_eq_none_iff] at hi
      rw [hi]
      rfl
    | some i =>
      have hn : n < q.instructions.length := by
        rw [← hlength]
        exact (List.getElem?_eq_some_iff.mp hi).1
      have hj := List.getElem?_eq_getElem hn
      rw [hj]
      exact congrArg some (hall n i _ hi hj)

end Program

/-- A program that returns one, given as a number or as a truth value. -/
def returnOne (one : Whole) : Program where
  instructions := [.ofWholes (.int 6) (.int 0) (.int 0) one none]

end PacketFilter
