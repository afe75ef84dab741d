import PacketFilter.Json.Text
import PacketFilter.Proofs.Number.Literal
import PacketFilter.Proofs.Text.CharClass

/-
  Values that are shown as words.

  A message shows a text as it stands, so what it shows may be any word. Other values are
  told apart from words by a character that is no letter: figures by a digit, a point or
  the sign of the exponent, lists and objects by their brackets. Five names are left over
  (`Json.plain_letters`). Figures have one point at most (`Binary64.count_point_text`), so
  they are no dotted texts either. A text that shows no replacement character is shown in
  full (`LooseText.ofString_text`).
-/

namespace PacketFilter

open Text

/-! ## Loose texts -/

@[simp] theorem LooseText.text_ofString (s : String) : (LooseText.ofString s).text = s := by
  simp [LooseText.ofString, LooseText.text, Function.comp_def, TextUnit.toChar]

/-- A text without the replacement character holds no lone surrogate. -/
theorem LooseText.ofString_text {s : LooseText} (h : TextUnit.replacement ∉ s.text.toList) :
    ofString s.text = s := by
  rcases s with ⟨units⟩
  rw [text, String.toList_ofList] at h
  rw [ofString, text, String.toList_ofList, List.map_map]
  congr 1
  calc units.map (TextUnit.char ∘ TextUnit.toChar)
      = units.map id := by
        apply List.map_congr_left
        intro u hu
        cases u with
        | char c => rfl
        | lone offset => exact absurd (List.mem_map_of_mem hu) h
    _ = units := List.map_id units

/-! ## Figures -/

theorem decimal_other (n : Int) : ∃ c ∈ (decimal n).toList, ¬ AsciiLetter c := by
  obtain ⟨c, hc⟩ := List.exists_mem_of_ne_nil _ (decimalNat_toList_ne_nil n.natAbs)
  obtain ⟨hlow, hhigh⟩ := toNat_of_isDigit (isDigit_of_mem_decimalNat hc)
  refine ⟨c, ?_, by unfold AsciiLetter; omega⟩
  unfold decimal
  split
  · rw [String.toList_append]
    exact List.mem_append_right _ hc
  · exact hc

theorem Decimal.positional_point (digits : List Char) (point : Int) :
    '.' ∈ positional digits point := by
  unfold positional
  split
  · exact List.mem_cons_of_mem _ List.mem_cons_self
  · exact List.mem_append_right _ List.mem_cons_self

theorem Decimal.scientific_sign (digits : List Char) (exponent : Int) :
    '-' ∈ scientific digits exponent ∨ '+' ∈ scientific digits exponent := by
  by_cases h : exponent < 0
  · left
    simp [scientific, h]
  · right
    simp [scientific, h]

theorem Decimal.chars_other (d : Decimal) : ∃ c ∈ d.chars, ¬ AsciiLetter c := by
  rw [chars]
  split
  · exact ⟨'.', positional_point _ _, by decide⟩
  · rcases scientific_sign (Nat.toDigits 10 d.digits)
      ((Nat.toDigits 10 d.digits).length + d.exponent - 1) with hsign | hsign
    · exact ⟨'-', hsign, by decide⟩
    · exact ⟨'+', hsign, by decide⟩

theorem Binary64.text_letters {x : Binary64} (h : ∀ c ∈ x.text.toList, AsciiLetter c) :
    x.text = "inf" ∨ x.text = "nan" := by
  cases x with
  | finite s m q =>
    obtain ⟨c, hc, hother⟩ := (Decimal.shortest m q).chars_other
    refine absurd (h c ?_) hother
    rw [text, String.toList_append, String.toList_ofList]
    exact List.mem_append_right _ hc
  | infinite s =>
    cases s with
    | false => exact .inl rfl
    | true => exact absurd (h '-' (by decide)) (by decide)
  | nan => exact .inr rfl

/-! ## Points -/

theorem count_point_of_isDigit {cs : List Char} (h : ∀ c ∈ cs, c.isDigit = true) :
    cs.count '.' = 0 := by
  rw [List.count_eq_zero]
  intro hmem
  exact absurd (h _ hmem) (by decide)

theorem count_point_zeroFill {width : Nat} {digits : List Char}
    (h : ∀ c ∈ digits, c.isDigit = true) : (zeroFill width digits).count '.' = 0 := by
  apply count_point_of_isDigit
  intro c hc
  rcases List.mem_append.mp hc with hc | hc
  · rw [List.eq_of_mem_replicate hc]
    decide
  · exact h c hc

section
variable {digits : List Char} (h : ∀ c ∈ digits, c.isDigit = true)
include h

theorem Decimal.count_point_positional (point : Int) : (positional digits point).count '.' = 1 := by
  have hzeros (n : Nat) : (List.replicate n '0').count '.' = 0 := by simp [List.count_replicate]
  have htake := count_point_of_isDigit fun c hc => h c (List.mem_of_mem_take (i := point.toNat) hc)
  have hdrop := count_point_of_isDigit fun c hc => h c (List.mem_of_mem_drop (i := point.toNat) hc)
  unfold positional
  split
  · simp [hzeros, count_point_of_isDigit h]
  · simp only [List.count_append, List.count_cons_self, hzeros, htake]
    split
    · rfl
    · rw [hdrop]

theorem Decimal.count_point_scientific (exponent : Int) :
    (scientific digits exponent).count '.' ≤ 1 := by
  have htake := count_point_of_isDigit fun c hc => h c (List.mem_of_mem_take (i := 1) hc)
  have hdrop := count_point_of_isDigit fun c hc => h c (List.mem_of_mem_drop (i := 1) hc)
  have hsign : ['e', if exponent < 0 then '-' else '+'].count '.' = 0 := by
    split <;> rfl
  have hfigures : (zeroFill 2 (Nat.toDigits 10 exponent.natAbs)).count '.' = 0 :=
    count_point_zeroFill fun c hc => Nat.isDigit_of_mem_toDigits (by decide) (by decide) hc
  simp only [scientific, List.count_append, htake, hsign, hfigures]
  split
  · decide
  · exact Nat.le_of_eq (by rw [List.count_cons_self, hdrop])

end

theorem Binary64.count_point_text (x : Binary64) : x.text.toList.count '.' ≤ 1 := by
  cases x with
  | finite s m q =>
    have hdigits : ∀ c ∈ Nat.toDigits 10 (Decimal.shortest m q).digits, c.isDigit = true :=
      fun c hc => Nat.isDigit_of_mem_toDigits (by decide) (by decide) hc
    have hsign : (signText s).toList.count '.' = 0 := by cases s <;> decide
    rw [text, String.toList_append, String.toList_ofList, List.count_append, hsign, Nat.zero_add,
      Decimal.chars]
    split
    · exact Nat.le_of_eq (Decimal.count_point_positional hdigits _)
    · exact Decimal.count_point_scientific hdigits _
  | infinite s => cases s <;> decide
  | nan => decide

/-! ## Values -/

/-- A value that is shown in letters alone is a text, or is shown by one of five names. -/
theorem Json.plain_letters {v : Json} (h : ∀ c ∈ v.plain.toList, AsciiLetter c) :
    (∃ s, v = .str s) ∨ v.plain ∈ ["None", "True", "False", "inf", "nan"] := by
  cases v with
  | str s => exact .inl ⟨s, rfl⟩
  | null => exact .inr (by decide)
  | bool b => exact .inr (by cases b <;> decide)
  | num n =>
    cases n with
    | int n =>
      obtain ⟨c, hc, hother⟩ := decimal_other n
      exact absurd (h c hc) hother
    | real x =>
      have hplain : (Json.num (.real x)).plain = x.text := rfl
      rw [hplain] at h ⊢
      rcases Binary64.text_letters h with hx | hx
      · exact .inr (by rw [hx]; decide)
      · exact .inr (by rw [hx]; decide)
  | arr items => exact absurd (h '[' (by simp [plain, quoted])) (by decide)
  | obj fields => exact absurd (h '\x7b' (by simp [plain, quoted])) (by decide)

end PacketFilter
