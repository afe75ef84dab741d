import PacketFilter.Number.Literal
import PacketFilter.Number.Whole
import PacketFilter.Proofs.Fallible
import PacketFilter.Proofs.Text.Blank
import PacketFilter.Proofs.Text.CharClass

/-
  Numbers read back from their figures.

  A number in base ten is a literal of ASCII digits without a sign. `readInteger` gives
  the number back as long as its digits are no more than a literal may have, and counts
  them otherwise (`readInteger_decimalNat`). The names of the truth values are no
  literals (`readInteger_truthText`).
-/

namespace PacketFilter

open Text

/-! ## Reading digits -/

theorem digitRun_of_isDigit {cs : List Char} (h : ∀ c ∈ cs, c.isDigit = true) {after : Bool}
    (hsome : cs ≠ [] ∨ after = false) :
    digitRun after cs = some ⟨cs.map (fun c => c.toNat - 48), []⟩ := by
  induction cs generalizing after with
  | nil =>
    rw [hsome.resolve_left (by simp)]
    rfl
  | cons c cs ih =>
    have hc := h c List.mem_cons_self
    have hunderscore : ¬ c = '_' := by
      rintro rfl
      exact absurd hc (by decide)
    rw [digitRun, if_neg hunderscore, digitValue?_of_isDigit hc]
    simp only [ih (fun d hd => h d (List.mem_cons_of_mem c hd)) (.inr rfl), Option.map_some,
      List.map_cons]

theorem readDigits_of_isDigit (text : String) {cs : List Char} (h : ∀ c ∈ cs, c.isDigit = true)
    (hsome : cs ≠ []) :
    readDigits text cs =
      if maxDigits < cs.length then .error (.tooManyDigits cs.length)
      else .ok (Nat.ofDigitChars 10 cs 0) := by
  have hvalue : ofDigits (cs.map (fun c => c.toNat - 48)) = Nat.ofDigitChars 10 cs 0 := by
    rw [ofDigits, List.foldl_map, Nat.ofDigitChars_eq_foldl]
    rfl
  simp only [readDigits, digitRun_of_isDigit h (.inl hsome), List.length_map, List.isEmpty_nil,
    ↓reduceIte, hvalue]

/-- A literal of ASCII digits has no blanks to trim and no sign. -/
theorem readInteger_of_isDigit {cs : List Char} (h : ∀ c ∈ cs, c.isDigit = true) (hsome : cs ≠ []) :
    readInteger (String.ofList cs) =
      if maxDigits < cs.length then .error (.tooManyDigits cs.length)
      else .ok (Nat.ofDigitChars 10 cs 0) := by
  have htrim : trimWhere isLiteralBlank cs = cs := by
    apply Solid.trimWhere
    refine .of_forall hsome fun c hc => ?_
    rw [isLiteralBlank, isBlank_of_isDigit (h c hc), Bool.false_and]
  have hsign (sign : Char) (hdigit : sign.isDigit = false) (rest : List Char) : cs ≠ sign :: rest := by
    rintro rfl
    exact absurd (h sign List.mem_cons_self) (by simp [hdigit])
  unfold readInteger
  rw [String.toList_ofList, htrim]
  split
  · exact absurd rfl (hsign '+' (by decide) _)
  · exact absurd rfl (hsign '-' (by decide) _)
  · rw [readDigits_of_isDigit _ h hsome]
    split <;> rfl

/-! ## Numbers in base ten -/

theorem isDigit_of_mem_decimalNat {n : Nat} {c : Char} (h : c ∈ (decimalNat n).toList) :
    c.isDigit = true := by
  rw [decimalNat, String.toList_ofList] at h
  exact Nat.isDigit_of_mem_toDigits (by decide) (by decide) h

theorem decimalNat_toList_ne_nil (n : Nat) : (decimalNat n).toList ≠ [] := by
  rw [decimalNat, String.toList_ofList]
  exact Nat.toDigits_ne_nil

theorem decimal_natCast (n : Nat) : decimal (n : Int) = decimalNat n := by
  rw [decimal, if_neg (by omega), Int.natAbs_natCast]

/-- **A number in base ten reads back**, if it has no more digits than a literal may
have. -/
theorem readInteger_decimalNat (n : Nat) :
    readInteger (decimalNat n) =
      if (Nat.toDigits 10 n).length ≤ maxDigits then .ok (n : Int)
      else .error (.tooManyDigits (Nat.toDigits 10 n).length) := by
  have hdigits : ∀ c ∈ Nat.toDigits 10 n, c.isDigit = true :=
    fun c hc => Nat.isDigit_of_mem_toDigits (by decide) (by decide) hc
  rw [decimalNat, readInteger_of_isDigit hdigits Nat.toDigits_ne_nil, Nat.ofDigitChars_ten_toDigits]
  by_cases hn : (Nat.toDigits 10 n).length ≤ maxDigits
  · rw [if_pos hn, if_neg (by omega)]
  · rw [if_neg hn, if_pos (by omega)]

theorem digits_le_maxDigits {n : Nat} (h : n < 0x100000000) :
    (Nat.toDigits 10 n).length ≤ maxDigits := by
  have hten : (Nat.toDigits 10 n).length ≤ 10 :=
    (Nat.length_toDigits_le_iff (by decide) (by decide)).mpr (by omega)
  exact Nat.le_trans hten (by decide)

theorem readInteger_truthText (b : Bool) (n : Int) : readInteger (Whole.truthText b) ≠ .ok n := by
  cases b <;> intro h <;> cases h

end PacketFilter
