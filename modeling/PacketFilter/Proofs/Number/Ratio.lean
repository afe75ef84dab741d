import PacketFilter.Number.Binary64

/-
  Quotients rounded to 64-bit floating point.

  What is proved: the quotient of a number by itself is one, exactly
  (`Binary64.ofRatio_self`), and below 2 ^ 53 no proper fraction is rounded up to
  one, so the rounded quotient is one only if the quotient is
  (`Binary64.ofRatio_eq_one_iff`).
-/

namespace PacketFilter

theorem roundDiv_mul_left {n : Nat} (hn : 0 < n) (m : Nat) : roundDiv (n * m) n = m := by
  have hdiv : n * m / n = m := Nat.mul_div_cancel_left m hn
  have hmod : n * m % n = 0 := Nat.mul_mod_right n m
  simp only [roundDiv, hdiv, hmod]
  rw [if_pos (by omega)]

theorem roundDiv_le (num den : Nat) : roundDiv num den ≤ num / den + 1 := by
  simp only [roundDiv]
  repeat' split
  all_goals omega

namespace Binary64

/-- The exponent tried first for a quotient. It is right or one too small. -/
def ratioGuess (num den : Nat) : Int := (num.log2 : Int) - (den.log2 : Int) - 53

/-- The exponent of a rounded quotient. -/
def ratioExponent (num den : Nat) : Int :=
  let scaled := scaleRatio num den (ratioGuess num den)
  max (if scaled.1 / scaled.2 < Nat.pow 2 53 then ratioGuess num den else ratioGuess num den + 1)
    minExponent

theorem ofRatio_eq (negative : Bool) {num den : Nat} (h : ¬ (num = 0 ∨ den = 0)) :
    ofRatio negative num den =
      ofMantissa negative
        (roundDiv (scaleRatio num den (ratioExponent num den)).1
          (scaleRatio num den (ratioExponent num den)).2)
        (ratioExponent num den) := by
  rw [ofRatio, if_neg h]
  rfl

theorem one_eq : ofInt 1 = finite false (Nat.pow 2 52) (-52) := by decide

theorem ofRatio_self {n : Nat} (hn : 0 < n) : ofRatio false n n = ofInt 1 := by
  have hguess : ratioGuess n n = -53 := by
    rw [ratioGuess]
    omega
  have hscale : scaleRatio n n (-53) = (n * Nat.pow 2 53, n) := rfl
  -- The guess is one too small, so the mantissa is 2 ^ 52 whatever the number is.
  have hexp : ratioExponent n n = -52 := by
    have hreach : n * Nat.pow 2 53 / n = Nat.pow 2 53 := Nat.mul_div_cancel_left _ hn
    have hlarge : ¬ n * Nat.pow 2 53 / n < Nat.pow 2 53 := by omega
    simp only [ratioExponent, hguess, hscale, if_neg hlarge]
    decide
  have hscale : scaleRatio n n (-52) = (n * Nat.pow 2 52, n) := rfl
  rw [ofRatio_eq false (by omega), hexp, hscale, roundDiv_mul_left hn]
  decide

/-- A mantissa short of 2 ^ 53 at the exponent -53, or any at a lesser one, is not one. -/
theorem ofMantissa_ne_one {m : Nat} {q : Int} (hq : q ≤ -53) (hm : q = -53 → m < Nat.pow 2 53) :
    ofMantissa false m q ≠ ofInt 1 := by
  rw [one_eq, ofMantissa]
  by_cases h : m < Nat.pow 2 53
  · simp only [if_pos h]
    split
    · intro heq
      injection heq
      omega
    · nofun
  · have hq' : q ≠ -53 := fun heq => h (hm heq)
    simp only [if_neg h]
    split
    · intro heq
      injection heq
      omega
    · nofun

theorem log2_mono {m t : Nat} (hm : 0 < m) (h : m ≤ t) : m.log2 ≤ t.log2 := by
  rw [Nat.le_log2 (by omega)]
  exact Nat.le_trans (Nat.log2_self_le (by omega)) h

theorem ofRatio_ne_one {m t : Nat} (hm : m < t) (ht : t < Nat.pow 2 53) :
    ofRatio false m t ≠ ofInt 1 := by
  by_cases hzero : m = 0
  · rw [one_eq, ofRatio, if_pos (Or.inl hzero)]
    nofun
  have hscale : scaleRatio m t (-53) = (m * Nat.pow 2 53, t) := rfl
  -- The quotient is short of one by more than the half unit that is rounded up.
  have hshort : m * Nat.pow 2 53 / t + 1 < Nat.pow 2 53 := by
    have hpow : Nat.pow 2 53 = 9007199254740992 := by decide
    rw [hpow] at ht ⊢
    have : m * 9007199254740992 / t < 9007199254740991 := by
      rw [Nat.div_lt_iff_lt_mul (by omega)]
      omega
    omega
  have hexp : ratioExponent m t ≤ -53 := by
    have hlog := log2_mono (by omega) (Nat.le_of_lt hm)
    have hmin : minExponent ≤ -53 := by decide
    rw [ratioExponent]
    by_cases hguess : ratioGuess m t = -53
    · simp only [hguess, hscale, if_pos (Nat.lt_of_succ_lt hshort)]
      omega
    · have : ratioGuess m t ≤ -54 := by
        rw [ratioGuess] at hguess ⊢
        omega
      split <;> omega
  rw [ofRatio_eq false (by omega)]
  apply ofMantissa_ne_one hexp
  intro hq
  rw [hq, hscale]
  exact Nat.lt_of_le_of_lt (roundDiv_le _ _) hshort

/-- Below 2 ^ 53 a rounded quotient is one only if the quotient is. -/
theorem ofRatio_eq_one_iff {m t : Nat} (hpos : 0 < t) (hm : m ≤ t) (ht : t < Nat.pow 2 53) :
    ofRatio false m t = ofInt 1 ↔ m = t := by
  constructor
  · intro h
    apply Nat.le_antisymm hm
    apply Nat.le_of_not_lt
    intro hlt
    exact ofRatio_ne_one hlt ht h
  · intro h
    rw [h]
    exact ofRatio_self hpos

end Binary64

end PacketFilter
