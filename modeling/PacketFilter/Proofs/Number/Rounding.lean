import PacketFilter.Proofs.Number.Ratio

/-
  The order of rounded quotients.

  A quotient of at most one is rounded to a number that lies half a unit away at most, and
  the unit is 2 ^ -52 or less. Two quotients with small denominators that differ lie
  further apart than that, so rounding keeps their order; quotients that are equal are
  rounded alike, however they are written.

  What is proved:
    1. `roundDiv_near`, `roundDiv_congr` — rounding to integers goes no further than one
       half, and depends on the quotient alone.
    2. `ratioExponent_scales` — the exponent found for a quotient brings it between
       2 ^ 52 and 2 ^ 53, which is one exponent for all spellings of the quotient.
    3. `ofRatio_near`, `ofRatio_congr` — hence the same of rounded quotients.
    4. `ofRatio_less_iff` — the comparison of rounded quotients is that of the quotients.
-/

namespace PacketFilter

/-! ## Rounding to integers -/

theorem roundDiv_near {den : Nat} (hden : 0 < den) (num : Nat) :
    2 * (roundDiv num den * den) ≤ 2 * num + den ∧
      2 * num ≤ 2 * (roundDiv num den * den) + den := by
  have hnum := Nat.div_add_mod num den
  have hrest := Nat.mod_lt num hden
  rw [Nat.mul_comm] at hnum
  have hnext : (num / den + 1) * den = num / den * den + den := Nat.succ_mul _ _
  simp only [roundDiv]
  repeat' split
  all_goals omega

theorem roundDiv_mul_mul {factor : Nat} (hfactor : 0 < factor) (num den : Nat) :
    roundDiv (factor * num) (factor * den) = roundDiv num den := by
  have hbelow (a b : Nat) : 2 * (factor * a) < factor * b ↔ 2 * a < b := by
    rw [Nat.mul_left_comm, Nat.mul_lt_mul_left hfactor]
  have habove (a b : Nat) : factor * b < 2 * (factor * a) ↔ b < 2 * a := by
    rw [Nat.mul_left_comm, Nat.mul_lt_mul_left hfactor]
  simp only [roundDiv, Nat.mul_div_mul_left num den hfactor, Nat.mul_mod_mul_left, hbelow, habove]

theorem roundDiv_congr {a b c d : Nat} (hb : 0 < b) (hd : 0 < d) (h : a * d = c * b) :
    roundDiv a b = roundDiv c d := by
  rw [← roundDiv_mul_mul hd a b, ← roundDiv_mul_mul hb c d, Nat.mul_comm d a, h, Nat.mul_comm c b,
    Nat.mul_comm d b]

namespace Binary64

/-! ## The exponent -/

theorem two_pow_add (a b : Nat) : Nat.pow 2 (a + b) = Nat.pow 2 a * Nat.pow 2 b := Nat.pow_add 2 a b

theorem two_pow_mul_eq {a b c d : Nat} (h : a + b = c + d) :
    Nat.pow 2 a * Nat.pow 2 b = Nat.pow 2 c * Nat.pow 2 d := by
  rw [← two_pow_add, ← two_pow_add, h]

theorem two_pow_pos (a : Nat) : 0 < Nat.pow 2 a := Nat.two_pow_pos a

theorem two_pow_52 : Nat.pow 2 52 = 4503599627370496 := by decide

theorem two_pow_53 : Nat.pow 2 53 = 9007199254740992 := by decide

/-- The quotient lies between 2 ^ 52 and 2 ^ 53 once it is scaled up. -/
def Scales (num den scale : Nat) : Prop :=
  Nat.pow 2 52 * den ≤ num * Nat.pow 2 scale ∧ num * Nat.pow 2 scale < Nat.pow 2 53 * den

theorem Scales.le {m t n u s r : Nat} (h : Scales m t s) (h' : Scales n u r) (hle : n * t ≤ m * u) :
    s ≤ r := by
  apply Nat.le_of_not_lt
  intro hlt
  obtain ⟨d, rfl⟩ : ∃ d, s = r + 1 + d := ⟨s - (r + 1), by omega⟩
  have hu : 0 < u := Nat.pos_of_ne_zero fun h => by simp [Scales, h] at h'
  have hpow : Nat.pow 2 (r + 1 + d) = Nat.pow 2 r * (2 * Nat.pow 2 d) := by
    rw [two_pow_add, two_pow_add, Nat.mul_assoc]
  -- Scaled up once more than the other, the quotient would reach 2 ^ 53.
  have hreach : Nat.pow 2 53 * t * u ≤ m * Nat.pow 2 (r + 1 + d) * u :=
    calc Nat.pow 2 53 * t * u = 2 * (Nat.pow 2 52 * u * t) := by
          rw [two_pow_52, two_pow_53]
          grind
      _ ≤ 2 * (n * Nat.pow 2 r * t) := Nat.mul_le_mul_left 2 (Nat.mul_le_mul_right t h'.1)
      _ = 2 * Nat.pow 2 r * (n * t) := by grind
      _ ≤ 2 * Nat.pow 2 r * (m * u) := Nat.mul_le_mul_left _ hle
      _ ≤ 2 * Nat.pow 2 r * (m * u) * Nat.pow 2 d := Nat.le_mul_of_pos_right _ (two_pow_pos d)
      _ = m * Nat.pow 2 (r + 1 + d) * u := by
          rw [hpow]
          grind
  exact Nat.lt_irrefl _ (Nat.lt_of_lt_of_le (Nat.mul_lt_mul_of_pos_right h.2 hu) hreach)

/-- **The exponent of a quotient of at most one** scales it right. -/
theorem ratioExponent_scales {m t : Nat} (hm : 0 < m) (hle : m ≤ t) (ht : t < Nat.pow 2 53) :
    ∃ scale : Nat, 52 ≤ scale ∧ ratioExponent m t = -scale ∧ Scales m t scale := by
  have hlog := log2_mono hm hle
  have hlogt : t.log2 < 53 := (Nat.log2_lt (by omega)).mpr ht
  have hmlow : Nat.pow 2 m.log2 ≤ m := Nat.log2_self_le (by omega)
  have hmhigh : m < Nat.pow 2 (m.log2 + 1) := Nat.lt_log2_self
  have htlow : Nat.pow 2 t.log2 ≤ t := Nat.log2_self_le (by omega)
  have hthigh : t < Nat.pow 2 (t.log2 + 1) := Nat.lt_log2_self
  obtain ⟨gap, hgap⟩ : ∃ gap, t.log2 = m.log2 + gap := ⟨t.log2 - m.log2, by omega⟩
  have hguess : ratioGuess m t = -((gap + 53 : Nat) : Int) := by
    rw [ratioGuess]
    omega
  have hscale : scaleRatio m t (-((gap + 53 : Nat) : Int)) = (m * Nat.pow 2 (gap + 53), t) := by
    rw [scaleRatio, if_neg (by omega), Int.natAbs_neg, Int.natAbs_natCast]
  have hmin : minExponent = -1074 := rfl
  by_cases hshort : m * Nat.pow 2 (gap + 53) / t < Nat.pow 2 53
  · refine ⟨gap + 53, by omega, ?_, ?_, (Nat.div_lt_iff_lt_mul (by omega)).mp hshort⟩
    · simp only [ratioExponent, hguess, hscale, if_pos hshort, hmin]
      omega
    · calc Nat.pow 2 52 * t ≤ Nat.pow 2 52 * Nat.pow 2 (t.log2 + 1) :=
            Nat.mul_le_mul_left _ (Nat.le_of_lt hthigh)
        _ = Nat.pow 2 m.log2 * Nat.pow 2 (gap + 53) := two_pow_mul_eq (by omega)
        _ ≤ m * Nat.pow 2 (gap + 53) := Nat.mul_le_mul_right _ hmlow
  · -- The guess is one too small.
    have hdouble : Nat.pow 2 (gap + 53) = 2 * Nat.pow 2 (gap + 52) := by
      rw [Nat.mul_comm]
      exact two_pow_add (gap + 52) 1
    have hreach : Nat.pow 2 53 * t ≤ m * Nat.pow 2 (gap + 53) :=
      (Nat.le_div_iff_mul_le (by omega)).mp (Nat.le_of_not_lt hshort)
    refine ⟨gap + 52, by omega, ?_, ?_, ?_⟩
    · simp only [ratioExponent, hguess, hscale, if_neg hshort, hmin]
      omega
    · rw [hdouble, Nat.mul_left_comm, two_pow_53] at hreach
      rw [two_pow_52]
      omega
    · calc m * Nat.pow 2 (gap + 52) < Nat.pow 2 (m.log2 + 1) * Nat.pow 2 (gap + 52) :=
            Nat.mul_lt_mul_of_pos_right hmhigh (two_pow_pos _)
        _ = Nat.pow 2 53 * Nat.pow 2 t.log2 := two_pow_mul_eq (by omega)
        _ ≤ Nat.pow 2 53 * t := Nat.mul_le_mul_left _ htlow

/-! ## Rounded quotients -/

theorem scaleRatio_neg {m t scale : Nat} (h : 0 < scale) :
    scaleRatio m t (-scale) = (m * Nat.pow 2 scale, t) := by
  rw [scaleRatio, if_neg (by omega), Int.natAbs_neg, Int.natAbs_natCast]

/-- The number lies half a unit from the quotient at most, and the unit is small. -/
def Near (x : Binary64) (m t : Nat) : Prop :=
  ∃ mantissa scale : Nat, x = finite false mantissa (-scale) ∧ 52 ≤ scale ∧
    2 * (mantissa * t) ≤ 2 * (m * Nat.pow 2 scale) + t ∧
    2 * (m * Nat.pow 2 scale) ≤ 2 * (mantissa * t) + t

theorem near_zero {scale : Nat} (h : 52 ≤ scale) (t : Nat) :
    Near (finite false 0 (-scale)) 0 t := by
  refine ⟨0, scale, rfl, h, ?_, ?_⟩
  all_goals
    rw [Nat.zero_mul, Nat.zero_mul]
    exact Nat.zero_le _

/-- A quotient of at most one is rounded to a number near it. -/
theorem ofRatio_near {m t : Nat} (hpos : 0 < t) (hle : m ≤ t) (ht : t < Nat.pow 2 53) :
    Near (ofRatio false m t) m t := by
  by_cases hm : m = 0
  · rw [ofRatio, if_pos (.inl hm), hm]
    exact near_zero (show 52 ≤ 1074 by decide) t
  obtain ⟨scale, hscale, hexp, hnormal⟩ := ratioExponent_scales (by omega) hle ht
  obtain ⟨hlow, hhigh⟩ := roundDiv_near hpos (m * Nat.pow 2 scale)
  rw [ofRatio_eq false (by omega), hexp, scaleRatio_neg (by omega)]
  have hmax : maxExponent = 971 := rfl
  generalize hround : roundDiv (m * Nat.pow 2 scale) t = mantissa at hlow hhigh
  by_cases hfits : mantissa < Nat.pow 2 53
  · refine ⟨mantissa, scale, ?_, hscale, hlow, hhigh⟩
    simp only [ofMantissa, if_pos hfits, hmax]
    rw [if_pos (by omega)]
  · -- The mantissa was rounded up to 2 ^ 53, which is 2 ^ 52 at the next exponent.
    have hcarry : mantissa = Nat.pow 2 53 := by
      have := roundDiv_le (m * Nat.pow 2 scale) t
      have := (Nat.div_lt_iff_lt_mul hpos).mpr hnormal.2
      omega
    obtain ⟨s, rfl⟩ : ∃ s, scale = s + 1 := ⟨scale - 1, by omega⟩
    have hdouble : m * Nat.pow 2 (s + 1) = 2 * (m * Nat.pow 2 s) := by
      rw [two_pow_add s 1, ← Nat.mul_assoc, Nat.mul_comm]
    rw [hcarry, hdouble, two_pow_53] at hlow hhigh
    refine ⟨Nat.pow 2 52, s, ?_, ?_, ?_, ?_⟩
    · simp only [ofMantissa, if_neg hfits, hmax]
      rw [if_pos (by omega)]
      congr 1
      omega
    · -- One itself is not rounded up.
      apply Nat.le_of_not_lt
      intro hless
      have hs : s = 51 := by omega
      have hpow : Nat.pow 2 51 = 2251799813685248 := by decide
      have hone : m * Nat.pow 2 s ≤ t * 2251799813685248 := by
        rw [hs, hpow]
        exact Nat.mul_le_mul_right _ hle
      omega
    · rw [two_pow_52]
      omega
    · rw [two_pow_52]
      omega

theorem ofRatio_congr {m t n u : Nat} (htpos : 0 < t) (hupos : 0 < u) (hm : m ≤ t) (hn : n ≤ u)
    (ht : t < Nat.pow 2 53) (hu : u < Nat.pow 2 53) (h : m * u = n * t) :
    ofRatio false m t = ofRatio false n u := by
  by_cases hzero : m = 0
  · have hn : n = 0 := by
      rw [hzero, Nat.zero_mul] at h
      exact (Nat.mul_eq_zero.mp h.symm).resolve_right (by omega)
    rw [ofRatio, ofRatio, if_pos (.inl hzero), if_pos (.inl hn)]
  · have hnzero : n ≠ 0 := by
      rintro rfl
      rw [Nat.zero_mul] at h
      exact hzero ((Nat.mul_eq_zero.mp h).resolve_right (by omega))
    obtain ⟨s, hs, hexp, hscales⟩ := ratioExponent_scales (by omega) hm ht
    obtain ⟨r, -, hexp', hscales'⟩ := ratioExponent_scales (by omega) hn hu
    have hsame : s = r :=
      Nat.le_antisymm (hscales.le hscales' (Nat.le_of_eq h.symm))
        (hscales'.le hscales (Nat.le_of_eq h))
    subst hsame
    rw [ofRatio_eq false (by omega), ofRatio_eq false (by omega), hexp, hexp',
      scaleRatio_neg (by omega), scaleRatio_neg (by omega)]
    congr 1
    apply roundDiv_congr htpos hupos
    rw [Nat.mul_right_comm, h, Nat.mul_right_comm]

/-! ## Comparisons -/

theorem less_finite_iff (m n s r : Nat) :
    (finite false m (-s)).less (finite false n (-r)) = true ↔
      m * Nat.pow 2 r < n * Nat.pow 2 s := by
  have hshift (a b d e : Nat) :
      a * Nat.pow 2 (d + e) < b * Nat.pow 2 d ↔ a * Nat.pow 2 e < b := by
    rw [two_pow_add, Nat.mul_comm (Nat.pow 2 d), ← Nat.mul_assoc,
      Nat.mul_lt_mul_right (two_pow_pos d)]
  have hshift' (a b d e : Nat) :
      a * Nat.pow 2 d < b * Nat.pow 2 (d + e) ↔ a < b * Nat.pow 2 e := by
    rw [two_pow_add, Nat.mul_comm (Nat.pow 2 d), ← Nat.mul_assoc,
      Nat.mul_lt_mul_right (two_pow_pos d)]
  simp only [less, signed, Bool.false_eq_true, ↓reduceIte, decide_eq_true_eq]
  by_cases h : s ≤ r
  · obtain ⟨d, rfl⟩ := Nat.exists_eq_add_of_le h
    have hbase : min (-(s : Int)) (-((s + d : Nat) : Int)) = -((s + d : Nat) : Int) := by omega
    have hleft : (-(s : Int) - -((s + d : Nat) : Int)).toNat = d := by omega
    have hright : (-((s + d : Nat) : Int) - -((s + d : Nat) : Int)).toNat = 0 := by omega
    have hone : n * Nat.pow 2 0 = n := Nat.mul_one n
    rw [hbase, hleft, hright, hone, hshift, Int.ofNat_lt]
  · obtain ⟨d, rfl⟩ := Nat.exists_eq_add_of_le (Nat.le_of_not_le h)
    have hbase : min (-((r + d : Nat) : Int)) (-(r : Int)) = -((r + d : Nat) : Int) := by omega
    have hleft : (-((r + d : Nat) : Int) - -((r + d : Nat) : Int)).toNat = 0 := by omega
    have hright : (-(r : Int) - -((r + d : Nat) : Int)).toNat = d := by omega
    have hone : m * Nat.pow 2 0 = m := Nat.mul_one m
    rw [hbase, hleft, hright, hone, hshift', Int.ofNat_lt]

/-- Numbers near different quotients with small denominators are in their order. -/
theorem Near.less {x y : Binary64} {m t n u : Nat} (hx : x.Near m t) (hy : y.Near n u)
    (hlt : m * u < n * t) (hsmall : t * u < Nat.pow 2 52) : x.less y = true := by
  obtain ⟨M, s, rfl, hs, hM, -⟩ := hx
  obtain ⟨N, r, rfl, hr, -, hN⟩ := hy
  have hA : t * u < Nat.pow 2 s := Nat.lt_of_lt_of_le hsmall (Nat.pow_le_pow_right (by decide) hs)
  have hB : t * u < Nat.pow 2 r := Nat.lt_of_lt_of_le hsmall (Nat.pow_le_pow_right (by decide) hr)
  rw [less_finite_iff]
  generalize Nat.pow 2 s = A at hM hA
  generalize Nat.pow 2 r = B at hN hB
  apply Nat.lt_of_not_le
  intro hle
  -- Were the order lost, the two half units would make up for the step from one quotient
  -- to the other, which is at least one part in `t * u`.
  have hlost : 2 * (A * B) ≤ t * u * B + t * u * A := by
    have hMB := Nat.mul_le_mul_right (B * u) hM
    have hNA := Nat.mul_le_mul_right (A * t) hN
    have horder := Nat.mul_le_mul_right (t * u) hle
    have hstep := Nat.mul_le_mul_right (A * B) (Nat.succ_le_of_lt hlt)
    grind
  have hunit : t * u * B < A * B := Nat.mul_lt_mul_of_pos_right hA (by omega)
  have hunit' : t * u * A < A * B := by
    rw [Nat.mul_comm A B]
    exact Nat.mul_lt_mul_of_pos_right hB (by omega)
  omega

/-- **Rounding keeps the order of quotients** of at most one, if their denominators are
small. -/
theorem ofRatio_less_iff {m t n u : Nat} (htpos : 0 < t) (hupos : 0 < u) (hm : m ≤ t) (hn : n ≤ u)
    (hsmall : t * u < Nat.pow 2 52) :
    (ofRatio false m t).less (ofRatio false n u) = true ↔ m * u < n * t := by
  have hpow : Nat.pow 2 52 < Nat.pow 2 53 := by decide
  have ht : t < Nat.pow 2 53 :=
    Nat.lt_trans (Nat.lt_of_le_of_lt (Nat.le_mul_of_pos_right t hupos) hsmall) hpow
  have hu : u < Nat.pow 2 53 :=
    Nat.lt_trans (Nat.lt_of_le_of_lt (Nat.le_mul_of_pos_left u htpos) hsmall) hpow
  have hx := ofRatio_near htpos hm ht
  have hy := ofRatio_near hupos hn hu
  rcases Nat.lt_trichotomy (m * u) (n * t) with hlt | heq | hgt
  · exact iff_of_true (hx.less hy hlt hsmall) hlt
  · rw [ofRatio_congr htpos hupos hm hn ht hu heq]
    refine iff_of_false ?_ (by omega)
    obtain ⟨N, r, hN, -⟩ := hy
    rw [hN, less_finite_iff]
    omega
  · refine iff_of_false ?_ (by omega)
    have hgreater := hy.less hx hgt (by rwa [Nat.mul_comm])
    obtain ⟨M, s, hM, -⟩ := hx
    obtain ⟨N, r, hN, -⟩ := hy
    rw [hM, hN, less_finite_iff] at hgreater ⊢
    omega

end Binary64

end PacketFilter
