import PacketFilter.Text.Alphanumeric
import PacketFilter.Text.Blank
import PacketFilter.Text.Numeral

/-
  ASCII in the classes of characters.

  The classes reach far beyond ASCII, but each table starts with it: a few turning points
  settle where an ASCII character belongs (`inClass_cons`). An ASCII digit is decimal,
  numeric and a character of words; an ASCII letter is a character of words alone, so
  lower-casing keeps every class (`class_lowerChar`).

  Beyond ASCII the tables are compared with each other: every decimal digit is numeric and a
  character of words (`inClass_of_isDecimal`), and no blank is numeric.
-/

namespace PacketFilter.Text

/-- Each turning point that is passed turns the answer of the others round. -/
theorem inClass_cons (turn : Nat) (turns : List Nat) (c : Char) :
    inClass (turn :: turns) c = if turn ≤ c.toNat then !inClass turns c else false := by
  by_cases h : turn ≤ c.toNat
  · rw [if_pos h, inClass, List.takeWhile_cons_of_pos (by simpa using h), List.length_cons, inClass]
    generalize (turns.takeWhile _).length = n
    rw [Bool.eq_iff_iff, Bool.not_eq_true', beq_iff_eq, beq_eq_false_iff_ne]
    omega
  · rw [if_neg h, inClass, List.takeWhile_cons_of_neg (by simpa using h)]
    rfl

/-! ## Digits -/

theorem toNat_of_isDigit {c : Char} (h : c.isDigit = true) : 48 ≤ c.toNat ∧ c.toNat ≤ 57 := by
  simpa [Char.isDigit, UInt32.le_iff_toNat_le] using h

theorem digitValue?_of_isDigit {c : Char} (h : c.isDigit = true) :
    digitValue? c = some (c.toNat - 48) := by
  obtain ⟨hlow, hhigh⟩ := toNat_of_isDigit h
  have hfirst : (decide (0x30 ≤ c.toNat) && decide (c.toNat < 0x30 + 10)) = true := by
    simp only [Bool.and_eq_true, decide_eq_true_eq]
    omega
  have htable : digitZeros = 0x30 :: digitZeros.tail := rfl
  rw [digitValue?, htable, List.find?_cons, hfirst]
  rfl

theorem isDecimal_of_isDigit {c : Char} (h : c.isDigit = true) : isDecimal c = true := by
  rw [isDecimal, digitValue?_of_isDigit h, Option.isSome_some]

theorem isBlank_of_isDigit {c : Char} (h : c.isDigit = true) : isBlank c = false := by
  obtain ⟨hlow, hhigh⟩ := toNat_of_isDigit h
  simp [isBlank]
  omega

/-! ## Letters -/

/-- An ASCII letter of either case. -/
def AsciiLetter (c : Char) : Prop :=
  (65 ≤ c.toNat ∧ c.toNat ≤ 90) ∨ (97 ≤ c.toNat ∧ c.toNat ≤ 122)

instance (c : Char) : Decidable (AsciiLetter c) := inferInstanceAs (Decidable (_ ∨ _))

/-- Lower-casing does not lead into a class or out of it, if the letters are all in the class
or all outside. -/
theorem class_lowerChar {q : Char → Bool} {b : Bool} (hq : ∀ c, AsciiLetter c → q c = b)
    (c : Char) : q (lowerChar c) = q c := by
  rw [lowerChar]
  split
  · next hcapital =>
    have hlow : 65 ≤ c.toNat := hcapital.1
    have hhigh : c.toNat ≤ 90 := hcapital.2
    have hvalid : (c.toNat + 32).isValidChar := .inl (by omega)
    have hnat : (Char.ofNat (c.toNat + 32)).toNat = c.toNat + 32 := by
      rw [Char.ofNat, dif_pos hvalid]
      rfl
    rw [hq c (.inl ⟨hlow, hhigh⟩), hq _ (.inr (by omega))]
  · rfl

theorem letter_of_lower {word name : String} (h : lower word = name)
    (hname : ∀ c ∈ name.toList, AsciiLetter c) : ∀ c ∈ word.toList, AsciiLetter c := by
  intro c hc
  have hmem : lowerChar c ∈ name.toList := by
    rw [← h, lower, String.toList_ofList]
    exact List.mem_map_of_mem hc
  have hsame : decide (AsciiLetter (lowerChar c)) = decide (AsciiLetter c) :=
    class_lowerChar (q := fun c => decide (AsciiLetter c)) (fun _ => decide_eq_true) c
  rw [decide_eq_true (hname _ hmem)] at hsame
  exact of_decide_eq_true hsame.symm

namespace AsciiLetter

variable {c : Char}

theorem not_numeric (h : AsciiLetter c) : isNumeric c = false := by
  have htable : numericTurns = 0x30 :: 0x3a :: 0xb2 :: numericTurns.drop 3 := rfl
  rw [isNumeric, htable, inClass_cons, if_pos (by rcases h <;> omega), inClass_cons,
    if_pos (by rcases h <;> omega), inClass_cons, if_neg (by rcases h <;> omega), Bool.not_false,
    Bool.not_true]

theorem not_decimal (h : AsciiLetter c) : isDecimal c = false := by
  have hzeros : ∀ z ∈ digitZeros, z = 0x30 ∨ 0x660 ≤ z := by decide
  have hfind : digitZeros.find? (fun z => z ≤ c.toNat && c.toNat < z + 10) = none := by
    rw [List.find?_eq_none]
    intro z hz
    have := hzeros z hz
    simp only [Bool.and_eq_true, decide_eq_true_eq]
    rcases h <;> omega
  rw [isDecimal, digitValue?, hfind]
  rfl

theorem wordChar (h : AsciiLetter c) : isWordChar c = true := by
  have htable : alphanumericTurns =
      0x30 :: 0x3a :: 0x41 :: 0x5b :: 0x61 :: 0x7b :: alphanumericTurns.drop 6 := rfl
  have hclass : isAlphanumeric c = true := by
    rw [isAlphanumeric, htable]
    simp only [inClass_cons]
    -- A capital has passed three turning points, a small letter five.
    rcases h with h | h
    · rw [if_pos (by omega), if_pos (by omega), if_pos (by omega), if_neg (by omega)]
      rfl
    · rw [if_pos (by omega), if_pos (by omega), if_pos (by omega), if_pos (by omega),
        if_pos (by omega), if_neg (by omega)]
      rfl
  rw [isWordChar, hclass, Bool.true_or]

theorem not_blank (h : AsciiLetter c) : isBlank c = false := by
  rcases h with h | h <;> simp [isBlank] <;> omega

end AsciiLetter

/-! ## Decimal digits and blanks of any script -/

theorem isDecimal_iff {c : Char} :
    isDecimal c = true ↔ ∃ z ∈ digitZeros, z ≤ c.toNat ∧ c.toNat < z + 10 := by
  rw [isDecimal, digitValue?, Option.isSome_map, List.find?_isSome]
  simp

/-- Whether the ten characters from each of the zeros on lie between two turning points of
which the first leads into the class. The zeros are taken in ascending order, so one pass
over the table is enough. -/
def coversDigits : List Nat → List Nat → Bool
  | enter :: leave :: turns, zeros =>
    match zeros.dropWhile (fun z => Nat.ble enter z && Nat.ble (z + 10) leave) with
    | [] => true
    | z :: zs => Nat.ble enter z && Nat.ble leave z && coversDigits turns (z :: zs)
  | _, zeros => zeros.isEmpty

theorem inClass_of_coversDigits {turns zeros : List Nat} (h : coversDigits turns zeros = true)
    (hsorted : zeros.Pairwise (· ≤ ·)) {z : Nat} (hz : z ∈ zeros) {c : Char} (hlow : z ≤ c.toNat)
    (hhigh : c.toNat < z + 10) : inClass turns c = true := by
  -- Between the two points of a pair a character is inside, and behind both the rest of the
  -- table decides.
  have hpair (enter leave : Nat) (turns : List Nat) (henter : enter ≤ c.toNat) :
      inClass (enter :: leave :: turns) c = if leave ≤ c.toNat then inClass turns c else true := by
    rw [inClass_cons, inClass_cons, if_pos henter]
    split <;> simp
  have hcovered {enter leave : Nat} {turns zeros : List Nat}
      (h : z ∈ zeros.takeWhile (fun z => Nat.ble enter z && Nat.ble (z + 10) leave)) :
      inClass (enter :: leave :: turns) c = true := by
    have hmem := List.all_eq_true.mp List.all_takeWhile z h
    simp only [Bool.and_eq_true, Nat.ble_eq] at hmem
    rw [hpair enter leave turns (by omega), if_neg (by omega)]
  fun_induction coversDigits turns zeros with
  | case1 enter leave turns zeros hrest =>
    rw [← List.takeWhile_append_dropWhile (l := zeros), hrest, List.append_nil] at hz
    exact hcovered hz
  | case2 enter leave turns zeros first rest hrest ih =>
    simp only [Bool.and_eq_true, Nat.ble_eq] at h
    rw [← List.takeWhile_append_dropWhile (l := zeros), hrest] at hz hsorted
    have hlater := (List.pairwise_append.mp hsorted).2.1
    rcases List.mem_append.mp hz with hz | hz
    · exact hcovered hz
    · have hfirst : first ≤ z := by
        rcases List.mem_cons.mp hz with rfl | hz
        · exact Nat.le_refl z
        · exact (List.pairwise_cons.mp hlater).1 z hz
      rw [hpair enter leave turns (by omega), if_pos (by omega)]
      exact ih h.2 hlater hz
  | case3 turns zeros =>
    rw [List.isEmpty_iff.mp h] at hz
    contradiction

theorem inClass_of_isDecimal {turns : List Nat} (h : coversDigits turns digitZeros = true)
    {c : Char} (hc : isDecimal c = true) : inClass turns c = true := by
  obtain ⟨z, hz, hlow, hhigh⟩ := isDecimal_iff.mp hc
  exact inClass_of_coversDigits h (by decide +kernel) hz hlow hhigh

theorem isNumeric_of_isDecimal {c : Char} (h : isDecimal c = true) : isNumeric c = true :=
  inClass_of_isDecimal (by decide +kernel) h

theorem isWordChar_of_isDecimal {c : Char} (h : isDecimal c = true) : isWordChar c = true := by
  rw [isWordChar, isAlphanumeric, inClass_of_isDecimal (by decide +kernel) h, Bool.true_or]

theorem not_numeric_of_isBlank {c : Char} (h : isBlank c = true) : isNumeric c = false := by
  have hrun (low size : Nat)
      (htable : (List.range size).all (fun k => !isNumeric (Char.ofNat (low + k))) = true)
      (hlow : low ≤ c.toNat) (hhigh : c.toNat < low + size) : isNumeric c = false := by
    have hc := List.all_eq_true.mp htable (c.toNat - low) (List.mem_range.mpr (by omega))
    rwa [Nat.add_sub_of_le hlow, Char.ofNat_toNat, Bool.not_eq_true'] at hc
  simp only [isBlank, Bool.or_eq_true, Bool.and_eq_true, decide_eq_true_eq, beq_iff_eq] at h
  rcases h with (((((((((h | h) | h) | h) | h) | h) | h) | h) | h) | h) | h
  · exact hrun 0x09 5 (by decide +kernel) (by omega) (by omega)
  · exact hrun 0x1c 5 (by decide +kernel) (by omega) (by omega)
  · exact hrun 0x85 1 (by decide +kernel) (by omega) (by omega)
  · exact hrun 0xa0 1 (by decide +kernel) (by omega) (by omega)
  · exact hrun 0x1680 1 (by decide +kernel) (by omega) (by omega)
  · exact hrun 0x2000 11 (by decide +kernel) (by omega) (by omega)
  · exact hrun 0x2028 1 (by decide +kernel) (by omega) (by omega)
  · exact hrun 0x2029 1 (by decide +kernel) (by omega) (by omega)
  · exact hrun 0x202f 1 (by decide +kernel) (by omega) (by omega)
  · exact hrun 0x205f 1 (by decide +kernel) (by omega) (by omega)
  · exact hrun 0x3000 1 (by decide +kernel) (by omega) (by omega)

theorem isBlank_of_isNumeric {c : Char} (h : isNumeric c = true) : isBlank c = false := by
  rw [← Bool.not_eq_true]
  intro hblank
  rw [not_numeric_of_isBlank hblank] at h
  contradiction

end PacketFilter.Text
