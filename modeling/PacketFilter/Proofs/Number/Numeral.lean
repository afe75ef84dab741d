import PacketFilter.Proofs.Number.Literal

/-
  The form of integer literals.

  `Numeral` and `Literal` say what a literal looks like and what it stands for, without
  reading it from left to right: digits of any script with single underscores between
  them, behind a sign or none, and no more digits than are allowed.

  What is proved: digits are read exactly if they form a numeral (`digitRun_eq_some_iff`),
  a text is read as a number exactly if what is left of it, once it is trimmed, is a
  literal for that number (`readInteger_eq_ok_iff`), and the separators that are blanks
  but not allowed around a literal do not matter for texts that are trimmed of all blanks
  (`readInteger_trim`). A word of numeric characters is a number exactly if they are decimal
  digits, not too many (`readInteger_numeric_iff`).
-/

namespace PacketFilter

open Text

/-! ## The form -/

/-- Digits of any script, single underscores allowed between them, with their values. -/
inductive Numeral : List Char → List Nat → Prop where
  | digit {c : Char} {d : Nat} (hc : digitValue? c = some d) : Numeral [c] [d]
  | next {c : Char} {d : Nat} {cs : List Char} {ds : List Nat} (hc : digitValue? c = some d)
      (h : Numeral cs ds) : Numeral (c :: cs) (d :: ds)
  | underscore {c : Char} {d : Nat} {cs : List Char} {ds : List Nat}
      (hc : digitValue? c = some d) (h : Numeral cs ds) : Numeral (c :: '_' :: cs) (d :: ds)

/-- A numeral that is not too long, with its value. -/
def Numeral.Reads (cs : List Char) (n : Nat) : Prop :=
  ∃ ds, Numeral cs ds ∧ ds.length ≤ maxDigits ∧ ofDigits ds = n

/-- A numeral behind a sign or none, with its value. -/
inductive Literal : List Char → Int → Prop where
  | unsigned {cs : List Char} {n : Nat} (h : Numeral.Reads cs n) : Literal cs n
  | plus {cs : List Char} {n : Nat} (h : Numeral.Reads cs n) : Literal ('+' :: cs) n
  | minus {cs : List Char} {n : Nat} (h : Numeral.Reads cs n) : Literal ('-' :: cs) (-n)

/-! ## Numerals -/

/-- What may follow the first digit of a numeral. -/
def Numeral.Tail (cs : List Char) (ds : List Nat) : Prop :=
  cs = [] ∧ ds = [] ∨ Numeral cs ds ∨ ∃ rest, cs = '_' :: rest ∧ Numeral rest ds

theorem Numeral.cons_iff {c : Char} {cs : List Char} {ds : List Nat} :
    Numeral (c :: cs) ds ↔ ∃ d rest, digitValue? c = some d ∧ ds = d :: rest ∧ Tail cs rest := by
  constructor
  · intro h
    cases h with
    | digit hc => exact ⟨_, _, hc, rfl, .inl ⟨rfl, rfl⟩⟩
    | next hc h => exact ⟨_, _, hc, rfl, .inr (.inl h)⟩
    | underscore hc h => exact ⟨_, _, hc, rfl, .inr (.inr ⟨_, rfl, h⟩)⟩
  · rintro ⟨d, rest, hc, rfl, ⟨rfl, rfl⟩ | h | ⟨cs, rfl, h⟩⟩
    · exact .digit hc
    · exact .next hc h
    · exact .underscore hc h

theorem Numeral.tail_cons {c : Char} (hc : c ≠ '_') {cs : List Char} {ds : List Nat} :
    Tail (c :: cs) ds ↔ Numeral (c :: cs) ds := by
  simp [Tail, hc]

theorem Numeral.not_cons {c : Char} (hc : digitValue? c = none) (cs : List Char) (ds : List Nat) :
    ¬ Numeral (c :: cs) ds := by
  simp [cons_iff, hc]

theorem Numeral.tail_underscore {cs : List Char} {ds : List Nat} :
    Tail ('_' :: cs) ds ↔ Numeral cs ds := by
  have hnot := not_cons (show digitValue? '_' = none by decide) cs ds
  simp [Tail, hnot]

/-- **Digits are read to the end exactly if they form a numeral**, or, behind a digit,
exactly if they may follow it. -/
theorem digitRun_eq_some_iff (cs : List Char) (ds : List Nat) :
    (digitRun true cs = some ⟨ds, []⟩ ↔ Numeral cs ds) ∧
      (digitRun false cs = some ⟨ds, []⟩ ↔ Numeral.Tail cs ds) := by
  induction cs generalizing ds with
  | nil =>
    have hnot : ¬ Numeral [] ds := by
      intro h
      cases h
    refine ⟨iff_of_false (by simp [digitRun]) hnot, ?_⟩
    simp [digitRun, Numeral.Tail, hnot, eq_comm]
  | cons c cs ih =>
    by_cases hc : c = '_'
    · subst hc
      have hnot := Numeral.not_cons (show digitValue? '_' = none by decide) cs ds
      rw [Numeral.tail_underscore, ← (ih ds).1]
      exact ⟨iff_of_false (by simp [digitRun]) hnot, Iff.rfl⟩
    · rw [Numeral.tail_cons hc]
      cases hd : digitValue? c with
      | none =>
        have hnot := Numeral.not_cons hd cs ds
        simp [digitRun, hc, hd, hnot]
      | some d =>
        -- A digit is read alike behind an underscore and behind a digit.
        have hread : (digitRun false cs).map (fun run => { run with digits := d :: run.digits }) =
            some ⟨ds, []⟩ ↔ Numeral (c :: cs) ds := by
          simp only [Numeral.cons_iff, hd, Option.some.injEq, ← (ih _).2]
          constructor
          · intro h
            obtain ⟨⟨digits, rest⟩, hrun, h⟩ := Option.map_eq_some_iff.mp h
            cases h
            exact ⟨d, digits, rfl, rfl, hrun⟩
          · rintro ⟨_, digits, rfl, rfl, hrun⟩
            rw [hrun]
            rfl
        simp only [digitRun, if_neg hc, hd]
        exact ⟨hread, hread⟩

/-! ## Literals -/

theorem readDigits_eq_ok_iff (text : String) (cs : List Char) (n : Nat) :
    readDigits text cs = .ok n ↔ Numeral.Reads cs n := by
  simp only [readDigits, Numeral.Reads, ← (digitRun_eq_some_iff cs _).1]
  cases digitRun true cs with
  | none =>
    refine iff_of_false (by simp) ?_
    rintro ⟨ds, h, -⟩
    contradiction
  | some run =>
    obtain ⟨digits, rest⟩ := run
    simp only [Option.some.injEq, DigitRun.mk.injEq]
    by_cases hlong : maxDigits < digits.length
    · rw [if_pos hlong]
      refine iff_of_false (by simp) ?_
      rintro ⟨ds, ⟨rfl, -⟩, hlength, -⟩
      omega
    · rw [if_neg hlong]
      cases rest with
      | nil =>
        constructor
        · intro h
          exact ⟨digits, ⟨rfl, rfl⟩, by omega, Except.ok.inj h⟩
        · rintro ⟨ds, ⟨rfl, -⟩, -, rfl⟩
          rfl
      | cons c rest =>
        refine iff_of_false (by simp) ?_
        rintro ⟨ds, ⟨-, h⟩, -⟩
        contradiction

theorem Numeral.Reads.not_cons {c : Char} (hc : digitValue? c = none) (cs : List Char) (n : Nat) :
    ¬ Numeral.Reads (c :: cs) n := by
  rintro ⟨ds, h, -⟩
  exact Numeral.not_cons hc cs ds h

namespace Literal

variable {cs : List Char} {n : Int}

theorem plus_iff : Literal ('+' :: cs) n ↔ ∃ m : Nat, Numeral.Reads cs m ∧ (m : Int) = n := by
  constructor
  · intro h
    cases h with
    | unsigned h => exact absurd h (Numeral.Reads.not_cons (by decide) _ _)
    | plus h => exact ⟨_, h, rfl⟩
  · rintro ⟨m, h, rfl⟩
    exact .plus h

theorem minus_iff : Literal ('-' :: cs) n ↔ ∃ m : Nat, Numeral.Reads cs m ∧ -(m : Int) = n := by
  constructor
  · intro h
    cases h with
    | unsigned h => exact absurd h (Numeral.Reads.not_cons (by decide) _ _)
    | minus h => exact ⟨_, h, rfl⟩
  · rintro ⟨m, h, rfl⟩
    exact .minus h

theorem unsigned_iff (hplus : ∀ rest, cs ≠ '+' :: rest) (hminus : ∀ rest, cs ≠ '-' :: rest) :
    Literal cs n ↔ ∃ m : Nat, Numeral.Reads cs m ∧ (m : Int) = n := by
  constructor
  · intro h
    cases h with
    | unsigned h => exact ⟨_, h, rfl⟩
    | plus h => exact absurd rfl (hplus _)
    | minus h => exact absurd rfl (hminus _)
  · rintro ⟨m, h, rfl⟩
    exact .unsigned h

end Literal

/-- **A text is read as a number exactly if it is a literal for it**, up to blanks around
it. -/
theorem readInteger_eq_ok_iff (text : String) (n : Int) :
    readInteger text = .ok n ↔ Literal (trimWhere isLiteralBlank text.toList) n := by
  unfold readInteger
  split
  · next cs h =>
    simp only [h, Literal.plus_iff, map_eq_ok, readDigits_eq_ok_iff, Int.ofNat_eq_natCast]
  · next cs h =>
    simp only [h, Literal.minus_iff, map_eq_ok, readDigits_eq_ok_iff, Int.ofNat_eq_natCast]
  · next cs hplus hminus =>
    simp only [Literal.unsigned_iff hplus hminus, map_eq_ok, readDigits_eq_ok_iff,
      Int.ofNat_eq_natCast]

/-- Around a literal, a text that is trimmed has nothing left to trim. -/
theorem readInteger_trim (cs : List Char) (n : Int) :
    readInteger (String.ofList (trim cs)) = .ok n ↔ Literal (trim cs) n := by
  have htrim : trimWhere isLiteralBlank (trim cs) = trim cs := by
    by_cases hsome : trim cs = []
    · rw [hsome]
      rfl
    · have hblank {c : Char} (hc : isBlank c = false) : isLiteralBlank c = false := by
        rw [isLiteralBlank, hc, Bool.false_and]
      have hsolid := solid_trimWhere hsome
      exact Solid.trimWhere ⟨hsome, fun c hc => hblank (hsolid.head c hc),
        fun c hc => hblank (hsolid.last c hc)⟩
  rw [readInteger_eq_ok_iff, String.toList_ofList, htrim]

/-! ## Numeric words -/

theorem Numeral.of_isDecimal {cs : List Char} (hsome : cs ≠ [])
    (h : ∀ c ∈ cs, isDecimal c = true) : Numeral cs (cs.filterMap digitValue?) := by
  induction cs with
  | nil => exact absurd rfl hsome
  | cons c cs ih =>
    obtain ⟨hc, hcs⟩ := List.forall_mem_cons.mp h
    obtain ⟨d, hd⟩ := Option.isSome_iff_exists.mp hc
    rw [List.filterMap_cons_some hd]
    cases cs with
    | nil => exact .digit hd
    | cons next cs => exact .next hd (ih (by simp) hcs)

theorem Numeral.digits {cs : List Char} {ds : List Nat} (h : Numeral cs ds) (hplain : '_' ∉ cs) :
    (∀ c ∈ cs, isDecimal c = true) ∧ ds.length = cs.length := by
  have hdigit {c : Char} {d : Nat} (hc : digitValue? c = some d) : isDecimal c = true := by
    rw [isDecimal, hc, Option.isSome_some]
  induction h with
  | digit hc => simp [hdigit hc]
  | next hc _ ih =>
    obtain ⟨hall, hlength⟩ := ih fun hmem => hplain (List.mem_cons_of_mem _ hmem)
    exact ⟨List.forall_mem_cons.mpr ⟨hdigit hc, hall⟩, by simp [hlength]⟩
  | underscore => simp at hplain

theorem Numeral.unique {cs : List Char} {ds es : List Nat} (hd : Numeral cs ds)
    (he : Numeral cs es) : ds = es := by
  rw [← (digitRun_eq_some_iff cs _).1] at hd he
  rw [hd, Option.some_inj] at he
  exact congrArg DigitRun.digits he

/-- A numeric word has no blanks around it and no sign, so it has to be a numeral. -/
theorem readInteger_of_isNumeric {word : String} (hsome : word.toList ≠ [])
    (hnumeric : ∀ c ∈ word.toList, isNumeric c = true) (n : Int) :
    readInteger word = .ok n ↔ ∃ m : Nat, Numeral.Reads word.toList m ∧ (m : Int) = n := by
  have htrim : trimWhere isLiteralBlank word.toList = word.toList := by
    apply Solid.trimWhere
    refine .of_forall hsome fun c hc => ?_
    rw [isLiteralBlank, isBlank_of_isNumeric (hnumeric c hc), Bool.false_and]
  have hsign (sign : Char) (hother : isNumeric sign = false) (rest : List Char) :
      word.toList ≠ sign :: rest := by
    intro hword
    have := hnumeric sign (by simp [hword])
    simp [hother] at this
  rw [readInteger_eq_ok_iff, htrim,
    Literal.unsigned_iff (hsign '+' (by decide)) (hsign '-' (by decide))]

/-- **A numeric word is a number exactly if it is made of decimal digits**, not too many. -/
theorem readInteger_numeric_iff {word : String} (hsome : word.toList ≠ [])
    (hnumeric : ∀ c ∈ word.toList, isNumeric c = true) (n : Int) :
    readInteger word = .ok n ↔
      (∀ c ∈ word.toList, isDecimal c = true) ∧ word.toList.length ≤ maxDigits ∧
        (ofDigits (word.toList.filterMap digitValue?) : Int) = n := by
  rw [readInteger_of_isNumeric hsome hnumeric]
  constructor
  · rintro ⟨_, ⟨ds, hds, hlength, rfl⟩, rfl⟩
    have hplain : '_' ∉ word.toList := fun hmem => absurd (hnumeric _ hmem) (by decide)
    obtain ⟨hdecimal, hsame⟩ := hds.digits hplain
    exact ⟨hdecimal, hsame ▸ hlength, by rw [(Numeral.of_isDecimal hsome hdecimal).unique hds]⟩
  · rintro ⟨hdecimal, hlength, rfl⟩
    have hds := Numeral.of_isDecimal hsome hdecimal
    exact ⟨_, ⟨_, hds, Nat.le_trans (List.length_filterMap_le _ _) hlength, rfl⟩, rfl⟩

end PacketFilter
