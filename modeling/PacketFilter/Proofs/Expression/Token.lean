import PacketFilter.Expression.Token
import PacketFilter.Proofs.Fallible
import PacketFilter.Proofs.Text.Blank
import PacketFilter.Proofs.Text.CharClass

/-
  How a text is cut into tokens.

  `Cut` gives the tokens of a text by rules: gaps are left out, and a lexeme is `&&`, the
  longest quad of decimal runs or, where no quad is in front, the longest word, which is
  a number or a keyword. `scanFrom` reads a text to its end if and only if the rules cut
  it, and then gives the same tokens (`scanFrom_eq_iff`).
-/

namespace PacketFilter.Expression

open Text

/-! ## The rules -/

/-- At least one character, all of one class. -/
structure RunOf (p : Char → Bool) (cs : List Char) : Prop where
  nonempty : cs ≠ []
  all : ∀ c ∈ cs, p c = true

instance (p : Char → Bool) (cs : List Char) : Decidable (RunOf p cs) :=
  decidable_of_iff (cs ≠ [] ∧ cs.all p = true)
    ⟨fun h => ⟨h.1, List.all_eq_true.mp h.2⟩, fun h => ⟨h.nonempty, List.all_eq_true.mpr h.all⟩⟩

/-- Four runs of decimal digits, joined by points. -/
def Quad (cs : List Char) : Prop :=
  ∃ a b c d, RunOf isDecimal a ∧ RunOf isDecimal b ∧ RunOf isDecimal c ∧ RunOf isDecimal d ∧
    cs = a ++ '.' :: (b ++ '.' :: (c ++ '.' :: d))

/-- Of the texts of a kind that `lexeme ++ rest` starts with, `lexeme` is the longest. -/
structure Longest (Kind : List Char → Prop) (lexeme rest : List Char) : Prop where
  kind : Kind lexeme
  longest : ∀ other tail, other ++ tail = lexeme ++ rest → Kind other →
    other.length ≤ lexeme.length

/-- The longest word in front of a text, where there is no quad. -/
structure Word (lexeme rest : List Char) : Prop extends Longest (RunOf isWordChar) lexeme rest where
  no_quad : ∀ quad tail, quad ++ tail = lexeme ++ rest → ¬ Quad quad

/-- A lexeme, the token it is, and the text after it. -/
inductive Lexeme : List Char → Token → List Char → Prop where
  | joint (rest : List Char) : Lexeme ['&', '&'] (.keyword .and "&&") rest
  | address {quad rest : List Char} (h : Longest Quad quad rest) :
    Lexeme quad (.address (String.ofList quad)) rest
  | number {word rest : List Char} {n : Int} (h : Word word rest)
    (hnumeric : ∀ c ∈ word, isNumeric c = true) (hn : readInteger (String.ofList word) = .ok n) :
    Lexeme word (.number n) rest
  | keyword {word rest : List Char} {k : Keyword} (h : Word word rest)
    (hk : lower (String.ofList word) = k.text) : Lexeme word (.keyword k (String.ofList word)) rest

/-- The tokens a text is cut into. -/
inductive Cut : List Char → List Token → Prop where
  | done : Cut [] []
  | gap {c : Char} {cs : List Char} {ts : List Token} (hc : c = ' ' ∨ c = '\t') (h : Cut cs ts) :
    Cut (c :: cs) ts
  | token {lexeme rest : List Char} {t : Token} {ts : List Token} (ht : Lexeme lexeme t rest)
    (h : Cut rest ts) : Cut (lexeme ++ rest) (t :: ts)

/-! ## Runs -/

variable {p : Char → Bool} {a b rest cs : List Char}

theorem RunOf.append (ha : RunOf p a) (hb : ∀ c ∈ b, p c = true) : RunOf p (a ++ b) where
  nonempty := by simp [ha.nonempty]
  all := by
    intro c hc
    rcases List.mem_append.mp hc with hc | hc
    · exact ha.all c hc
    · exact hb c hc

theorem RunOf.takeWhile (h : cs.takeWhile p ≠ []) : RunOf p (cs.takeWhile p) where
  nonempty := h
  all := forall_mem_takeWhile cs

theorem RunOf.takeWhile_append (ha : RunOf p a) :
    (a ++ rest).takeWhile p = a ++ rest.takeWhile p :=
  List.takeWhile_append_of_pos ha.all

theorem RunOf.dropWhile_append (ha : RunOf p a) : (a ++ rest).dropWhile p = rest.dropWhile p :=
  List.dropWhile_append_of_pos ha.all

/-- If the texts of a kind that stand in front of a text all grow to the same text of the
kind when the characters of `p` behind them are taken in, the longest is the one that
cannot grow. -/
theorem longest_iff {Kind : List Char → Prop}
    (hgrow : ∀ a rest : List Char, Kind a → Kind (a ++ rest.takeWhile p))
    (hsame : ∀ a b rest tail : List Char, Kind a → Kind b → b ++ tail = a ++ rest →
      b ++ tail.takeWhile p = a ++ rest.takeWhile p) :
    Longest Kind a rest ↔ Kind a ∧ rest.takeWhile p = [] := by
  constructor
  · intro h
    refine ⟨h.kind, ?_⟩
    have hlength := h.longest (a ++ rest.takeWhile p) (rest.dropWhile p)
      (by rw [List.append_assoc, List.takeWhile_append_dropWhile]) (hgrow a rest h.kind)
    rw [List.length_append] at hlength
    exact List.eq_nil_of_length_eq_zero (by omega)
  · rintro ⟨ha, hstop⟩
    refine ⟨ha, fun b tail hb hkind => ?_⟩
    have hlength := congrArg List.length (hsame a b rest tail ha hkind hb)
    rw [hstop, List.length_append, List.length_append] at hlength
    simp only [List.length_nil] at hlength
    omega

theorem longest_run_iff : Longest (RunOf p) a rest ↔ RunOf p a ∧ rest.takeWhile p = [] := by
  apply longest_iff
  · intro a rest ha
    exact ha.append (forall_mem_takeWhile rest)
  · intro a b rest tail ha hb heq
    rw [← ha.takeWhile_append, ← hb.takeWhile_append, heq]

/-! ## Quads -/

theorem isDecimal_point : isDecimal '.' = false := by decide

theorem digitsAndPoint?_run (ha : RunOf isDecimal a) :
    digitsAndPoint? (a ++ '.' :: rest) = some (a ++ ['.'], rest) := by
  have hdrop : ('.' :: rest).dropWhile isDecimal = '.' :: rest :=
    List.dropWhile_cons_of_neg (by simp [isDecimal_point])
  have htake : ('.' :: rest).takeWhile isDecimal = [] :=
    List.takeWhile_cons_of_neg (by simp [isDecimal_point])
  rw [digitsAndPoint?, ha.takeWhile_append, ha.dropWhile_append, hdrop, htake, List.append_nil]
  simp [ha.nonempty]

theorem digitsAndPoint?_eq_some {front : List Char} (h : digitsAndPoint? cs = some (front, rest)) :
    ∃ run, RunOf isDecimal run ∧ front = run ++ ['.'] ∧ cs = run ++ '.' :: rest := by
  rw [digitsAndPoint?] at h
  split at h
  · next tail hdrop =>
    split at h
    · contradiction
    · next hsome =>
      cases h
      refine ⟨cs.takeWhile isDecimal, .takeWhile (by simpa using hsome), rfl, ?_⟩
      rw [← hdrop, List.takeWhile_append_dropWhile]
  · contradiction

theorem dotted?_quad {quad : List Char} (h : Quad quad) :
    dotted? (quad ++ rest) = some (quad ++ rest.takeWhile isDecimal) := by
  obtain ⟨a, b, c, d, ha, hb, hc, hd, rfl⟩ := h
  simp only [List.append_assoc, List.cons_append, dotted?, digitsAndPoint?_run ha,
    digitsAndPoint?_run hb, digitsAndPoint?_run hc, hd.takeWhile_append, Option.bind_eq_bind,
    Option.bind_some]
  rw [if_neg (by simp [hd.nonempty])]
  simp only [List.nil_append]

theorem dotted?_eq_some {quad : List Char} (h : dotted? cs = some quad) :
    Quad quad ∧ ∃ rest, cs = quad ++ rest := by
  simp only [dotted?, bind, Option.bind_eq_some_iff] at h
  obtain ⟨⟨_, _⟩, hfirst, ⟨_, _⟩, hsecond, ⟨_, rest⟩, hthird, h⟩ := h
  obtain ⟨a, ha, rfl, rfl⟩ := digitsAndPoint?_eq_some hfirst
  obtain ⟨b, hb, rfl, rfl⟩ := digitsAndPoint?_eq_some hsecond
  obtain ⟨c, hc, rfl, rfl⟩ := digitsAndPoint?_eq_some hthird
  split at h
  · contradiction
  · next hsome =>
    cases h
    have hd : RunOf isDecimal (rest.takeWhile isDecimal) := .takeWhile (by simpa using hsome)
    refine ⟨⟨a, b, c, _, ha, hb, hc, hd, by simp⟩, rest.dropWhile isDecimal, ?_⟩
    simp [List.takeWhile_append_dropWhile]

theorem longest_quad_iff : Longest Quad a rest ↔ Quad a ∧ rest.takeWhile isDecimal = [] := by
  apply longest_iff
  · intro a rest ha
    exact (dotted?_eq_some (dotted?_quad ha)).1
  · -- Both quads are found by the same search, which takes in all the digits behind them.
    intro a b rest tail ha hb heq
    exact Option.some.inj (by rw [← dotted?_quad hb, ← dotted?_quad ha, heq])

theorem dotted?_eq_some_iff {quad : List Char} :
    dotted? cs = some quad ↔ ∃ rest, cs = quad ++ rest ∧ Longest Quad quad rest := by
  constructor
  · intro h
    obtain ⟨hquad, rest, rfl⟩ := dotted?_eq_some h
    rw [dotted?_quad hquad, Option.some_inj, List.append_right_eq_self] at h
    exact ⟨rest, rfl, longest_quad_iff.mpr ⟨hquad, h⟩⟩
  · rintro ⟨rest, rfl, h⟩
    obtain ⟨hquad, hstop⟩ := longest_quad_iff.mp h
    rw [dotted?_quad hquad, hstop, List.append_nil]

theorem dotted?_eq_none_iff : dotted? cs = none ↔ ∀ quad tail, quad ++ tail = cs → ¬ Quad quad := by
  constructor
  · rintro h quad tail rfl hquad
    rw [dotted?_quad hquad] at h
    contradiction
  · intro h
    cases hdotted : dotted? cs with
    | none => rfl
    | some quad =>
      obtain ⟨hquad, rest, hcs⟩ := dotted?_eq_some hdotted
      exact absurd hquad (h quad rest hcs.symm)

/-! ## Words -/

theorem Keyword.ofWord?_eq_some_iff {word : String} {k : Keyword} :
    ofWord? word = some k ↔ lower word = k.text := by
  constructor
  · intro h
    have hfound := List.find?_some h
    exact (beq_iff_eq.mp hfound).symm
  · intro h
    rw [ofWord?, h]
    cases k <;> decide

theorem Keyword.not_numeric (k : Keyword) : k.text.toList.all isNumeric = false := by
  cases k <;> decide

theorem Keyword.not_numeric_of_lower {k : Keyword} {word : String} (h : lower word = k.text) :
    word.toList.all isNumeric = false := by
  have hlower : (lower word).toList.all isNumeric = word.toList.all isNumeric := by
    rw [lower, String.toList_ofList, List.all_map]
    congr 1
    exact funext (class_lowerChar fun _ => AsciiLetter.not_numeric)
  rw [← hlower, h, k.not_numeric]

theorem wordToken_of_numeric {word : String} {t : Token} (h : word.toList.all isNumeric = true) :
    wordToken word = .ok t ↔ ∃ n, readInteger word = .ok n ∧ t = .number n := by
  rw [wordToken, if_pos h]
  cases readInteger word with
  | ok n =>
    constructor
    · rintro ⟨⟩
      exact ⟨n, rfl, rfl⟩
    · rintro ⟨_, ⟨⟩, rfl⟩
      rfl
  | error cause => simp

theorem wordToken_of_not_numeric {word : String} {t : Token}
    (h : word.toList.all isNumeric = false) :
    wordToken word = .ok t ↔ ∃ k, lower word = k.text ∧ t = .keyword k word := by
  rw [wordToken, if_neg (by simp [h])]
  simp only [← Keyword.ofWord?_eq_some_iff]
  cases Keyword.ofWord? word with
  | none => simp
  | some k =>
    constructor
    · rintro ⟨⟩
      exact ⟨k, rfl, rfl⟩
    · rintro ⟨_, ⟨⟩, rfl⟩
      rfl

/-! ## Lexemes -/

variable {c : Char} {t : Token} {n position : Nat}

theorem Quad.nonempty (h : Quad a) : a ≠ [] := by
  obtain ⟨_, _, _, _, hfirst, -, -, -, rfl⟩ := h
  simp [hfirst.nonempty]

theorem Quad.head (h : Quad (c :: cs)) : isDecimal c = true := by
  obtain ⟨first, _, _, _, hfirst, -, -, -, hcs⟩ := h
  obtain ⟨d, first, rfl⟩ := List.exists_cons_of_ne_nil hfirst.nonempty
  rw [List.cons_append, List.cons_eq_cons] at hcs
  rw [hcs.1]
  exact hfirst.all d List.mem_cons_self

theorem Word.head (h : Word (c :: cs) rest) : isWordChar c = true :=
  h.kind.all c List.mem_cons_self

theorem Lexeme.nonempty (h : Lexeme a t rest) : a ≠ [] := by
  cases h with
  | joint => simp
  | address h => exact h.kind.nonempty
  | number h => exact h.kind.nonempty
  | keyword h => exact h.kind.nonempty

theorem isGap_of_class (hblank : p ' ' = false) (htab : p '\t' = false) (hc : p c = true) :
    isGap c = false := by
  rw [isGap, Bool.or_eq_false_iff, beq_eq_false_iff_ne, beq_eq_false_iff_ne]
  constructor
  · rintro rfl
    simp [hblank] at hc
  · rintro rfl
    simp [htab] at hc

theorem Word.not_gap (h : Word (c :: cs) rest) : isGap c = false :=
  isGap_of_class (by decide) (by decide) h.head

theorem Lexeme.not_gap (h : Lexeme (c :: cs) t rest) : isGap c = false := by
  cases h with
  | joint => rfl
  | address h => exact isGap_of_class (by decide) (by decide) h.kind.head
  | number h => exact h.not_gap
  | keyword h => exact h.not_gap

theorem word_iff : Word (c :: a) rest ↔
    isWordChar c = true ∧ (a ++ rest).takeWhile isWordChar = a ∧ dotted? (c :: (a ++ rest)) = none := by
  rw [dotted?_eq_none_iff]
  constructor
  · intro h
    obtain ⟨hrun, hstop⟩ := longest_run_iff.mp h.toLongest
    refine ⟨h.head, ?_, h.no_quad⟩
    rw [List.takeWhile_append_of_pos fun d hd => hrun.all d (List.mem_cons_of_mem c hd), hstop,
      List.append_nil]
  · rintro ⟨hc, htake, hquad⟩
    have ha : ∀ d ∈ a, isWordChar d = true := by
      rw [← htake]
      exact forall_mem_takeWhile (a ++ rest)
    rw [List.takeWhile_append_of_pos ha, List.append_right_eq_self] at htake
    have hrun : RunOf isWordChar (c :: a) := ⟨by simp, List.forall_mem_cons.mpr ⟨hc, ha⟩⟩
    exact ⟨longest_run_iff.mpr ⟨hrun, htake⟩, hquad⟩

theorem Word.lexeme_iff {word : List Char} (h : Word word rest) :
    Lexeme word t rest ↔ wordToken (String.ofList word) = .ok t := by
  constructor
  · intro hlexeme
    cases hlexeme with
    | joint => exact absurd h.head (by decide)
    | address hquad => exact absurd hquad.kind (h.no_quad _ _ rfl)
    | @number _ _ n _ hnumeric hn =>
      exact (wordToken_of_numeric (by simpa using hnumeric)).mpr ⟨n, hn, rfl⟩
    | @keyword _ _ k _ hk =>
      exact (wordToken_of_not_numeric (Keyword.not_numeric_of_lower hk)).mpr ⟨k, hk, rfl⟩
  · intro htoken
    cases hnumeric : (String.ofList word).toList.all isNumeric with
    | true =>
      obtain ⟨n, hn, rfl⟩ := (wordToken_of_numeric hnumeric).mp htoken
      exact .number h (by simpa using hnumeric) hn
    | false =>
      obtain ⟨k, hk, rfl⟩ := (wordToken_of_not_numeric hnumeric).mp htoken
      exact .keyword h hk

theorem lexeme_of_tokenAt (h : tokenAt position c cs = .ok (t, n)) :
    ∃ a rest, cs = a ++ rest ∧ a.length = n ∧ Lexeme (c :: a) t rest := by
  rw [tokenAt] at h
  split at h
  · next hjoint =>
    obtain ⟨rfl, hhead⟩ := hjoint
    obtain ⟨rest, rfl⟩ := List.head?_eq_some_iff.mp hhead
    cases h
    exact ⟨['&'], rest, rfl, rfl, .joint rest⟩
  · split at h
    · next quad hdotted =>
      obtain ⟨rest, hcs, hquad⟩ := dotted?_eq_some_iff.mp hdotted
      obtain ⟨d, a, rfl⟩ := List.exists_cons_of_ne_nil hquad.kind.nonempty
      cases h
      cases hcs
      exact ⟨a, rest, rfl, rfl, .address hquad⟩
    · next hdotted =>
      split at h
      · next hc =>
        obtain ⟨token, htoken, hpair⟩ := map_eq_ok.mp h
        cases hpair
        have hsplit : cs.takeWhile isWordChar ++ cs.dropWhile isWordChar = cs :=
          List.takeWhile_append_dropWhile
        have hword : Word (c :: cs.takeWhile isWordChar) (cs.dropWhile isWordChar) := by
          rw [word_iff, hsplit]
          exact ⟨hc, rfl, hdotted⟩
        exact ⟨_, _, hsplit.symm, rfl, hword.lexeme_iff.mpr htoken⟩
      · contradiction

theorem Word.tokenAt_eq (h : Word (c :: a) rest) (position : Nat) :
    tokenAt position c (a ++ rest) =
      (wordToken (String.ofList (c :: a))).map (fun t => (t, a.length)) := by
  obtain ⟨hc, htake, hdotted⟩ := word_iff.mp h
  have hjoint : ¬ (c = '&' ∧ (a ++ rest).head? = some '&') := by
    rintro ⟨rfl, -⟩
    exact absurd hc (by decide)
  rw [tokenAt, if_neg hjoint, hdotted]
  simp only [hc, if_true, htake]

theorem tokenAt_of_lexeme (h : Lexeme (c :: a) t rest) (position : Nat) :
    tokenAt position c (a ++ rest) = .ok (t, a.length) := by
  have hword : Word (c :: a) rest → tokenAt position c (a ++ rest) = .ok (t, a.length) := by
    intro hword
    rw [hword.tokenAt_eq, hword.lexeme_iff.mp h, map_of_ok]
  cases h with
  | joint => rfl
  | address hquad =>
    have hjoint : ¬ (c = '&' ∧ (a ++ rest).head? = some '&') := by
      rintro ⟨rfl, -⟩
      exact absurd hquad.kind.head (by decide)
    have hdotted : dotted? (c :: (a ++ rest)) = some (c :: a) :=
      dotted?_eq_some_iff.mpr ⟨rest, rfl, hquad⟩
    rw [tokenAt, if_neg hjoint, hdotted]
    rfl
  | number h => exact hword h
  | keyword h => exact hword h

/-! ## Texts -/

/-- A text is cut by the rules exactly when it is read to its end. -/
theorem scanFrom_eq_iff {ts : List Token} : scanFrom position cs = ⟨ts, none⟩ ↔ Cut cs ts := by
  constructor
  · intro h
    fun_induction scanFrom position cs generalizing ts with
    | case1 =>
      cases h
      exact .done
    | case2 position c cs hgap ih =>
      exact .gap (by simpa [isGap] using hgap) (ih h)
    | case3 position c cs hgap e he => cases h
    | case4 position c cs hgap t n ht later =>
      -- The tokens after the first are all there are of the text behind its lexeme.
      rename_i ih
      obtain ⟨rfl, hstop⟩ := Scan.mk.inj h
      have hlater : scanFrom (position + 1 + n) (cs.drop n) = ⟨later.tokens, none⟩ := by
        rw [← hstop]
      obtain ⟨a, rest, rfl, rfl, hlexeme⟩ := lexeme_of_tokenAt ht
      have hcut := ih hlater
      rw [List.drop_left] at hcut
      exact .token hlexeme hcut
  · intro h
    induction h generalizing position with
    | done => rw [scanFrom]
    | gap hc _ ih =>
      rw [scanFrom, if_pos (by simpa [isGap] using hc), ih]
    | @token lexeme rest t ts ht _ ih =>
      -- No lexeme starts with a gap, so the scan reads one here.
      obtain ⟨c, a, rfl⟩ := List.exists_cons_of_ne_nil ht.nonempty
      rw [List.cons_append, scanFrom, if_neg (by simp [ht.not_gap]), tokenAt_of_lexeme ht]
      simp only [List.drop_left, ih]

end PacketFilter.Expression
