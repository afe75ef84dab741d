import PacketFilter.Proofs.Expression.Grammar
import PacketFilter.Proofs.Expression.Lexeme
import PacketFilter.Proofs.Number.Numeral

/-
  Where the reading of an expression stops.

  `CutUpTo` gives the tokens in front of the text that is left, and `Viable` says that tokens
  start some conjunction. An expression is refused for its syntax, or because reading comes
  to a word that looks like a number and is none (`NoNumber`).

  What is proved:
    1. `scanFrom_stop_iff`: a scan stops at the first place where no token can be read.
    2. `parse_eq_scan_iff`: what stops the scan is reported if and only if the tokens in front
       of it are viable, that is, if nothing in front of it is wrong already.
    3. `parse_errors`: every refusal is one of the syntax if and only if reading does not come
       to such a word; and `parse_one_half`: it does come to one.
-/

namespace PacketFilter.Expression

open Text

variable {position : Nat} {c : Char} {cs rest word : List Char} {tokens : List Token}
  {e : ScanError} {text : String}

/-! ## Scans that stop -/

/-- The tokens that a text starts with and the text that is left. What is left is there when
the tokens are cut, so none of them could be longer. -/
inductive CutUpTo : List Char → List Token → List Char → Prop where
  | here (rest : List Char) : CutUpTo rest [] rest
  | gap {c : Char} {cs rest : List Char} {ts : List Token} (hc : c = ' ' ∨ c = '\t')
    (h : CutUpTo cs ts rest) : CutUpTo (c :: cs) ts rest
  | token {lexeme tail rest : List Char} {t : Token} {ts : List Token} (ht : Lexeme lexeme t tail)
    (h : CutUpTo tail ts rest) : CutUpTo (lexeme ++ tail) (t :: ts) rest

theorem CutUpTo.suffix (h : CutUpTo cs tokens rest) : rest <:+ cs := by
  induction h with
  | here rest => exact List.suffix_rfl
  | gap _ _ ih => exact ih.trans (List.suffix_cons _ _)
  | token _ _ ih => exact ih.trans (List.suffix_append _ _)

theorem CutUpTo.length_sub (h : CutUpTo cs tokens rest) (front : List Char) :
    (front ++ cs).length - rest.length = front.length + (cs.length - rest.length) := by
  rw [List.length_append, Nat.add_sub_assoc h.suffix.length_le]

theorem CutUpTo.scanFrom_eq (h : CutUpTo cs tokens rest) (position : Nat) :
    scanFrom position cs =
      ⟨tokens ++ (scanFrom (position + (cs.length - rest.length)) rest).tokens,
        (scanFrom (position + (cs.length - rest.length)) rest).stop⟩ := by
  induction h generalizing position with
  | here rest => simp
  | @gap c cs rest ts hc h ih =>
    have hplace : position + 1 + (cs.length - rest.length) =
        position + ((c :: cs).length - rest.length) := by
      rw [Nat.add_assoc]
      exact congrArg (position + ·) (h.length_sub [c]).symm
    rw [scanFrom, if_pos (by simpa [isGap] using hc), ih, hplace]
  | @token lexeme tail rest t ts ht h ih =>
    have hplace : position + lexeme.length + (tail.length - rest.length) =
        position + ((lexeme ++ tail).length - rest.length) := by
      rw [Nat.add_assoc, h.length_sub]
    rw [← hplace]
    obtain ⟨c, a, rfl⟩ := List.exists_cons_of_ne_nil ht.nonempty
    rw [List.cons_append, scanFrom, if_neg (by simp [ht.not_gap]), tokenAt_of_lexeme ht]
    simp only [List.drop_left, ih, List.cons_append, List.length_cons, Nat.add_assoc,
      Nat.add_comm 1]

theorem scanFrom_stop_iff :
    scanFrom position cs = ⟨tokens, some e⟩ ↔
      ∃ c rest, CutUpTo cs tokens (c :: rest) ∧ isGap c = false ∧
        tokenAt (position + (cs.length - (c :: rest).length)) c rest = .error e := by
  constructor
  · intro h
    fun_induction scanFrom position cs generalizing tokens with
    | case1 => cases h
    | case2 position d cs hgap ih =>
      obtain ⟨c, rest, hcut, hc, he⟩ := ih h
      refine ⟨c, rest, .gap (by simpa [isGap] using hgap) hcut, hc, ?_⟩
      rw [Nat.add_assoc] at he
      rwa [← List.singleton_append, hcut.length_sub]
    | case3 position c cs hgap e' he =>
      cases h
      exact ⟨c, cs, .here _, by simpa using hgap, by simpa using he⟩
    | case4 position d cs hgap t n ht later =>
      rename_i ih
      obtain ⟨rfl, hstop⟩ := Scan.mk.inj h
      have hlater : scanFrom (position + 1 + n) (cs.drop n) = ⟨later.tokens, some e⟩ := by
        rw [← hstop]
      obtain ⟨a, tail, rfl, rfl, hlexeme⟩ := lexeme_of_tokenAt ht
      obtain ⟨c, rest, hcut, hc, he⟩ := ih hlater
      rw [List.drop_left] at hcut he
      refine ⟨c, rest, .token hlexeme hcut, hc, ?_⟩
      rw [Nat.add_assoc, Nat.add_assoc, ← Nat.add_assoc 1, Nat.add_comm 1] at he
      rwa [← List.cons_append, hcut.length_sub]
  · rintro ⟨c, rest, hcut, hc, he⟩
    rw [hcut.scanFrom_eq, scanFrom, if_neg (by simp [hc]), he]
    simp

/-! ## What stops a scan -/

theorem tokenAt_eq_error (h : tokenAt position c cs = .error e) :
    e = .illegalCharacter c position ∨
      ∃ a rest, cs = a ++ rest ∧ Word (c :: a) rest ∧
        wordToken (String.ofList (c :: a)) = .error e := by
  rw [tokenAt] at h
  split at h
  · contradiction
  · split at h
    · contradiction
    · next hdotted =>
      split at h
      · next hc =>
        have hsplit : cs.takeWhile isWordChar ++ cs.dropWhile isWordChar = cs :=
          List.takeWhile_append_dropWhile
        refine .inr ⟨_, _, hsplit.symm, word_iff.mpr ?_, map_eq_error.mp h⟩
        rw [hsplit]
        exact ⟨hc, rfl, hdotted⟩
      · cases h
        exact .inl rfl

theorem wordToken_eq_numeral_iff {word : String} {cause : LiteralError} :
    wordToken word = .error (.numeral cause) ↔
      (∀ c ∈ word.toList, isNumeric c = true) ∧ readInteger word = .error cause := by
  rw [← List.all_eq_true, wordToken]
  split
  · next hnumeric => cases readInteger word <;> simp [hnumeric]
  · next hother => cases Keyword.ofWord? word <;> simp [hother]

/-- A scan stops at a number if and only if it comes to a word of numeric characters that is
refused as a literal. -/
theorem scanFrom_numeral_iff {cause : LiteralError} :
    scanFrom position cs = ⟨tokens, some (.numeral cause)⟩ ↔
      ∃ word rest, CutUpTo cs tokens (word ++ rest) ∧ Word word rest ∧
        (∀ c ∈ word, isNumeric c = true) ∧ readInteger (String.ofList word) = .error cause := by
  rw [scanFrom_stop_iff]
  constructor
  · rintro ⟨c, rest, hcut, -, he⟩
    rcases tokenAt_eq_error he with he | ⟨a, rest, rfl, hword, hrefused⟩
    · contradiction
    · obtain ⟨hnumeric, hcause⟩ := wordToken_eq_numeral_iff.mp hrefused
      exact ⟨c :: a, rest, hcut, hword, by simpa using hnumeric, hcause⟩
  · rintro ⟨word, rest, hcut, hword, hnumeric, hcause⟩
    obtain ⟨c, a, rfl⟩ := List.exists_cons_of_ne_nil hword.kind.nonempty
    have hrefused : wordToken (String.ofList (c :: a)) = .error (.numeral cause) :=
      wordToken_eq_numeral_iff.mpr ⟨by simpa using hnumeric, hcause⟩
    refine ⟨c, a ++ rest, hcut, hword.not_gap, ?_⟩
    rw [hword.tokenAt_eq, hrefused, map_of_error]

/-! ## What a stop is reported for -/

/-- The tokens start a conjunction. -/
def Viable (tokens : List Token) : Prop := ∃ more ts, Conjunction (tokens ++ more) ts

theorem exists_completion (expecting : Expecting) :
    ∃ more ts, termsFrom none expecting more = .ok ts := by
  cases expecting with
  | term => exact ⟨[.keyword .tcp "tcp"], _, rfl⟩
  | operand side => exact ⟨[.address "0.0.0.0"], _, rfl⟩
  | host side => exact ⟨[.address "0.0.0.0"], _, rfl⟩
  | port side => exact ⟨[.number 0], _, rfl⟩
  | joint => exact ⟨[], _, rfl⟩

/-- What stops a scan is reported after tokens that the reader takes, that is, if other tokens
after them could complete them. -/
theorem termsFrom_stop_iff {e' : ScanError} {expecting : Expecting} :
    termsFrom (some e) expecting tokens = .error (.scan e') ↔
      e = e' ∧ ∃ more ts, termsFrom none expecting (tokens ++ more) = .ok ts := by
  induction tokens generalizing expecting with
  | nil => simp [termsFrom, exists_completion expecting]
  | cons token rest ih =>
    simp only [List.cons_append, termsFrom_cons_eq_ok]
    rw [termsFrom]
    cases hstep : step expecting token with
    | none => simp
    | some after =>
      simp only [map_eq_error, ih, Option.some.injEq, exists_eq_left']
      constructor
      · rintro ⟨he, more, ts, hmore⟩
        exact ⟨he, more, _, ts, hmore, rfl⟩
      · rintro ⟨he, more, _, ts, hmore, -⟩
        exact ⟨he, more, ts, hmore⟩

theorem termsFrom_error {stop : Option ScanError} {expecting : Expecting} {e : ExpressionError}
    (h : termsFrom stop expecting tokens = .error e) :
    (∃ cause, stop = some cause ∧ e = .scan cause) ∨ (∃ message, e = .unexpectedToken message) ∨
      e = .unexpectedEnd := by
  induction tokens generalizing expecting with
  | nil =>
    cases stop with
    | some cause =>
      cases h
      exact .inl ⟨cause, rfl, rfl⟩
    | none =>
      cases expecting with
      | joint => contradiction
      | term | operand | host | port =>
        cases h
        exact .inr (.inr rfl)
  | cons token rest ih =>
    rw [termsFrom] at h
    split at h
    · cases h
      exact .inr (.inl ⟨_, rfl⟩)
    · exact ih (map_eq_error.mp h)

theorem filterFrom_error {seen : List FilterField} {f : Filter} {ts : List Term}
    {e : ExpressionError} (h : filterFrom seen f ts = .error e) : ∃ field, e = .repeated field := by
  induction ts generalizing seen f with
  | nil => contradiction
  | cons t ts ih =>
    rw [filterFrom] at h
    split at h
    · cases h
      exact ⟨_, rfl⟩
    · exact ih h

theorem terms_eq_scan_iff :
    terms text = .error (.scan e) ↔ (∃ c ∈ text.toList, isBlank c = false) ∧
      ∃ tokens, scan text = ⟨tokens, some e⟩ ∧ Viable tokens := by
  rw [terms, ← trim_isEmpty_iff]
  split
  · next hempty => simp [hempty]
  · next hsome =>
    rw [and_iff_right (by simpa using hsome)]
    constructor
    · intro h
      rcases hscan : scan text with ⟨tokens, _ | e'⟩
      · rw [hscan] at h
        obtain ⟨_, hstop, -⟩ | ⟨_, htoken⟩ | hend := termsFrom_error h <;> contradiction
      · rw [hscan] at h
        obtain ⟨rfl, more, ts, hmore⟩ := termsFrom_stop_iff.mp h
        exact ⟨tokens, rfl, more, ts, termsFrom_term_iff.mp hmore⟩
    · rintro ⟨tokens, hscan, more, ts, hmore⟩
      rw [hscan]
      exact termsFrom_stop_iff.mpr ⟨rfl, more, ts, termsFrom_term_iff.mpr hmore⟩

/-- What stops the scan is why a text is refused, unless the tokens in front of it are wrong
already. A field that is set twice comes after both. -/
theorem parse_eq_scan_iff :
    parse text = .error (.scan e) ↔ (∃ c ∈ text.toList, isBlank c = false) ∧
      ∃ tokens, scan text = ⟨tokens, some e⟩ ∧ Viable tokens := by
  rw [parse, bind_eq_error, ← terms_eq_scan_iff]
  constructor
  · rintro (h | ⟨ts, -, h⟩)
    · exact h
    · obtain ⟨_, hfield⟩ := filterFrom_error h
      contradiction
  · exact .inl

/-! ## Words that are no number -/

/-- The error is one of the syntax. The other is that a word of numeric characters is refused
as a literal. -/
def ExpressionError.isSyntax : ExpressionError → Bool
  | scan (.numeral _) => false
  | empty | scan _ | unexpectedToken _ | unexpectedEnd | repeated _ => true

theorem ExpressionError.isSyntax_eq_false_iff {e : ExpressionError} :
    e.isSyntax = false ↔ ∃ cause, e = .scan (.numeral cause) := by
  rcases e with _ | (_ | _ | _) | _ | _ | _ <;> simp [isSyntax]

/-- A word of numeric characters that is no number: one of them is no decimal digit, or they
are too many. -/
structure NoNumber (word : List Char) : Prop where
  numeric : ∀ c ∈ word, isNumeric c = true
  refused : (∃ c ∈ word, isDecimal c = false) ∨ maxDigits < word.length

/-- Reading comes to the word: the text is cut up to it, and the tokens are viable. -/
def ComesTo (text : String) (word : List Char) : Prop :=
  ∃ tokens rest, CutUpTo text.toList tokens (word ++ rest) ∧ Word word rest ∧ Viable tokens

theorem ComesTo.ne_nil (h : ComesTo text word) : word ≠ [] := by
  obtain ⟨_, _, -, hword, -⟩ := h
  exact hword.kind.nonempty

/-- A word of numeric characters is no number exactly if it is refused as a literal. -/
theorem noNumber_iff (hsome : word ≠ []) :
    NoNumber word ↔ (∀ c ∈ word, isNumeric c = true) ∧
      ∃ cause, readInteger (String.ofList word) = .error cause := by
  have hread (hnumeric : ∀ c ∈ word, isNumeric c = true) (n : Int) :
      readInteger (String.ofList word) = .ok n ↔ (∀ c ∈ word, isDecimal c = true) ∧
        word.length ≤ maxDigits ∧ (ofDigits (word.filterMap digitValue?) : Int) = n := by
    have hlist : (String.ofList word).toList = word := String.toList_ofList
    rw [readInteger_numeric_iff (by rwa [hlist]) (by rwa [hlist]), hlist]
  constructor
  · intro h
    refine ⟨h.numeric, ?_⟩
    cases hvalue : readInteger (String.ofList word) with
    | error cause => exact ⟨cause, rfl⟩
    | ok n =>
      obtain ⟨hdecimal, hlength, -⟩ := (hread h.numeric n).mp hvalue
      rcases h.refused with ⟨c, hc, hother⟩ | hlong
      · simp [hdecimal c hc] at hother
      · exact absurd hlength (Nat.not_le_of_lt hlong)
  · rintro ⟨hnumeric, cause, hcause⟩
    refine ⟨hnumeric, ?_⟩
    by_cases hdecimal : ∀ c ∈ word, isDecimal c = true
    · refine .inr (Nat.lt_of_not_le fun hlength => ?_)
      rw [(hread hnumeric _).mpr ⟨hdecimal, hlength, rfl⟩] at hcause
      contradiction
    · exact .inl (by simpa using hdecimal)

theorem parse_eq_numeral_iff {cause : LiteralError} :
    parse text = .error (.scan (.numeral cause)) ↔
      ∃ word, ComesTo text word ∧ NoNumber word ∧
        readInteger (String.ofList word) = .error cause := by
  rw [parse_eq_scan_iff]
  constructor
  · rintro ⟨-, tokens, hscan, hviable⟩
    obtain ⟨word, rest, hcut, hword, hnumeric, hcause⟩ := scanFrom_numeral_iff.mp hscan
    have hno : NoNumber word := (noNumber_iff hword.kind.nonempty).mpr ⟨hnumeric, cause, hcause⟩
    exact ⟨word, ⟨tokens, rest, hcut, hword, hviable⟩, hno, hcause⟩
  · rintro ⟨word, ⟨tokens, rest, hcut, hword, hviable⟩, hno, hcause⟩
    -- Numeric characters are no blanks, so the text is not blank.
    obtain ⟨c, hc⟩ := List.exists_mem_of_ne_nil _ hword.kind.nonempty
    have hmem : c ∈ text.toList := hcut.suffix.subset (List.mem_append_left _ hc)
    exact ⟨⟨c, hmem, isBlank_of_isNumeric (hno.numeric c hc)⟩, tokens,
      scanFrom_numeral_iff.mpr ⟨word, rest, hcut, hword, hno.numeric, hcause⟩, hviable⟩

theorem parse_not_syntax_iff {e : ExpressionError} :
    (parse text = .error e ∧ e.isSyntax = false) ↔
      ∃ word cause, ComesTo text word ∧ NoNumber word ∧
        readInteger (String.ofList word) = .error cause ∧ e = .scan (.numeral cause) := by
  rw [ExpressionError.isSyntax_eq_false_iff]
  constructor
  · rintro ⟨hparse, cause, rfl⟩
    obtain ⟨word, hcomes, hno, hcause⟩ := parse_eq_numeral_iff.mp hparse
    exact ⟨word, cause, hcomes, hno, hcause, rfl⟩
  · rintro ⟨word, cause, hcomes, hno, hcause, rfl⟩
    exact ⟨parse_eq_numeral_iff.mpr ⟨word, hcomes, hno, hcause⟩, cause, rfl⟩

/-- **What an expression is refused for.** All refusals of a text are of its syntax if and only
if reading does not come to a word of numeric characters that is no number. The one other
refusal is that of such a word, as a literal. -/
theorem parse_errors (text : String) :
    ((∀ e, parse text = .error e → e.isSyntax = true) ↔
        ¬ ∃ word, ComesTo text word ∧ NoNumber word) ∧
      ∀ e, (parse text = .error e ∧ e.isSyntax = false) ↔
        ∃ word cause, ComesTo text word ∧ NoNumber word ∧
          readInteger (String.ofList word) = .error cause ∧ e = .scan (.numeral cause) := by
  refine ⟨?_, fun e => parse_not_syntax_iff⟩
  constructor
  · rintro hall ⟨word, hcomes, hno⟩
    obtain ⟨-, cause, hcause⟩ := (noNumber_iff hcomes.ne_nil).mp hno
    have hparse : parse text = .error (.scan (.numeral cause)) :=
      parse_eq_numeral_iff.mpr ⟨word, hcomes, hno, hcause⟩
    exact absurd (hall _ hparse) Bool.false_ne_true
  · intro hnone e hparse
    cases hsyntax : e.isSyntax with
    | true => rfl
    | false =>
      obtain ⟨word, _, hcomes, hno, -⟩ := parse_not_syntax_iff.mp ⟨hparse, hsyntax⟩
      exact absurd ⟨word, hcomes, hno⟩ hnone

theorem comesTo_dstPort {word : List Char} (hword : Word word []) :
    ComesTo (String.ofList ("dst port ".toList ++ word)) word := by
  have htext : (String.ofList ("dst port ".toList ++ word)).toList =
      "dst".toList ++ ' ' :: ("port".toList ++ ' ' :: word) := String.toList_ofList
  have hdst : Lexeme "dst".toList (.keyword .dst "dst") (' ' :: ("port".toList ++ ' ' :: word)) :=
    lexeme_keyword (by decide) (ends_cons rfl _)
  have hport : Lexeme "port".toList (.keyword .port "port") (' ' :: word) :=
    lexeme_keyword (by decide) (ends_cons rfl _)
  have hcut : CutUpTo (String.ofList ("dst port ".toList ++ word)).toList
      [.keyword .dst "dst", .keyword .port "port"] (word ++ []) := by
    rw [htext, List.append_nil]
    exact .token hdst (.gap (.inl rfl) (.token hport (.gap (.inl rfl) (.here _))))
  have hviable : Viable [.keyword .dst "dst", .keyword .port "port"] :=
    ⟨[.number 80], [.port .dst 80], .last (.operand "dst" rfl (.port "port" 80))⟩
  exact ⟨_, _, hcut, hword, hviable⟩

/-- The sign for one half counts as numeric and is no decimal digit. -/
theorem parse_one_half :
    parse "dst port ½" = .error (.scan (.numeral (.malformed "½"))) ∧
      ExpressionError.isSyntax (.scan (.numeral (.malformed "½"))) = false := by
  have hcomes : ComesTo "dst port ½" ['½'] :=
    comesTo_dstPort (word_iff.mpr ⟨by decide, rfl, rfl⟩)
  have hno : NoNumber ['½'] :=
    ⟨List.all_eq_true.mp (by decide), .inl ⟨'½', List.mem_cons_self, by decide⟩⟩
  exact ⟨parse_eq_numeral_iff.mpr ⟨['½'], hcomes, hno, rfl⟩, rfl⟩

end PacketFilter.Expression
