import PacketFilter.Proofs.Expression.Refusal

/-
  The first fault of an expression.

  A text is read from the left, token by token. `FirstFault` is the first place where that goes
  wrong: the tokens in front of it start some conjunction, and behind them no token can be
  read, or one that does not fit.

  What is proved:
    1. `parse_eq_fault_iff`: an error that is found at a token is that of the first fault, whether
       it is one of reading or of syntax.
    2. `FirstFault.append_gap`: what stands behind a gap does not change the first fault, since
       no lexeme reaches over it (`tokenAt_append_gap`).
    3. `parse_fault_stands`: so a text that is refused at a token is refused for the same reason
       however it goes on, and a field that is set twice is reported only if there is no fault.
-/

namespace PacketFilter.Expression

open Text

variable {position : Nat} {c : Char} {cs rest lexeme : List Char} {tokens before : List Token}
  {t : Token} {expecting : Expecting} {stop : Option ScanError} {text : String}

/-! ## Tokens that do not fit -/

/-- The reader takes the tokens: others after them could complete what it expects. -/
def Expecting.Takes (expecting : Expecting) (tokens : List Token) : Prop :=
  ∃ more ts, termsFrom none expecting (tokens ++ more) = .ok ts

theorem takes_cons_iff :
    expecting.Takes (t :: tokens) ↔ ∃ after, step expecting t = some after ∧ after.1.Takes tokens := by
  simp only [Expecting.Takes, List.cons_append, termsFrom_cons_eq_ok]
  constructor
  · intro h
    obtain ⟨more, _, after, hstep, ts, hts, -⟩ := h
    exact ⟨after, hstep, more, ts, hts⟩
  · intro h
    obtain ⟨after, hstep, more, ts, hts⟩ := h
    exact ⟨more, _, after, hstep, ts, hts, rfl⟩

theorem takes_term_iff : Expecting.term.Takes tokens ↔ Viable tokens := by
  simp only [Expecting.Takes, Viable, termsFrom_term_iff]

/-- The token that is refused is the first that the reader does not take. -/
theorem termsFrom_unfit_iff {message : String} :
    termsFrom stop expecting tokens = .error (.unexpectedToken message) ↔
      ∃ before t after, tokens = before ++ t :: after ∧ t.text = message ∧
        expecting.Takes before ∧ ¬ expecting.Takes (before ++ [t]) := by
  induction tokens generalizing expecting with
  | nil =>
    have hend : termsFrom stop expecting [] ≠ .error (.unexpectedToken message) := by
      intro h
      rcases stop with _ | e
      · cases expecting <;> cases h
      · cases h
    simp [hend]
  | cons u tokens ih =>
    rw [termsFrom]
    cases hstep : step expecting u with
    | none =>
      have hnot (more : List Token) : ¬ expecting.Takes (u :: more) := by
        simp [takes_cons_iff, hstep]
      constructor
      · intro h
        cases h
        exact ⟨[], u, tokens, rfl, rfl, exists_completion expecting, hnot []⟩
      · intro h
        obtain ⟨before, t, after, hsplit, rfl, htakes, -⟩ := h
        cases before with
        | nil =>
          cases hsplit
          rfl
        | cons b before =>
          cases hsplit
          exact absurd htakes (hnot before)
    | some after =>
      have hiff (more : List Token) : expecting.Takes (u :: more) ↔ after.1.Takes more := by
        simp [takes_cons_iff, hstep]
      show (termsFrom stop after.1 tokens).map _ = _ ↔ _
      rw [map_eq_error, ih]
      constructor
      · intro h
        obtain ⟨before, t, later, rfl, htext, htakes, hunfit⟩ := h
        refine ⟨u :: before, t, later, rfl, htext, (hiff before).mpr htakes, ?_⟩
        rwa [List.cons_append, hiff]
      · intro h
        obtain ⟨before, t, later, hsplit, htext, htakes, hunfit⟩ := h
        cases before with
        | nil =>
          cases hsplit
          exact absurd ((hiff []).mpr (exists_completion after.1)) hunfit
        | cons b before =>
          cases hsplit
          rw [List.cons_append, hiff] at hunfit
          exact ⟨before, t, later, rfl, htext, (hiff before).mp htakes, hunfit⟩

/-! ## Where the tokens stand -/

theorem CutUpTo.snoc (h : CutUpTo cs tokens (lexeme ++ rest)) (ht : Lexeme lexeme t rest) :
    CutUpTo cs (tokens ++ [t]) rest := by
  generalize hleft : lexeme ++ rest = left at h
  induction h with
  | here left =>
    subst hleft
    exact .token ht (.here rest)
  | gap hc _ ih => exact .gap hc (ih hleft)
  | token hu _ ih => exact .token hu (ih hleft)

theorem cutUpTo_of_scanFrom {after : List Token}
    (h : (scanFrom position cs).tokens = before ++ t :: after) :
    ∃ lexeme rest, CutUpTo cs before (lexeme ++ rest) ∧ Lexeme lexeme t rest := by
  fun_induction scanFrom position cs generalizing before with
  | case1 => simp at h
  | case2 position c cs hgap ih =>
    obtain ⟨lexeme, rest, hcut, ht⟩ := ih h
    exact ⟨lexeme, rest, .gap (by simpa [isGap] using hgap) hcut, ht⟩
  | case3 => simp at h
  | case4 position c cs hgap u n hu later =>
    rename_i ih
    obtain ⟨a, rest, rfl, rfl, hlexeme⟩ := lexeme_of_tokenAt hu
    cases before with
    | nil =>
      obtain ⟨rfl, -⟩ := List.cons.inj h
      exact ⟨c :: a, rest, .here _, hlexeme⟩
    | cons b before =>
      obtain ⟨rfl, hlater⟩ := List.cons.inj h
      obtain ⟨lexeme, tail, hcut, ht⟩ := ih hlater
      rw [List.drop_left] at hcut
      exact ⟨lexeme, tail, .token hlexeme hcut, ht⟩

/-! ## The first fault -/

/-- The error is found at a token: none can be read, or the one that is read does not fit. -/
def ExpressionError.atToken : ExpressionError → Bool
  | scan _ | unexpectedToken _ => true
  | empty | unexpectedEnd | repeated _ => false

/-- The first fault of a text, as an error. The tokens in front of it start a conjunction, so
nothing before it is wrong. -/
inductive FirstFault (cs : List Char) : ExpressionError → Prop where
  /-- No token can be read. -/
  | unread {tokens : List Token} {c : Char} {rest : List Char} {e : ScanError}
    (hcut : CutUpTo cs tokens (c :: rest)) (hviable : Viable tokens) (hc : isGap c = false)
    (he : tokenAt (cs.length - (c :: rest).length) c rest = .error e) : FirstFault cs (.scan e)
  /-- The token that is read cannot follow. -/
  | unfit {tokens : List Token} {t : Token} {lexeme rest : List Char}
    (hcut : CutUpTo cs tokens (lexeme ++ rest)) (hviable : Viable tokens)
    (ht : Lexeme lexeme t rest) (hunfit : ¬ Viable (tokens ++ [t])) :
    FirstFault cs (.unexpectedToken t.text)

theorem fault_scan_iff {e : ScanError} :
    FirstFault text.toList (.scan e) ↔ ∃ tokens, scan text = ⟨tokens, some e⟩ ∧ Viable tokens := by
  simp only [scan, scanFrom_stop_iff, Nat.zero_add]
  constructor
  · intro h
    cases h with
    | unread hcut hviable hc he => exact ⟨_, ⟨_, _, hcut, hc, he⟩, hviable⟩
  · intro h
    obtain ⟨tokens, ⟨c, rest, hcut, hc, he⟩, hviable⟩ := h
    exact .unread hcut hviable hc he

theorem fault_unfit_iff {message : String} :
    FirstFault text.toList (.unexpectedToken message) ↔
      termsFrom (scan text).stop .term (scan text).tokens = .error (.unexpectedToken message) := by
  simp only [termsFrom_unfit_iff, takes_term_iff]
  constructor
  · intro h
    cases h with
    | @unfit tokens t lexeme rest hcut hviable ht hunfit =>
      have hscan := congrArg Scan.tokens ((hcut.snoc ht).scanFrom_eq 0)
      rw [List.append_assoc] at hscan
      exact ⟨tokens, t, _, hscan, rfl, hviable, hunfit⟩
  · intro h
    obtain ⟨before, t, after, htokens, rfl, hviable, hunfit⟩ := h
    obtain ⟨lexeme, rest, hcut, ht⟩ := cutUpTo_of_scanFrom htokens
    exact .unfit hcut hviable ht hunfit

theorem parse_eq_unfit_iff {message : String} :
    parse text = .error (.unexpectedToken message) ↔ (∃ c ∈ text.toList, isBlank c = false) ∧
      termsFrom (scan text).stop .term (scan text).tokens = .error (.unexpectedToken message) := by
  have hterms : parse text = .error (.unexpectedToken message) ↔
      terms text = .error (.unexpectedToken message) := by
    rw [parse, bind_eq_error]
    constructor
    · intro h
      rcases h with h | ⟨ts, -, h⟩
      · exact h
      · obtain ⟨_, hfield⟩ := filterFrom_error h
        contradiction
    · exact .inl
  rw [hterms, terms, ← trim_isEmpty_iff]
  split
  · next hempty => simp [hempty]
  · next hsome => simp [hsome]

/-- **An error found at a token is that of the first fault**, unless the text is blank. -/
theorem parse_eq_fault_iff {e : ExpressionError} (he : e.atToken = true) :
    parse text = .error e ↔ (∃ c ∈ text.toList, isBlank c = false) ∧ FirstFault text.toList e := by
  cases e with
  | scan e => rw [parse_eq_scan_iff, fault_scan_iff]
  | unexpectedToken message => rw [parse_eq_unfit_iff, fault_unfit_iff]
  | empty | unexpectedEnd | repeated => contradiction

/-! ## Texts that go on behind a gap -/

section
variable {p : Char → Bool} (hp : p ' ' = false) (us : List Char)
include hp

theorem takeWhile_append_gap (cs : List Char) : (cs ++ ' ' :: us).takeWhile p = cs.takeWhile p := by
  induction cs with
  | nil => simp [hp]
  | cons c cs ih => simp [List.takeWhile_cons, ih]

theorem dropWhile_append_gap (cs : List Char) :
    (cs ++ ' ' :: us).dropWhile p = cs.dropWhile p ++ ' ' :: us := by
  induction cs with
  | nil => simp [hp]
  | cons c cs ih =>
    simp only [List.cons_append, List.dropWhile_cons, ih]
    split <;> rfl

end

theorem digitsAndPoint?_append_gap (cs us : List Char) :
    digitsAndPoint? (cs ++ ' ' :: us) =
      (digitsAndPoint? cs).map (fun (front, rest) => (front, rest ++ ' ' :: us)) := by
  have hspace : isDecimal ' ' = false := by decide
  rw [digitsAndPoint?, digitsAndPoint?, takeWhile_append_gap hspace, dropWhile_append_gap hspace]
  cases cs.dropWhile isDecimal with
  | nil => rfl
  | cons d rest =>
    by_cases hd : d = '.'
    · subst hd
      by_cases hdigits : (cs.takeWhile isDecimal).isEmpty <;> simp [hdigits]
    · simp [hd]

theorem dotted?_append_gap (cs us : List Char) : dotted? (cs ++ ' ' :: us) = dotted? cs := by
  have hspace : isDecimal ' ' = false := by decide
  rw [dotted?, dotted?, digitsAndPoint?_append_gap]
  cases digitsAndPoint? cs with
  | none => rfl
  | some first =>
    simp only [Option.map_some, Option.bind_eq_bind, Option.bind_some, digitsAndPoint?_append_gap]
    cases digitsAndPoint? first.2 with
    | none => rfl
    | some second =>
      simp only [Option.map_some, Option.bind_some, digitsAndPoint?_append_gap]
      cases digitsAndPoint? second.2 with
      | none => rfl
      | some third => simp only [Option.map_some, Option.bind_some, takeWhile_append_gap hspace]

/-- What is read in front of a text does not depend on what stands behind a gap. -/
theorem tokenAt_append_gap (position : Nat) (c : Char) (cs us : List Char) :
    tokenAt position c (cs ++ ' ' :: us) = tokenAt position c cs := by
  have hspace : isWordChar ' ' = false := by decide
  have hhead : (cs ++ ' ' :: us).head? = some '&' ↔ cs.head? = some '&' := by
    cases cs <;> simp
  rw [tokenAt, tokenAt, ← List.cons_append, dotted?_append_gap]
  simp only [hhead, takeWhile_append_gap hspace]

theorem Lexeme.append_gap (h : Lexeme lexeme t rest) (us : List Char) :
    Lexeme lexeme t (rest ++ ' ' :: us) := by
  obtain ⟨c, a, rfl⟩ := List.exists_cons_of_ne_nil h.nonempty
  have hread : tokenAt 0 c (a ++ (rest ++ ' ' :: us)) = .ok (t, a.length) := by
    rw [← List.append_assoc, tokenAt_append_gap, tokenAt_of_lexeme h]
  obtain ⟨b, tail, hsplit, hlength, hlexeme⟩ := lexeme_of_tokenAt hread
  obtain ⟨rfl, rfl⟩ := List.append_inj hsplit hlength.symm
  exact hlexeme

theorem CutUpTo.append_gap (h : CutUpTo cs tokens rest) (us : List Char) :
    CutUpTo (cs ++ ' ' :: us) tokens (rest ++ ' ' :: us) := by
  induction h with
  | here rest => exact .here _
  | gap hc _ ih => exact .gap hc ih
  | token ht _ ih =>
    rw [List.append_assoc]
    exact .token (ht.append_gap us) ih

/-- **What stands behind a gap does not change the first fault.** -/
theorem FirstFault.append_gap {e : ExpressionError} (h : FirstFault cs e) (us : List Char) :
    FirstFault (cs ++ ' ' :: us) e := by
  cases h with
  | @unread tokens c rest e hcut hviable hc he =>
    have hcut' := hcut.append_gap us
    rw [List.cons_append] at hcut'
    have hplace : (cs ++ ' ' :: us).length - (c :: (rest ++ ' ' :: us)).length =
        cs.length - (c :: rest).length := by
      simp only [List.length_append, List.length_cons]
      omega
    refine .unread hcut' hviable hc ?_
    rw [hplace, tokenAt_append_gap, he]
  | @unfit tokens t lexeme rest hcut hviable ht hunfit =>
    have hcut' := hcut.append_gap us
    rw [List.append_assoc] at hcut'
    exact .unfit hcut' hviable (ht.append_gap us) hunfit

theorem parse_append_gap {e : ExpressionError} (he : e.atToken = true) (h : parse text = .error e)
    (u : String) : parse (text ++ " " ++ u) = .error e := by
  have hlist : (text ++ " " ++ u).toList = text.toList ++ ' ' :: u.toList := by
    simp [String.toList_append]
  obtain ⟨⟨c, hc, hblank⟩, hfault⟩ := (parse_eq_fault_iff he).mp h
  rw [parse_eq_fault_iff he, hlist]
  exact ⟨⟨c, List.mem_append_left _ hc, hblank⟩, hfault.append_gap u.toList⟩

theorem derived_of_repeated {field : FilterField} (h : parse text = .error (.repeated field)) :
    ∃ tokens ts, Cut text.toList tokens ∧ Conjunction tokens ts := by
  rw [parse, bind_eq_error] at h
  rcases h with h | ⟨ts, hts, -⟩
  · rw [terms] at h
    split at h
    · cases h
    · obtain ⟨_, -, hscan⟩ | ⟨_, htoken⟩ | hend := termsFrom_error h <;> contradiction
  · obtain ⟨-, tokens, hcut, hconjunction⟩ := terms_eq_ok_iff.mp hts
    exact ⟨tokens, ts, hcut, hconjunction⟩

/-- **A text refused at a token stays refused.** The error is that of the first fault, of
reading or of syntax, and no text behind a gap changes it. A field that is set twice is reported
only if the whole text is read and derived. -/
theorem parse_fault_stands (text : String) :
    (∀ e, e.atToken = true → parse text = .error e →
        FirstFault text.toList e ∧ ∀ u, parse (text ++ " " ++ u) = .error e) ∧
      ∀ field, parse text = .error (.repeated field) →
        ∃ tokens ts, Cut text.toList tokens ∧ Conjunction tokens ts := by
  refine ⟨?_, fun field h => derived_of_repeated h⟩
  intro e he h
  exact ⟨((parse_eq_fault_iff he).mp h).2, parse_append_gap he h⟩

/-- A second protocol where a joint should stand is reported before the character that starts no
token, and before whatever follows. With the joint in place the protocol is set twice. -/
theorem parse_fault_stands_secondProtocol :
    parse "tcp udp &" = .error (.unexpectedToken "udp") ∧
      (∀ u, parse ("tcp udp &" ++ " " ++ u) = .error (.unexpectedToken "udp")) ∧
      parse "tcp and udp" = .error (.repeated .protocol) ∧
      ∃ tokens ts, Cut "tcp and udp".toList tokens ∧ Conjunction tokens ts := by
  have htcp (rest : List Char) : Lexeme "tcp".toList (.keyword .tcp "tcp") (' ' :: rest) :=
    lexeme_keyword (by decide) (ends_cons rfl rest)
  have hudp {rest : List Char} (hrest : Ends rest) :
      Lexeme "udp".toList (.keyword .udp "udp") rest :=
    lexeme_keyword (by decide) hrest
  have hviable : Viable [.keyword .tcp "tcp"] :=
    ⟨[], _, .last (.protocol (q := .tcp) "tcp" rfl)⟩
  have hunfit : ¬ Viable [.keyword .tcp "tcp", .keyword .udp "udp"] := by
    simp [← takes_term_iff, takes_cons_iff, step, Keyword.protocol?]
  have hfault : FirstFault "tcp udp &".toList (.unexpectedToken "udp") :=
    .unfit (.token (htcp _) (.gap (.inl rfl) (.here _))) hviable (hudp (ends_cons rfl _)) hunfit
  have hrefused : parse "tcp udp &" = .error (.unexpectedToken "udp") :=
    (parse_eq_fault_iff rfl).mpr ⟨⟨'t', by decide, by decide⟩, hfault⟩
  have hand : Lexeme "and".toList (.keyword .and "and") " udp".toList :=
    lexeme_keyword (by decide) (ends_cons rfl _)
  have hcut : Cut "tcp and udp".toList
      [.keyword .tcp "tcp", .keyword .and "and", .keyword .udp "udp"] :=
    .token (htcp _) (.gap (.inl rfl) (.token hand (.gap (.inl rfl) (.token (hudp ends_nil) .done))))
  have hconjunction : Conjunction [.keyword .tcp "tcp", .keyword .and "and", .keyword .udp "udp"]
      [.protocol .tcp, .protocol .udp] :=
    .and (.protocol "tcp" rfl) "and" (.last (.protocol "udp" rfl))
  have hterms : terms "tcp and udp" = .ok [.protocol .tcp, .protocol .udp] :=
    terms_eq_ok_iff.mpr ⟨⟨'t', by decide, by decide⟩, _, hcut, hconjunction⟩
  have htwice : parse "tcp and udp" = .error (.repeated .protocol) := by
    rw [parse, hterms]
    rfl
  exact ⟨hrefused, ((parse_fault_stands _).1 _ rfl hrefused).2, htwice,
    (parse_fault_stands _).2 _ htwice⟩

end PacketFilter.Expression
