import PacketFilter.Proofs.Criteria
import PacketFilter.Proofs.Expression.Grammar
import PacketFilter.Proofs.Expression.Lexeme
import PacketFilter.Proofs.Number.Numeral

/-
  The spellings of an expression.

  Terms may be written in any order, keywords in any letter case, joints as `and` or `&&`,
  addresses with or without `host`, and words with any gaps between them and around them.
  `Written` gives all texts that spell a list of terms, by rules and without cutting them.

  What is proved: the words of a spelling stand for the tokens of a conjunction
  (`Phrases.stand`), and words set apart by gaps are cut into what they stand for
  (`cut_of_spaced`). Hence all spellings of terms that set different fields, in any order,
  describe one filter (`written_parses`).
-/

namespace PacketFilter.Expression

open Text

/-! ## Spellings -/

/-- The words of a term. The digits of a port may be of any script, and are no more than a
literal may have. -/
inductive Phrase : Term → List String → Prop where
  | protocol {q : Protocol} {word : String} (h : lower word = q.name) :
    Phrase (.protocol q) [word]
  | address {side : Side} {word quad : String} (hside : lower word = side.keyword)
    (hquad : Quad quad.toList) : Phrase (.address side quad) [word, quad]
  | host {side : Side} {word host quad : String} (hside : lower word = side.keyword)
    (hhost : lower host = "host") (hquad : Quad quad.toList) :
    Phrase (.address side quad) [word, host, quad]
  | port {side : Side} {word port : String} (digits : String) (hside : lower word = side.keyword)
    (hport : lower port = "port") (hdigits : RunOf isDecimal digits.toList)
    (hlength : digits.toList.length ≤ maxDigits) :
    Phrase (.port side (ofDigits (digits.toList.filterMap digitValue?))) [word, port, digits]

/-- The words of terms, with a joint between any two. -/
inductive Phrases : List Term → List String → Prop where
  | last {t : Term} {words : List String} (h : Phrase t words) : Phrases [t] words
  | joint {t : Term} {ts : List Term} {words rest : List String} {joint : String}
    (h : Phrase t words) (hjoint : lower joint = "and" ∨ joint = "&&") (hrest : Phrases ts rest) :
    Phrases (t :: ts) (words ++ joint :: rest)

/-- Nothing but blanks and tabs. -/
def Gap (cs : List Char) : Prop := ∀ c ∈ cs, c = ' ' ∨ c = '\t'

instance (cs : List Char) : Decidable (Gap cs) :=
  decidable_of_iff (cs.all isGap = true) (by simp [Gap, isGap])

/-- Words with gaps between them, and perhaps one behind the last. -/
inductive Spaced : List String → List Char → Prop where
  | last {word : String} (gap : List Char) (hgap : Gap gap) : Spaced [word] (word.toList ++ gap)
  | next {word : String} {words : List String} {rest : List Char} (gap : List Char) (hgap : Gap gap)
    (hsome : gap ≠ []) (hrest : Spaced words rest) :
    Spaced (word :: words) (word.toList ++ (gap ++ rest))

/-- The text spells the terms, in their order. -/
def Written (ts : List Term) (text : String) : Prop :=
  ∃ words gap body, Phrases ts words ∧ Gap gap ∧ Spaced words body ∧ text.toList = gap ++ body

/-! ## Words and what they stand for -/

/-- The word is the lexeme of the token wherever it ends. -/
def Stands (word : String) (t : Token) : Prop := ∀ rest, Ends rest → Lexeme word.toList t rest

/-- The words stand for the tokens, one by one. -/
inductive StandAll : List String → List Token → Prop where
  | nil : StandAll [] []
  | cons {word : String} {words : List String} {u : Token} {us : List Token} (h : Stands word u)
    (hrest : StandAll words us) : StandAll (word :: words) (u :: us)

variable {word : String} {words : List String} {k : Keyword} {us : List Token} {t : Term}
  {ts : List Term} {gap rest body : List Char}

theorem StandAll.append {more : List String} {vs : List Token} (h : StandAll words us)
    (hmore : StandAll more vs) : StandAll (words ++ more) (us ++ vs) := by
  induction h with
  | nil => exact hmore
  | cons h _ ih => exact .cons h ih

theorem stands_keyword (hk : lower word = k.text) : Stands word (.keyword k word) :=
  fun _ => lexeme_keyword hk

theorem stands_quad (h : Quad word.toList) : Stands word (.address word) := fun _ => lexeme_quad h

theorem stands_number (h : RunOf isDecimal word.toList) (hlength : word.toList.length ≤ maxDigits) :
    Stands word (.number (ofDigits (word.toList.filterMap digitValue?))) := by
  have hnumeric := fun c hc => isNumeric_of_isDecimal (h.all c hc)
  exact fun _ => lexeme_number h
    ((readInteger_numeric_iff h.nonempty hnumeric _).mpr ⟨h.all, hlength, rfl⟩)

theorem stands_joint (h : lower word = "and" ∨ word = "&&") : Stands word (.keyword .and word) := by
  rcases h with h | rfl
  · exact stands_keyword h
  · exact fun rest _ => .joint rest

/-! ## Phrases and what they stand for -/

theorem Phrase.stand (h : Phrase t words) : ∃ us, StandAll words us ∧ IsTerm us t := by
  cases h with
  | @protocol q word h =>
    obtain ⟨k, hq⟩ := Keyword.exists_protocol q
    exact ⟨_, .cons (stands_keyword (h.trans hq.symm)) .nil, .protocol word hq⟩
  | @address side word quad hside hquad =>
    obtain ⟨k, hk⟩ := Keyword.exists_side side
    have hword : Stands word (.keyword k word) := stands_keyword (hside.trans hk.symm)
    exact ⟨_, .cons hword (.cons (stands_quad hquad) .nil), .operand word hk (.address quad)⟩
  | @host side word host quad hside hhost hquad =>
    obtain ⟨k, hk⟩ := Keyword.exists_side side
    have hword : Stands word (.keyword k word) := stands_keyword (hside.trans hk.symm)
    exact ⟨_, .cons hword (.cons (stands_keyword (k := .host) hhost)
      (.cons (stands_quad hquad) .nil)), .operand word hk (.host host quad)⟩
  | @port side word port digits hside hport hdigits hlength =>
    obtain ⟨k, hk⟩ := Keyword.exists_side side
    have hword : Stands word (.keyword k word) := stands_keyword (hside.trans hk.symm)
    exact ⟨_, .cons hword (.cons (stands_keyword (k := .port) hport)
      (.cons (stands_number hdigits hlength) .nil)), .operand word hk (.port port _)⟩

theorem Phrases.stand (h : Phrases ts words) : ∃ us, StandAll words us ∧ Conjunction us ts := by
  induction h with
  | last h =>
    obtain ⟨us, hstand, hterm⟩ := h.stand
    exact ⟨us, hstand, .last hterm⟩
  | @joint t ts words rest joint h hjoint _ ih =>
    obtain ⟨us, hstand, hterm⟩ := h.stand
    obtain ⟨vs, hrest, hconjunction⟩ := ih
    exact ⟨_, hstand.append (.cons (stands_joint hjoint) hrest), .and hterm joint hconjunction⟩

theorem Phrase.not_blank (h : Phrase t words) :
    ∃ word ∈ words, ∃ c ∈ word.toList, isBlank c = false := by
  have hside {side : Side} {word : String} (h : lower word = side.keyword) :
      ∃ c ∈ word.toList, isBlank c = false := by
    obtain ⟨k, hk⟩ := Keyword.exists_side side
    exact not_blank_of_keyword (h.trans hk.symm)
  cases h with
  | @protocol q word h =>
    obtain ⟨k, hq⟩ := Keyword.exists_protocol q
    exact ⟨word, List.mem_cons_self, not_blank_of_keyword (h.trans hq.symm)⟩
  | address h => exact ⟨_, List.mem_cons_self, hside h⟩
  | host h => exact ⟨_, List.mem_cons_self, hside h⟩
  | port _ h => exact ⟨_, List.mem_cons_self, hside h⟩

theorem Phrases.not_blank (h : Phrases ts words) :
    ∃ word ∈ words, ∃ c ∈ word.toList, isBlank c = false := by
  cases h with
  | last h => exact h.not_blank
  | joint h =>
    obtain ⟨word, hword, hc⟩ := h.not_blank
    exact ⟨word, List.mem_append_left _ hword, hc⟩

/-! ## Gaps -/

theorem Gap.cut (h : Gap gap) (hrest : Cut rest us) : Cut (gap ++ rest) us := by
  induction gap with
  | nil => exact hrest
  | cons c gap ih =>
    obtain ⟨hc, hgap⟩ := List.forall_mem_cons.mp h
    exact .gap hc (ih hgap)

/-- A gap ends the lexeme in front of it, and so does the end of the text. -/
theorem Gap.ends (h : Gap gap) (hrest : gap ≠ [] ∨ rest = []) : Ends (gap ++ rest) := by
  cases gap with
  | nil =>
    rw [hrest.resolve_left (by simp)]
    exact ends_nil
  | cons c gap => exact ends_cons (by simpa [isGap] using h c List.mem_cons_self) _

theorem cut_of_spaced (h : Spaced words body) (hstand : StandAll words us) : Cut body us := by
  induction h generalizing us with
  | @last word gap hgap =>
    cases hstand with
    | cons hword hrest =>
      cases hrest
      have hends := hgap.ends (.inr rfl)
      have hcut := hgap.cut .done
      rw [List.append_nil] at hends hcut
      exact .token (hword gap hends) hcut
  | next gap hgap hsome _ ih =>
    cases hstand with
    | cons hword hrest => exact .token (hword _ (hgap.ends (.inl hsome))) (hgap.cut (ih hrest))

theorem Spaced.mem (h : Spaced words body) (hword : word ∈ words) {c : Char}
    (hc : c ∈ word.toList) : c ∈ body := by
  induction h with
  | last =>
    rw [List.mem_singleton.mp hword] at hc
    exact List.mem_append_left _ hc
  | next _ _ _ _ ih =>
    rcases List.mem_cons.mp hword with rfl | hword
    · exact List.mem_append_left _ hc
    · exact List.mem_append_right _ (List.mem_append_right _ (ih hword))

/-! ## Expressions -/

theorem Written.expresses {text : String} (h : Written ts text)
    (hdistinct : (ts.map Term.field).Nodup) : Expresses text ts := by
  obtain ⟨words, gap, body, hphrases, hgap, hspaced, htext⟩ := h
  obtain ⟨us, hstand, hconjunction⟩ := hphrases.stand
  obtain ⟨word, hword, c, hc, hblank⟩ := hphrases.not_blank
  exact {
    not_blank := ⟨c, by simp [htext, hspaced.mem hword hc], hblank⟩
    derived := ⟨us, by rw [htext]; exact hgap.cut (cut_of_spaced hspaced hstand), hconjunction⟩
    once := hdistinct }

theorem Sets.perm {ts us : List Term} {f : Filter} (h : Sets ts f) (hperm : us.Perm ts) :
    Sets us f := by
  intro x v
  simp only [h x v, hperm.mem_iff]

/-- **All spellings of an expression describe one filter.** Of terms that set different
fields, every text that spells them in any order is read, and as the same filter: the one
that has the values of the terms in their fields. -/
theorem written_parses (hdistinct : (ts.map Term.field).Nodup) :
    ∃ f, Sets ts f ∧
      ∀ (us : List Term) (text : String), us.Perm ts → Written us text → parse text = .ok f := by
  obtain ⟨f, hf⟩ := filterFrom_ok_iff.mpr ⟨fun _ _ => List.not_mem_nil, hdistinct⟩
  have hsets : Sets ts f := (filterFrom_eq_ok_iff.mp hf).2
  refine ⟨f, hsets, ?_⟩
  intro us text hperm hwritten
  have hdistinct' : (us.map Term.field).Nodup := (hperm.map Term.field).nodup_iff.mpr hdistinct
  exact parse_eq_ok_iff.mpr ⟨us, hwritten.expresses hdistinct', hsets.perm hperm⟩

/-- The terms of `webFilter`. -/
def webTerms : List Term := [.protocol .tcp, .address .src "10.0.0.1", .port .dst 80]

theorem written_parses_webTerms :
    (webTerms.map Term.field).Nodup ∧ webTerms.reverse.Perm webTerms ∧
      Written webTerms.reverse "\tDst  PORT 0080 && sRc Host 10.0.0.1\tAND TCP " ∧
      parse "\tDst  PORT 0080 && sRc Host 10.0.0.1\tAND TCP " = .ok webFilter := by
  have hdistinct : (webTerms.map Term.field).Nodup := by decide
  have hquad : Quad "10.0.0.1".toList :=
    ⟨['1', '0'], ['0'], ['0'], ['1'], by decide, by decide, by decide, by decide, rfl⟩
  have hphrases : Phrases webTerms.reverse
      ["Dst", "PORT", "0080", "&&", "sRc", "Host", "10.0.0.1", "AND", "TCP"] :=
    .joint (.port "0080" (by decide) (by decide) (by decide) (by decide)) (.inr rfl)
      (.joint (.host (by decide) (by decide) hquad) (.inl (by decide)) (.last (.protocol (by decide))))
  have hwritten : Written webTerms.reverse "\tDst  PORT 0080 && sRc Host 10.0.0.1\tAND TCP " := by
    refine ⟨_, ['\t'], _, hphrases, by decide, .next [' ', ' '] ?_ ?_ <| .next [' '] ?_ ?_ <|
      .next [' '] ?_ ?_ <| .next [' '] ?_ ?_ <| .next [' '] ?_ ?_ <| .next [' '] ?_ ?_ <|
      .next ['\t'] ?_ ?_ <| .next [' '] ?_ ?_ <| .last [' '] ?_, ?_⟩
    all_goals decide
  obtain ⟨f, hsets, hparse⟩ := written_parses hdistinct
  have hweb : filterFrom [] {} webTerms = .ok webFilter := rfl
  rw [hsets.unique (filterFrom_eq_ok_iff.mp hweb).2] at hparse
  exact ⟨hdistinct, List.reverse_perm webTerms, hwritten,
    hparse _ _ (List.reverse_perm webTerms) hwritten⟩

end PacketFilter.Expression
