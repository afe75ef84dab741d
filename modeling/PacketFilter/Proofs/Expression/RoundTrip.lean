import PacketFilter.Filter.Phrases
import PacketFilter.Proofs.Address
import PacketFilter.Proofs.Criteria
import PacketFilter.Proofs.Expression.Grammar
import PacketFilter.Proofs.Expression.Lexeme

/-
  Filters read back from their expressions.

  A text reads as tokens (`Reads`) if it is cut into them wherever it stands before a
  blank or at the end; texts joined by a blank read as the tokens of both
  (`Reads.append`). A phrase spells a term if it reads as tokens of the term, so phrases
  joined by ` and ` read as the conjunction of their terms (`SpellsAll.reads_join`). Every
  field of a filter that has passed validation is left out or spelled by its phrase, if the
  addresses are texts. Hence the expression of the filter describes the same filter
  (`expression_reads_back`).
-/

namespace PacketFilter.Expression

open Text

variable {rest : List Char} {word : String} {us vs : List Token} {k : Keyword}

/-! ## Texts before a blank -/

/-- A text that extends no lexeme in front of it: the end, or a blank. -/
def Separate (rest : List Char) : Prop := ∀ c, rest.head? = some c → c = ' '

theorem separate_nil : Separate [] := fun _ h => nomatch h

theorem separate_blank (rest : List Char) : Separate (' ' :: rest) :=
  fun _ h => (Option.some.inj h).symm

theorem Separate.ends (h : Separate rest) : Ends rest := by
  intro c hc
  rw [h c hc]
  rfl

/-- The text is cut into the tokens, whatever follows after a blank. -/
def Reads (text : String) (us : List Token) : Prop :=
  ∀ rest tokens, Separate rest → Cut rest tokens → Cut (text.toList ++ rest) (us ++ tokens)

theorem Reads.cut {text : String} (h : Reads text us) : Cut text.toList us := by
  have hcut := h [] [] separate_nil .done
  rwa [List.append_nil, List.append_nil] at hcut

theorem Reads.append {a b : String} (ha : Reads a us) (hb : Reads b vs) :
    Reads (a ++ " " ++ b) (us ++ vs) := by
  intro rest tokens hrest hcut
  have htext : (a ++ " " ++ b).toList ++ rest = a.toList ++ ' ' :: (b.toList ++ rest) := by
    rw [String.toList_append, String.toList_append, List.append_assoc, List.append_assoc]
    rfl
  rw [htext, List.append_assoc]
  exact ha _ _ (separate_blank _) (.gap (.inl rfl) (hb rest tokens hrest hcut))

/-! ## Keywords, numbers and addresses -/

theorem reads_of_lexeme {t : Token} (h : ∀ rest, Ends rest → Lexeme word.toList t rest) :
    Reads word [t] :=
  fun rest _ hrest hcut => .token (h rest hrest.ends) hcut

theorem reads_keyword (hk : lower word = k.text) : Reads word [.keyword k word] :=
  reads_of_lexeme fun _ => lexeme_keyword hk

theorem reads_number {n : Nat} (hn : (Nat.toDigits 10 n).length ≤ maxDigits) :
    Reads (decimalNat n) [.number n] := by
  have hrun : RunOf isDecimal (decimalNat n).toList :=
    ⟨decimalNat_toList_ne_nil n, fun c hc => isDecimal_of_isDigit (isDigit_of_mem_decimalNat hc)⟩
  have hread : readInteger (decimalNat n) = .ok (n : Int) := by
    rw [readInteger_decimalNat, if_pos hn]
  exact reads_of_lexeme fun _ => lexeme_number hrun hread

theorem reads_address {text : String} {w : Nat} (hw : Address.V4.ofText text = .ok w) :
    Reads text [.address text] := by
  obtain ⟨a, b, c, d, htext, hoctets⟩ := Address.V4.ofText_octets hw
  have hrun : ∀ octet ∈ [a, b, c, d], RunOf isDecimal octet := fun octet hoctet =>
    ⟨(hoctets octet hoctet).1, fun x hx => isDecimal_of_isDigit ((hoctets octet hoctet).2 x hx)⟩
  have hquad : Quad text.toList :=
    ⟨a, b, c, d, hrun a (by simp), hrun b (by simp), hrun c (by simp), hrun d (by simp), htext⟩
  exact reads_of_lexeme fun _ => lexeme_quad hquad

/-! ## Phrases -/

/-- A phrase that reads as a term. -/
structure Spells (phrase : String) (t : Term) : Prop where
  not_blank : ∃ c ∈ phrase.toList, isBlank c = false
  reads : ∃ us, IsTerm us t ∧ Reads phrase us

theorem spells_protocol {q : Protocol} (h : lower word = q.name) : Spells word (.protocol q) := by
  obtain ⟨k, hq⟩ := Keyword.exists_protocol q
  have hk : lower word = k.text := h.trans hq.symm
  exact ⟨not_blank_of_keyword hk, _, .protocol word hq, reads_keyword hk⟩

theorem spells_operand {side : Side} {t : Term} {operand : String} (h : Operand side us t)
    (hreads : Reads operand us) : Spells (side.keyword ++ " " ++ operand) t := by
  obtain ⟨k, hside⟩ := Keyword.exists_side side
  have hk : lower side.keyword = k.text := by
    rw [hside]
    cases side <;> decide
  constructor
  · obtain ⟨c, hc, hblank⟩ := not_blank_of_keyword hk
    exact ⟨c, by simp [hc], hblank⟩
  · exact ⟨_, .operand side.keyword hside h, (reads_keyword hk).append hreads⟩

theorem spells_address {text : String} {w : Nat} (side : Side)
    (hw : Address.V4.ofText text = .ok w) :
    Spells (side.keyword ++ " " ++ text) (.address side text) :=
  spells_operand (.address text) (reads_address hw)

theorem spells_port {n : Nat} (side : Side) (hn : (Nat.toDigits 10 n).length ≤ maxDigits) :
    Spells (side.keyword ++ " port " ++ decimalNat n) (.port side n) := by
  have hport : lower "port" = Keyword.port.text := by decide
  have htext : side.keyword ++ " port " ++ decimalNat n =
      side.keyword ++ " " ++ ("port" ++ " " ++ decimalNat n) := by
    have hmark : " port " = " " ++ "port" ++ " " := by decide
    rw [hmark]
    simp only [String.append_assoc]
  rw [htext]
  exact spells_operand (.port "port" n) ((reads_keyword hport).append (reads_number hn))

/-- Phrases that read as terms, one by one. -/
inductive SpellsAll : List String → List Term → Prop where
  | nil : SpellsAll [] []
  | cons {phrase : String} {t : Term} {phrases : List String} {ts : List Term}
    (h : Spells phrase t) (hrest : SpellsAll phrases ts) : SpellsAll (phrase :: phrases) (t :: ts)

theorem SpellsAll.reads_join {phrases : List String} {ts : List Term} (h : SpellsAll phrases ts)
    (hsome : ts ≠ []) :
    ∃ us, Reads (" and ".intercalate phrases) us ∧ Conjunction us ts := by
  induction h with
  | nil => exact absurd rfl hsome
  | @cons phrase t phrases ts h hrest ih =>
    obtain ⟨us, hterm, hreads⟩ := h.reads
    cases hrest with
    | nil =>
      rw [String.intercalate_singleton]
      exact ⟨us, hreads, .last hterm⟩
    | @cons next u phrases ts hnext hrest =>
      obtain ⟨vs, hjoined, hconjunction⟩ := ih (by simp)
      have hand : lower "and" = Keyword.and.text := by decide
      have htext : phrase ++ " and " ++ " and ".intercalate (next :: phrases) =
          phrase ++ " " ++ ("and" ++ " " ++ " and ".intercalate (next :: phrases)) := by
        have hmark : " and " = " " ++ "and" ++ " " := by decide
        generalize " and ".intercalate (next :: phrases) = joined
        rw [hmark]
        simp only [String.append_assoc]
      rw [String.intercalate_cons_cons, htext]
      exact ⟨_, hreads.append ((reads_keyword hand).append hjoined), .and hterm "and" hconjunction⟩

theorem SpellsAll.not_blank {phrases : List String} {ts : List Term} (h : SpellsAll phrases ts)
    (hsome : ts ≠ []) : ∃ c ∈ (" and ".intercalate phrases).toList, isBlank c = false := by
  cases h with
  | nil => exact absurd rfl hsome
  | @cons phrase t phrases ts h hrest =>
    obtain ⟨c, hc, hblank⟩ := h.not_blank
    refine ⟨c, ?_, hblank⟩
    cases phrases with
    | nil => rwa [String.intercalate_singleton]
    | cons next phrases =>
      rw [String.intercalate_cons_cons, String.toList_append, String.toList_append]
      simp [hc]

/-! ## Fields -/

/-- A field that is left out of the phrases, or the phrase of its value. -/
inductive Renders (x : FilterField) : List String → Option Json → Prop where
  | absent : Renders x [] none
  | present {phrase : String} {t : Term} (h : Spells phrase t) (hx : t.field = x) :
    Renders x [phrase] (some t.value)

theorem spellsAll_of_renders {f : Filter} {phrasesOf : FilterField → List String}
    (h : ∀ x, Renders x (phrasesOf x) (fieldOf f x)) {xs : List FilterField} (hxs : xs.Nodup) :
    ∃ ts, SpellsAll (xs.flatMap phrasesOf) ts ∧ (ts.map Term.field).Nodup ∧
      ∀ x v, (∃ t ∈ ts, t.field = x ∧ t.value = v) ↔ x ∈ xs ∧ fieldOf f x = some v := by
  induction xs with
  | nil => exact ⟨[], .nil, by simp, by simp⟩
  | cons x xs ih =>
    -- A term of `x` is new among the terms of `xs`, since `x` is not among `xs`.
    obtain ⟨hx, hxs⟩ := List.nodup_cons.mp hxs
    obtain ⟨ts, hspells, hnodup, hsets⟩ := ih hxs
    rw [List.flatMap_cons]
    generalize hphrases : phrasesOf x = phrases
    have hrender := h x
    rw [hphrases] at hrender
    generalize hvalue : fieldOf f x = value? at hrender
    cases hrender with
    | absent =>
      refine ⟨ts, hspells, hnodup, fun y v => ?_⟩
      rw [hsets]
      constructor
      · rintro ⟨hy, hv⟩
        exact ⟨List.mem_cons_of_mem x hy, hv⟩
      · rintro ⟨hy, hv⟩
        rcases List.mem_cons.mp hy with rfl | hy
        · rw [hvalue] at hv
          contradiction
        · exact ⟨hy, hv⟩
    | @present _ t hphrase hfield =>
      refine ⟨t :: ts, .cons hphrase hspells, ?_, fun y v => ?_⟩
      · rw [List.map_cons, List.nodup_cons, hfield]
        refine ⟨fun hmem => ?_, hnodup⟩
        obtain ⟨u, hu, hux⟩ := List.mem_map.mp hmem
        exact hx ((hsets x u.value).mp ⟨u, hu, hux, rfl⟩).1
      · constructor
        · rintro ⟨u, hu, rfl, rfl⟩
          rcases List.mem_cons.mp hu with rfl | hu
          · rw [hfield]
            exact ⟨List.mem_cons_self, hvalue⟩
          · obtain ⟨hy, hv⟩ := (hsets u.field u.value).mp ⟨u, hu, rfl, rfl⟩
            exact ⟨List.mem_cons_of_mem x hy, hv⟩
        · rintro ⟨hy, hv⟩
          rcases List.mem_cons.mp hy with rfl | hy
          · rw [hvalue] at hv
            exact ⟨t, List.mem_cons_self, hfield, Option.some.inj hv⟩
          · obtain ⟨u, hu, huv⟩ := (hsets y v).mpr ⟨hy, hv⟩
            exact ⟨u, List.mem_cons_of_mem t hu, huv⟩

/-- If every field is left out or rendered, the joined phrases describe the filter. -/
theorem parse_of_renders {f : Filter} {phrasesOf : FilterField → List String}
    (h : ∀ x, Renders x (phrasesOf x) (fieldOf f x)) (hsome : f.isEmpty = false) :
    parse (" and ".intercalate (FilterField.all.flatMap phrasesOf)) = .ok f := by
  have hdistinct : FilterField.all.Nodup := by decide
  have hall : ∀ x, x ∈ FilterField.all := by
    rintro (_ | (_ | _) | (_ | _)) <;> decide
  obtain ⟨ts, hspells, hnodup, hsets⟩ := spellsAll_of_renders h hdistinct
  have hf : Sets ts f := by
    intro x v
    rw [hsets, and_iff_right (hall x)]
  have hts : ts ≠ [] := by
    -- Without a term the filter would leave everything open.
    rintro rfl
    rw [hf.unique sets_nil] at hsome
    contradiction
  obtain ⟨us, hreads, hconjunction⟩ := hspells.reads_join hts
  exact parse_eq_ok_iff.mpr
    ⟨ts, ⟨hspells.not_blank hts, ⟨us, hreads.cut, hconjunction⟩, hnodup⟩, hf⟩

/-! ## Filters -/

/-- The phrases of a field in the expression of a filter. -/
def phrasesOf (f : Filter) : FilterField → List String
  | .protocol =>
    match f.protocol with
    | some (.str s) => [s.text]
    | _ => []
  | .address side => Filter.phrase (side.keyword ++ " ") (f.address side)
  | .port side => Filter.phrase (side.keyword ++ " port ") (f.port side)

variable {f g : Filter} {side : Side}

theorem flatMap_phrasesOf :
    FilterField.all.flatMap (phrasesOf f) =
      phrasesOf f .protocol ++ Filter.phrase "src " f.srcIp ++ Filter.phrase "dst " f.dstIp ++
        Filter.phrase "src port " f.srcPort ++ Filter.phrase "dst port " f.dstPort := by
  simp only [FilterField.all, List.flatMap_cons, List.flatMap_nil, List.append_nil,
    List.append_assoc]
  rfl

theorem expression_eq_ok_iff {e : String} :
    f.expression = .ok e ↔ (∀ v, f.protocol = some v → ∃ s, v = .str s) ∧
      " and ".intercalate (FilterField.all.flatMap (phrasesOf f)) = e := by
  rw [flatMap_phrasesOf, Filter.expression, Filter.protocolPhrase, phrasesOf]
  cases hprotocol : f.protocol with
  | none => simp [pure_ok, ok_bind]
  | some v =>
    cases v with
    | str s => simp [pure_ok, ok_bind]
    | null | bool | num | arr | obj => simp [error_bind]

theorem renders_address (h : ∀ v, f.address side = some v →
      ∃ s w, v = .str s ∧ Address.V4.ofText s.text = .ok w) :
    Renders (.address side) (phrasesOf f (.address side)) (f.address side) := by
  rw [phrasesOf]
  cases hv : f.address side with
  | none => exact .absent
  | some v =>
    obtain ⟨s, w, rfl, hw⟩ := h v hv
    have hrender := Renders.present (spells_address side hw) rfl
    rwa [Term.value, Address.V4.ofString_address hw] at hrender

theorem renders_port (h : ∀ v, f.port side = some v → ∃ n, v = .nat n ∧ n ≤ 65535) :
    Renders (.port side) (phrasesOf f (.port side)) (f.port side) := by
  rw [phrasesOf]
  cases hv : f.port side with
  | none => exact .absent
  | some v =>
    obtain ⟨n, rfl, hn⟩ := h v hv
    have hplain : (Json.nat n).plain = decimalNat n := decimal_natCast n
    rw [Filter.phrase, hplain]
    exact .present (spells_port side (digits_le_maxDigits (by omega))) rfl

theorem renders_protocol {s : LooseText} {q : Protocol} (hf : f.protocol = some (.str s))
    (hq : Filter.protocolOf? (.str s) = some q) :
    Renders .protocol (phrasesOf f .protocol) (some (.str q.name)) := by
  rw [phrasesOf, hf]
  exact .present (spells_protocol (Filter.lower_of_protocolOf? hq)) rfl

/-- The phrases of a filter render the fields of the checked filter that differs from it
in the protocol at most, if they render that. -/
theorem renders_checked (hg : g.Checked) (haddress : f.address = g.address)
    (hport : f.port = g.port) (htexts : ∀ side v, f.address side = some v → ∃ s, v = .str s)
    (hprotocol : Renders .protocol (phrasesOf f .protocol) g.protocol) (x : FilterField) :
    Renders x (phrasesOf f x) (fieldOf g x) := by
  cases x with
  | protocol => exact hprotocol
  | address side =>
    rw [fieldOf, ← haddress]
    apply renders_address
    intro v hv
    obtain ⟨s, rfl⟩ := htexts side v hv
    obtain ⟨w, hw⟩ : ∃ w, Address.V4.ofJson (.str s) = .ok w := by
      rw [haddress] at hv
      cases side with
      | src => exact hg.srcIp _ hv
      | dst => exact hg.dstIp _ hv
    exact ⟨s, w, rfl, Address.V4.ofText_of_ofJson hw⟩
  | port side =>
    rw [fieldOf, ← hport]
    apply renders_port
    intro v hv
    rw [hport] at hv
    cases side with
    | src => exact hg.srcPort v hv
    | dst => exact hg.dstPort v hv

theorem checked_reads_back (hg : g.Checked)
    (htexts : ∀ side v, g.address side = some v → ∃ s, v = .str s) :
    ∃ e, g.expression = .ok e ∧ parse e = .ok g := by
  have hprotocol : Renders .protocol (phrasesOf g .protocol) g.protocol := by
    cases hv : g.protocol with
    | none =>
      rw [phrasesOf, hv]
      exact .absent
    | some v =>
      obtain ⟨q, rfl⟩ := hg.protocol v hv
      exact renders_protocol hv (Filter.protocolOf?_name q)
  have htext : ∀ v, g.protocol = some v → ∃ s, v = .str s := by
    intro v hv
    obtain ⟨q, rfl⟩ := hg.protocol v hv
    exact ⟨_, rfl⟩
  have hrenders := renders_checked hg rfl rfl htexts hprotocol
  exact ⟨_, expression_eq_ok_iff.mpr ⟨htext, rfl⟩, parse_of_renders hrenders hg.something⟩

theorem validated_reads_back (h : f.validated = .ok g)
    (htexts : ∀ side v, f.address side = some v → ∃ s, v = .str s) :
    ∃ e, f.expression = .ok e ∧ parse e = .ok g := by
  have hg := Filter.validated_checked h
  obtain ⟨haddress, hport⟩ := Filter.validated_keeps h
  obtain ⟨htext, hprotocol⟩ : (∀ v, f.protocol = some v → ∃ s, v = .str s) ∧
      Renders .protocol (phrasesOf f .protocol) g.protocol := by
    rcases Filter.validated_eq h with ⟨hv, rfl⟩ | ⟨v, q, hv, hq, rfl⟩
    · rw [phrasesOf, hv]
      exact ⟨fun v hnone => (Option.some_ne_none v hnone.symm).elim, .absent⟩
    · obtain ⟨s, rfl⟩ := Filter.text_of_protocolOf? hq
      exact ⟨fun w hw => ⟨s, Option.some.inj (hw.symm.trans hv)⟩, renders_protocol hv hq⟩
  have hrenders := renders_checked hg haddress hport htexts hprotocol
  exact ⟨_, expression_eq_ok_iff.mpr ⟨htext, rfl⟩, parse_of_renders hrenders hg.something⟩

/-- **Expressions read back.** The expression of a filter that has passed validation is
read as the same filter, if its addresses are texts. So is the expression that the filter
had before, with the protocol in any letter case. -/
theorem expression_reads_back (h : f.validated = .ok g)
    (htexts : ∀ side v, f.address side = some v → ∃ s, v = .str s) :
    (∃ e, g.expression = .ok e ∧ parse e = .ok g) ∧
      ∃ e, f.expression = .ok e ∧ parse e = .ok g := by
  have htexts' : ∀ side v, g.address side = some v → ∃ s, v = .str s := by
    rw [← (Filter.validated_keeps h).1]
    exact htexts
  exact ⟨checked_reads_back (Filter.validated_checked h) htexts', validated_reads_back h htexts⟩

theorem expression_reads_back_webFilter :
    Filter.validated { webFilter with protocol := some (.str "TCP") } = .ok webFilter ∧
      parse "tcp and src 10.0.0.1 and dst port 80" = .ok webFilter ∧
      parse "TCP and src 10.0.0.1 and dst port 80" = .ok webFilter := by
  have hvalidated : Filter.validated { webFilter with protocol := some (.str "TCP") } =
      .ok webFilter := rfl
  have htexts : ∀ side v, Filter.address { webFilter with protocol := some (.str "TCP") } side =
      some v → ∃ s, v = .str s := by
    rintro (_ | _) v hv
    · cases hv
      exact ⟨_, rfl⟩
    · contradiction
  obtain ⟨⟨e, he, hparse⟩, e', he', hbefore⟩ := expression_reads_back hvalidated htexts
  have htext : webFilter.expression = .ok "tcp and src 10.0.0.1 and dst port 80" := rfl
  have htext' : Filter.expression { webFilter with protocol := some (.str "TCP") } =
      .ok "TCP and src 10.0.0.1 and dst port 80" := rfl
  cases htext.symm.trans he
  cases htext'.symm.trans he'
  exact ⟨hvalidated, hparse, hbefore⟩

end PacketFilter.Expression
