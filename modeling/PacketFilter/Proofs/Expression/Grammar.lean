import PacketFilter.Expression.Grammar
import PacketFilter.Proofs.Expression.Token
import PacketFilter.Proofs.Text.Blank

/-
  The language of filter expressions.

  `Conjunction` derives the terms of a sequence of tokens from a grammar: terms joined by
  `and`, a term being a protocol or a side with an operand. The reader, which takes one
  token after the other, accepts exactly the sequences that the grammar derives
  (`termsFrom_term_iff`). A text describes a filter if and only if it is cut into tokens,
  they derive terms and no two terms set the same field; the filter then has the values
  of the terms and no others (`parse_iff_expresses`).
-/

namespace PacketFilter.Expression

open Text

/-! ## The grammar -/

/-- What follows a side. -/
inductive Operand (side : Side) : List Token → Term → Prop where
  | address (text : String) : Operand side [.address text] (.address side text)
  | host (spelling text : String) :
    Operand side [.keyword .host spelling, .address text] (.address side text)
  | port (spelling : String) (n : Int) :
    Operand side [.keyword .port spelling, .number n] (.port side n)

/-- The tokens of a term. -/
inductive IsTerm : List Token → Term → Prop where
  | protocol {k : Keyword} {q : Protocol} (spelling : String) (h : k.text = q.name) :
    IsTerm [.keyword k spelling] (.protocol q)
  | operand {k : Keyword} {side : Side} {us : List Token} {t : Term} (spelling : String)
    (hk : k.text = side.keyword) (h : Operand side us t) : IsTerm (.keyword k spelling :: us) t

/-- The tokens of terms joined by `and`. -/
inductive Conjunction : List Token → List Term → Prop where
  | last {us : List Token} {t : Term} (h : IsTerm us t) : Conjunction us [t]
  | and {us rest : List Token} {t : Term} {ts : List Term} (h : IsTerm us t) (spelling : String)
    (hrest : Conjunction rest ts) : Conjunction (us ++ .keyword .and spelling :: rest) (t :: ts)

/-- The tokens that may follow a term, and the terms among them. -/
inductive Follows : List Token → List Term → Prop where
  | nothing : Follows [] []
  | and {rest : List Token} {ts : List Term} (spelling : String) (h : Conjunction rest ts) :
    Follows (.keyword .and spelling :: rest) ts

/-! ## The reader -/

variable {stop : Option ScanError} {token : Token} {us rest tokens : List Token} {t : Term}
  {ts : List Term} {side : Side}

theorem Keyword.protocol?_eq_some_iff {k : Keyword} {q : Protocol} :
    k.protocol? = some q ↔ k.text = q.name := by
  cases k <;> cases q <;> decide

theorem Keyword.side?_eq_some_iff {k : Keyword} : k.side? = some side ↔ k.text = side.keyword := by
  cases k <;> cases side <;> decide

theorem termsFrom_cons_eq_ok {expecting : Expecting} :
    termsFrom stop expecting (token :: rest) = .ok ts ↔
      ∃ after, step expecting token = some after ∧
        ∃ more, termsFrom stop after.1 rest = .ok more ∧ after.2.toList ++ more = ts := by
  rw [termsFrom]
  cases step expecting token with
  | none => simp
  | some after => simp [map_eq_ok]

theorem termsFrom_stop {e : ScanError} {expecting : Expecting} :
    termsFrom (some e) expecting tokens ≠ .ok ts := by
  intro h
  induction tokens generalizing expecting ts with
  | nil => contradiction
  | cons token rest ih =>
    obtain ⟨after, -, more, hmore, -⟩ := termsFrom_cons_eq_ok.mp h
    exact ih hmore

theorem step_protocol {k : Keyword} {q : Protocol} (hk : k.text = q.name) (spelling : String) :
    step .term (.keyword k spelling) = some (.joint, some (.protocol q)) := by
  rw [step, Keyword.protocol?_eq_some_iff.mpr hk]

theorem step_side {k : Keyword} (hk : k.text = side.keyword) (spelling : String) :
    step .term (.keyword k spelling) = some (.operand side, none) := by
  have hprotocol : k.protocol? = none := by
    revert hk
    cases k <;> cases side <;> decide
  rw [step, hprotocol, Keyword.side?_eq_some_iff.mpr hk]

theorem Operand.termsFrom (h : Operand side us t) (hrest : termsFrom stop .joint rest = .ok ts) :
    termsFrom stop (.operand side) (us ++ rest) = .ok (t :: ts) := by
  have hlast : ∀ expecting token, step expecting token = some (.joint, some t) →
      Expression.termsFrom stop expecting (token :: rest) = .ok (t :: ts) :=
    fun _ _ hstep => termsFrom_cons_eq_ok.mpr ⟨_, hstep, ts, hrest, rfl⟩
  cases h with
  | address text => exact hlast _ _ rfl
  | host spelling text => exact termsFrom_cons_eq_ok.mpr ⟨_, rfl, _, hlast (.host side) _ rfl, rfl⟩
  | port spelling n => exact termsFrom_cons_eq_ok.mpr ⟨_, rfl, _, hlast (.port side) _ rfl, rfl⟩

theorem IsTerm.termsFrom (h : IsTerm us t) (hrest : termsFrom stop .joint rest = .ok ts) :
    termsFrom stop .term (us ++ rest) = .ok (t :: ts) := by
  cases h with
  | protocol spelling hk =>
    exact termsFrom_cons_eq_ok.mpr ⟨_, step_protocol hk spelling, ts, hrest, rfl⟩
  | operand spelling hk hoperand =>
    exact termsFrom_cons_eq_ok.mpr ⟨_, step_side hk spelling, _, hoperand.termsFrom hrest, rfl⟩

theorem Follows.conjunction (hrest : Follows rest ts) (h : IsTerm us t) :
    Conjunction (us ++ rest) (t :: ts) := by
  cases hrest with
  | nothing => simpa using Conjunction.last h
  | and spelling hrest => exact .and h spelling hrest

/-- What the reader demands of the tokens still to come, and the terms they give. -/
def Expecting.Demands : Expecting → List Token → List Term → Prop
  | .term, tokens, ts => Conjunction tokens ts
  | .operand side, tokens, ts =>
    ∃ us rest t more, Operand side us t ∧ Follows rest more ∧ tokens = us ++ rest ∧ ts = t :: more
  | .host side, tokens, ts =>
    ∃ text rest more, Follows rest more ∧ tokens = .address text :: rest ∧
      ts = .address side text :: more
  | .port side, tokens, ts =>
    ∃ n rest more, Follows rest more ∧ tokens = .number n :: rest ∧ ts = .port side n :: more
  | .joint, tokens, ts => Follows tokens ts

/-- Before a token that fits, the reader demands the token and what it demands after it. -/
theorem Expecting.Demands.step {expecting : Expecting} {after : Expecting × Option Term}
    (h : after.1.Demands rest ts) (hstep : step expecting token = some after) :
    expecting.Demands (token :: rest) (after.2.toList ++ ts) := by
  revert hstep
  -- The cases are the branches of `step`; those without a next state fit no token.
  fun_cases Expression.step expecting token <;> rintro ⟨⟩
  case case1 k spelling q hk =>
    exact Follows.conjunction h (.protocol spelling (Keyword.protocol?_eq_some_iff.mp hk))
  case case2 k spelling side hk _ =>
    obtain ⟨us, rest, t, more, hoperand, hrest, rfl, rfl⟩ := h
    exact hrest.conjunction (.operand spelling (Keyword.side?_eq_some_iff.mp hk) hoperand)
  case case4 side text => exact ⟨_, rest, _, ts, .address text, h, rfl, rfl⟩
  case case5 side spelling =>
    obtain ⟨text, rest, more, hrest, rfl, rfl⟩ := h
    exact ⟨_, rest, _, more, .host spelling text, hrest, rfl, rfl⟩
  case case6 side spelling =>
    obtain ⟨n, rest, more, hrest, rfl, rfl⟩ := h
    exact ⟨_, rest, _, more, .port spelling n, hrest, rfl, rfl⟩
  case case7 side text => exact ⟨text, rest, ts, h, rfl, rfl⟩
  case case8 side n => exact ⟨n, rest, ts, h, rfl, rfl⟩
  case case9 spelling => exact .and spelling h

theorem Expecting.demands_of_termsFrom {expecting : Expecting}
    (h : termsFrom none expecting tokens = .ok ts) : expecting.Demands tokens ts := by
  induction tokens generalizing expecting ts with
  | nil =>
    cases expecting with
    | joint =>
      cases h
      exact .nothing
    | term | operand | host | port => contradiction
  | cons token rest ih =>
    obtain ⟨after, hstep, more, hmore, rfl⟩ := termsFrom_cons_eq_ok.mp h
    exact (ih hmore).step hstep

/-- The reader accepts exactly what the grammar derives. -/
theorem termsFrom_term_iff : termsFrom none .term tokens = .ok ts ↔ Conjunction tokens ts := by
  constructor
  · intro h
    exact Expecting.demands_of_termsFrom h
  · intro h
    induction h with
    | @last us t h =>
      have hread := h.termsFrom (show termsFrom none .joint [] = .ok [] from rfl)
      rwa [List.append_nil] at hread
    | and h spelling _ ih => exact h.termsFrom (termsFrom_cons_eq_ok.mpr ⟨_, rfl, _, ih, rfl⟩)

/-! ## Texts -/

theorem trim_isEmpty_iff {text : String} :
    (trim text.toList).isEmpty = false ↔ ∃ c ∈ text.toList, isBlank c = false := by
  rw [List.isEmpty_eq_false_iff, trim, Ne, trimWhere_eq_nil_iff]
  simp

theorem terms_eq_ok_iff {text : String} :
    terms text = .ok ts ↔ (∃ c ∈ text.toList, isBlank c = false) ∧
      ∃ tokens, Cut text.toList tokens ∧ Conjunction tokens ts := by
  rw [terms]
  split
  · next hempty => simp [← trim_isEmpty_iff, hempty]
  · next hsome =>
    -- What is left is whether the scan reaches the end, where the grammar decides.
    rw [← trim_isEmpty_iff, and_iff_right (by simpa using hsome), scan]
    constructor
    · intro h
      rcases hscan : scanFrom 0 text.toList with ⟨tokens, stop | e⟩
      · rw [hscan] at h
        exact ⟨tokens, scanFrom_eq_iff.mp hscan, termsFrom_term_iff.mp h⟩
      · rw [hscan] at h
        exact absurd h termsFrom_stop
    · rintro ⟨tokens, hcut, hconjunction⟩
      rw [scanFrom_eq_iff.mpr hcut]
      exact termsFrom_term_iff.mpr hconjunction

/-! ## Filters -/

/-- The value that a term gives to its field. -/
def Term.value : Term → Json
  | protocol q => .str q.name
  | address _ text => .str text
  | port _ n => .int n

def fieldOf (f : Filter) : FilterField → Option Json
  | .protocol => f.protocol
  | .address side => f.address side
  | .port side => f.port side

/-- The fields of a filter that are set are those of the terms, with their values. -/
def Sets (ts : List Term) (f : Filter) : Prop :=
  ∀ x v, fieldOf f x = some v ↔ ∃ t ∈ ts, t.field = x ∧ t.value = v

variable {f g : Filter} {seen : List FilterField}

theorem fieldOf_ext (h : ∀ x, fieldOf f x = fieldOf g x) : f = g := by
  cases f
  cases g
  have hprotocol := h .protocol
  have hsrcIp := h (.address .src)
  have hdstIp := h (.address .dst)
  have hsrcPort := h (.port .src)
  have hdstPort := h (.port .dst)
  simp_all only [fieldOf, Filter.address, Filter.port]

theorem Sets.unique (hf : Sets ts f) (hg : Sets ts g) : f = g := by
  apply fieldOf_ext
  intro x
  apply Option.ext
  intro v
  rw [hf x v, hg x v]

theorem fieldOf_set (t : Term) (f : Filter) (x : FilterField) :
    fieldOf (t.set f) x = if t.field = x then some t.value else fieldOf f x := by
  cases t with
  | protocol q => cases x <;> rfl
  | address side text => rcases side with _ | _ <;> rcases x with _ | (_ | _) | (_ | _) <;> rfl
  | port side n => rcases side with _ | _ <;> rcases x with _ | (_ | _) | (_ | _) <;> rfl

theorem Sets.cons (h : Sets ts f) (hnew : t.field ∉ ts.map Term.field) :
    Sets (t :: ts) (t.set f) := by
  intro x v
  rw [fieldOf_set]
  split
  · next hx =>
    subst hx
    constructor
    · rintro ⟨⟩
      exact ⟨t, List.mem_cons_self, rfl, rfl⟩
    · rintro ⟨u, hu, hfield, rfl⟩
      rcases List.mem_cons.mp hu with rfl | hu
      · rfl
      · exact absurd (List.mem_map.mpr ⟨u, hu, hfield⟩) hnew
  · next hx =>
    rw [h x v]
    constructor
    · rintro ⟨u, hu, hvalue⟩
      exact ⟨u, List.mem_cons_of_mem t hu, hvalue⟩
    · rintro ⟨u, hu, hfield, hvalue⟩
      rcases List.mem_cons.mp hu with rfl | hu
      · exact absurd hfield hx
      · exact ⟨u, hu, hfield, hvalue⟩

theorem filterFrom_sets {before : List Term} (hbefore : Sets before f)
    (h : filterFrom (before.map Term.field) f ts = .ok g) : Sets (ts.reverse ++ before) g := by
  induction ts generalizing before f with
  | nil =>
    cases h
    exact hbefore
  | cons t ts ih =>
    rw [filterFrom] at h
    split at h
    · contradiction
    · next hnew =>
      rw [List.reverse_cons, List.append_assoc]
      exact ih (hbefore.cons (by simpa using hnew)) h

/-- Terms make a filter as long as none sets a field that is set already. -/
theorem filterFrom_ok_iff :
    (∃ g, filterFrom seen f ts = .ok g) ↔
      (∀ t ∈ ts, t.field ∉ seen) ∧ (ts.map Term.field).Nodup := by
  induction ts generalizing seen f with
  | nil => simp [filterFrom]
  | cons t ts ih =>
    rw [filterFrom]
    split
    · next hseen => simp_all
    · next hseen =>
      rw [ih, List.forall_mem_cons, List.map_cons, List.nodup_cons]
      constructor
      · rintro ⟨hnew, hnodup⟩
        refine ⟨⟨by simpa using hseen, fun u hu hmem => hnew u hu (List.mem_cons_of_mem _ hmem)⟩,
          ?_, hnodup⟩
        intro hmem
        obtain ⟨u, hu, hfield⟩ := List.mem_map.mp hmem
        exact hnew u hu (by simp [hfield])
      · rintro ⟨⟨-, hrest⟩, hfresh, hnodup⟩
        refine ⟨fun u hu hmem => ?_, hnodup⟩
        rcases List.mem_cons.mp hmem with hfield | hmem
        · exact hfresh (List.mem_map.mpr ⟨u, hu, hfield⟩)
        · exact hrest u hu hmem

theorem sets_nil : Sets [] {} := by
  intro x v
  rcases x with _ | (_ | _) | (_ | _) <;> simp [fieldOf, Filter.address, Filter.port]

theorem filterFrom_eq_ok_iff :
    filterFrom [] {} ts = .ok f ↔ (ts.map Term.field).Nodup ∧ Sets ts f := by
  have hsets : ∀ g, filterFrom [] {} ts = .ok g → Sets ts g := by
    intro g hg x v
    simpa using filterFrom_sets sets_nil hg x v
  constructor
  · intro h
    exact ⟨(filterFrom_ok_iff.mp ⟨f, h⟩).2, hsets f h⟩
  · rintro ⟨hnodup, hf⟩
    obtain ⟨g, hg⟩ := filterFrom_ok_iff.mpr ⟨fun _ _ => List.not_mem_nil, hnodup⟩
    rw [hg, hf.unique (hsets g hg)]

/-- The terms that a text expresses. -/
structure Expresses (text : String) (ts : List Term) : Prop where
  not_blank : ∃ c ∈ text.toList, isBlank c = false
  derived : ∃ tokens, Cut text.toList tokens ∧ Conjunction tokens ts
  once : (ts.map Term.field).Nodup

theorem parse_eq_ok_iff {text : String} :
    parse text = .ok f ↔ ∃ ts, Expresses text ts ∧ Sets ts f := by
  rw [parse, bind_eq_ok]
  constructor
  · rintro ⟨ts, hterms, hf⟩
    obtain ⟨hblank, hderived⟩ := terms_eq_ok_iff.mp hterms
    obtain ⟨honce, hsets⟩ := filterFrom_eq_ok_iff.mp hf
    exact ⟨ts, ⟨hblank, hderived, honce⟩, hsets⟩
  · rintro ⟨ts, h, hsets⟩
    exact ⟨ts, terms_eq_ok_iff.mpr ⟨h.not_blank, h.derived⟩,
      filterFrom_eq_ok_iff.mpr ⟨h.once, hsets⟩⟩

/-- **What is an expression.** A text describes a filter if and only if it is not blank, is
cut into tokens, and the tokens derive terms of which no two set the same field. The
filter has the values of the terms in their fields, and every other field is open. -/
theorem parse_iff_expresses (text : String) :
    ((∃ f, parse text = .ok f) ↔ ∃ ts, Expresses text ts) ∧
      ∀ f, parse text = .ok f ↔ ∃ ts, Expresses text ts ∧ Sets ts f := by
  refine ⟨?_, fun f => parse_eq_ok_iff⟩
  constructor
  · rintro ⟨f, hf⟩
    obtain ⟨ts, hts, -⟩ := parse_eq_ok_iff.mp hf
    exact ⟨ts, hts⟩
  · rintro ⟨ts, hts⟩
    obtain ⟨f, hf⟩ := filterFrom_ok_iff.mpr ⟨fun _ _ => List.not_mem_nil, hts.once⟩
    exact ⟨f, parse_eq_ok_iff.mpr ⟨ts, hts, (filterFrom_eq_ok_iff.mp hf).2⟩⟩

end PacketFilter.Expression
