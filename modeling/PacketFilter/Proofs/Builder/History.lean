import PacketFilter.Proofs.Builder.Steps

/-
  What a builder does, told from its history.

  A history is the list of calls made to a fresh builder, each with its answer.
  Three things are read off it: the instructions whose addition was answered
  (`added`), the jumps set at a position (`patchesAt`), and the notes taken
  (`noted`). The builder itself does not enter into these.

  What is proved, for calls whose numbers are whole:
    1. `call_tracks` and `run_tracks`: the builder holds the added instructions,
       each with the jumps last set at its position, and the notes in order;
    2. `run_follows`: so the history decides what the builder does next. It says
       which calls succeed, where an instruction goes and what program is handed
       out; a call that fails changes nothing; and once a program is handed out
       every call but a look at an instruction fails, whatever its arguments.
-/

namespace PacketFilter

namespace Builder

/-! ## Calls -/

/-- A call of a builder, with its numbers given as `ν`. -/
inductive Call (ν : Type) where
  | add (opcode jt jf k : ν) (purpose : Option Purpose)
  | patch (position jt jf : ν)
  | note (text : String)
  | get (position : ν)
  | finalize (filterExpr : String) (rationale : Option String)
  deriving DecidableEq, Repr

namespace Call

variable {ν μ : Type}

def map (f : ν → μ) : Call ν → Call μ
  | add opcode jt jf k purpose => add (f opcode) (f jt) (f jf) (f k) purpose
  | patch position jt jf => patch (f position) (f jt) (f jf)
  | note text => note text
  | get position => get (f position)
  | finalize filterExpr rationale => finalize filterExpr rationale

def isGet : Call ν → Bool
  | get _ => true
  | _ => false

def isFinalize : Call ν → Bool
  | finalize _ _ => true
  | _ => false

end Call

inductive Answer where
  | position (n : Nat)
  | done
  | instruction (i : Instruction)
  | program (p : Program)
  deriving DecidableEq, Repr

/-- The builder after a step that failed or gave a new builder, and the answer. -/
def settle {α : Type} (b : Builder) (next : α → Builder) (answer : α → Answer) :
    Except BuilderError α → Builder × Except BuilderError Answer
  | .ok a => (next a, .ok (answer a))
  | .error e => (b, .error e)

/-- The builder after a call, and what the call answers. -/
def call (b : Builder) : Call Json → Builder × Except BuilderError Answer
  | .add opcode jt jf k purpose =>
    b.settle (·.1) (fun r => .position r.2) (b.add opcode jt jf k purpose)
  | .patch position jt jf => b.settle id (fun _ => .done) (b.patch position jt jf)
  | .note text => b.settle id (fun _ => .done) (b.note text)
  | .get position => b.settle (fun _ => b) .instruction (b.get position)
  | .finalize filterExpr rationale =>
    ((b.finalize filterExpr rationale).1,
      (b.finalize filterExpr rationale).2.map .program)

/-- The builder after a call with whole numbers. -/
def next (b : Builder) (c : Call Whole) : Builder := (b.call (c.map .whole)).1

/-- What a call with whole numbers answers. -/
def answer (b : Builder) (c : Call Whole) : Except BuilderError Answer :=
  (b.call (c.map .whole)).2

/-! ## Histories -/

/-- A call and what it answered. -/
abbrev Event := Call Whole × Except BuilderError Answer

def after (b : Builder) (calls : List (Call Whole)) : Builder := calls.foldl next b

/-- The history of calls made one after another. -/
def history (b : Builder) : List (Call Whole) → List Event
  | [] => []
  | c :: calls => (c, b.answer c) :: history (b.next c) calls

/-- An instruction that was added, as it was given. -/
structure Added where
  opcode : Whole
  jt : Whole
  jf : Whole
  k : Whole
  purpose : Option Purpose
  deriving DecidableEq, Repr

/-- The instruction an event adds. -/
def added? : Event → Option Added
  | (.add opcode jt jf k purpose, .ok _) => some ⟨opcode, jt, jf, k, purpose⟩
  | _ => none

/-- The jumps an event sets at a position. -/
def patchedAt? (i : Nat) : Event → Option (Whole × Whole)
  | (.patch position jt jf, .ok _) => if position.value = i then some (jt, jf) else none
  | _ => none

def noted? : Event → Option String
  | (.note text, .ok _) => some text
  | _ => none

/-- The instructions that were added, in order. -/
def added (past : List Event) : List Added := past.filterMap added?

/-- The jumps that were set at a position, the last ones at the end. -/
def patchesAt (i : Nat) (past : List Event) : List (Whole × Whole) := past.filterMap (patchedAt? i)

def noted (past : List Event) : List String := past.filterMap noted?

/-- Whether the program was asked for. -/
def finalizes (past : List Event) : Bool := past.any (fun e => e.1.isFinalize)

/-- The jumps of an instruction added at position `i`: the last that were set there,
or else its own. -/
def jumpsOf (past : List Event) (i : Nat) (a : Added) : Whole × Whole :=
  (patchesAt i past).getLast?.getD (a.jt, a.jf)

/-- The arguments of a call are within their limits, with `n` instructions there. -/
def Call.InRange (n : Nat) : Call Whole → Prop
  | .add opcode jt jf k _ => Fitting opcode jt jf k
  | .patch position jt jf =>
    (0 ≤ position.value ∧ position.value < n) ∧ FieldName.jt.Allows jt ∧ FieldName.jf.Allows jf
  | .get position => -(n : Int) ≤ position.value ∧ position.value < n ∧ isIndex position.value
  | .note _ | .finalize _ _ => True

/-- What a builder does next, told from its history. -/
structure Follows (past : List Event) (b : Builder) : Prop where
  /-- A call succeeds if its arguments are within their limits and the builder is open;
  looking at an instruction does not need it open. -/
  accepts : ∀ c, (∃ a, b.answer c = .ok a) ↔
    c.InRange (added past).length ∧ (c.isGet = true ∨ finalizes past = false)
  /-- An added instruction goes behind those added before. -/
  position : ∀ opcode jt jf k purpose a, b.answer (.add opcode jt jf k purpose) = .ok a →
    a = .position (added past).length
  /-- A call that fails changes nothing. -/
  unchanged : ∀ c e, b.answer c = .error e → b.next c = b
  /-- The first call for the program is answered with the added instructions, each with
  the jumps last set at its position, and the notes. -/
  program : finalizes past = false → ∀ filterExpr rationale,
    ∃ p, b.answer (.finalize filterExpr rationale) = .ok (.program p) ∧
      p.filterExpr = filterExpr ∧ p.rationale = rationale ∧ p.optimizations = noted past ∧
      p.size = (added past).length ∧
      ∀ (position : Nat) (a : Added), (added past)[position]? = some a →
        ∃ i, p.instructions[position]? = some i ∧ i.purpose = a.purpose ∧
          i.Has a.opcode (jumpsOf past position a).1 (jumpsOf past position a).2 a.k
  /-- After that every call but a look at an instruction fails, whatever its arguments. -/
  retired : finalizes past = true → ∀ c : Call Json, c.isGet = false →
    b.call c = (b, .error .finalized)

/-! ## What the builder holds -/

/-- The draft of an added instruction with the given jumps. -/
def Added.draft (a : Added) (jumps : Whole × Whole) : Draft :=
  ⟨.whole a.opcode, .whole jumps.1, .whole jumps.2, .whole a.k, a.purpose⟩

/-- The builder holds what its history says. -/
structure Tracks (past : List Event) (b : Builder) : Prop where
  drafts : b.drafts = (added past).mapIdx (fun i a => a.draft (jumpsOf past i a))
  notes : b.notes = noted past
  finalized : b.finalized = finalizes past
  fitting : ∀ (i : Nat) (a : Added), (added past)[i]? = some a →
    Fitting a.opcode (jumpsOf past i a).1 (jumpsOf past i a).2 a.k
  unpatched : ∀ i, (added past).length ≤ i → patchesAt i past = []

section
variable (past : List Event) (e : Event)

theorem added_snoc : added (past ++ [e]) = added past ++ (added? e).toList := by
  cases h : added? e <;> simp [added, h]

theorem patchesAt_snoc (i : Nat) :
    patchesAt i (past ++ [e]) = patchesAt i past ++ (patchedAt? i e).toList := by
  cases h : patchedAt? i e <;> simp [patchesAt, h]

theorem noted_snoc : noted (past ++ [e]) = noted past ++ (noted? e).toList := by
  cases h : noted? e <;> simp [noted, h]

theorem finalizes_snoc : finalizes (past ++ [e]) = (finalizes past || e.1.isFinalize) := by
  simp [finalizes]

theorem jumpsOf_snoc (i : Nat) (a : Added) :
    jumpsOf (past ++ [e]) i a = (patchedAt? i e).getD (jumpsOf past i a) := by
  rw [jumpsOf, patchesAt_snoc]
  cases patchedAt? i e <;> simp [jumpsOf]

end

/-- An event that adds nothing, sets no jumps and takes no note leaves the builder on
track, but for what it says of the program. -/
theorem Tracks.idle {past : List Event} {b : Builder} (h : Tracks past b) {e : Event}
    (hadd : added? e = none) (hpatch : ∀ i, patchedAt? i e = none) (hnote : noted? e = none)
    {b' : Builder} (hdrafts : b'.drafts = b.drafts) (hnotes : b'.notes = b.notes)
    (hf : b'.finalized = (finalizes past || e.1.isFinalize)) : Tracks (past ++ [e]) b' where
  drafts := by simpa [added_snoc, jumpsOf_snoc, hadd, hpatch, hdrafts] using h.drafts
  notes := by simpa [noted_snoc, hnote, hnotes] using h.notes
  finalized := by rw [finalizes_snoc, hf]
  fitting := by simpa [added_snoc, jumpsOf_snoc, hadd, hpatch] using h.fitting
  unpatched := by simpa [added_snoc, patchesAt_snoc, hadd, hpatch] using h.unpatched

/-- A call that fails leaves no trace in what is read off the history. -/
theorem Tracks.failed {past : List Event} {b : Builder} (h : Tracks past b) {c : Call Whole}
    (hc : c.isFinalize = false) (e : BuilderError) : Tracks (past ++ [(c, .error e)]) b := by
  refine h.idle ?_ ?_ ?_ rfl rfl ?_
  · cases c <;> rfl
  · intro i; cases c <;> rfl
  · cases c <;> rfl
  · rw [h.finalized, hc, Bool.or_false]

/-- Adding an instruction keeps the builder on track: no jumps were set yet where it goes. -/
theorem Tracks.add {past : List Event} {b : Builder} (h : Tracks past b) (a : Added)
    (hfit : Fitting a.opcode a.jt a.jf a.k) (answer : Answer) :
    Tracks (past ++ [(.add a.opcode a.jt a.jf a.k a.purpose, .ok answer)])
      { b with drafts := b.drafts ++ [a.draft (a.jt, a.jf)] } := by
  have hown : jumpsOf past (added past).length a = (a.jt, a.jf) := by
    rw [jumpsOf, h.unpatched _ (Nat.le_refl _)]; rfl
  constructor
  · simp [added_snoc, jumpsOf_snoc, added?, patchedAt?, List.mapIdx_append, h.drafts, hown]
  · simpa [noted_snoc, noted?] using h.notes
  · simpa [finalizes_snoc, Call.isFinalize] using h.finalized
  · intro i x hx
    simp only [added_snoc, added?, Option.toList_some, jumpsOf_snoc, patchedAt?, Option.getD_none]
      at hx ⊢
    rcases Nat.lt_or_ge i (added past).length with hi | hi
    · rw [List.getElem?_append_left hi] at hx
      exact h.fitting i x hx
    · rw [List.getElem?_append_right hi, List.getElem?_singleton] at hx
      split at hx
      · next hlast =>
        cases hx
        have : i = (added past).length := by omega
        rw [this, hown]
        exact hfit
      · contradiction
  · intro i hi
    have : (added past).length ≤ i := by simp [added_snoc, added?] at hi; omega
    simpa [patchesAt_snoc, patchedAt?] using h.unpatched i this

theorem Tracks.note {past : List Event} {b : Builder} (h : Tracks past b) (text : String)
    (answer : Answer) :
    Tracks (past ++ [(.note text, .ok answer)]) { b with notes := b.notes ++ [text] } where
  drafts := by simpa [added_snoc, jumpsOf_snoc, added?, patchedAt?] using h.drafts
  notes := by simp [noted_snoc, noted?, h.notes]
  finalized := by simpa [finalizes_snoc, Call.isFinalize] using h.finalized
  fitting := by simpa [added_snoc, jumpsOf_snoc, added?, patchedAt?] using h.fitting
  unpatched := by simpa [added_snoc, patchesAt_snoc, added?, patchedAt?] using h.unpatched

/-- Setting jumps keeps the builder on track: they are now the last at their position. -/
theorem Tracks.patch {past : List Event} {b : Builder} (h : Tracks past b)
    {position jt jf : Whole} (hlow : 0 ≤ position.value) (hhigh : position.value < b.size)
    (ht : FieldName.jt.Allows jt) (hf : FieldName.jf.Allows jf) (answer : Answer) :
    Tracks (past ++ [(.patch position jt jf, .ok answer)])
      (b.setJumps position.value.toNat jt jf) := by
  have hsize : b.size = (added past).length := by simp [size, h.drafts]
  have hat (i : Nat) : patchedAt? i (.patch position jt jf, .ok answer) =
      if position.value.toNat = i then some (jt, jf) else none := by
    simp only [patchedAt?]
    congr 1
    simp; omega
  constructor
  · apply List.ext_getElem?
    intro i
    simp only [setJumps, List.getElem?_modify, h.drafts, List.getElem?_mapIdx, added_snoc, added?,
      Option.toList_none, List.append_nil, jumpsOf_snoc, hat]
    cases (added past)[i]? with
    | none => rfl
    | some a => by_cases hi : position.value.toNat = i <;> simp [hi, Added.draft]
  · simpa [noted_snoc, noted?, setJumps] using h.notes
  · simpa [finalizes_snoc, Call.isFinalize, setJumps] using h.finalized
  · intro i a ha
    simp only [added_snoc, added?, Option.toList_none, List.append_nil] at ha
    have hold := h.fitting i a ha
    rw [jumpsOf_snoc, hat]
    split
    · exact ⟨hold.opcode, ht, hf, hold.k⟩
    · exact hold
  · intro i hi
    have hlast : (added past).length ≤ i := by simpa [added_snoc, added?] using hi
    have hne : ¬ position.value.toNat = i := by omega
    simp [patchesAt_snoc, hat, hne, h.unpatched i hlast]

theorem Tracks.made {past : List Event} {b : Builder} (h : Tracks past b) :
    ∀ d ∈ b.drafts, ∃ i, d.instruction = .ok i := by
  intro d hd
  rw [h.drafts] at hd
  obtain ⟨i, hi, rfl⟩ := List.mem_mapIdx.mp hd
  exact Instruction.make?_fitting (h.fitting i _ (List.getElem?_eq_getElem hi)) _

theorem Tracks.instructions {past : List Event} {b : Builder} (h : Tracks past b) :
    ∃ is, b.drafts.mapM Draft.instruction = .ok is ∧ is.length = (added past).length ∧
      ∀ (position : Nat) (a : Added), (added past)[position]? = some a →
        ∃ i, is[position]? = some i ∧ i.purpose = a.purpose ∧
          i.Has a.opcode (jumpsOf past position a).1 (jumpsOf past position a).2 a.k := by
  obtain ⟨is, his, hlen, hget⟩ := mapM_ok h.made
  refine ⟨is, his, by rw [hlen, h.drafts, List.length_mapIdx], ?_⟩
  intro position a ha
  obtain ⟨i, hi, hmade⟩ := hget position (a.draft (jumpsOf past position a))
    (by rw [h.drafts, List.getElem?_mapIdx, ha]; rfl)
  obtain ⟨-, hhas, hpurpose⟩ := Instruction.make?_whole hmade
  exact ⟨i, hi, hpurpose, hhas⟩

theorem Tracks.finalize {past : List Event} {b : Builder} (h : Tracks past b)
    (ho : finalizes past = false) (filterExpr : String) (rationale : Option String) :
    ∃ p, b.finalize filterExpr rationale = ({ b with finalized := true }, .ok p) ∧
      p.filterExpr = filterExpr ∧ p.rationale = rationale ∧ p.optimizations = noted past ∧
      p.size = (added past).length ∧
      ∀ (position : Nat) (a : Added), (added past)[position]? = some a →
        ∃ i, p.instructions[position]? = some i ∧ i.purpose = a.purpose ∧
          i.Has a.opcode (jumpsOf past position a).1 (jumpsOf past position a).2 a.k := by
  obtain ⟨is, his, hlen, hget⟩ := h.instructions
  have hopen : b.finalized = false := h.finalized.trans ho
  refine ⟨⟨is, filterExpr, Origin.generated, rationale, b.notes, none, none⟩, ?_, rfl, rfl, h.notes,
    hlen, hget⟩
  simp [Builder.finalize, hopen, his]

theorem call_retired {b : Builder} (h : b.finalized = true) (c : Call Json) (hc : c.isGet = false) :
    b.call c = (b, .error .finalized) := by
  cases c with
  | get position => contradiction
  | add opcode jt jf k purpose => simp [call, Builder.add, whileOpen, h, settle]
  | patch position jt jf => simp [call, Builder.patch, whileOpen, h, settle]
  | note text => simp [call, Builder.note, whileOpen, h, settle]
  | finalize filterExpr rationale => simp [call, Builder.finalize, h]

/-- **One call keeps the builder on track.** -/
theorem call_tracks {past : List Event} {b : Builder} (h : Tracks past b) (c : Call Whole) :
    Tracks (past ++ [(c, b.answer c)]) (b.next c) := by
  unfold answer next
  cases c with
  | add opcode jt jf k purpose =>
    simp only [Call.map, call]
    cases hadd : b.add (.whole opcode) (.whole jt) (.whole jf) (.whole k) purpose with
    | error e => exact h.failed rfl e
    | ok r =>
      obtain ⟨-, hfit, rfl⟩ := add_whole.mp hadd
      exact h.add ⟨opcode, jt, jf, k, purpose⟩ hfit _
  | patch position jt jf =>
    simp only [Call.map, call]
    cases hpatch : b.patch (.whole position) (.whole jt) (.whole jf) with
    | error e => exact h.failed rfl e
    | ok b' =>
      obtain ⟨-, ⟨hlow, hhigh⟩, ht, hf, rfl⟩ := patch_whole.mp hpatch
      exact h.patch hlow hhigh ht hf _
  | note text =>
    simp only [Call.map, call]
    cases hnote : b.note text with
    | error e => exact h.failed rfl e
    | ok b' =>
      obtain ⟨-, rfl⟩ := note_eq_ok.mp hnote
      exact h.note text _
  | get position =>
    simp only [Call.map, call]
    cases hget : b.get (.whole position) with
    | error e => exact h.failed rfl e
    | ok i => exact h.idle rfl (fun _ => rfl) rfl rfl rfl (by simp [settle, h.finalized, Call.isFinalize])
  | finalize filterExpr rationale =>
    refine h.idle ?_ (fun i => ?_) ?_ ?_ ?_ ?_
    · rfl
    · rfl
    · rfl
    · simp only [Call.map, call, Builder.finalize]; split <;> rfl
    · simp only [Call.map, call, Builder.finalize]; split <;> rfl
    · simp only [Call.map, call, Builder.finalize, Call.isFinalize, Bool.or_true]
      split
      · assumption
      · rfl

/-- **A whole run keeps the builder on track.** -/
theorem run_tracks {past : List Event} {b : Builder} (h : Tracks past b)
    (calls : List (Call Whole)) : Tracks (past ++ b.history calls) (b.after calls) := by
  induction calls generalizing past b with
  | nil => simpa [history, after] using h
  | cons c calls ih =>
    have hrest := ih (call_tracks h c)
    rw [List.append_assoc] at hrest
    exact hrest

theorem empty_tracks : Tracks [] empty where
  drafts := rfl
  notes := rfl
  finalized := rfl
  fitting := by simp [added]
  unpatched := by simp [patchesAt]

/-! ## What the builder does next -/

theorem mem_of_draft? {b : Builder} {n : Int} {d : Draft} (h : b.draft? n = some d) :
    d ∈ b.drafts := by
  unfold draft? at h
  split at h
  · exact List.mem_of_getElem? h
  · split at h
    · exact List.mem_of_getElem? h
    · contradiction

theorem Tracks.get {past : List Event} {b : Builder} (h : Tracks past b) (position : Whole) :
    (∃ i, b.get (.whole position) = .ok i) ↔
      (Call.get position).InRange (added past).length := by
  have hsize : b.size = (added past).length := by simp [size, h.drafts]
  simp only [Builder.get, Json.int?_whole, Call.InRange, ← hsize, ← and_assoc, ← draft?_isSome]
  cases isIndex position.value with
  | false => simp
  | true =>
    cases hd : b.draft? position.value with
    | none => simp
    | some d =>
      obtain ⟨i, hi⟩ := h.made d (mem_of_draft? hd)
      simp [hi]

theorem settle_eq_ok {α : Type} {b : Builder} {next : α → Builder} {answer : α → Answer}
    {r : Except BuilderError α} :
    (∃ a, (b.settle next answer r).2 = .ok a) ↔ ∃ x, r = .ok x := by
  cases r <;> simp [settle]

theorem Tracks.accepts {past : List Event} {b : Builder} (h : Tracks past b) (c : Call Whole) :
    (∃ a, b.answer c = .ok a) ↔
      c.InRange (added past).length ∧ (c.isGet = true ∨ finalizes past = false) := by
  have hsize : b.size = (added past).length := by simp [size, h.drafts]
  unfold answer
  cases c with
  | add opcode jt jf k purpose =>
    simp only [Call.map, call, settle_eq_ok, add_whole, Call.InRange, Call.isGet, ← h.finalized]
    constructor
    · rintro ⟨_, ho, hfit, rfl⟩
      exact ⟨hfit, .inr ho⟩
    · rintro ⟨hfit, ho⟩
      exact ⟨_, ho.resolve_left Bool.false_ne_true, hfit, rfl⟩
  | patch position jt jf =>
    simp only [Call.map, call, settle_eq_ok, patch_whole, Call.InRange, Call.isGet, ← h.finalized,
      ← hsize]
    constructor
    · rintro ⟨_, ho, hposition, ht, hf, rfl⟩
      exact ⟨⟨hposition, ht, hf⟩, .inr ho⟩
    · rintro ⟨⟨hposition, ht, hf⟩, ho⟩
      exact ⟨_, ho.resolve_left Bool.false_ne_true, hposition, ht, hf, rfl⟩
  | note text =>
    simp only [Call.map, call, settle_eq_ok, note_eq_ok, Call.InRange, Call.isGet, ← h.finalized]
    constructor
    · rintro ⟨_, ho, rfl⟩
      exact ⟨trivial, .inr ho⟩
    · rintro ⟨-, ho⟩
      exact ⟨_, ho.resolve_left Bool.false_ne_true, rfl⟩
  | get position =>
    simp only [Call.map, call, settle_eq_ok, h.get, Call.isGet, true_or, and_true]
  | finalize filterExpr rationale =>
    constructor
    · rintro ⟨a, ha⟩
      refine ⟨trivial, .inr ?_⟩
      cases hf : finalizes past with
      | false => rfl
      | true =>
        rw [call_retired (h.finalized.trans hf) _ rfl] at ha
        contradiction
    · rintro ⟨-, ho⟩
      obtain ⟨p, hp, -⟩ := h.finalize (ho.resolve_left Bool.false_ne_true) filterExpr rationale
      exact ⟨.program p, by simp only [Call.map, call, hp, map_of_ok]⟩

/-- A call that fails leaves the builder as it is: the first call for the program, which
retires the builder before it makes the instructions, does not fail. -/
theorem Tracks.unchanged {past : List Event} {b : Builder} (h : Tracks past b) {c : Call Whole}
    {e : BuilderError} (he : b.answer c = .error e) : b.next c = b := by
  unfold answer at he
  unfold next
  have hsettle {α : Type} {next : α → Builder} {answer : α → Answer} {r : Except BuilderError α}
      (hr : (b.settle next answer r).2 = .error e) : (b.settle next answer r).1 = b := by
    cases r with
    | ok a => contradiction
    | error e' => rfl
  cases c with
  | finalize filterExpr rationale =>
    cases hf : finalizes past with
    | true => rw [call_retired (h.finalized.trans hf) _ rfl]
    | false =>
      obtain ⟨p, hp, -⟩ := h.finalize hf filterExpr rationale
      simp only [Call.map, call, hp, map_of_ok] at he
      contradiction
  | _ => exact hsettle he

/-- **The history of a builder decides what it does next.** Whatever calls were made to
a fresh builder, with whole numbers of any size: an added instruction goes behind those
added before, a call that fails changes nothing, the first call for the program gets the
added instructions with the jumps last set, and after that no call changes anything. -/
theorem run_follows (calls : List (Call Whole)) :
    Follows (empty.history calls) (empty.after calls) := by
  have h : Tracks (empty.history calls) (empty.after calls) := run_tracks empty_tracks calls
  have hsize : (empty.after calls).size = (added (empty.history calls)).length := by
    rw [size, h.drafts, List.length_mapIdx]
  constructor
  · exact h.accepts
  · intro opcode jt jf k purpose a ha
    simp only [answer, Call.map, call] at ha
    cases hadd : (empty.after calls).add (.whole opcode) (.whole jt) (.whole jf) (.whole k) purpose with
    | error e => rw [hadd] at ha; contradiction
    | ok r =>
      rw [hadd] at ha
      obtain ⟨-, -, rfl⟩ := add_whole.mp hadd
      cases ha
      rw [hsize]
  · intro c e he
    exact h.unchanged he
  · intro ho filterExpr rationale
    obtain ⟨p, hp, hrest⟩ := h.finalize ho filterExpr rationale
    exact ⟨p, by simp only [answer, Call.map, call, hp, map_of_ok], hrest⟩
  · intro hf c hc
    exact call_retired (h.finalized.trans hf) c hc

end Builder

end PacketFilter
