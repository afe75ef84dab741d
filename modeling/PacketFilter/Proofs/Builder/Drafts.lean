import PacketFilter.Proofs.Builder.History

/-
  Drafts that stand for no instruction.

  All fields of an instruction are checked when it is added. Of jumps that are set later a
  builder asks only that they are numbers within range, so they may be fractions, and a draft
  with such jumps stands for no instruction.

  What is proved, for calls with any arguments:
    1. `call_cases`: what a call can do to the drafts;
    2. `call_keeps` and `run_keeps`: the opcode and the immediate of every draft fit and its
       jumps are within range, and they are whole unless others were set at its position;
    3. `run_serves_iff`: so every draft stands for an instruction, the program is handed out and
       every instruction is shown, if and only if the jumps last set at each position are whole.
       Otherwise the call for the program fails, and the builder is retired all the same.
       `run_serves_not_half` is such a run.
-/

namespace PacketFilter

/-! ## Values that are whole -/

namespace Json

def IsWhole (v : Json) : Prop := ∃ w : Whole, v = .whole w

theorem eq_whole {v : Json} {w : Whole} (h : v.whole? = some w) : v = .whole w := by
  cases v with
  | num n =>
    cases n with
    | int n => cases h; rfl
    | real x => contradiction
  | bool b => cases h; rfl
  | null | str | arr | obj => contradiction

end Json

theorem FieldName.fit_eq_ok_iff {field : FieldName} {v : Json} {w : Whole} :
    field.fit v = .ok w ↔ v = .whole w ∧ field.Allows w := by
  constructor
  · intro h
    cases hv : v.whole? with
    | none =>
      simp only [fit, hv] at h
      contradiction
    | some u =>
      have hu : v = .whole u := Json.eq_whole hv
      rw [hu, fit_whole] at h
      obtain ⟨hallows, rfl⟩ := h
      exact ⟨hu, hallows⟩
  · intro h
    obtain ⟨rfl, hallows⟩ := h
    exact (field.fit_whole w w).mpr ⟨hallows, rfl⟩

theorem FieldName.fit_eq_error {field : FieldName} {v : Json} {cause : RangeError}
    (h : field.fit v = .error cause) : cause = ⟨field, v⟩ := by
  unfold fit at h
  split at h
  · split at h
    · contradiction
    · cases h; rfl
  · cases h; rfl

/-! ## Drafts -/

namespace Draft

/-- The draft stands for an instruction. -/
def Stands (d : Draft) : Prop := ∃ i, d.instruction = .ok i

def WholeJumps (d : Draft) : Prop := d.jt.IsWhole ∧ d.jf.IsWhole

/-- The opcode and the immediate of the draft fit, and its jumps are within range. -/
structure InRange (d : Draft) : Prop where
  opcode : ∃ w, FieldName.opcode.fit d.opcode = .ok w
  jumps : Builder.checkJumps d.jt d.jf = .ok ()
  k : ∃ w, FieldName.k.fit d.k = .ok w

theorem Stands.fields {d : Draft} (h : d.Stands) : d.InRange ∧ d.WholeJumps := by
  obtain ⟨i, hi⟩ := h
  simp only [instruction, Instruction.make?, bind_eq_ok] at hi
  obtain ⟨opcode, hopcode, jt, hjt, jf, hjf, k, hk, -⟩ := hi
  obtain ⟨ht, htAllows⟩ := FieldName.fit_eq_ok_iff.mp hjt
  obtain ⟨hf, hfAllows⟩ := FieldName.fit_eq_ok_iff.mp hjf
  refine ⟨⟨⟨opcode, hopcode⟩, ?_, ⟨k, hk⟩⟩, ⟨jt, ht⟩, ⟨jf, hf⟩⟩
  rw [ht, hf]
  exact Builder.checkJumps_whole.mpr ⟨htAllows, hfAllows⟩

theorem InRange.stands_iff {d : Draft} (h : d.InRange) : d.Stands ↔ d.WholeJumps := by
  constructor
  · intro hd
    exact hd.fields.2
  · intro hd
    obtain ⟨⟨jt, ht⟩, ⟨jf, hf⟩⟩ := hd
    obtain ⟨opcode, hopcode⟩ := h.opcode
    obtain ⟨k, hk⟩ := h.k
    have hjumps := h.jumps
    rw [ht, hf, Builder.checkJumps_whole] at hjumps
    obtain ⟨ho, hoAllows⟩ := FieldName.fit_eq_ok_iff.mp hopcode
    obtain ⟨hkv, hkAllows⟩ := FieldName.fit_eq_ok_iff.mp hk
    rw [Stands, instruction, ho, ht, hf, hkv]
    exact Instruction.make?_fitting ⟨hoAllows, hjumps.1, hjumps.2, hkAllows⟩ d.purpose

/-- What a draft within range is refused for is one of its jumps. -/
theorem InRange.refused {d : Draft} (h : d.InRange) {cause : RangeError}
    (he : d.instruction = .error cause) : cause = ⟨.jt, d.jt⟩ ∨ cause = ⟨.jf, d.jf⟩ := by
  obtain ⟨opcode, hopcode⟩ := h.opcode
  obtain ⟨k, hk⟩ := h.k
  simp only [instruction, Instruction.make?, hopcode, hk, ok_bind, bind_eq_error] at he
  rcases he with he | ⟨_, -, he | ⟨_, -, he⟩⟩
  · exact .inl (FieldName.fit_eq_error he)
  · exact .inr (FieldName.fit_eq_error he)
  · contradiction

end Draft

namespace Builder

/-! ## Runs -/

/-- A call, whatever its arguments, and what it answered. -/
abbrev Outcome := Call Json × Except BuilderError Answer

/-- The calls made one after another, with their answers. -/
def record (b : Builder) : List (Call Json) → List Outcome
  | [] => []
  | c :: calls => (c, (b.call c).2) :: record (b.call c).1 calls

def afterAll (b : Builder) (calls : List (Call Json)) : Builder :=
  calls.foldl (fun b c => (b.call c).1) b

/-- The jumps that a call sets at a position. -/
def setAt? (i : Nat) : Outcome → Option (Json × Json)
  | (.patch position jt jf, .ok _) => if position.int? = some (i : Int) then some (jt, jf) else none
  | _ => none

/-- The jumps last set at a position. -/
def lastSet (past : List Outcome) (i : Nat) : Option (Json × Json) :=
  (past.filterMap (setAt? i)).getLast?

/-- The jumps last set at a position, if there are any, are whole. -/
def WholeAt (past : List Outcome) (i : Nat) : Prop :=
  ∀ jt jf, lastSet past i = some (jt, jf) → jt.IsWhole ∧ jf.IsWhole

/-- All drafts stand for instructions, an open builder hands out its program, and it shows the
instruction at every position it has. -/
structure Serves (b : Builder) : Prop where
  drafts : ∀ d ∈ b.drafts, d.Stands
  program : b.finalized = false → ∀ filterExpr rationale,
    ∃ p, (b.finalize filterExpr rationale).2 = .ok p
  instruction : ∀ (position : Json) (n : Int) (d : Draft), position.int? = some n → isIndex n = true → b.draft? n = some d →
    ∃ i, b.get position = .ok i

theorem lastSet_snoc (past : List Outcome) (o : Outcome) (i : Nat) :
    lastSet (past ++ [o]) i = (setAt? i o).or (lastSet past i) := by
  rw [lastSet, List.filterMap_append]
  cases h : setAt? i o <;> simp [h, lastSet]

/-! ## What a call does to the drafts -/

section
variable {b : Builder}

theorem add_eq_ok {opcode jt jf k : Json} {purpose : Option Purpose} {r : Builder × Nat}
    (h : b.add opcode jt jf k purpose = .ok r) :
    ∃ d : Draft, d.Stands ∧ r.1.drafts = b.drafts ++ [d] := by
  obtain ⟨-, h⟩ := whileOpen_eq_ok.mp h
  simp only at h
  split at h
  · next i hi =>
    cases h
    exact ⟨_, ⟨i, hi⟩, rfl⟩
  · contradiction

theorem patch_eq_ok {position jt jf : Json} {b' : Builder} (h : b.patch position jt jf = .ok b') :
    ∃ n : Nat, n < b.size ∧ position.int? = some (n : Int) ∧ checkJumps jt jf = .ok () ∧
      b'.drafts = b.drafts.modify n (fun d => { d with jt := jt, jf := jf }) := by
  obtain ⟨-, h⟩ := whileOpen_eq_ok.mp h
  simp only [bind_eq_ok] at h
  obtain ⟨_, hposition, _, hjumps, h⟩ := h
  cases hw : position.whole? with
  | none =>
    simp only [Json.int?, hw] at h
    contradiction
  | some w =>
    have hint : position.int? = some w.value := by simp [Json.int?, hw]
    rw [Json.eq_whole hw, checkPosition_whole] at hposition
    obtain ⟨hlow, hhigh⟩ := hposition
    have hvalue : (w.value.toNat : Int) = w.value := Int.toNat_of_nonneg hlow
    rw [hint] at h
    cases h
    refine ⟨w.value.toNat, by omega, by rw [hint, hvalue], hjumps, rfl⟩

theorem finalize_drafts (filterExpr : String) (rationale : Option String) :
    (b.finalize filterExpr rationale).1.drafts = b.drafts := by
  rw [finalize]
  split <;> rfl

/-- **What a call can do to the drafts**: nothing, add one that stands for an instruction, or set
the jumps of one to values within range. -/
theorem call_cases (b : Builder) (c : Call Json) :
    ((b.call c).1.drafts = b.drafts ∧ ∀ i, setAt? i (c, (b.call c).2) = none) ∨
      (∃ d : Draft, d.Stands ∧ (b.call c).1.drafts = b.drafts ++ [d] ∧
        ∀ i, setAt? i (c, (b.call c).2) = none) ∨
      ∃ n jt jf, n < b.size ∧ checkJumps jt jf = .ok () ∧
        (b.call c).1.drafts = b.drafts.modify n (fun d => { d with jt := jt, jf := jf }) ∧
        ∀ i, setAt? i (c, (b.call c).2) = if n = i then some (jt, jf) else none := by
  cases c with
  | add opcode jt jf k purpose =>
    simp only [call]
    cases hadd : b.add opcode jt jf k purpose with
    | error e => exact .inl ⟨rfl, fun _ => rfl⟩
    | ok r =>
      obtain ⟨d, hd, hdrafts⟩ := add_eq_ok hadd
      exact .inr (.inl ⟨d, hd, hdrafts, fun _ => rfl⟩)
  | patch position jt jf =>
    simp only [call]
    cases hpatch : b.patch position jt jf with
    | error e => exact .inl ⟨rfl, fun _ => rfl⟩
    | ok b' =>
      obtain ⟨n, hn, hint, hjumps, hdrafts⟩ := patch_eq_ok hpatch
      refine .inr (.inr ⟨n, jt, jf, hn, hjumps, hdrafts, fun i => ?_⟩)
      simp only [settle, setAt?, hint, Option.some.injEq, Int.natCast_inj]
  | note text =>
    simp only [call]
    cases hnote : b.note text with
    | error e => exact .inl ⟨rfl, fun _ => rfl⟩
    | ok b' =>
      obtain ⟨-, rfl⟩ := note_eq_ok.mp hnote
      exact .inl ⟨rfl, fun _ => rfl⟩
  | get position =>
    simp only [call]
    cases b.get position with
    | error e => exact .inl ⟨rfl, fun _ => rfl⟩
    | ok i => exact .inl ⟨rfl, fun _ => rfl⟩
  | finalize filterExpr rationale =>
    exact .inl ⟨finalize_drafts filterExpr rationale, fun _ => rfl⟩

end

/-! ## What a run keeps -/

/-- Every draft is within range, and has the jumps last set at its position or whole ones. -/
structure Keeps (past : List Outcome) (b : Builder) : Prop where
  inRange : ∀ (i : Nat) (d : Draft), b.drafts[i]? = some d → d.InRange
  jumps : ∀ (i : Nat) (d : Draft), b.drafts[i]? = some d →
    lastSet past i = some (d.jt, d.jf) ∨ lastSet past i = none ∧ d.WholeJumps
  unset : ∀ i, b.size ≤ i → lastSet past i = none

/-- **One call keeps the drafts within range.** -/
theorem call_keeps {past : List Outcome} {b : Builder} (h : Keeps past b) (c : Call Json) :
    Keeps (past ++ [(c, (b.call c).2)]) (b.call c).1 := by
  obtain ⟨hdrafts, hset⟩ | ⟨d, hd, hdrafts, hset⟩ | ⟨n, jt, jf, hn, hjumps, hdrafts, hset⟩ :=
    call_cases b c
  · constructor
    · rw [hdrafts]
      exact h.inRange
    · simp only [hdrafts, lastSet_snoc, hset, Option.none_or]
      exact h.jumps
    · simp only [size, hdrafts, lastSet_snoc, hset, Option.none_or]
      exact h.unset
  · -- The new draft is the last one, and no jumps were set there.
    have hlast {i : Nat} {e : Draft} (he : (b.drafts ++ [d])[i]? = some e) :
        b.drafts[i]? = some e ∨ b.size ≤ i ∧ e = d := by
      rcases Nat.lt_or_ge i b.drafts.length with hi | hi
      · rw [List.getElem?_append_left hi] at he
        exact .inl he
      · rw [List.getElem?_append_right hi, List.getElem?_singleton] at he
        split at he
        · cases he
          exact .inr ⟨hi, rfl⟩
        · contradiction
    obtain ⟨hrange, hwhole⟩ := hd.fields
    constructor
    · intro i e he
      rw [hdrafts] at he
      rcases hlast he with he | ⟨-, rfl⟩
      · exact h.inRange i e he
      · exact hrange
    · intro i e he
      rw [hdrafts] at he
      rw [lastSet_snoc, hset, Option.none_or]
      rcases hlast he with he | ⟨hi, rfl⟩
      · exact h.jumps i e he
      · exact .inr ⟨h.unset i hi, hwhole⟩
    · intro i hi
      rw [size, hdrafts, List.length_append] at hi
      rw [lastSet_snoc, hset, Option.none_or]
      exact h.unset i (Nat.le_trans (Nat.le_add_right _ _) hi)
  · constructor
    · intro i e he
      rw [hdrafts, List.getElem?_modify] at he
      obtain ⟨d, hd, rfl⟩ := Option.map_eq_some_iff.mp he
      have hrange := h.inRange i d hd
      split
      · exact ⟨hrange.opcode, hjumps, hrange.k⟩
      · exact hrange
    · intro i e he
      rw [hdrafts, List.getElem?_modify] at he
      obtain ⟨d, hd, rfl⟩ := Option.map_eq_some_iff.mp he
      rw [lastSet_snoc, hset]
      by_cases hi : n = i
      · exact .inl (by simp [hi])
      · simpa [hi] using h.jumps i d hd
    · intro i hi
      rw [size, hdrafts, List.length_modify] at hi
      have hne : n ≠ i := Nat.ne_of_lt (Nat.lt_of_lt_of_le hn hi)
      rw [lastSet_snoc, hset, if_neg hne, Option.none_or]
      exact h.unset i hi

/-- **A whole run keeps the drafts within range.** -/
theorem run_keeps {past : List Outcome} {b : Builder} (h : Keeps past b)
    (calls : List (Call Json)) : Keeps (past ++ b.record calls) (b.afterAll calls) := by
  induction calls generalizing past b with
  | nil => simpa [record, afterAll] using h
  | cons c calls ih =>
    have hrest := ih (call_keeps h c)
    rw [List.append_assoc] at hrest
    exact hrest

theorem empty_keeps : Keeps [] empty where
  inRange := by simp [empty]
  jumps := by simp [empty]
  unset := fun _ _ => rfl

/-! ## What a builder serves -/

section
variable {past : List Outcome} {b : Builder} (h : Keeps past b)
include h

theorem Keeps.stands_iff {i : Nat} {d : Draft} (hd : b.drafts[i]? = some d) :
    d.Stands ↔ WholeAt past i := by
  rw [(h.inRange i d hd).stands_iff]
  rcases h.jumps i d hd with hset | ⟨hnone, hwhole⟩
  · simp [WholeAt, hset, Draft.WholeJumps]
  · simp [WholeAt, hnone, hwhole]

theorem Keeps.all_stand_iff : (∀ d ∈ b.drafts, d.Stands) ↔ ∀ i, WholeAt past i := by
  constructor
  · intro hall i
    cases hd : b.drafts[i]? with
    | none =>
      have hnone := h.unset i (List.getElem?_eq_none_iff.mp hd)
      simp [WholeAt, hnone]
    | some d => exact (h.stands_iff hd).mp (hall d (List.mem_of_getElem? hd))
  · intro hall d hd
    obtain ⟨i, hi⟩ := List.mem_iff_getElem?.mp hd
    exact (h.stands_iff hi).mpr (hall i)

theorem Keeps.inRange_of_mem {d : Draft} (hd : d ∈ b.drafts) : d.InRange := by
  obtain ⟨i, hi⟩ := List.mem_iff_getElem?.mp hd
  exact h.inRange i d hi

end

theorem finalize_ok_iff {b : Builder} (ho : b.finalized = false) (filterExpr : String)
    (rationale : Option String) :
    (∃ p, (b.finalize filterExpr rationale).2 = .ok p) ↔ ∀ d ∈ b.drafts, d.Stands := by
  have hmade : (∃ p, (b.finalize filterExpr rationale).2 = .ok p) ↔
      ∃ is, b.drafts.mapM Draft.instruction = .ok is := by
    simp only [finalize, ho]
    cases b.drafts.mapM Draft.instruction <;> simp
  rw [hmade, mapM_isOk_iff]
  rfl

theorem get_ok_iff {b : Builder} {position : Json} {n : Int} {d : Draft}
    (hint : position.int? = some n) (hindex : isIndex n = true) (hd : b.draft? n = some d) :
    (∃ i, b.get position = .ok i) ↔ d.Stands := by
  simp only [get, hint, hindex, hd, mapError_eq_ok, Bool.not_true, Bool.false_eq_true, ↓reduceIte]
  rfl

theorem serves_iff {b : Builder} : b.Serves ↔ ∀ d ∈ b.drafts, d.Stands := by
  constructor
  · intro h
    exact h.drafts
  · intro h
    refine ⟨h, ?_, ?_⟩
    · intro ho filterExpr rationale
      exact (finalize_ok_iff ho filterExpr rationale).mpr h
    · intro position n d hint hindex hd
      exact (get_ok_iff hint hindex hd).mpr (h d (mem_of_draft? hd))

/-- The first call for the program retires the builder, also if a jump is refused. -/
theorem Keeps.finalize_refused {past : List Outcome} {b : Builder} (h : Keeps past b)
    (ho : b.finalized = false) (hnot : ¬ ∀ i, WholeAt past i) (filterExpr : String)
    (rationale : Option String) :
    ∃ d ∈ b.drafts, ∃ cause, (cause = ⟨.jt, d.jt⟩ ∨ cause = ⟨.jf, d.jf⟩) ∧
      b.finalize filterExpr rationale = ({ b with finalized := true }, .error (.range cause)) := by
  rw [← h.all_stand_iff, ← finalize_ok_iff ho filterExpr rationale] at hnot
  cases hmade : b.drafts.mapM Draft.instruction with
  | ok is => exact absurd ⟨_, by simp only [finalize, ho, hmade]; rfl⟩ hnot
  | error cause =>
    obtain ⟨d, hd, hcause⟩ := mapM_error hmade
    refine ⟨d, hd, cause, (h.inRange_of_mem hd).refused hcause, ?_⟩
    simp only [finalize, ho, hmade]
    rfl

/-- **When a builder serves.** After any calls to a fresh builder, with any arguments, every
draft stands for an instruction, the program is handed out and all instructions are shown, if
and only if the jumps last set at each position are whole. A draft stands for an instruction
exactly if those at its own position are. If not all are, the call for the program is refused for
a jump, and retires the builder. -/
theorem run_serves_iff (calls : List (Call Json)) :
    ((empty.afterAll calls).Serves ↔ ∀ i, WholeAt (empty.record calls) i) ∧
      (∀ (i : Nat) (d : Draft), (empty.afterAll calls).drafts[i]? = some d →
        (d.Stands ↔ WholeAt (empty.record calls) i)) ∧
      ((empty.afterAll calls).finalized = false → (¬ ∀ i, WholeAt (empty.record calls) i) →
        ∀ filterExpr rationale, ∃ d ∈ (empty.afterAll calls).drafts, ∃ cause,
          (cause = ⟨.jt, d.jt⟩ ∨ cause = ⟨.jf, d.jf⟩) ∧
          (empty.afterAll calls).finalize filterExpr rationale =
            ({ empty.afterAll calls with finalized := true }, .error (.range cause))) := by
  have h : Keeps (empty.record calls) (empty.afterAll calls) := run_keeps empty_keeps calls
  refine ⟨?_, ?_, ?_⟩
  · rw [serves_iff, h.all_stand_iff]
  · intro i d hd
    exact h.stands_iff hd
  · intro ho hnot filterExpr rationale
    exact h.finalize_refused ho hnot filterExpr rationale

/-! ## A fraction as a jump -/

/-- One and a half, which lies within the range of a jump. -/
def oneAndHalf : Json := .num (.real (.finite false 6755399441055744 (-52)))

/-- A check of the ethertype whose jump is then set to one and a half. -/
def halfJump : List (Call Json) :=
  [.add (.nat 21) (.nat 0) (.nat 0) (.nat 2048) none, .patch (.nat 0) oneAndHalf (.nat 0)]

/-- A builder with a check of the ethertype that has the given jump. -/
def checkBuilder (jt : Json) : Builder := { drafts := [⟨.nat 21, jt, .nat 0, .nat 2048, none⟩] }

theorem checkJumps_oneAndHalf : checkJumps oneAndHalf (.nat 0) = .ok () := by
  have hlow : (Number.real (.finite false 6755399441055744 (-52))).below 0 = false := by
    decide +kernel
  have hhigh : (Number.real (.finite false 6755399441055744 (-52))).above FieldName.jt.limit =
      false := by
    decide +kernel
  simp only [checkJumps, oneAndHalf, ordered, Json.number?, ok_bind, hlow, hhigh]
  rfl

theorem call_oneAndHalf :
    (checkBuilder (.nat 0)).call (.patch (.nat 0) oneAndHalf (.nat 0)) =
      (checkBuilder oneAndHalf, .ok .done) := by
  simp only [call, patch, checkJumps_oneAndHalf, ok_bind]
  rfl

theorem call_check :
    empty.call (.add (.nat 21) (.nat 0) (.nat 0) (.nat 2048) none) =
      (checkBuilder (.nat 0), .ok (.position 0)) := rfl

theorem afterAll_halfJump (calls : List (Call Json)) :
    empty.afterAll (halfJump ++ calls) = (checkBuilder oneAndHalf).afterAll calls := by
  simp only [halfJump, afterAll, List.cons_append, List.nil_append, List.foldl_cons, call_check,
    call_oneAndHalf]

theorem record_halfJump (calls : List (Call Json)) :
    empty.record (halfJump ++ calls) =
      halfJump.zip [.ok (.position 0), .ok .done] ++ (checkBuilder oneAndHalf).record calls := by
  simp only [halfJump, record, List.cons_append, List.nil_append, call_check, call_oneAndHalf,
    List.zip_cons_cons, List.zip_nil_right]

/-- Setting a jump to a fraction succeeds. After it the builder shows no instruction there and
hands out no program. -/
theorem run_serves_not_half :
    (empty.record halfJump).map (·.2) = [.ok (.position 0), .ok .done] ∧
      ¬ (empty.afterAll halfJump).Serves ∧ (empty.afterAll halfJump).finalized = false ∧
      ((empty.afterAll halfJump).finalize "" none).2 = .error (.range ⟨.jt, oneAndHalf⟩) ∧
      (empty.afterAll halfJump).get (.nat 0) = .error (.range ⟨.jt, oneAndHalf⟩) := by
  have hafter : empty.afterAll halfJump = checkBuilder oneAndHalf := afterAll_halfJump []
  have hrecord : empty.record halfJump = halfJump.zip [.ok (.position 0), .ok .done] :=
    record_halfJump []
  rw [hafter, hrecord]
  refine ⟨rfl, ?_, rfl, rfl, rfl⟩
  intro h
  obtain ⟨i, hi⟩ := h.drafts _ List.mem_cons_self
  cases hi

/-- A jump that is no whole number costs the program, unless it is set again. -/
theorem run_serves_iff_halfJump :
    (empty.afterAll (halfJump ++ [.patch (.nat 0) (.nat 1) (.nat 2)])).Serves ∧
      (∃ d, (empty.afterAll halfJump).drafts[0]? = some d ∧ ¬ d.Stands) ∧
      ∃ cause, (empty.afterAll halfJump).finalize "" none =
        ({ empty.afterAll halfJump with finalized := true }, .error (.range cause)) := by
  have hafter : empty.afterAll halfJump = checkBuilder oneAndHalf := afterAll_halfJump []
  have hrecord : empty.record halfJump = halfJump.zip [.ok (.position 0), .ok .done] :=
    record_halfJump []
  have hmended : ∀ i,
      WholeAt (empty.record (halfJump ++ [.patch (.nat 0) (.nat 1) (.nat 2)])) i := by
    intro i jt jf hset
    rw [record_halfJump] at hset
    cases i with
    | zero =>
      cases hset
      exact ⟨⟨.int 1, rfl⟩, ⟨.int 2, rfl⟩⟩
    | succ n => cases hset
  have hhalf : ¬ WholeAt (empty.record halfJump) 0 := by
    rw [hrecord]
    intro h
    obtain ⟨⟨w, hw⟩, -⟩ := h oneAndHalf (.nat 0) rfl
    cases w <;> cases hw
  have hopen : (empty.afterAll halfJump).finalized = false := by rw [hafter]; rfl
  have hdraft : (empty.afterAll halfJump).drafts[0]? =
      some ⟨.nat 21, oneAndHalf, .nat 0, .nat 2048, none⟩ := by rw [hafter]; rfl
  obtain ⟨_, -, cause, -, hrefused⟩ :=
    (run_serves_iff halfJump).2.2 hopen (fun h => hhalf (h 0)) "" none
  refine ⟨(run_serves_iff _).1.mpr hmended, ⟨_, hdraft, ?_⟩, cause, hrefused⟩
  rw [(run_serves_iff halfJump).2.1 0 _ hdraft]
  exact hhalf

end Builder

end PacketFilter
