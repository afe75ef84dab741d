import PacketFilter.Builder
import PacketFilter.Proofs.Fallible

/-
  The steps of a builder, taken with whole numbers.

  A whole number in place of a field or a position is compared by its value, so each
  step succeeds on a condition that is plain arithmetic.

  What is proved: four numbers make an instruction if they are within the limits of
  their fields, and the instruction has them (`Instruction.make?_whole`); every
  instruction is made in this way (`Instruction.make?_figures`); and when adding, setting
  jumps, taking a note and looking at a draft succeed, and with what result
  (`add_whole`, `patch_whole`, `note_eq_ok`, `draft?_isSome`).
-/

namespace PacketFilter

/-! ## Whole numbers as arguments -/

namespace Json

@[simp] theorem whole?_whole (w : Whole) : (whole w).whole? = some w := by
  cases w <;> rfl

@[simp] theorem int?_whole (w : Whole) : (whole w).int? = some w.value := by
  simp [int?]

@[simp] theorem number?_whole (w : Whole) : (whole w).number? = some (.int w.value) := by
  cases w <;> rfl

end Json

/-- The number lies within the limits of a field. -/
def FieldName.Allows (field : FieldName) (w : Whole) : Prop :=
  0 ≤ w.value ∧ w.value ≤ field.limit

theorem FieldName.fit_whole (field : FieldName) (w v : Whole) :
    field.fit (.whole w) = .ok v ↔ field.Allows w ∧ v = w := by
  simp only [fit, Json.whole?_whole, Allows]
  split
  · next h => simp [h, eq_comm]
  · next h => simp [h]

/-- A number of an instruction is the one that was given, and is spelled as it was. -/
def Whole.Kept (w : Whole) (n : Nat) (spelled : Bool) : Prop :=
  (n : Int) = w.value ∧ spelled = w.isTruth

/-- The fields of an instruction are the ones that were given. -/
structure Instruction.Has (i : Instruction) (opcode jt jf k : Whole) : Prop where
  opcode : opcode.Kept i.opcode.toNat i.spelling.opcode
  jt : jt.Kept i.jt.toNat i.spelling.jt
  jf : jf.Kept i.jf.toNat i.spelling.jf
  k : k.Kept i.k.toNat i.spelling.k

/-- All four numbers lie within the limits of their fields. -/
structure Fitting (opcode jt jf k : Whole) : Prop where
  opcode : FieldName.opcode.Allows opcode
  jt : FieldName.jt.Allows jt
  jf : FieldName.jf.Allows jf
  k : FieldName.k.Allows k

/-- Four numbers make an instruction if and only if they fit, and it has them. -/
theorem Instruction.make?_whole {opcode jt jf k : Whole} {purpose : Option Purpose}
    {i : Instruction} (h : make? (.whole opcode) (.whole jt) (.whole jf) (.whole k) purpose = .ok i) :
    Fitting opcode jt jf k ∧ i.Has opcode jt jf k ∧ i.purpose = purpose := by
  simp only [make?, bind_eq_ok, FieldName.fit_whole] at h
  obtain ⟨_, ⟨ho, rfl⟩, _, ⟨ht, rfl⟩, _, ⟨hf, rfl⟩, _, ⟨hk, rfl⟩, h⟩ := h
  cases h
  refine ⟨⟨ho, ht, hf, hk⟩, ?_, rfl⟩
  simp only [FieldName.Allows, FieldName.limit] at ho ht hf hk
  constructor <;> refine ⟨?_, rfl⟩ <;> simp [Encoding.ofWholes] <;> omega

theorem Instruction.make?_fitting {opcode jt jf k : Whole} (h : Fitting opcode jt jf k)
    (purpose : Option Purpose) :
    ∃ i, make? (.whole opcode) (.whole jt) (.whole jf) (.whole k) purpose = .ok i := by
  have ho := (FieldName.opcode.fit_whole opcode opcode).mpr ⟨h.opcode, rfl⟩
  have ht := (FieldName.jt.fit_whole jt jt).mpr ⟨h.jt, rfl⟩
  have hf := (FieldName.jf.fit_whole jf jf).mpr ⟨h.jf, rfl⟩
  have hk := (FieldName.k.fit_whole k k).mpr ⟨h.k, rfl⟩
  rw [make?, ho, ht, hf, hk]
  exact ⟨_, rfl⟩

/-- **No instruction is out of reach**: its own figures fit, and make it. -/
theorem Instruction.make?_figures (i : Instruction) :
    make? (.whole i.opcodeFigure) (.whole i.jtFigure) (.whole i.jfFigure) (.whole i.kFigure)
      i.purpose = .ok i := by
  have hfit (field : FieldName) {w : Whole} {n : Nat} (hw : w.value = n) (hn : n ≤ field.limit) :
      field.fit (.whole w) = .ok w := by
    refine (field.fit_whole w w).mpr ⟨?_, rfl⟩
    rw [FieldName.Allows]
    omega
  rw [make?, hfit .opcode i.opcodeFigure_value (Nat.le_of_lt_succ i.opcode.toNat_lt),
    hfit .jt i.jtFigure_value (Nat.le_of_lt_succ i.jt.toNat_lt),
    hfit .jf i.jfFigure_value (Nat.le_of_lt_succ i.jf.toNat_lt),
    hfit .k i.kFigure_value (Nat.le_of_lt_succ i.k.toNat_lt)]
  exact congrArg Except.ok i.ofWholes_figures

namespace Builder

/-! ## When each step succeeds -/

section
variable {b : Builder}

theorem ordered_whole (w : Whole) : ordered (.whole w) = .ok (.int w.value) := by
  simp [ordered]

theorem checkPosition_whole {position : Whole} :
    b.checkPosition (.whole position) = .ok () ↔ 0 ≤ position.value ∧ position.value < b.size := by
  simp only [checkPosition, ordered_whole, ok_bind, Number.below, Number.atLeast, Bool.or_eq_true,
    decide_eq_true_eq]
  split <;> simp <;> omega

theorem checkJumps_whole {jt jf : Whole} :
    checkJumps (.whole jt) (.whole jf) = .ok () ↔ FieldName.jt.Allows jt ∧ FieldName.jf.Allows jf := by
  simp only [checkJumps, ordered_whole, ok_bind, Number.below, Number.above, FieldName.Allows,
    Bool.or_eq_true, decide_eq_true_eq]
  split
  · simp; omega
  · split <;> simp <;> omega

theorem whileOpen_eq_ok {α : Type} {step : Except BuilderError α} {a : α} :
    b.whileOpen step = .ok a ↔ b.finalized = false ∧ step = .ok a := by
  cases h : b.finalized <;> simp [whileOpen, h]

theorem add_whole {opcode jt jf k : Whole} {purpose : Option Purpose} {r : Builder × Nat} :
    b.add (.whole opcode) (.whole jt) (.whole jf) (.whole k) purpose = .ok r ↔
      b.finalized = false ∧ Fitting opcode jt jf k ∧
        r = ({ b with drafts := b.drafts ++
          [⟨.whole opcode, .whole jt, .whole jf, .whole k, purpose⟩] }, b.size) := by
  simp only [add, whileOpen_eq_ok, Draft.instruction]
  refine and_congr_right fun _ => ?_
  constructor
  · intro h
    split at h
    · next hi =>
      cases h
      exact ⟨(Instruction.make?_whole hi).1, rfl⟩
    · contradiction
  · rintro ⟨hfit, rfl⟩
    obtain ⟨i, hi⟩ := Instruction.make?_fitting hfit purpose
    rw [hi]

/-- The builder with the jumps of the instruction at a position set as given. -/
def setJumps (b : Builder) (position : Nat) (jt jf : Whole) : Builder where
  drafts := b.drafts.modify position (fun d => { d with jt := .whole jt, jf := .whole jf })
  notes := b.notes
  finalized := b.finalized

theorem patch_whole {position jt jf : Whole} {b' : Builder} :
    b.patch (.whole position) (.whole jt) (.whole jf) = .ok b' ↔
      b.finalized = false ∧ (0 ≤ position.value ∧ position.value < b.size) ∧
        FieldName.jt.Allows jt ∧ FieldName.jf.Allows jf ∧
        b' = b.setJumps position.value.toNat jt jf := by
  simp only [patch, whileOpen_eq_ok, bind_eq_ok, Json.int?_whole]
  constructor
  · rintro ⟨ho, _, hposition, _, hjumps, h⟩
    cases h
    exact ⟨ho, checkPosition_whole.mp hposition, (checkJumps_whole.mp hjumps).1,
      (checkJumps_whole.mp hjumps).2, rfl⟩
  · rintro ⟨ho, hposition, ht, hf, rfl⟩
    exact ⟨ho, (), checkPosition_whole.mpr hposition, (), checkJumps_whole.mpr ⟨ht, hf⟩, rfl⟩

theorem note_eq_ok {text : String} {b' : Builder} :
    b.note text = .ok b' ↔ b.finalized = false ∧ b' = { b with notes := b.notes ++ [text] } := by
  rw [note, whileOpen_eq_ok, Except.ok.injEq, @eq_comm _ b']

theorem draft?_isSome {n : Int} :
    (∃ d, b.draft? n = some d) ↔ -(b.size : Int) ≤ n ∧ n < b.size := by
  have hat (i : Nat) : (∃ d, b.drafts[i]? = some d) ↔ i < b.drafts.length := by
    rw [← Option.isSome_iff_exists]; simp
  unfold draft? size
  split
  · rw [hat]; omega
  · split
    · rw [hat]; omega
    · simp; omega

end

end Builder

end PacketFilter
