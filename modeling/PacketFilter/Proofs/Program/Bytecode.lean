import PacketFilter.Proofs.Program.Figures

/-
  Bytecode and dumps.

  A program is exported in two forms. The dump has a line with the count and a line for each
  instruction; the bytecode has the same lines joined by commas. No comma and no line feed is
  in a line, so each form comes apart into the lines it was made of, and a line into its
  figures.

  What is proved: the bytecode is the dump without the line feed at its end and with a comma
  for every other (`bytecode_eq_map`); each form says as much as the other
  (`bytecode_eq_iff_dump`); and the bytecode of two programs is the same exactly if they have
  the same code and spell it alike (`bytecode_carries_code`).
-/

namespace PacketFilter

open Text

/-! ## Lines without commas -/

theorem Instruction.comma_not_mem (i : Instruction) : ',' ∉ i.words.toList := by
  intro hmem
  rcases mem_words hmem with hblank | hdigit | hletter
  · exact absurd hblank (by decide)
  · exact absurd hdigit (by decide)
  · exact absurd hletter (by decide)

namespace Dump

theorem comma_not_mem (is : List Instruction) : ∀ l ∈ dumpLines is, ',' ∉ l := by
  intro l hl
  rcases List.mem_cons.mp hl with rfl | hl
  · intro hmem
    exact absurd (isDigit_of_mem_decimalNat hmem) (by decide)
  · obtain ⟨i, -, rfl⟩ := List.mem_map.mp hl
    exact i.comma_not_mem

/-- The lines of two dumps are the same exactly if the figures are; the count says no more. -/
theorem dumpLines_eq_iff {is js : List Instruction} :
    dumpLines is = dumpLines js ↔ is.map Instruction.figures = js.map Instruction.figures := by
  have hwords : is.map (fun i => i.words.toList) = js.map (fun i => i.words.toList) ↔
      is.map Instruction.figures = js.map Instruction.figures := by
    induction is generalizing js with
    | nil => cases js <;> simp
    | cons i is ih =>
      cases js with
      | nil => simp
      | cons j js =>
        simp only [List.map_cons, List.cons.injEq, String.toList_inj, Instruction.words_eq_iff, ih]
  rw [dumpLines, dumpLines, List.cons.injEq, hwords]
  apply and_iff_right_of_imp
  intro h
  have hlength : is.length = js.length := by
    simpa only [List.length_map] using congrArg List.length h
  rw [hlength]

end Dump

/-! ## The two forms -/

/-- A comma in place of a line feed. -/
def Text.commaFor (c : Char) : Char := if c = '\n' then ',' else c

theorem Text.map_commaFor {cs : List Char} (h : ∀ c ∈ cs, isLineEnd c = false) :
    cs.map commaFor = cs := by
  calc cs.map commaFor
      = cs.map id := by
        apply List.map_congr_left
        intro c hc
        have hne : c ≠ '\n' := by
          rintro rfl
          exact absurd (h _ hc) (by decide)
        rw [commaFor, if_neg hne, id]
    _ = cs := List.map_id cs

namespace Program

theorem bytecode_toList (p : Program) :
    p.bytecode.toList = [','].intercalate (Dump.dumpLines p.instructions) := by
  rw [bytecode, String.toList_append, String.toList_join, List.flatMap_map, Dump.dumpLines,
    intercalate_cons, List.flatMap_map]
  simp only [String.toList_append]
  rfl

theorem splitAt_bytecode (p : Program) :
    splitAt ',' p.bytecode.toList = Dump.dumpLines p.instructions := by
  rw [bytecode_toList, splitAt]
  apply splitWhere_intercalate (by decide) (List.cons_ne_nil _ _)
  intro l hl c hc
  rw [beq_eq_false_iff_ne]
  rintro rfl
  exact Dump.comma_not_mem _ l hl hc

/-- **The bytecode is the dump on one line**: without the line feed at the end, and with a
comma for every other. -/
theorem bytecode_eq_map (p : Program) :
    ∃ body : String, p.dump = body ++ "\n" ∧ p.bytecode = body.map commaFor := by
  refine ⟨String.ofList (['\n'].intercalate (Dump.dumpLines p.instructions)), ?_, ?_⟩
  · rw [← String.toList_inj, dump, Dump.dumpOf_toList, String.toList_append, String.toList_ofList]
    rfl
  · have hlines : (Dump.dumpLines p.instructions).map (List.map commaFor) =
        Dump.dumpLines p.instructions := by
      apply (List.map_congr_left ?_).trans (List.map_id _)
      exact fun l hl => map_commaFor (Dump.dumpLines_lineEnd p.instructions l hl)
    rw [← String.toList_inj, String.toList_map, String.toList_ofList, map_intercalate, hlines,
      bytecode_toList]
    rfl

section
variable {p q : Program}

theorem bytecode_eq_iff : p.bytecode = q.bytecode ↔
    p.instructions.map Instruction.figures = q.instructions.map Instruction.figures := by
  rw [← Dump.dumpLines_eq_iff]
  constructor
  · intro h
    rw [← splitAt_bytecode, ← splitAt_bytecode, h]
  · intro h
    rw [← String.toList_inj, bytecode_toList, bytecode_toList, h]

theorem dump_eq_iff : p.dump = q.dump ↔
    p.instructions.map Instruction.figures = q.instructions.map Instruction.figures := by
  rw [← Dump.dumpLines_eq_iff]
  constructor
  · intro h
    rw [← Dump.lines_dumpOf, ← Dump.lines_dumpOf]
    exact congrArg (fun text : String => lines (trim text.toList)) h
  · intro h
    rw [← String.toList_inj, dump, dump, Dump.dumpOf_toList, Dump.dumpOf_toList, h]

theorem bytecode_eq_iff_dump : p.bytecode = q.bytecode ↔ p.dump = q.dump := by
  rw [bytecode_eq_iff, dump_eq_iff]

end

/-! ## The code they carry -/

/-- How the fields of the instructions are spelled. -/
def spellings (p : Program) : List Spelling := p.instructions.map (·.spelling)

theorem figures_eq_iff {p q : Program} :
    p.instructions.map Instruction.figures = q.instructions.map Instruction.figures ↔
      p.sameCode q = true ∧ p.spellings = q.spellings := by
  rw [sameCode, beq_iff_eq, code, code, spellings, spellings]
  generalize p.instructions = is
  generalize q.instructions = js
  induction is generalizing js with
  | nil => cases js <;> simp
  | cons i is ih =>
    cases js with
    | nil => simp
    | cons j js =>
      simp only [List.map_cons, List.cons.injEq, Instruction.figures_eq_iff, ih js]
      exact and_and_and_comm

theorem spellings_of_numbers {p q : Program} (hp : ∀ i ∈ p.instructions, i.spelling = {})
    (hq : ∀ i ∈ q.instructions, i.spelling = {}) (hcode : p.sameCode q = true) :
    p.spellings = q.spellings := by
  have hlength : p.instructions.length = q.instructions.length := size_of_sameCode hcode
  calc p.spellings
      = List.replicate p.instructions.length {} := List.map_eq_replicate_iff.mpr hp
    _ = List.replicate q.instructions.length {} := by rw [hlength]
    _ = q.spellings := (List.map_eq_replicate_iff.mpr hq).symm

/-- **Bytecode carries the code.** The bytecode of two programs is the same exactly if they
have the same code and each field is spelled as a truth value in both or in neither; for
programs that are spelled in numbers, exactly if they have the same code. It is the dump on
one line, so that the two forms always say the same. -/
theorem bytecode_carries_code (p q : Program) :
    (p.bytecode = q.bytecode ↔ p.sameCode q = true ∧ p.spellings = q.spellings) ∧
    ((∀ i ∈ p.instructions, i.spelling = {}) → (∀ i ∈ q.instructions, i.spelling = {}) →
      (p.bytecode = q.bytecode ↔ p.sameCode q = true)) ∧
    (∃ body : String, p.dump = body ++ "\n" ∧ p.bytecode = body.map commaFor) ∧
    (p.bytecode = q.bytecode ↔ p.dump = q.dump) := by
  refine ⟨?_, ?_, p.bytecode_eq_map, bytecode_eq_iff_dump⟩
  · rw [bytecode_eq_iff, figures_eq_iff]
  · intro hp hq
    rw [bytecode_eq_iff, figures_eq_iff]
    exact and_iff_left_of_imp (spellings_of_numbers hp hq)

/-- A program of one instruction, given by its first two fields. -/
def single (opcode : UInt16) (jt : UInt8) : Program where
  instructions := [{ opcode := opcode, jt := jt, jf := 0, k := 0 }]

theorem bytecode_carries_code_single :
    (single 1 23).sameCode (single 12 3) = false ∧
    (single 1 23).bytecode ≠ (single 12 3).bytecode ∧
    (single 1 23).bytecode = { single 1 23 with origin := Origin.reference }.bytecode := by
  have hnumbers (opcode : UInt16) (jt : UInt8) :
      ∀ i ∈ (single opcode jt).instructions, i.spelling = {} := by
    intro i hi
    rw [List.mem_singleton.mp hi]
  have hapart : (single 1 23).sameCode (single 12 3) = false := by decide
  refine ⟨hapart, ?_, ?_⟩
  · intro h
    have hcode := ((bytecode_carries_code _ _).1.mp h).1
    rw [hapart] at hcode
    exact absurd hcode Bool.false_ne_true
  · exact ((bytecode_carries_code _ _).2.1 (hnumbers 1 23) (hnumbers 1 23)).mpr (by decide)

/-- A one that is returned is written as it was given, so programs with the same code need
not have the same bytecode. -/
theorem bytecode_truth_return :
    (returnOne (.truth true)).sameCode (returnOne (.int 1)) = true ∧
      (returnOne (.truth true)).bytecode = "1,6 0 0 True" ∧
      (returnOne (.int 1)).bytecode = "1,6 0 0 1" ∧
      (returnOne (.truth true)).bytecode ≠ (returnOne (.int 1)).bytecode :=
  ⟨by decide, by decide, by decide, by decide⟩

end Program

end PacketFilter
