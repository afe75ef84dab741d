import PacketFilter.Proofs.Comparison.FullMatch
import PacketFilter.Proofs.Program.Figures
import PacketFilter.Proofs.Program.Saved

/-
  Comparing programs with the same code.

  Tags are not part of the code, and a dump does not hold them. A comparison believes
  the tags only if each instruction of both programs has one, so one untagged
  instruction is enough for both programs to be read by their code alone. The code does
  not say how an immediate is spelled, and where an immediate is quoted in words its
  spelling shows.

  What is proved: the purpose inferred from an immediate depends on its number
  (`infer_purpose`), and the description as well unless it quotes a one that is spelled
  as a truth value (`infer_description_iff`); and so a program matches what is read from
  its dump in full, and programs with the same code give nothing amiss and mean the same
  unless some one is spelled in two ways (`sameCode_matches`).
-/

namespace PacketFilter

namespace Instruction

/-- The immediate of both instructions is a one that is quoted in words, and only one of
them spells it as a truth value. -/
def WordedApart (i j : Instruction) : Prop :=
  (i.opcode = Opcode.jumpEqual ∨ i.opcode = Opcode.ret) ∧ i.k = 1 ∧ i.spelling.k ≠ j.spelling.k

end Instruction

/-! ## What is inferred -/

namespace Meaning

theorem ofJumpEqual_zero {k : Whole} (h : k.value = 0) :
    ofJumpEqual k = (.unknown, "Check if value equals 0x" ++ Text.hex 8 0) := by
  have htype : ¬ k.value = ethertypeIPv4 := by
    rw [h]
    decide
  have hnumber : ¬ (Protocol.ofNumber? k.value).isSome = true := by
    rw [h]
    decide
  have hbound : ¬ addressBound ≤ k.value := by
    rw [h]
    decide
  rw [ofJumpEqual, if_neg htype, if_neg hnumber, if_neg (by omega), if_neg hbound, h]

theorem protocolCheck_eq {k : Whole} {p : Protocol} (h : Protocol.ofNumber? k.value = some p) :
    protocolCheck k = "Check if protocol is " ++ p.title ++ " (" ++ k.text ++ ")" := by
  unfold protocolCheck
  rewrite [h]
  rfl

theorem ofJumpEqual_one {k : Whole} (h : k.value = 1) :
    ofJumpEqual k =
      (.checkProtocol, "Check if protocol is " ++ Protocol.icmp.title ++ " (" ++ k.text ++ ")") := by
  have htype : ¬ k.value = ethertypeIPv4 := by
    rw [h]
    decide
  have hnumber : Protocol.ofNumber? k.value = some .icmp := by
    rw [h]
    rfl
  have hsome : (Protocol.ofNumber? k.value).isSome = true := by
    rw [hnumber]
    rfl
  rw [ofJumpEqual, if_neg htype, if_pos hsome, protocolCheck_eq hnumber]

theorem ofReturn_zero {k : Whole} (h : k.value = 0) :
    ofReturn k = (.reject, "Reject packet (return 0)") := by
  rw [ofReturn, if_neg (by omega)]

theorem ofReturn_one {k : Whole} (h : k.value = 1) :
    ofReturn k = (.accept, "Accept packet (return " ++ k.text ++ " bytes)") := by
  rw [ofReturn, if_pos (by omega)]

theorem infer_jumpEqual (k : Whole) : infer Opcode.jumpEqual.toNat k = ofJumpEqual k := rfl

theorem infer_ret (k : Whole) : infer Opcode.ret.toNat k = ofReturn k := rfl

/-- Only what checks for equality and what returns can quote the immediate. -/
theorem infer_of_ne {opcode : Int} (hjump : opcode ≠ Opcode.jumpEqual.toNat)
    (hreturn : opcode ≠ Opcode.ret.toNat) {k k' : Whole} (h : k.value = k'.value) :
    infer opcode k = infer opcode k' := by
  simp only [infer, if_neg hjump, if_neg hreturn, h]

theorem infer_purpose {k k' : Whole} (h : k.value = k'.value) (opcode : Int) :
    (infer opcode k).1 = (infer opcode k').1 := by
  by_cases hjump : opcode = Opcode.jumpEqual.toNat
  · rw [hjump, infer_jumpEqual, infer_jumpEqual]
    simp only [ofJumpEqual, h, apply_ite Prod.fst]
  · by_cases hreturn : opcode = Opcode.ret.toNat
    · rw [hreturn, infer_ret, infer_ret]
      simp only [ofReturn, h, apply_ite Prod.fst]
    · rw [infer_of_ne hjump hreturn h]

/-- Immediates of the same number are described alike, unless they are ones that are
spelled in two ways and quoted. -/
theorem infer_description_iff {k k' : Whole} (h : k.value = k'.value) (opcode : Int) :
    (infer opcode k).2 = (infer opcode k').2 ↔
      ¬ ((opcode = Opcode.jumpEqual.toNat ∨ opcode = Opcode.ret.toNat) ∧ k.value = 1 ∧
        k.isTruth ≠ k'.isTruth) := by
  by_cases hspelled : k.isTruth = k'.isTruth
  · rw [Whole.eq_of_value_of_isTruth h hspelled]
    simp
  -- What is spelled in two ways is zero, which is never quoted, or one.
  have htext : k.text ≠ k'.text := fun heq => hspelled (congrArg Whole.isTruth (Whole.text_inj heq))
  by_cases hjump : opcode = Opcode.jumpEqual.toNat
  · rw [hjump, infer_jumpEqual, infer_jumpEqual]
    rcases Whole.value_of_isTruth_ne h hspelled with hzero | hone
    · rw [ofJumpEqual_zero hzero, ofJumpEqual_zero (h ▸ hzero)]
      simp [hzero]
    · rw [ofJumpEqual_one hone, ofJumpEqual_one (h ▸ hone)]
      simp [hone, hspelled, htext]
  · by_cases hreturn : opcode = Opcode.ret.toNat
    · rw [hreturn, infer_ret, infer_ret]
      rcases Whole.value_of_isTruth_ne h hspelled with hzero | hone
      · rw [ofReturn_zero hzero, ofReturn_zero (h ▸ hzero)]
        simp [hzero]
      · rw [ofReturn_one hone, ofReturn_one (h ▸ hone)]
        simp [hone, hspelled, htext]
    · rw [infer_of_ne hjump hreturn h]
      simp [hjump, hreturn]

/-- What two meanings have in common that are the same: their numbers count, and not
how they are spelled. -/
def sense (m : Meaning) : Purpose × Int × String × Int :=
  (m.purpose, m.value.value, m.description, m.index.value)

/-- The same without the description. -/
def unworded (m : Meaning) : Purpose × Int × Int := (m.purpose, m.value.value, m.index.value)

theorem ofInstruction_untrusted (position : Nat) (i : Instruction) :
    ofInstruction false position i =
      ⟨(infer i.opcode.toNat i.kFigure).1, i.kFigure, (infer i.opcode.toNat i.kFigure).2,
        .int position⟩ := rfl

section
variable {i j : Instruction} (hcode : i.toEncoding = j.toEncoding)
include hcode

theorem kFigure_value_eq : i.kFigure.value = j.kFigure.value := by
  rw [i.kFigure_value, j.kFigure_value, hcode]

theorem unworded_eq (position : Nat) :
    (ofInstruction false position i).unworded = (ofInstruction false position j).unworded := by
  have hvalue := kFigure_value_eq hcode
  simp only [ofInstruction_untrusted, unworded, hvalue, hcode, infer_purpose hvalue]

theorem sense_eq_iff (position : Nat) :
    (ofInstruction false position i).sense = (ofInstruction false position j).sense ↔
      ¬ i.WordedApart j := by
  have hvalue := kFigure_value_eq hcode
  have hopcode (o : UInt16) : (i.opcode.toNat : Int) = o.toNat ↔ i.opcode = o := by
    rw [Int.natCast_inj, UInt16.toNat_inj]
  have hone : i.kFigure.value = 1 ↔ i.k = 1 := by
    rw [i.kFigure_value, ← UInt32.toNat_inj]
    exact Int.natCast_inj
  have htruth (l : Instruction) : l.kFigure.isTruth = l.spelling.k := Whole.isTruth_ofNat _ _
  have hdescription := infer_description_iff hvalue i.opcode.toNat
  rw [hopcode, hopcode, hone, htruth, htruth] at hdescription
  rw [Instruction.WordedApart, ← hdescription]
  simp only [ofInstruction_untrusted, sense, Prod.mk.injEq, ← hcode, infer_purpose hvalue, hvalue,
    true_and, and_true]

end

end Meaning

/-! ## Programs with the same code -/

namespace Program

variable {p q : Program}

theorem sameCode_at (h : p.sameCode q = true) {n : Nat} {i j : Instruction}
    (hi : p.instructions[n]? = some i) (hj : q.instructions[n]? = some j) :
    i.toEncoding = j.toEncoding := by
  have hcode : p.code = q.code := eq_of_beq h
  have hat : p.code[n]? = q.code[n]? := by rw [hcode]
  simpa only [code, List.getElem?_map, hi, hj, Option.map_some, Option.some.injEq] using hat

section
variable (hcode : p.sameCode q = true)
include hcode

theorem unworded_meaning_eq :
    (p.meaning false).map Meaning.unworded = (q.meaning false).map Meaning.unworded := by
  rw [map_meaning, map_meaning, mapIdx_eq_iff, and_iff_right (size_of_sameCode hcode)]
  intro n i j hi hj
  exact Meaning.unworded_eq (sameCode_at hcode hi hj) n

theorem sense_meaning_eq_iff :
    (p.meaning false).map Meaning.sense = (q.meaning false).map Meaning.sense ↔
      ∀ (n : Nat) (i j : Instruction), p.instructions[n]? = some i → q.instructions[n]? = some j →
        ¬ i.WordedApart j := by
  rw [map_meaning, map_meaning, mapIdx_eq_iff, and_iff_right (size_of_sameCode hcode)]
  have hat {n : Nat} {i j : Instruction} (hi : p.instructions[n]? = some i)
      (hj : q.instructions[n]? = some j) :=
    Meaning.sense_eq_iff (sameCode_at hcode hi hj) n
  constructor
  · intro h n i j hi hj
    exact (hat hi hj).mp (h n i j hi hj)
  · intro h n i j hi hj
    exact (hat hi hj).mpr (h n i j hi hj)

end

theorem meaning_untagged {r p : Program} (h : r.instructions = p.instructions.map Instruction.untagged) :
    r.meaning false = p.meaning false := by
  rw [meaning_eq, meaning_eq, h]
  apply List.ext_getElem?
  intro n
  simp only [List.getElem?_mapIdx, List.getElem?_map, Option.map_map]
  rfl

theorem map_untagged_eq {p : Program} (hp : ∀ i ∈ p.instructions, i.spelling = {}) :
    p.instructions.map Instruction.untagged = p.code.map (fun e => { toEncoding := e }) := by
  rw [code, List.map_map]
  apply List.map_congr_left
  intro i hi
  ext <;> simp [Instruction.untagged, hp i hi]

theorem meaning_of_sameCode {p q : Program} (hp : ∀ i ∈ p.instructions, i.spelling = {})
    (hq : ∀ i ∈ q.instructions, i.spelling = {}) (hcode : p.sameCode q = true) :
    p.meaning false = q.meaning false := by
  have hsame : p.instructions.map Instruction.untagged = q.instructions.map Instruction.untagged := by
    have hcodes : p.code = q.code := eq_of_beq hcode
    rw [map_untagged_eq hp, map_untagged_eq hq, hcodes]
  let r : Program := { instructions := p.instructions.map Instruction.untagged }
  calc p.meaning false
      = r.meaning false := (meaning_untagged rfl).symm
    _ = q.meaning false := meaning_untagged hsame

end Program

namespace Comparison

/-- Both sides mean the same at every position. -/
def SameSense (c : Comparison) : Prop :=
  c.referenceMeaning.map Meaning.sense = c.candidateMeaning.map Meaning.sense

/-- Both sides are read as the same at every position, the descriptions aside. -/
def SameUnworded (c : Comparison) : Prop :=
  c.referenceMeaning.map Meaning.unworded = c.candidateMeaning.map Meaning.unworded

theorem fullMatch_untagged {r p : Program}
    (h : r.instructions = p.instructions.map Instruction.untagged) (hsome : p.instructions ≠ []) :
    (Comparison.of r p).FullMatch ∧ (Comparison.of p r).FullMatch := by
  -- One untagged instruction is enough for tags to be left aside on both sides.
  obtain ⟨i, hi⟩ := List.exists_mem_of_ne_nil _ hsome
  have hmem : i.untagged ∈ r.instructions := by
    rw [h]
    exact List.mem_map_of_mem hi
  have htags : r.isTagged = false := Program.not_isTagged hmem rfl
  have hmeaning := Program.meaning_untagged h
  constructor
  · apply of_fullMatch _ (List.ne_nil_of_mem hmem)
    rw [htags, Bool.false_and, hmeaning]
  · apply of_fullMatch _ hsome
    rw [htags, Bool.and_false, hmeaning]

theorem and_isTagged {p q : Program} (h : p.isTagged = false ∨ q.isTagged = false) :
    (p.isTagged && q.isTagged) = false := by
  rcases h with h | h
  · rw [h, Bool.false_and]
  · rw [h, Bool.and_false]

/-- Programs with the same code of which one has an untagged instruction give nothing
amiss, and are read as the same but for descriptions of what is worded apart. -/
theorem of_sameCode {p q : Program} (hcode : p.sameCode q = true) (hsome : p.instructions ≠ [])
    (htags : p.isTagged = false ∨ q.isTagged = false) :
    (Comparison.of p q).NothingAmiss ∧ (Comparison.of p q).SameUnworded ∧
      ((Comparison.of p q).SameSense ↔
        ∀ (n : Nat) (i j : Instruction), p.instructions[n]? = some i →
          q.instructions[n]? = some j → ¬ i.WordedApart j) := by
  have htrusted := and_isTagged htags
  have hunworded := Program.unworded_meaning_eq hcode
  have hpurposes : p.purposesBeside q = q.purposesBeside p := by
    have hfirst (ms : List Meaning) : purposes ms = (ms.map Meaning.unworded).map Prod.fst := by
      rw [List.map_map]
      rfl
    rw [Program.purposesBeside, Program.purposesBeside, htrusted, Bool.and_comm, htrusted, hfirst,
      hunworded, ← hfirst]
  refine ⟨of_nothingAmiss (.of_eq hpurposes) hsome, ?_, ?_⟩
  · simpa only [SameUnworded, Comparison.of, htrusted] using hunworded
  · simpa only [SameSense, Comparison.of, htrusted] using Program.sense_meaning_eq_iff hcode

end Comparison

/-- **Programs with the same code match.** A program matches in full what is read from
its dump, or from a file that holds the dump, which is read exactly if the count fits in
a literal and no field is spelled as a truth value. Programs with the same code of which
one has an untagged instruction match in full if they are spelled in numbers. However they
are spelled, they give nothing amiss; they mean the same at every position exactly if no
one that is quoted in words is spelled as a truth value in one of them alone, and otherwise
differ in these descriptions alone. -/
theorem sameCode_matches (p q : Program) :
    (p.instructions ≠ [] → Dump.read p.dump = .ok q.instructions →
      (Comparison.of q p).FullMatch ∧ (Comparison.of p q).FullMatch) ∧
    (∀ expression : String, p.instructions ≠ [] →
      Reference.ofFile (Text.asciiBytes p.dump) expression = .ok q →
      (Comparison.of q p).FullMatch ∧ (Comparison.of p q).FullMatch) ∧
    (∀ expression : String,
      (∃ r, Reference.ofFile (Text.asciiBytes p.dump) expression = .ok r) ↔
        (Nat.toDigits 10 p.size).length ≤ maxDigits ∧ ∀ i ∈ p.instructions, i.spelling = {}) ∧
    ((∀ i ∈ p.instructions, i.spelling = {}) → (∀ i ∈ q.instructions, i.spelling = {}) →
      p.sameCode q = true → p.instructions ≠ [] → p.isTagged = false ∨ q.isTagged = false →
      (Comparison.of p q).FullMatch) ∧
    (p.sameCode q = true → p.instructions ≠ [] → p.isTagged = false ∨ q.isTagged = false →
      (Comparison.of p q).NothingAmiss ∧ (Comparison.of p q).SameUnworded ∧
        ((Comparison.of p q).SameSense ↔
          ∀ (n : Nat) (i j : Instruction), p.instructions[n]? = some i →
            q.instructions[n]? = some j → ¬ i.WordedApart j)) := by
  refine ⟨?_, ?_, ?_, ?_, Comparison.of_sameCode⟩
  · intro hsome hread
    obtain ⟨-, -, hq⟩ := (Dump.read_dumpOf p.instructions q.instructions).mp hread
    exact Comparison.fullMatch_untagged hq hsome
  · intro expression hsome hfile
    obtain ⟨is, hread, rfl⟩ := (Reference.ofFile_dump_eq_ok p expression q).mp hfile
    obtain ⟨-, -, hr⟩ := (Dump.read_dumpOf p.instructions is).mp hread
    exact Comparison.fullMatch_untagged hr hsome
  · intro expression
    constructor
    · rintro ⟨r, hfile⟩
      obtain ⟨is, hread, -⟩ := (Reference.ofFile_dump_eq_ok p expression r).mp hfile
      obtain ⟨hcount, hspelling, -⟩ := (Dump.read_dumpOf p.instructions is).mp hread
      exact ⟨hcount, hspelling⟩
    · rintro ⟨hcount, hspelling⟩
      have hread := (Dump.read_dumpOf p.instructions _).mpr ⟨hcount, hspelling, rfl⟩
      exact ⟨_, (Reference.ofFile_dump_eq_ok p expression _).mpr ⟨_, hread, rfl⟩⟩
  · intro hp hq hcode hsome htags
    apply Comparison.of_fullMatch _ hsome
    rw [Comparison.and_isTagged htags]
    exact Program.meaning_of_sameCode hp hq hcode

/-- A program with a tag that is wrong and an instruction without one. -/
def halfTagged : Program where
  instructions :=
    [{ opcode := Opcode.loadHalf, jt := 0, jf := 0, k := 12, purpose := some .accept },
     { opcode := Opcode.ret, jt := 0, jf := 0, k := 1 }]

/-- The same code, with a tag on each instruction. -/
def allTagged : Program where
  instructions :=
    [{ opcode := Opcode.loadHalf, jt := 0, jf := 0, k := 12, purpose := some .loadEthertype },
     { opcode := Opcode.ret, jt := 0, jf := 0, k := 1, purpose := some .reject }]

theorem sameCode_matches_halfTagged :
    (∃ r : Program, Dump.read halfTagged.dump = .ok r.instructions ∧
      (Comparison.of r halfTagged).FullMatch ∧ (Comparison.of halfTagged r).FullMatch) ∧
    (∃ r, Reference.ofFile (Text.asciiBytes halfTagged.dump) "" = .ok r ∧
      (Comparison.of r halfTagged).FullMatch ∧ (Comparison.of halfTagged r).FullMatch) ∧
    halfTagged.sameCode allTagged = true ∧ halfTagged.isTagged = false ∧
    (Comparison.of halfTagged allTagged).FullMatch ∧
    (Comparison.of halfTagged allTagged).NothingAmiss ∧
    (Comparison.of halfTagged allTagged).SameSense := by
  have hcode : halfTagged.sameCode allTagged = true := by decide
  have htags : halfTagged.isTagged = false := by decide
  have hsome : halfTagged.instructions ≠ [] := List.cons_ne_nil _ _
  have hhalf : ∀ i ∈ halfTagged.instructions, i.spelling = {} := by decide
  have hall : ∀ i ∈ allTagged.instructions, i.spelling = {} := by decide
  obtain ⟨-, -, hreadable, hplain, hsame⟩ := sameCode_matches halfTagged allTagged
  refine ⟨?_, ?_, hcode, htags, hplain hhalf hall hcode hsome (.inl htags), ?_⟩
  · have his := (Dump.read_dumpOf halfTagged.instructions _).mpr ⟨by decide, hhalf, rfl⟩
    exact ⟨{ instructions := halfTagged.instructions.map Instruction.untagged }, his,
      (sameCode_matches halfTagged _).1 hsome his⟩
  · obtain ⟨r, hr⟩ := (hreadable "").mpr ⟨by decide, hhalf⟩
    exact ⟨r, hr, (sameCode_matches halfTagged r).2.1 "" hsome hr⟩
  · obtain ⟨hamiss, -, hsense⟩ := hsame hcode hsome (.inl htags)
    refine ⟨hamiss, hsense.mpr ?_⟩
    intro n i j hi hj hworded
    apply hworded.2.2
    rw [hhalf i (List.mem_of_getElem? hi), hall j (List.mem_of_getElem? hj)]

/-- The one that is returned is quoted as it is spelled, so programs with the same code
need not mean the same. -/
theorem sameCode_truth_return :
    (returnOne (.truth true)).sameCode (returnOne (.int 1)) = true ∧
      (returnOne (.truth true)).instructions ≠ [] ∧ (returnOne (.truth true)).isTagged = false ∧
      ¬ (Comparison.of (returnOne (.truth true)) (returnOne (.int 1))).SameSense := by
  have hcode : (returnOne (.truth true)).sameCode (returnOne (.int 1)) = true := by decide
  have hsome : (returnOne (.truth true)).instructions ≠ [] := List.cons_ne_nil _ _
  have htags : (returnOne (.truth true)).isTagged = false := by decide
  obtain ⟨-, -, hsense⟩ := Comparison.of_sameCode hcode hsome (.inl htags)
  refine ⟨hcode, hsome, htags, ?_⟩
  rw [hsense]
  intro h
  exact h 0 _ _ rfl rfl ⟨.inr rfl, rfl, by decide⟩

end PacketFilter
