import PacketFilter.Proofs.Builder.Steps
import PacketFilter.Proofs.Number.Numeral
import PacketFilter.Proofs.Program.Dump

/-
  The form of dumps.

  `Holds` says which texts are dumps and what they hold, line by line, and `Fails` says what
  is wrong with a text that is none. Reading finds what a text holds, and if it holds
  nothing, says what is wrong with it, which for a dump with the right number of lines is
  the first line that holds no instruction.

  What is proved: a line is read exactly if it holds an instruction (`line_eq_ok_iff`), lines
  are read exactly if each of them is, and else the first that is not is named
  (`linesFrom_eq_ok_iff`, `linesFrom_offends`); and so a text is read exactly if it is a
  dump (`read_iff_holds`).
-/

namespace PacketFilter

open Text

namespace Dump

/-! ## The form -/

/-- The line is four literals, whose numbers fit in the fields of an instruction and are
its fields; the instruction is not tagged. -/
def LineOf (cs : List Char) (i : Instruction) : Prop :=
  ∃ a b c d, words cs = [a, b, c, d] ∧
    Literal a i.opcode.toNat ∧ Literal b i.jt.toNat ∧ Literal c i.jf.toNat ∧ Literal d i.k.toNat ∧
    i.purpose = none ∧ i.spelling = {}

/-- Each line holds one instruction. -/
inductive LinesOf : List (List Char) → List Instruction → Prop where
  | nil : LinesOf [] []
  | cons {cs : List Char} {i : Instruction} {rest : List (List Char)} {is : List Instruction}
      (h : LineOf cs i) (hrest : LinesOf rest is) : LinesOf (cs :: rest) (i :: is)

/-- The text is a dump of the instructions: a count of the lines that follow, and these
lines. -/
def Holds (text : String) (is : List Instruction) : Prop :=
  ∃ first rest, lines (trim text.toList) = first :: rest ∧ Literal (trim first) rest.length ∧
    LinesOf rest is

/-- The first of the lines that holds no instruction, and the error that names it. -/
def Offends (ls : List (List Char)) (e : DumpError) : Prop :=
  ∃ before cs after, ls = before ++ cs :: after ∧
    (∀ l ∈ before, ∃ i, LineOf l i) ∧ (¬ ∃ i, LineOf cs i) ∧
    if (words cs).length = 4 then
      ∃ cause, e.message =
        "invalid instruction at line " ++ decimalNat (before.length + 1) ++ ": " ++ cause
    else
      e.message = "invalid instruction format at line " ++ decimalNat (before.length + 1) ++ ": " ++
        String.ofList (trim cs)

/-- What is wrong with a text that is no dump. -/
inductive Fails (text : String) : DumpError → Prop where
  | empty (h : lines (trim text.toList) = []) : Fails text .empty
  | count {first : List Char} {rest : List (List Char)}
      (h : lines (trim text.toList) = first :: rest) (hcount : ¬ ∃ n, Literal (trim first) n) :
      Fails text (.count (String.ofList (trim first)))
  | lineCount {first : List Char} {rest : List (List Char)} {n : Int}
      (h : lines (trim text.toList) = first :: rest) (hcount : Literal (trim first) n)
      (hne : n ≠ rest.length) : Fails text (.lineCount n rest.length)
  | line {first : List Char} {rest : List (List Char)} {e : DumpError}
      (h : lines (trim text.toList) = first :: rest) (hcount : Literal (trim first) rest.length)
      (hline : Offends rest e) : Fails text e

/-! ## Lines -/

theorem make?_int_eq_ok_iff {a b c d : Int} {i : Instruction} :
    Instruction.make? (.int a) (.int b) (.int c) (.int d) none = .ok i ↔
      a = i.opcode.toNat ∧ b = i.jt.toNat ∧ c = i.jf.toNat ∧ d = i.k.toNat ∧
        i.purpose = none ∧ i.spelling = {} := by
  constructor
  · intro h
    obtain ⟨-, hhas, hpurpose⟩ :=
      @Instruction.make?_whole (.int a) (.int b) (.int c) (.int d) none i h
    have hspelling : i.spelling = {} := by
      have hfields : i.spelling =
          ⟨i.spelling.opcode, i.spelling.jt, i.spelling.jf, i.spelling.k⟩ := rfl
      rw [hfields, hhas.opcode.2, hhas.jt.2, hhas.jf.2, hhas.k.2]
      rfl
    exact ⟨hhas.opcode.1.symm, hhas.jt.1.symm, hhas.jf.1.symm, hhas.k.1.symm, hpurpose, hspelling⟩
  · rintro ⟨rfl, rfl, rfl, rfl, hpurpose, hspelling⟩
    have huntagged : i.untagged = i := by
      rw [Instruction.untagged, ← hpurpose]
    exact (i.make?_toNat hspelling).trans (congrArg Except.ok huntagged)

theorem readInteger_word {cs word : List Char} (h : word ∈ words cs) (n : Int) :
    readInteger (String.ofList word) = .ok n ↔ Literal word n := by
  obtain ⟨hsome, hblank⟩ := mem_words h
  have htrim : trim word = word := (Solid.of_forall hsome hblank).trimWhere
  rw [← htrim, readInteger_trim]

/-- **A line is read exactly if it holds an instruction.** -/
theorem line_eq_ok_iff (number : Nat) (cs : List Char) (i : Instruction) :
    line number cs = .ok i ↔ LineOf cs i := by
  rw [line, words_trim, LineOf]
  split
  · next a b c d hwords =>
    have hread {word : List Char} (hword : word ∈ [a, b, c, d]) (n : Int) :
        readInteger (String.ofList word) = .ok n ↔ Literal word n :=
      readInteger_word (hwords ▸ hword) n
    simp only [mapError_eq_ok, instruction, bind_eq_ok, make?_int_eq_ok_iff, hwords,
      hread (show a ∈ [a, b, c, d] by simp), hread (show b ∈ [a, b, c, d] by simp),
      hread (show c ∈ [a, b, c, d] by simp), hread (show d ∈ [a, b, c, d] by simp)]
    constructor
    · rintro ⟨_, ho, _, ht, _, hf, _, hk, rfl, rfl, rfl, rfl, hplain⟩
      exact ⟨a, b, c, d, rfl, ho, ht, hf, hk, hplain⟩
    · rintro ⟨_, _, _, _, h, ho, ht, hf, hk, hplain⟩
      cases h
      exact ⟨_, ho, _, ht, _, hf, _, hk, rfl, rfl, rfl, rfl, hplain⟩
  · next hwords =>
    refine iff_of_false (by simp) ?_
    rintro ⟨a, b, c, d, h, -⟩
    exact hwords a b c d h

theorem linesFrom_eq_ok_iff (number : Nat) (ls : List (List Char)) (is : List Instruction) :
    linesFrom number ls = .ok is ↔ LinesOf ls is := by
  induction ls generalizing number is with
  | nil =>
    constructor
    · intro h
      cases h
      exact .nil
    · rintro ⟨⟩
      rfl
  | cons cs ls ih =>
    simp only [linesFrom, bind_eq_ok, line_eq_ok_iff, ih, pure_ok, Except.ok.injEq]
    constructor
    · rintro ⟨i, hi, is, his, rfl⟩
      exact .cons hi his
    · rintro (_ | ⟨hi, his⟩)
      exact ⟨_, hi, _, his, rfl⟩

theorem line_error {number : Nat} {cs : List Char} {e : DumpError} (h : line number cs = .error e) :
    if (words cs).length = 4 then
      ∃ cause, e.message = "invalid instruction at line " ++ decimalNat number ++ ": " ++ cause
    else
      e.message = "invalid instruction format at line " ++ decimalNat number ++ ": " ++
        String.ofList (trim cs) := by
  rw [line, words_trim] at h
  split at h
  · next a b c d hwords =>
    obtain ⟨cause, -, rfl⟩ := mapError_eq_error.mp h
    rw [hwords]
    exact ⟨cause.message, rfl⟩
  · next hwords =>
    have hlength : ¬ (words cs).length = 4 := by
      intro hfour
      rcases hcs : words cs with _ | ⟨a, _ | ⟨b, _ | ⟨c, _ | ⟨d, _ | ⟨e, rest⟩⟩⟩⟩⟩
      all_goals simp [hcs] at hfour
      exact hwords a b c d hcs
    cases h
    rw [if_neg hlength]
    rfl

/-- Lines that are not all read are so because of the first that is not. -/
theorem linesFrom_error {number : Nat} {ls : List (List Char)} {e : DumpError}
    (h : linesFrom number ls = .error e) :
    ∃ before cs after, ls = before ++ cs :: after ∧ (∀ l ∈ before, ∃ i, LineOf l i) ∧
      line (number + before.length) cs = .error e := by
  induction ls generalizing number with
  | nil => cases h
  | cons cs ls ih =>
    rw [linesFrom, bind_eq_error] at h
    rcases h with h | ⟨i, hi, h⟩
    · exact ⟨[], cs, ls, rfl, by simp, h⟩
    · rw [bind_eq_error] at h
      obtain h | ⟨is, -, h⟩ := h
      · obtain ⟨before, bad, after, rfl, hbefore, hbad⟩ := ih h
        refine ⟨cs :: before, bad, after, rfl, ?_, ?_⟩
        · exact List.forall_mem_cons.mpr ⟨⟨i, (line_eq_ok_iff number cs i).mp hi⟩, hbefore⟩
        · rw [List.length_cons, Nat.add_comm before.length, ← Nat.add_assoc]
          exact hbad
      · contradiction

theorem linesFrom_offends {ls : List (List Char)} {e : DumpError} (h : linesFrom 1 ls = .error e) :
    Offends ls e := by
  obtain ⟨before, cs, after, hls, hbefore, hline⟩ := linesFrom_error h
  rw [Nat.add_comm] at hline
  refine ⟨before, cs, after, hls, hbefore, ?_, line_error hline⟩
  rintro ⟨i, hi⟩
  rw [(line_eq_ok_iff _ cs i).mpr hi] at hline
  contradiction

/-! ## Dumps -/

theorem literal_trim_unique {cs : List Char} {m n : Int} (hm : Literal (trim cs) m)
    (hn : Literal (trim cs) n) : m = n := by
  rw [← readInteger_trim] at hm hn
  exact Except.ok.inj (hm.symm.trans hn)

theorem read_cases (text : String) :
    lines (trim text.toList) = [] ∧ read text = .error .empty ∨
      ∃ first rest, lines (trim text.toList) = first :: rest ∧
        ((¬ ∃ n, Literal (trim first) n) ∧
            read text = .error (.count (String.ofList (trim first))) ∨
          (∃ n : Int, Literal (trim first) n ∧ n ≠ rest.length ∧
            read text = .error (.lineCount n rest.length)) ∨
          Literal (trim first) rest.length ∧ read text = linesFrom 1 rest) := by
  cases hlines : lines (trim text.toList) with
  | nil => exact .inl ⟨rfl, by rw [read, hlines]⟩
  | cons first rest =>
    refine .inr ⟨first, rest, rfl, ?_⟩
    simp only [read, hlines, ← readInteger_trim]
    cases readInteger (String.ofList (trim first)) with
    | error cause => exact .inl ⟨by simp, rfl⟩
    | ok n =>
      by_cases hn : (rest.length : Int) = n
      · exact .inr (.inr ⟨congrArg _ hn.symm, if_pos hn⟩)
      · exact .inr (.inl ⟨n, rfl, fun h => hn h.symm, if_neg hn⟩)

theorem read_eq_ok_iff (text : String) (is : List Instruction) :
    read text = .ok is ↔ Holds text is := by
  constructor
  · intro h
    obtain ⟨-, hread⟩ | ⟨first, rest, hlines, ⟨-, hread⟩ | ⟨n, -, -, hread⟩ | ⟨hcount, hread⟩⟩ :=
      read_cases text
    all_goals rw [hread] at h
    · contradiction
    · contradiction
    · contradiction
    · exact ⟨first, rest, hlines, hcount, (linesFrom_eq_ok_iff 1 rest is).mp h⟩
  · rintro ⟨first, rest, hlines, hcount, his⟩
    obtain ⟨hnone, -⟩ | ⟨_, _, hlines', hread⟩ := read_cases text
    · rw [hlines] at hnone
      contradiction
    · rw [hlines] at hlines'
      cases hlines'
      obtain ⟨hnot, -⟩ | ⟨n, hn, hne, -⟩ | ⟨-, hread⟩ := hread
      · exact absurd ⟨_, hcount⟩ hnot
      · exact absurd (literal_trim_unique hn hcount) hne
      · rw [hread, linesFrom_eq_ok_iff]
        exact his

theorem read_fails {text : String} {e : DumpError} (h : read text = .error e) : Fails text e := by
  obtain ⟨hlines, hread⟩ |
    ⟨first, rest, hlines, ⟨hnot, hread⟩ | ⟨n, hn, hne, hread⟩ | ⟨hcount, hread⟩⟩ := read_cases text
  all_goals rw [hread] at h
  · cases h
    exact .empty hlines
  · cases h
    exact .count hlines hnot
  · cases h
    exact .lineCount hlines hn hne
  · exact .line hlines hcount (linesFrom_offends h)

/-- **A text is read exactly if it is a dump.** What is read is what the text holds, line by
line; and a text that holds nothing gives an error that says what is wrong with it, which
names the first line that holds no instruction if the count is right. -/
theorem read_iff_holds (text : String) :
    (∀ is, read text = .ok is ↔ Holds text is) ∧
      ((¬ ∃ is, Holds text is) ↔ ∃ e, read text = .error e ∧ Fails text e) := by
  refine ⟨read_eq_ok_iff text, ?_⟩
  simp only [← read_eq_ok_iff]
  cases h : read text with
  | ok is => simp
  | error e => simp [read_fails h]

end Dump

end PacketFilter
