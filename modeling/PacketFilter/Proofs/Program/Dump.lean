import PacketFilter.Proofs.Compile.Outcome
import PacketFilter.Proofs.Number.Literal

/-
  Dumps read back.

  A dump is written as a count and lines of four figures. Reading it takes the text
  apart at line feeds and blanks and reads each figure as a literal. Figures are read
  as numbers, so a field that is spelled as a truth value is the one thing that stops
  the reading, apart from a count too long for a literal.

  What is proved: the line of an instruction gives the instruction without its tag, if
  no field is spelled as a truth value (`line_words`); a dump gives its instructions
  under the same condition (`read_dumpOf`); and a reference program has instructions
  that its own dump gives, unless it was made here for a filter with a truth value as
  a port (`dump_reads_back`).
-/

namespace PacketFilter

open Text

/-! ## Figures -/

namespace Whole

theorem mem_ofNat_text {n : Nat} {spelled : Bool} {c : Char}
    (hc : c ∈ (ofNat n spelled).text.toList) : c.isDigit = true ∨ AsciiLetter c := by
  cases spelled with
  | true =>
    have hname : ∀ b, (truthText b).toList.all (fun c => decide (AsciiLetter c)) = true := by decide
    exact .inr (of_decide_eq_true (List.all_eq_true.mp (hname (n != 0)) c hc))
  | false =>
    simp only [ofNat, Bool.false_eq_true, ↓reduceIte, text, decimal_natCast] at hc
    exact .inl (isDigit_of_mem_decimalNat hc)

theorem ofNat_text_nonblank (n : Nat) (spelled : Bool) :
    (ofNat n spelled).text.toList ≠ [] ∧
      ∀ c ∈ (ofNat n spelled).text.toList, isBlank c = false := by
  refine ⟨?_, ?_⟩
  · cases spelled with
    | true =>
      have hname : ∀ b, truthText b ≠ "" := by decide
      simpa [ofNat, text] using hname (n != 0)
    | false =>
      simp only [ofNat, Bool.false_eq_true, ↓reduceIte, text, decimal_natCast]
      exact decimalNat_toList_ne_nil n
  · intro c hc
    rcases mem_ofNat_text hc with hdigit | hletter
    · exact isBlank_of_isDigit hdigit
    · exact hletter.not_blank

/-- A figure is read as its number, and the name of a truth value is not read. -/
theorem readInteger_ofNat {n : Nat} (hn : (Nat.toDigits 10 n).length ≤ maxDigits) (spelled : Bool)
    (m : Int) :
    readInteger (ofNat n spelled).text = .ok m ↔ spelled = false ∧ m = n := by
  cases spelled with
  | true =>
    have hread := readInteger_truthText (n != 0) m
    simpa [ofNat, text] using hread
  | false =>
    simp only [ofNat, Bool.false_eq_true, ↓reduceIte, text, decimal_natCast, readInteger_decimalNat,
      if_pos hn, Except.ok.injEq, true_and]
    exact eq_comm

end Whole

/-! ## Instructions -/

namespace Instruction

def untagged (i : Instruction) : Instruction := { i with purpose := none }

def figureTexts (i : Instruction) : List (List Char) := i.figures.map (fun w => w.text.toList)

theorem words_toList (i : Instruction) : i.words.toList = [' '].intercalate i.figureTexts := by
  rw [Instruction.words, String.toList_intercalate, List.map_map]
  rfl

theorem figureTexts_nonblank (i : Instruction) :
    ∀ t ∈ i.figureTexts, t ≠ [] ∧ ∀ c ∈ t, isBlank c = false := by
  intro t ht
  simp only [figureTexts, figures, List.map_cons, List.map_nil, List.mem_cons, List.not_mem_nil,
    or_false] at ht
  rcases ht with rfl | rfl | rfl | rfl <;> exact Whole.ofNat_text_nonblank _ _

theorem words_solid (i : Instruction) : Solid isBlank i.words.toList := by
  rw [words_toList]
  refine .intercalate ' ' (List.cons_ne_nil _ _) fun t ht => ?_
  obtain ⟨hne, hblank⟩ := i.figureTexts_nonblank t ht
  exact .of_forall hne hblank

theorem mem_words {i : Instruction} {c : Char} (hc : c ∈ i.words.toList) :
    c = ' ' ∨ c.isDigit = true ∨ AsciiLetter c := by
  rw [words_toList] at hc
  obtain hmark | ⟨t, ht, hct⟩ := mem_intercalate hc
  · exact .inl hmark
  · simp only [figureTexts, figures, List.map_cons, List.map_nil, List.mem_cons, List.not_mem_nil,
      or_false] at ht
    rcases ht with rfl | rfl | rfl | rfl <;> exact .inr (Whole.mem_ofNat_text hct)

theorem words_lineEnd (i : Instruction) : ∀ c ∈ i.words.toList, isLineEnd c = false := by
  intro c hc
  rcases mem_words hc with rfl | hdigit | hletter
  · decide
  · exact isLineEnd_of_isBlank (isBlank_of_isDigit hdigit)
  · exact isLineEnd_of_isBlank hletter.not_blank

theorem make?_toNat (i : Instruction) (hi : i.spelling = {}) :
    make? (.nat i.opcode.toNat) (.nat i.jt.toNat) (.nat i.jf.toNat) (.nat i.k.toNat) none =
      .ok i.untagged := by
  have ho : i.opcode.toNat ≤ FieldName.opcode.limit := Nat.le_of_lt_succ i.opcode.toNat_lt
  have ht : i.jt.toNat ≤ FieldName.jt.limit := Nat.le_of_lt_succ i.jt.toNat_lt
  have hf : i.jf.toNat ≤ FieldName.jf.limit := Nat.le_of_lt_succ i.jf.toNat_lt
  have hk : i.k.toNat ≤ FieldName.k.limit := Nat.le_of_lt_succ i.k.toNat_lt
  rw [make?, FieldName.fit_nat ho, FieldName.fit_nat ht, FieldName.fit_nat hf, FieldName.fit_nat hk]
  apply congrArg Except.ok
  ext <;> simp [untagged, hi, Encoding.ofWholes, Spelling.ofWholes, Whole.value, Whole.isTruth]

end Instruction

namespace Dump

/-- The four figures of an instruction are read as the instruction, untagged, and
only if none of them is a truth value. -/
theorem instruction_figures (i j : Instruction) :
    instruction i.opcodeFigure.text.toList i.jtFigure.text.toList i.jfFigure.text.toList
        i.kFigure.text.toList = .ok j ↔ i.spelling = {} ∧ j = i.untagged := by
  have ho := Whole.readInteger_ofNat
    (digits_le_maxDigits (Nat.lt_trans i.opcode.toNat_lt (by decide))) i.spelling.opcode
  have ht := Whole.readInteger_ofNat
    (digits_le_maxDigits (Nat.lt_trans i.jt.toNat_lt (by decide))) i.spelling.jt
  have hf := Whole.readInteger_ofNat
    (digits_le_maxDigits (Nat.lt_trans i.jf.toNat_lt (by decide))) i.spelling.jf
  have hk := Whole.readInteger_ofNat (digits_le_maxDigits i.k.toNat_lt) i.spelling.k
  simp only [instruction, String.ofList_toList, Instruction.opcodeFigure, Instruction.jtFigure,
    Instruction.jfFigure, Instruction.kFigure, bind_eq_ok, mapError_eq_ok, ho, ht, hf, hk]
  constructor
  · rintro ⟨_, ⟨so, rfl⟩, _, ⟨st, rfl⟩, _, ⟨sf, rfl⟩, _, ⟨sk, rfl⟩, hmake⟩
    have hi : i.spelling = {} := by
      rw [show i.spelling = ⟨i.spelling.opcode, i.spelling.jt, i.spelling.jf, i.spelling.k⟩ from rfl,
        so, st, sf, sk]
    have hread := hmake.symm.trans (i.make?_toNat hi)
    exact ⟨hi, Except.ok.inj hread⟩
  · rintro ⟨hi, rfl⟩
    have hmake := i.make?_toNat hi
    simp only [hi, true_and]
    exact ⟨_, rfl, _, rfl, _, rfl, _, rfl, hmake⟩

theorem line_words (number : Nat) (i j : Instruction) :
    line number i.words.toList = .ok j ↔ i.spelling = {} ∧ j = i.untagged := by
  have hwords : words i.words.toList =
      [i.opcodeFigure.text.toList, i.jtFigure.text.toList, i.jfFigure.text.toList,
        i.kFigure.text.toList] := by
    rw [i.words_toList]
    exact words_intercalate (by decide) (List.cons_ne_nil _ _) i.figureTexts_nonblank
  simp only [line, trim, i.words_solid.trimWhere, hwords, mapError_eq_ok, instruction_figures]

theorem linesFrom_words (number : Nat) (is js : List Instruction) :
    linesFrom number (is.map (fun i => i.words.toList)) = .ok js ↔
      (∀ i ∈ is, i.spelling = {}) ∧ js = is.map Instruction.untagged := by
  induction is generalizing number js with
  | nil => simp [linesFrom, eq_comm]
  | cons i is ih =>
    simp only [List.map_cons, linesFrom, bind_eq_ok, line_words, ih, pure_ok, Except.ok.injEq,
      List.forall_mem_cons]
    constructor
    · rintro ⟨_, ⟨hi, rfl⟩, _, ⟨his, rfl⟩, rfl⟩
      exact ⟨⟨hi, his⟩, rfl⟩
    · rintro ⟨⟨hi, his⟩, rfl⟩
      exact ⟨_, ⟨hi, rfl⟩, _, ⟨his, rfl⟩, rfl⟩

/-! ## Dumps -/

def dumpLines (is : List Instruction) : List (List Char) :=
  (decimalNat is.length).toList :: is.map (fun i => i.words.toList)

theorem dumpOf_toList (is : List Instruction) :
    (Program.dumpOf is).toList = ['\n'].intercalate (dumpLines is) ++ ['\n'] := by
  rw [Program.dumpOf, unlines, String.toList_append, String.toList_intercalate, List.map_cons,
    List.map_map]
  rfl

theorem count_solid (n : Nat) : Solid isBlank (decimalNat n).toList :=
  .of_forall (decimalNat_toList_ne_nil n)
    fun _ hc => isBlank_of_isDigit (isDigit_of_mem_decimalNat hc)

theorem dumpLines_solid (is : List Instruction) : ∀ l ∈ dumpLines is, Solid isBlank l := by
  intro l hl
  rcases List.mem_cons.mp hl with rfl | hl
  · exact count_solid is.length
  · obtain ⟨i, -, rfl⟩ := List.mem_map.mp hl
    exact i.words_solid

theorem dumpLines_lineEnd (is : List Instruction) :
    ∀ l ∈ dumpLines is, ∀ c ∈ l, isLineEnd c = false := by
  intro l hl
  rcases List.mem_cons.mp hl with rfl | hl
  · exact fun c hc => isLineEnd_of_isBlank (isBlank_of_isDigit (isDigit_of_mem_decimalNat hc))
  · obtain ⟨i, -, rfl⟩ := List.mem_map.mp hl
    exact i.words_lineEnd

theorem lines_dumpOf (is : List Instruction) :
    lines (trim (Program.dumpOf is).toList) = dumpLines is := by
  have hsolid : Solid isBlank (['\n'].intercalate (dumpLines is)) :=
    .intercalate '\n' (List.cons_ne_nil _ _) (dumpLines_solid is)
  rw [dumpOf_toList, trim, hsolid.trimWhere_append (List.forall_mem_singleton.mpr rfl)]
  apply lines_intercalate (List.cons_ne_nil _ _)
  exact fun l hl => ⟨(dumpLines_solid is l hl).nonempty, dumpLines_lineEnd is l hl⟩

/-- **A dump gives its instructions**, untagged, if the count is short enough for a
literal and no field is spelled as a truth value, and gives nothing otherwise. -/
theorem read_dumpOf (is js : List Instruction) :
    read (Program.dumpOf is) = .ok js ↔
      (Nat.toDigits 10 is.length).length ≤ maxDigits ∧ (∀ i ∈ is, i.spelling = {}) ∧
        js = is.map Instruction.untagged := by
  have hcount : String.ofList (trim (decimalNat is.length).toList) = decimalNat is.length := by
    rw [trim, (count_solid is.length).trimWhere, String.ofList_toList]
  simp only [read, lines_dumpOf, dumpLines, hcount, readInteger_decimalNat]
  by_cases hlen : (Nat.toDigits 10 is.length).length ≤ maxDigits
  · simp only [hlen, ↓reduceIte, List.length_map, linesFrom_words, true_and]
  · simp only [hlen, ↓reduceIte, reduceCtorEq, false_and]

end Dump

/-! ## Reference programs -/

namespace Synthetic

/-- No line has a truth value for its immediate. -/
def Numeric (ls : List Line) : Prop := ∀ l ∈ ls, l.whole.isTruth = false

theorem numeric_append {a b : List Line} : Numeric (a ++ b) ↔ Numeric a ∧ Numeric b :=
  List.forall_mem_append

theorem numeric_pair {opcode : UInt16} {k : Nat} {v : Json} :
    Numeric [.load opcode k, .check v] ↔ ∀ b, v ≠ .bool b := by
  have hload : (Line.load opcode k).whole.isTruth = false := rfl
  have hcheck : Numeric [.load opcode k, .check v] ↔ (Line.check v).whole.isTruth = false := by
    simp [Numeric, hload]
  rw [hcheck, Line.check, Line.whole]
  cases v with
  | bool b => simp [Json.whole?, Whole.isTruth]
  | num n => cases n <;> simp [Json.whole?, Whole.isTruth]
  | _ => simp [Json.whole?, Whole.isTruth]

theorem protocolLines_numeric {f : Filter} {ls : List Line} (h : protocolLines f = .ok ls) :
    Numeric ls := by
  unfold protocolLines at h
  split at h
  · cases h
    exact fun l hl => absurd hl List.not_mem_nil
  · obtain ⟨n, -, rfl⟩ := map_eq_ok.mp h
    exact numeric_pair.mpr (by simp [Json.nat])

theorem addressLines_numeric {address : Option Json} {offset : Nat} {ls : List Line}
    (h : addressLines address offset = .ok ls) : Numeric ls := by
  unfold addressLines at h
  split at h
  · cases h
    exact fun l hl => absurd hl List.not_mem_nil
  · obtain ⟨w, -, rfl⟩ := map_eq_ok.mp h
    exact numeric_pair.mpr (by simp [Json.nat])

theorem portLines_numeric (port : Option Json) (offset : Nat) :
    Numeric (portLines port offset) ↔ ∀ b, port ≠ some (.bool b) := by
  cases port with
  | none => simp [portLines, Numeric]
  | some v => simp only [portLines, numeric_pair, ne_eq, Option.some.injEq]

theorem portsLines_numeric (f : Filter) :
    Numeric (portsLines f) ↔ ∀ side b, f.port side ≠ some (.bool b) := by
  have hsides : (∀ side b, f.port side ≠ some (.bool b)) ↔
      (∀ b, f.srcPort ≠ some (.bool b)) ∧ ∀ b, f.dstPort ≠ some (.bool b) := by
    constructor
    · exact fun h => ⟨h .src, h .dst⟩
    · rintro ⟨hsrc, hdst⟩ side
      cases side
      · exact hsrc
      · exact hdst
  rw [hsides, portsLines]
  split
  · have hfragment : Numeric [.load Opcode.loadHalf Offset.fragment,
        ⟨Opcode.jumpSet, .nat fragmentMask, .onTrue⟩,
        .load Opcode.loadHeaderLen Offset.ipHeader] := by
      simp only [Numeric]
      decide
    simp only [numeric_append, hfragment, portLines_numeric, true_and]
  · next hports =>
    simp only [Filter.hasPorts, Bool.or_eq_true, not_or, Option.not_isSome_iff_eq_none] at hports
    simp [Numeric, hports]

/-- Only a port can bring a truth value into the lines of a filter. -/
theorem lines_numeric {f : Filter} {ls : List Line} (h : lines f = .ok ls) :
    Numeric ls ↔ ∀ side b, f.port side ≠ some (.bool b) := by
  simp only [lines, bind_eq_ok] at h
  obtain ⟨protocol, hp, srcIp, hs, dstIp, hd, h⟩ := h
  cases h
  have hfirst : Numeric [.load Opcode.loadHalf Offset.ethertype, .check (.nat ethertypeIPv4)] :=
    numeric_pair.mpr (by simp [Json.nat])
  have hreturns : Numeric returnLines := by
    simp only [Numeric, returnLines]
    decide
  rw [returnLines] at hreturns
  simp only [numeric_append, hfirst, protocolLines_numeric hp, addressLines_numeric hs,
    addressLines_numeric hd, hreturns, portsLines_numeric, true_and, and_true]

/-- The program made for a filter has no tags and is short, and its fields are spelled
as numbers unless a port is a truth value. -/
theorem instructions_spelling {f : Filter} {is : List Instruction} (h : instructions f = .ok is) :
    is.map Instruction.untagged = is ∧ (Nat.toDigits 10 is.length).length ≤ maxDigits ∧
      ((∀ i ∈ is, i.spelling = {}) ↔ ∀ side b, f.port side ≠ some (.bool b)) := by
  rw [instructions_eq] at h
  simp only [bind_eq_ok] at h
  obtain ⟨ls, hls, -, -, h⟩ := h
  cases h
  obtain ⟨body, rfl, hstretch⟩ := lines_shape hls
  refine ⟨?_, ?_, ?_⟩
  · apply List.ext_getElem?
    intro position
    simp [List.getElem?_mapIdx, Function.comp_def, Instruction.untagged, Line.resolved,
      Line.withJumps, Instruction.ofWholes]
  · have := hstretch.2
    apply digits_le_maxDigits
    rw [List.length_mapIdx, List.length_append, returnLines]
    simp only [List.length_cons, List.length_nil]
    omega
  · rw [← lines_numeric hls]
    constructor
    · intro hi l hl
      obtain ⟨position, hposition, rfl⟩ := List.mem_iff_getElem.mp hl
      have hspelling := hi _ (List.mem_mapIdx.mpr ⟨position, hposition, rfl⟩)
      exact congrArg Spelling.k hspelling
    · intro hl i hi
      obtain ⟨position, hposition, rfl⟩ := List.mem_mapIdx.mp hi
      have hwhole := hl _ (List.getElem_mem hposition)
      simp only [Line.resolved, Line.withJumps_spelling, hwhole]

end Synthetic

/-- Validation refuses truth values as ports. -/
theorem Filter.Checked.port_ne_truth {f : Filter} (hf : f.Checked) (side : Side) (b : Bool) :
    f.port side ≠ some (.bool b) := by
  intro h
  have hport : ∃ n, Json.bool b = .nat n := by
    cases side with
    | src =>
      obtain ⟨n, hn, -⟩ := hf.srcPort _ h
      exact ⟨n, hn⟩
    | dst =>
      obtain ⟨n, hn, -⟩ := hf.dstPort _ h
      exact ⟨n, hn⟩
  obtain ⟨n, hn⟩ := hport
  simp [Json.nat] at hn

/-- The dump that comes with the program gives its instructions. -/
def Program.ReadsBack (p : Program) : Prop :=
  ∃ raw, p.rawOutput = some raw ∧ Dump.read raw = .ok p.instructions

namespace Reference

theorem ofDump_readsBack {output expression : String} {p : Program}
    (h : ofDump output expression = .ok p) : p.ReadsBack := by
  obtain ⟨is, his, rfl⟩ := map_eq_ok.mp h
  exact ⟨output, rfl, his⟩

theorem standIn_readsBack {f : Filter} {expression : String} {p : Program}
    (h : standIn f expression = .ok p) :
    p.ReadsBack ↔ ∀ side b, f.port side ≠ some (.bool b) := by
  obtain ⟨is, his, rfl⟩ := map_eq_ok.mp h
  obtain ⟨huntagged, hlen, hspelling⟩ := Synthetic.instructions_spelling his
  simp only [Program.ReadsBack, Option.some.injEq, exists_eq_left', Dump.read_dumpOf, hlen,
    huntagged, hspelling, true_and, and_true]

theorem expression_of_obtain {f : Filter} {name : String} {tool : Option Tool} {p : Program}
    (h : (obtain f name tool).2 = .ok p) :
    ∃ expression, f.expression = .ok expression ∧ expression.isEmpty = false := by
  unfold obtain at h
  split at h
  · contradiction
  · next expression hexpression =>
    split at h
    · contradiction
    · next hsome => exact ⟨expression, hexpression, eq_false_of_ne_true hsome⟩

theorem standIn_of_obtain {f : Filter} {name : String} {p : Program}
    (h : (obtain f name none).2 = .ok p) : ∃ expression, standIn f expression = .ok p := by
  obtain ⟨expression, hexpression, hsome⟩ := expression_of_obtain h
  simp only [obtain, hexpression, hsome, Bool.false_eq_true, ↓reduceIte] at h
  exact ⟨expression, mapError_eq_ok.mp h⟩

theorem ofDump_of_obtain {f : Filter} {name : String} {tool : Tool} {p : Program}
    (h : (obtain f name (some tool)).2 = .ok p) :
    ∃ output expression, ofDump output expression = .ok p := by
  obtain ⟨expression, hexpression, hsome⟩ := expression_of_obtain h
  rw [obtain_tool hexpression hsome] at h
  obtain ⟨out, -, hdump⟩ := bind_eq_ok.mp h
  exact ⟨out, expression, mapError_eq_ok.mp hdump⟩

theorem checked_standIn {f : Filter} (hf : f.Checked) (name : String) :
    ∃ p, (obtain f name none).2 = .ok p ∧ p.ReadsBack := by
  obtain ⟨ss, prog, -, -, -, his⟩ := FailFast.checked_outcome hf
  obtain ⟨p, hp, -⟩ := obtain_standIn hf name his
  obtain ⟨expression, hstandIn⟩ := standIn_of_obtain hp
  exact ⟨p, hp, (standIn_readsBack hstandIn).mpr hf.port_ne_truth⟩

end Reference

/-- **Dumps read back.** The dump of a program gives its instructions, untagged, if
and only if the count fits in a literal and no field is spelled as a truth value. So a
reference program that was read gives its own instructions back, from the compiler or
from a file, and one that stands in for the compiler's does unless a port of the filter
is a truth value, which validation refuses: a filter that has passed it has such a
program, and the program reads back. -/
theorem dump_reads_back (p : Program) :
    (∀ is : List Instruction, Dump.read p.dump = .ok is ↔
      (Nat.toDigits 10 p.size).length ≤ maxDigits ∧ (∀ i ∈ p.instructions, i.spelling = {}) ∧
        is = p.instructions.map Instruction.untagged) ∧
    (∀ (f : Filter) (name : String), (Reference.obtain f name none).2 = .ok p →
      (p.ReadsBack ↔ ∀ side b, f.port side ≠ some (.bool b))) ∧
    (∀ (f g : Filter) (name : String), f.validated = .ok g →
      ∃ r, (Reference.obtain g name none).2 = .ok r ∧ r.ReadsBack) ∧
    (∀ (f : Filter) (name : String) (tool : Tool),
      (Reference.obtain f name (some tool)).2 = .ok p → p.ReadsBack) ∧
    ∀ (bytes : List UInt8) (expression : String),
      Reference.ofFile bytes expression = .ok p → p.ReadsBack := by
  refine ⟨Dump.read_dumpOf p.instructions, ?_, ?_, ?_, ?_⟩
  · intro f name h
    obtain ⟨expression, hstandIn⟩ := Reference.standIn_of_obtain h
    exact Reference.standIn_readsBack hstandIn
  · intro f g name hvalid
    exact Reference.checked_standIn (Filter.validated_checked hvalid) name
  · intro f name tool h
    obtain ⟨output, expression, hdump⟩ := Reference.ofDump_of_obtain h
    exact Reference.ofDump_readsBack hdump
  · intro bytes expression h
    obtain ⟨output, -, hdump⟩ := bind_eq_ok.mp h
    exact Reference.ofDump_readsBack (mapError_eq_ok.mp hdump)

/-- A compiler whose output is the dump of one return. -/
def rejectTool : Tool where
  path name := "/usr/sbin/" ++ name
  run := .ended 0 [0x31, 0x0a, 0x36, 0x20, 0x30, 0x20, 0x30, 0x20, 0x30, 0x0a] []

theorem dump_reads_back_webFilter :
    webFilter.validated = .ok webFilter ∧
    (∃ p, (Reference.obtain webFilter "" none).2 = .ok p ∧ p.ReadsBack ∧
      ∀ side b, webFilter.port side ≠ some (.bool b)) ∧
    (∃ p, (Reference.obtain webFilter "" (some rejectTool)).2 = .ok p ∧ p.ReadsBack) ∧
    ∃ p, Reference.ofFile [0x30, 0x0a] "" = .ok p ∧ p.ReadsBack := by
  obtain ⟨q, hq⟩ : ∃ q, (Reference.obtain webFilter "" (some rejectTool)).2 = .ok q := ⟨_, rfl⟩
  obtain ⟨r, hr⟩ : ∃ r, Reference.ofFile [0x30, 0x0a] "" = .ok r := ⟨_, rfl⟩
  obtain ⟨-, -, hvalidated, htool, -⟩ := dump_reads_back q
  obtain ⟨p, hp, hback⟩ := hvalidated webFilter webFilter "" webFilter_validated
  refine ⟨webFilter_validated, ⟨p, hp, hback, ?_⟩, ⟨q, hq, ?_⟩, ⟨r, hr, ?_⟩⟩
  · exact ((dump_reads_back p).2.1 webFilter "" hp).mp hback
  · exact htool webFilter "" rejectTool hq
  · exact (dump_reads_back r).2.2.2.2 [0x30, 0x0a] "" hr

/-- A truth value in place of a port passes for a number in an instruction, but the dump
spells it out. -/
theorem dump_truth_port_unread :
    ∃ p, (Reference.obtain { dstPort := some (.bool true) } "" none).2 = .ok p ∧
      p.rawOutput = some ("9\n40 0 0 12\n21 0 6 2048\n40 0 0 20\n69 4 0 8191\n177 0 0 14\n" ++
        "72 0 0 16\n21 0 1 True\n6 0 0 262144\n6 0 0 0\n") ∧ ¬ p.ReadsBack := by
  have hraw : (Reference.obtain { dstPort := some (.bool true) } "" none).2.map (·.rawOutput) =
      .ok (some ("9\n40 0 0 12\n21 0 6 2048\n40 0 0 20\n69 4 0 8191\n177 0 0 14\n" ++
        "72 0 0 16\n21 0 1 True\n6 0 0 262144\n6 0 0 0\n")) := rfl
  obtain ⟨p, hp, hpraw⟩ := map_eq_ok.mp hraw
  obtain ⟨expression, hstandIn⟩ := Reference.standIn_of_obtain hp
  refine ⟨p, hp, hpraw, ?_⟩
  intro hread
  exact (Reference.standIn_readsBack hstandIn).mp hread .dst true rfl

end PacketFilter
