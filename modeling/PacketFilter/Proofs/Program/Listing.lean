import PacketFilter.Proofs.Program.Figures

/-
  Listings.

  A line of a listing is a position and the assembly text of an instruction. The text of
  an operation that filter programs are made of is a lead, the immediate in base sixteen and
  a trail. No lead is the beginning of another, and no trail goes on with a digit, so the text
  comes apart into these three again. A trail shows the jumps of a branch as they are spelled,
  and nothing of the instruction otherwise.

  What is proved: a number is read back from its figures in base sixteen (`hexUpper_inj`);
  the lead tells the operations apart (`lead_append_inj`); the text of an instruction says
  which operation it is, with which immediate, and what its trail is (`text_eq_iff`); and so
  listings are the same exactly if the programs agree at each position in what is shown
  (`listing_tells_apart`).
-/

namespace PacketFilter

open Text

namespace Text

/-! ## Runs of characters -/

/-- A run of characters of a class comes apart from what follows, if that does not go on
with another. -/
theorem run_append_inj {p : Char → Bool} {a b s t : List Char} (ha : ∀ c ∈ a, p c = true)
    (hb : ∀ c ∈ b, p c = true) (hs : ∀ c, s.head? = some c → p c = false)
    (ht : ∀ c, t.head? = some c → p c = false) (h : a ++ s = b ++ t) : a = b ∧ s = t := by
  have hrest {a s : List Char} (ha : ∀ c ∈ a, p c = true)
      (hs : ∀ c, s.head? = some c → p c = false) : (a ++ s).dropWhile p = s := by
    rw [List.dropWhile_append_of_pos ha, dropWhile_of_head hs]
  have hst : s = t := by rw [← hrest ha hs, h, hrest hb ht]
  subst hst
  exact ⟨List.append_cancel_right h, rfl⟩

/-! ## Base sixteen -/

/-- A digit in base sixteen, with capitals for those above nine. -/
def isHexDigit (c : Char) : Bool := c.isDigit || (65 ≤ c.toNat && c.toNat ≤ 70)

def hexDigitValue (c : Char) : Nat := if c.isDigit then c.toNat - 48 else c.toNat - 55

def hexValue (cs : List Char) : Nat := cs.foldl (fun n c => 16 * n + hexDigitValue c) 0

theorem upper_digitChar : ∀ d, d < 16 →
    isHexDigit (Nat.digitChar d).toUpper = true ∧ hexDigitValue (Nat.digitChar d).toUpper = d := by
  decide

theorem isHexDigit_toDigits {n : Nat} {c : Char} (hc : c ∈ (Nat.toDigits 16 n).map Char.toUpper) :
    isHexDigit c = true := by
  induction n using Nat.strongRecOn with
  | ind n ih =>
    by_cases hn : n < 16
    · rw [Nat.toDigits_of_lt_base hn, List.map_singleton, List.mem_singleton] at hc
      rw [hc]
      exact (upper_digitChar n hn).1
    · rw [Nat.toDigits_of_base_le (by decide) (by omega), List.map_append, List.mem_append,
        List.map_singleton, List.mem_singleton] at hc
      rcases hc with hc | rfl
      · exact ih (n / 16) (by omega) hc
      · exact (upper_digitChar (n % 16) (by omega)).1

theorem hexValue_toDigits (n : Nat) : hexValue ((Nat.toDigits 16 n).map Char.toUpper) = n := by
  induction n using Nat.strongRecOn with
  | ind n ih =>
    by_cases hn : n < 16
    · rw [Nat.toDigits_of_lt_base hn]
      show 16 * 0 + hexDigitValue (Nat.digitChar n).toUpper = n
      rw [(upper_digitChar n hn).2]
      omega
    · have hrest := ih (n / 16) (by omega)
      rw [hexValue] at hrest
      rw [Nat.toDigits_of_base_le (by decide) (by omega), List.map_append, List.map_singleton,
        hexValue, List.foldl_append, hrest, List.foldl_cons, List.foldl_nil,
        (upper_digitChar (n % 16) (by omega)).2]
      omega

theorem hexValue_zeroFill (width : Nat) (cs : List Char) :
    hexValue (zeroFill width cs) = hexValue cs := by
  rw [zeroFill, hexValue, List.foldl_append]
  generalize width - cs.length = zeros
  induction zeros with
  | zero => rfl
  | succ zeros ih =>
    rw [List.replicate_succ, List.foldl_cons]
    exact ih

theorem hexUpper_toList (width n : Nat) :
    (hexUpper width n).toList = zeroFill width ((Nat.toDigits 16 n).map Char.toUpper) := by
  rw [hexUpper, figures, if_neg (by omega), String.toList_ofList]
  rfl

theorem isHexDigit_of_mem {width n : Nat} {c : Char} (hc : c ∈ (hexUpper width n).toList) :
    isHexDigit c = true := by
  rw [hexUpper_toList, zeroFill, List.mem_append] at hc
  rcases hc with hc | hc
  · rw [List.eq_of_mem_replicate hc]
    decide
  · exact isHexDigit_toDigits hc

/-- **A number is read back from its figures**, filled with zeros or not. -/
theorem hexUpper_inj {width n m : Nat} (h : hexUpper width n = hexUpper width m) : n = m := by
  have hvalue (n : Nat) : hexValue (hexUpper width n).toList = n := by
    rw [hexUpper_toList, hexValue_zeroFill, hexValue_toDigits]
  rw [← hvalue n, h, hvalue m]

end Text

/-! ## Operations -/

namespace Assembly

/-- The operations a filter program is made of. -/
inductive Operation where
  | loadHalf
  | loadByte
  | loadWord
  | loadHalfIndexed
  | loadHeaderLen
  | jumpEqual
  | jumpSet
  | ret
  deriving DecidableEq, Repr

namespace Operation

def opcode : Operation → UInt16
  | loadHalf => Opcode.loadHalf
  | loadByte => Opcode.loadByte
  | loadWord => Opcode.loadWord
  | loadHalfIndexed => Opcode.loadHalfIndexed
  | loadHeaderLen => Opcode.loadHeaderLen
  | jumpEqual => Opcode.jumpEqual
  | jumpSet => Opcode.jumpSet
  | ret => Opcode.ret

/-- What is written in front of the digits of the immediate. -/
def lead : Operation → String
  | loadHalf => "ldh\t[0x"
  | loadByte => "ldb\t[0x"
  | loadWord => "ld\t[0x"
  | loadHalfIndexed => "ldh\t[x + 0x"
  | loadHeaderLen => "ldxb\t4*([0x"
  | jumpEqual => "jeq\t#0x"
  | jumpSet => "jset\t#0x"
  | ret => "ret\t#0x"

/-- The jumps of a branch as they are written. -/
def jumps (i : Instruction) : String :=
  " jt +" ++ i.jtFigure.text ++ " jf +" ++ i.jfFigure.text

/-- What is written behind the digits of the immediate. -/
def trail (i : Instruction) : Operation → String
  | loadHalf | loadByte | loadWord | loadHalfIndexed => "]"
  | loadHeaderLen => "]&0xf)"
  | jumpEqual | jumpSet => jumps i
  | ret => ""

/-- **No lead is the beginning of another.** -/
theorem lead_prefixFree {a b : Operation} (h : a.lead.toList <+: b.lead.toList) : a = b := by
  cases a <;> cases b <;> simp [lead] at h ⊢

theorem lead_append_inj {a b : Operation} {s t : List Char}
    (h : a.lead.toList ++ s = b.lead.toList ++ t) : a = b ∧ s = t := by
  have hab : a = b := by
    rcases List.prefix_or_prefix_of_prefix (List.prefix_append a.lead.toList s)
      (h ▸ List.prefix_append b.lead.toList t) with hprefix | hprefix
    · exact lead_prefixFree hprefix
    · exact (lead_prefixFree hprefix).symm
  subst hab
  exact ⟨rfl, List.append_cancel_left h⟩

theorem trail_head (op : Operation) (i : Instruction) (c : Char)
    (h : (op.trail i).toList.head? = some c) : isHexDigit c = false := by
  have hhead : (op.trail i).toList.head? ∈ [some ']', some ' ', none] := by
    cases op <;> simp [trail, jumps]
  rw [h] at hhead
  simp only [List.mem_cons, Option.some.injEq, reduceCtorEq, List.not_mem_nil, or_false] at hhead
  rcases hhead with rfl | rfl <;> decide

/-- The jumps of a branch come apart at the blank between them. -/
theorem jumps_eq_iff {i j : Instruction} :
    jumps i = jumps j ↔ i.jtFigure = j.jtFigure ∧ i.jfFigure = j.jfFigure := by
  constructor
  · intro h
    have hlists := congrArg String.toList h
    simp only [jumps, String.toList_append, List.append_assoc] at hlists
    have hfigure (l : Instruction) : ∀ c ∈ l.jtFigure.text.toList, (!isBlank c) = true := by
      intro c hc
      rw [(Whole.ofNat_text_nonblank _ _).2 c hc]
      rfl
    have hgap (l : Instruction) (c : Char)
        (hc : (" jf +".toList ++ l.jfFigure.text.toList).head? = some c) : (!isBlank c) = false := by
      obtain rfl : ' ' = c := Option.some.inj hc
      rfl
    obtain ⟨ht, hrest⟩ := run_append_inj (hfigure i) (hfigure j) (hgap i) (hgap j)
      (List.append_cancel_left hlists)
    have hf := List.append_cancel_left hrest
    exact ⟨Whole.text_inj (String.toList_inj.mp ht), Whole.text_inj (String.toList_inj.mp hf)⟩
  · rintro ⟨ht, hf⟩
    rw [jumps, jumps, ht, hf]

end Operation

open Operation

theorem jumpTarget_eq {i : Instruction} (hbranch : i.opcode &&& 0xf0 ≠ 0x00)
    (himmediate : i.opcode &&& 0x08 = 0) : jumpTarget i = literal i.k ++ jumps i := by
  rw [jumpTarget, if_neg hbranch, operand, if_neg (not_not_intro himmediate)]
  simp only [jumps, String.append_assoc]

theorem text_eq {i : Instruction} {op : Operation} (h : i.opcode = op.opcode) :
    text i = op.lead ++ hexUpper 4 i.k.toNat ++ op.trail i := by
  -- The bit fields of the opcode put the text together from other pieces, so the characters
  -- are compared.
  rw [← String.toList_inj]
  cases op
  case jumpEqual =>
    have htarget := jumpTarget_eq (i := i) (by rw [h]; decide) (by rw [h]; decide)
    simp [text, named?, h, Operation.opcode, Opcode.jumpEqual, jump?, jumpName?, htarget, literal,
      immediate, lead, trail]
  case jumpSet =>
    have htarget := jumpTarget_eq (i := i) (by rw [h]; decide) (by rw [h]; decide)
    simp [text, named?, h, Operation.opcode, Opcode.jumpSet, jump?, jumpName?, htarget, literal,
      immediate, lead, trail]
  case ret =>
    simp [text, named?, h, Operation.opcode, Opcode.ret, ret, literal, immediate, lead, trail]
  all_goals
    simp [text, named?, h, Operation.opcode, Opcode.loadHalf, Opcode.loadByte, Opcode.loadWord,
      Opcode.loadHalfIndexed, Opcode.loadHeaderLen, load?, sizeLetter?, loadOperand?, immediate,
      lead, trail]

/-- **The text says which operation it is, with which immediate and which trail.** -/
theorem text_eq_iff {i j : Instruction} {a b : Operation} (hi : i.opcode = a.opcode)
    (hj : j.opcode = b.opcode) :
    text i = text j ↔ a = b ∧ i.k = j.k ∧ a.trail i = b.trail j := by
  rw [text_eq hi, text_eq hj]
  constructor
  · intro h
    have hlists := congrArg String.toList h
    simp only [String.toList_append, List.append_assoc] at hlists
    -- From the left: the lead is cut off as a whole, then the digits up to the trail.
    obtain ⟨hop, hrest⟩ := lead_append_inj hlists
    obtain ⟨hk, htrail⟩ := run_append_inj (fun _ => isHexDigit_of_mem) (fun _ => isHexDigit_of_mem)
      (a.trail_head i) (b.trail_head j) hrest
    have hk := hexUpper_inj (String.toList_inj.mp hk)
    exact ⟨hop, UInt32.toNat_inj.mp hk, String.toList_inj.mp htrail⟩
  · rintro ⟨rfl, hk, htrail⟩
    rw [hk, htrail]

end Assembly

/-! ## Instructions side by side -/

namespace Instruction

open Assembly

/-- The instruction is one of the operations a filter program is made of. -/
def Emitted (i : Instruction) : Prop := ∃ op : Operation, i.opcode = op.opcode

/-- The instruction goes on at one of two places. -/
def IsBranch (i : Instruction) : Prop := i.opcode = Opcode.jumpEqual ∨ i.opcode = Opcode.jumpSet

/-- The instructions have the same opcode and immediate and, if they branch, the same
jumps. -/
structure Agrees (i j : Instruction) : Prop where
  opcode : i.opcode = j.opcode
  k : i.k = j.k
  jumps : i.IsBranch → i.jt = j.jt ∧ i.jf = j.jf

/-- If the instruction branches, each jump is spelled as a truth value in both or in
neither. -/
def JumpsAlike (i j : Instruction) : Prop :=
  i.IsBranch → i.spelling.jt = j.spelling.jt ∧ i.spelling.jf = j.spelling.jf

theorem JumpsAlike.of_numbers {i j : Instruction} (hi : i.spelling = {}) (hj : j.spelling = {}) :
    i.JumpsAlike j := by
  intro _
  rw [hi, hj]
  exact ⟨rfl, rfl⟩

/-- A trail shows the jumps of a branch, and otherwise the operation alone. -/
theorem trail_eq_iff {i j : Instruction} {op : Operation} (h : i.opcode = op.opcode) :
    op.trail i = op.trail j ↔
      (i.IsBranch → i.jtFigure = j.jtFigure ∧ i.jfFigure = j.jfFigure) := by
  have hbranch : i.IsBranch ↔ op = .jumpEqual ∨ op = .jumpSet := by
    rw [IsBranch, h]
    cases op <;> decide
  rw [hbranch, ← Operation.jumps_eq_iff]
  cases op <;> simp [Operation.trail]

/-- **Instructions are written alike exactly if they agree** and their jumps are spelled
alike. -/
theorem text_eq_iff_agrees {i j : Instruction} (ei : i.Emitted) (ej : j.Emitted) :
    Assembly.text i = Assembly.text j ↔ i.Agrees j ∧ i.JumpsAlike j := by
  obtain ⟨a, ha⟩ := ei
  obtain ⟨b, hb⟩ := ej
  constructor
  · intro h
    obtain ⟨rfl, hk, htrail⟩ := (Assembly.text_eq_iff ha hb).mp h
    have hjumps := (trail_eq_iff ha).mp htrail
    simp only [jtFigure_eq_iff, jfFigure_eq_iff] at hjumps
    refine ⟨⟨ha.trans hb.symm, hk, ?_⟩, ?_⟩
    · exact fun hbranch => ⟨(hjumps hbranch).1.1, (hjumps hbranch).2.1⟩
    · exact fun hbranch => ⟨(hjumps hbranch).1.2, (hjumps hbranch).2.2⟩
  · rintro ⟨⟨hopcode, hk, hjumps⟩, halike⟩
    refine (Assembly.text_eq_iff ha (hopcode ▸ ha)).mpr ⟨rfl, hk, (trail_eq_iff ha).mpr ?_⟩
    intro hbranch
    rw [jtFigure_eq_iff, jfFigure_eq_iff]
    exact ⟨⟨(hjumps hbranch).1, (halike hbranch).1⟩, (hjumps hbranch).2, (halike hbranch).2⟩

end Instruction

/-! ## Programs that are compiled -/

namespace Synthetic

open Assembly

theorem Line.Inner.operation {l : Line} (h : l.Inner) : ∃ op : Operation, l.opcode = op.opcode := by
  cases h with
  | load k ho =>
    simp only [List.mem_cons, List.not_mem_nil, or_false] at ho
    rcases ho with rfl | rfl | rfl | rfl | rfl
    · exact ⟨.loadHalf, rfl⟩
    · exact ⟨.loadByte, rfl⟩
    · exact ⟨.loadWord, rfl⟩
    · exact ⟨.loadHalfIndexed, rfl⟩
    · exact ⟨.loadHeaderLen, rfl⟩
  | check k => exact ⟨.jumpEqual, rfl⟩
  | fragment => exact ⟨.jumpSet, rfl⟩

theorem lines_operation {f : Filter} {ls : List Line} (h : lines f = .ok ls) :
    ∀ l ∈ ls, ∃ op : Operation, l.opcode = op.opcode := by
  obtain ⟨body, rfl, hbody⟩ := lines_shape h
  intro l hl
  rcases List.mem_append.mp hl with hl | hl
  · exact (hbody.1 l hl).operation
  · simp only [returnLines, List.mem_cons, List.not_mem_nil, or_false] at hl
    rcases hl with rfl | rfl <;> exact ⟨.ret, rfl⟩

end Synthetic

/-- **Whatever is compiled is made of the operations.** -/
theorem FailFast.compiled_emitted (f : Filter) :
    (∀ p, program f = .ok p → ∀ i ∈ p.instructions, i.Emitted) ∧
      ∀ is, Synthetic.instructions f = .ok is → ∀ i ∈ is, i.Emitted := by
  obtain ⟨e, hp, hs⟩ | ⟨ss, prog, hss, hp, hinstructions, hs⟩ := outcome f
  · rw [hp, hs]
    exact ⟨fun p h => by contradiction, fun is h => by contradiction⟩
  · have hlines : Synthetic.lines f = .ok (ss.map Slot.line) := by
      rw [lines_eq_slots, hss]
      rfl
    have hop := Synthetic.lines_operation hlines
    rw [hp, hs]
    refine ⟨?_, ?_⟩
    · intro p h i hi
      cases h
      rw [hinstructions] at hi
      obtain ⟨n, hn, rfl⟩ := List.mem_mapIdx.mp hi
      obtain ⟨op, hop⟩ := hop _ (List.mem_map_of_mem (List.getElem_mem hn))
      exact ⟨op, (Synthetic.Line.withJumps_opcode _ _).trans hop⟩
    · intro is h i hi
      cases h
      obtain ⟨n, hn, rfl⟩ := List.mem_mapIdx.mp hi
      obtain ⟨op, hop⟩ := hop _ (List.getElem_mem hn)
      exact ⟨op, (Synthetic.Line.withJumps_opcode _ _).trans hop⟩

/-! ## Listings -/

namespace Program

theorem line_eq_iff {n : Nat} {i j : Instruction} :
    Assembly.line n i = Assembly.line n j ↔ Assembly.text i = Assembly.text j := by
  rw [Assembly.line, Assembly.line, String.append_right_inj]

theorem listing_eq (p : Program) : p.listing = p.instructions.mapIdx Assembly.line := by
  rw [listing, List.mapIdx_eq_zipIdx_map]

/-- Listings number the lines alike, so they differ in the texts of the instructions. -/
theorem listing_eq_iff {p q : Program} : p.listing = q.listing ↔
    p.size = q.size ∧
    ∀ (n : Nat) (i j : Instruction), p.instructions[n]? = some i → q.instructions[n]? = some j →
      Assembly.text i = Assembly.text j := by
  rw [listing_eq, listing_eq, mapIdx_eq_iff]
  simp only [line_eq_iff]

theorem listing_eq_iff_agrees {p q : Program} (hp : ∀ i ∈ p.instructions, i.Emitted)
    (hq : ∀ j ∈ q.instructions, j.Emitted) : p.listing = q.listing ↔
    p.size = q.size ∧
    ∀ (n : Nat) (i j : Instruction), p.instructions[n]? = some i → q.instructions[n]? = some j →
      i.Agrees j ∧ i.JumpsAlike j := by
  have hat {n : Nat} {i j : Instruction} (hi : p.instructions[n]? = some i)
      (hj : q.instructions[n]? = some j) :
      Assembly.text i = Assembly.text j ↔ i.Agrees j ∧ i.JumpsAlike j :=
    Instruction.text_eq_iff_agrees (hp i (List.mem_of_getElem? hi)) (hq j (List.mem_of_getElem? hj))
  rw [listing_eq_iff]
  constructor
  · rintro ⟨hsize, hall⟩
    exact ⟨hsize, fun n i j hi hj => (hat hi hj).mp (hall n i j hi hj)⟩
  · rintro ⟨hsize, hall⟩
    exact ⟨hsize, fun n i j hi hj => (hat hi hj).mpr (hall n i j hi hj)⟩

/-- **Listings tell programs apart.** Instructions of the operations that filter programs are
made of have the same text exactly if they have the same opcode and immediate and, if they
branch, the same jumps, which are spelled alike. Listings are the same exactly if the
programs are of one size and agree so at each position. Where all is spelled in numbers,
the jumps need only be the same. Whatever is compiled is made of these operations. -/
theorem listing_tells_apart (i j : Instruction) (p q : Program) :
    (i.Emitted → j.Emitted →
      (Assembly.text i = Assembly.text j ↔ i.Agrees j ∧ i.JumpsAlike j)) ∧
    ((∀ i ∈ p.instructions, i.Emitted) → (∀ j ∈ q.instructions, j.Emitted) →
      (p.listing = q.listing ↔ p.size = q.size ∧
        ∀ (n : Nat) (i j : Instruction), p.instructions[n]? = some i → q.instructions[n]? = some j →
          i.Agrees j ∧ i.JumpsAlike j)) ∧
    (i.spelling = {} → j.spelling = {} → i.Emitted → j.Emitted →
      (Assembly.text i = Assembly.text j ↔ i.Agrees j)) ∧
    ((∀ i ∈ p.instructions, i.spelling = {} ∧ i.Emitted) →
      (∀ j ∈ q.instructions, j.spelling = {} ∧ j.Emitted) →
      (p.listing = q.listing ↔ p.size = q.size ∧
        ∀ (n : Nat) (i j : Instruction), p.instructions[n]? = some i → q.instructions[n]? = some j →
          i.Agrees j)) ∧
    ∀ f : Filter, (∀ p, FailFast.program f = .ok p → ∀ i ∈ p.instructions, i.Emitted) ∧
      ∀ is, Synthetic.instructions f = .ok is → ∀ i ∈ is, i.Emitted := by
  refine ⟨Instruction.text_eq_iff_agrees, listing_eq_iff_agrees, ?_, ?_,
    FailFast.compiled_emitted⟩
  · intro hi hj ei ej
    rw [Instruction.text_eq_iff_agrees ei ej, and_iff_left (.of_numbers hi hj)]
  · intro hp hq
    rw [listing_eq_iff_agrees (fun i hi => (hp i hi).2) (fun j hj => (hq j hj).2)]
    have halike {n : Nat} {i j : Instruction} (hi : p.instructions[n]? = some i)
        (hj : q.instructions[n]? = some j) : i.JumpsAlike j :=
      .of_numbers (hp i (List.mem_of_getElem? hi)).1 (hq j (List.mem_of_getElem? hj)).1
    apply and_congr_right
    intro _
    constructor
    · exact fun h n i j hi hj => (h n i j hi hj).1
    · exact fun h n i j hi hj => ⟨h n i j hi hj, halike hi hj⟩

end Program

/-- A check of the Ethernet type, of which the first jump may be given as a truth value. -/
def typeCheck (jt : Whole) (jf : Int) : Instruction :=
  .ofWholes (.int 0x15) jt (.int jf) (.int 0x800) none

theorem typeCheck_emitted (jt : Whole) (jf : Int) : (typeCheck jt jf).Emitted := ⟨.jumpEqual, rfl⟩

/-- A program that loads the Ethernet type, with a jump that loads do not show. -/
def typeLoad (jt : UInt8) : Program where
  instructions := [{ opcode := Opcode.loadHalf, jt := jt, jf := 0, k := 12 }]

theorem listing_tells_apart_type :
    (Assembly.text (typeCheck (.truth true) 23) ≠ Assembly.text (typeCheck (.int 12) 3)) ∧
    (Assembly.text (typeCheck (.int 1) 23) ≠ Assembly.text (typeCheck (.int 12) 3)) ∧
    (typeLoad 0).listing = (typeLoad 7).listing ∧
    (typeLoad 0).listing ≠ ({ instructions := [] } : Program).listing ∧
    ∃ p, FailFast.program webFilter = .ok p ∧ ∀ i ∈ p.instructions, i.Emitted := by
  obtain ⟨htext, -, -, hloads, hcompiled⟩ := Program.listing_tells_apart
    (typeCheck (.truth true) 23) (typeCheck (.int 12) 3) (typeLoad 0) (typeLoad 7)
  obtain ⟨-, hempty, hnumbered, -, -⟩ := Program.listing_tells_apart
    (typeCheck (.int 1) 23) (typeCheck (.int 12) 3) (typeLoad 0) { instructions := [] }
  have hnumbers (jt : UInt8) : ∀ i ∈ (typeLoad jt).instructions, i.spelling = {} ∧ i.Emitted := by
    intro i hi
    rw [List.mem_singleton.mp hi]
    exact ⟨rfl, .loadHalf, rfl⟩
  refine ⟨?_, ?_, ?_, ?_, ?_⟩
  · intro h
    obtain ⟨hagrees, -⟩ := (htext (typeCheck_emitted _ _) (typeCheck_emitted _ _)).mp h
    exact absurd (hagrees.jumps (.inl rfl)).1 (by decide)
  · intro h
    have hagrees := (hnumbered rfl rfl (typeCheck_emitted _ _) (typeCheck_emitted _ _)).mp h
    exact absurd (hagrees.jumps (.inl rfl)).1 (by decide)
  · refine (hloads (hnumbers 0) (hnumbers 7)).mpr ⟨rfl, ?_⟩
    have hload : ¬ (Opcode.loadHalf = Opcode.jumpEqual ∨ Opcode.loadHalf = Opcode.jumpSet) := by
      decide
    intro n i j hi hj
    cases n with
    | zero =>
      cases hi
      cases hj
      exact ⟨rfl, rfl, fun hbranch => absurd hbranch hload⟩
    | succ n => cases hi
  · intro h
    have hnone : ∀ i ∈ ({ instructions := [] } : Program).instructions, i.Emitted :=
      fun i hi => absurd hi List.not_mem_nil
    have hsize := ((hempty (fun i hi => (hnumbers 0 i hi).2) hnone).mp h).1
    exact absurd hsize (by decide)
  · obtain ⟨p, hp⟩ : ∃ p, FailFast.program webFilter = .ok p := ⟨_, rfl⟩
    exact ⟨p, hp, (hcompiled webFilter).1 p hp⟩

/-- A jump is written as it was given, so instructions that agree need not have the same
text. -/
theorem typeCheck_truth_jump :
    Instruction.make? (.nat 0x15) (.bool true) (.nat 0) (.nat 0x800) none =
        .ok (typeCheck (.truth true) 0) ∧
      Instruction.make? (.nat 0x15) (.nat 1) (.nat 0) (.nat 0x800) none =
        .ok (typeCheck (.int 1) 0) ∧
      (typeCheck (.truth true) 0).Emitted ∧ (typeCheck (.int 1) 0).Emitted ∧
      (typeCheck (.truth true) 0).Agrees (typeCheck (.int 1) 0) ∧
      Assembly.text (typeCheck (.truth true) 0) ≠ Assembly.text (typeCheck (.int 1) 0) := by
  refine ⟨rfl, rfl, typeCheck_emitted _ _, typeCheck_emitted _ _,
    ⟨rfl, rfl, fun _ => ⟨rfl, rfl⟩⟩, ?_⟩
  intro h
  obtain ⟨-, halike⟩ :=
    (Instruction.text_eq_iff_agrees (typeCheck_emitted _ _) (typeCheck_emitted _ _)).mp h
  exact absurd (halike (.inl rfl)).1 (by decide)

end PacketFilter
