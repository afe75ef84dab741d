import PacketFilter.Proofs.Compile.Lines

/-
  The slots of a fail-fast program.

  A slot is a line of the reference program together with the tag it gets in the
  fail-fast one. The compiler adds the instructions of its slots one at a time,
  with their jumps left at zero, and keeps the positions of those that check for
  equality (`checksFrom`).

  What is proved: adding an instruction fails only at an immediate that does not
  fit (`Work.emit_eq`, and from it `load_eq` and `check_eq`), and the slots of a
  filter hold the lines of its reference program in the same order
  (`lines_eq_slots`, and from it `slots_body`).
-/

namespace PacketFilter

namespace FailFast

open Synthetic (Line fits)

/-! ## Slots -/

/-- A line and what it is for. -/
structure Slot where
  line : Line
  purpose : Purpose
  deriving DecidableEq, Repr

def Slot.draft (s : Slot) (jt jf : Nat) : Draft :=
  ⟨.nat s.line.opcode.toNat, .nat jt, .nat jf, s.line.k, some s.purpose⟩

theorem Slot.draft_instruction (s : Slot) {jt jf : Nat} (ht : jt ≤ 255) (hf : jf ≤ 255) :
    (s.draft jt jf).instruction =
      (FieldName.k.fit s.line.k).map (fun _ => s.line.withJumps jt jf (some s.purpose)) :=
  s.line.make?_eq ht hf _

/-- The positions of the checks for equality among slots from `position` on. -/
def checksFrom (position : Nat) : List Slot → List Nat
  | [] => []
  | s :: rest =>
    if s.line.exit = .onFalse then position :: checksFrom (position + 1) rest
    else checksFrom (position + 1) rest

theorem checksFrom_append (position : Nat) (a b : List Slot) :
    checksFrom position (a ++ b) = checksFrom position a ++ checksFrom (position + a.length) b := by
  induction a generalizing position with
  | nil => rfl
  | cons s a ih =>
    simp only [List.cons_append, checksFrom, ih, List.length_cons]
    rw [show position + 1 + a.length = position + (a.length + 1) by omega]
    split <;> rfl

theorem mem_checksFrom {position q : Nat} {ss : List Slot} :
    q ∈ checksFrom position ss ↔
      ∃ i s, ss[i]? = some s ∧ s.line.exit = .onFalse ∧ q = position + i := by
  induction ss generalizing position with
  | nil => simp [checksFrom]
  | cons s ss ih =>
    -- A position among the slots is the first or one among the rest.
    have step : (∃ i t, (s :: ss)[i]? = some t ∧ t.line.exit = .onFalse ∧ q = position + i) ↔
        (s.line.exit = .onFalse ∧ q = position) ∨
          ∃ i t, ss[i]? = some t ∧ t.line.exit = .onFalse ∧ q = position + 1 + i := by
      constructor
      · rintro ⟨i, t, hi, he, rfl⟩
        cases i with
        | zero => cases hi; exact .inl ⟨he, rfl⟩
        | succ i => exact .inr ⟨i, t, hi, he, by omega⟩
      · rintro (⟨he, rfl⟩ | ⟨i, t, hi, he, rfl⟩)
        · exact ⟨0, s, rfl, he, rfl⟩
        · exact ⟨i + 1, t, hi, he, by omega⟩
    rw [step, ← ih, checksFrom]
    split <;> simp [*]

namespace Work

/-- The work with slots added, their jumps at zero, and with reasons given. -/
def append (w : Work) (reasons : List String) (ss : List Slot) : Work where
  builder := { w.builder with drafts := w.builder.drafts ++ ss.map (fun s => s.draft 0 0) }
  checks := w.checks ++ checksFrom w.builder.size ss
  reasons := w.reasons ++ reasons

/-- The same, if the immediates of the slots fit. -/
def place (w : Work) (reasons : List String) (ss : List Slot) : Except CompileError Work := do
  (fits (ss.map Slot.line)).mapError CompileError.range
  return w.append reasons ss

theorem append_append (w : Work) (rs rs' : List String) (a b : List Slot) :
    (w.append rs a).append rs' b = w.append (rs ++ rs') (a ++ b) := by
  simp [append, Builder.size, checksFrom_append]

theorem append_nil (w : Work) : w.append [] [] = w := by
  simp [append, checksFrom]

@[simp] theorem append_size (w : Work) (rs : List String) (ss : List Slot) :
    (w.append rs ss).builder.size = w.builder.size + ss.length := by
  simp [append, Builder.size]

theorem place_bind (w : Work) (rs rs' : List String) (a b : List Slot) :
    (do let w ← w.place rs a; w.place rs' b) = w.place (rs ++ rs') (a ++ b) := by
  simp only [place, List.map_append, Synthetic.fits_append]
  cases fits (a.map Slot.line) with
  | error e => rfl
  | ok u =>
    simp only [mapError_of_ok, ok_bind, pure_ok, append_append]

theorem because_eq (w : Work) (reason : String) : w.because reason = w.append [reason] [] := by
  simp [because, append, checksFrom]

/-- Adding an instruction to an open builder fails only if its immediate does not
fit. -/
theorem emit_eq {w : Work} (ho : w.builder.finalized = false) (s : Slot) :
    w.emit s.line.opcode s.line.k s.purpose =
      ((FieldName.k.fit s.line.k).mapError CompileError.range).map (fun _ =>
        ({ w with builder :=
          { w.builder with drafts := w.builder.drafts ++ [s.draft 0 0] } }, w.builder.size)) := by
  have hd := s.draft_instruction (Nat.zero_le 255) (Nat.zero_le 255)
  unfold Slot.draft at hd
  simp only [emit, Builder.add, Builder.whileOpen, ho, hd]
  cases FieldName.k.fit s.line.k with
  | error e => rfl
  | ok u => rfl

theorem load_eq {w : Work} (ho : w.builder.finalized = false) (opcode : UInt16) {k : Nat}
    (hk : k ≤ FieldName.k.limit) (purpose : Purpose) :
    w.load opcode k purpose = .ok (w.append [] [⟨.load opcode k, purpose⟩]) := by
  have he := emit_eq ho ⟨.load opcode k, purpose⟩
  simp only [Line.load] at he
  rw [load, he, FieldName.fit_nat hk]
  simp [append, checksFrom, Line.load]

theorem check_eq {w : Work} (ho : w.builder.finalized = false) (k : Json) (purpose : Purpose) :
    w.check k purpose = w.place [] [⟨.check k, purpose⟩] := by
  have he := emit_eq ho ⟨.check k, purpose⟩
  simp only [Line.check] at he
  rw [check, he]
  simp only [place, List.map_cons, List.map_nil, Line.check, fits]
  cases FieldName.k.fit k with
  | error e => rfl
  | ok u => simp [append, checksFrom]

theorem check_nat {w : Work} (ho : w.builder.finalized = false) {k : Nat}
    (hk : k ≤ FieldName.k.limit) (purpose : Purpose) :
    w.check (.nat k) purpose = .ok (w.append [] [⟨.check (.nat k), purpose⟩]) := by
  rw [check_eq ho]
  simp [place, fits, Line.check, FieldName.fit_nat hk]

end Work

/-! ## The slots of a filter -/

def ethertypeSlots : List Slot :=
  [⟨.load Opcode.loadHalf Offset.ethertype, .loadEthertype⟩,
   ⟨.check (.nat ethertypeIPv4), .checkEthertype⟩]

def protocolSlots (f : Filter) : Except CompileError (List Slot) :=
  match f.protocol with
  | none => .ok []
  | some v =>
    (protocolNumber v).map (fun n =>
      [⟨.load Opcode.loadByte Offset.protocol, .loadProtocol⟩, ⟨.check (.nat n), .checkProtocol⟩])

def addressSlots (address : Option Json) (offset : Nat) (loading checking : Purpose) :
    Except CompileError (List Slot) :=
  match address with
  | none => .ok []
  | some v =>
    (addressWord v).map (fun w =>
      [⟨.load Opcode.loadWord offset, loading⟩, ⟨.check (.nat w), checking⟩])

def portSlots (port : Option Json) (offset : Nat) (loading checking : Purpose) : List Slot :=
  match port with
  | none => []
  | some v => [⟨.load Opcode.loadHalfIndexed offset, loading⟩, ⟨.check v, checking⟩]

/-- The check of the fragment and the load of the header's length. -/
def fragmentSlots : List Slot :=
  [⟨.load Opcode.loadHalf Offset.fragment, .loadFragInfo⟩,
   ⟨⟨Opcode.jumpSet, .nat fragmentMask, .onTrue⟩, .checkFragment⟩,
   ⟨.load Opcode.loadHeaderLen Offset.ipHeader, .loadHeaderLen⟩]

/-- The checks of both ports. -/
def bothPortSlots (f : Filter) : List Slot :=
  portSlots f.srcPort Offset.srcPort .loadSrcPort .checkSrcPort ++
    portSlots f.dstPort Offset.dstPort .loadDstPort .checkDstPort

/-- The checks of the ports, after that of the fragment. -/
def portsSlots (f : Filter) : List Slot :=
  if f.hasPorts then fragmentSlots ++ bothPortSlots f else []

def returnSlots : List Slot :=
  [⟨⟨Opcode.ret, .nat acceptLength, .never⟩, .accept⟩,
   ⟨⟨Opcode.ret, .nat rejectLength, .never⟩, .reject⟩]

/-- The checks before those of the ports. -/
def frontSlots (f : Filter) : Except CompileError (List Slot) := do
  let protocol ← protocolSlots f
  let srcIp ← addressSlots f.srcIp Offset.srcAddr .loadSrcAddr .checkSrcAddr
  let dstIp ← addressSlots f.dstIp Offset.dstAddr .loadDstAddr .checkDstAddr
  return ethertypeSlots ++ protocol ++ srcIp ++ dstIp

/-- All slots of a filter, in order. -/
def slots (f : Filter) : Except CompileError (List Slot) :=
  (frontSlots f).map (fun front => front ++ portsSlots f ++ returnSlots)

theorem protocolLines_eq (f : Filter) :
    Synthetic.protocolLines f = (protocolSlots f).map (fun ss => ss.map Slot.line) := by
  unfold Synthetic.protocolLines protocolSlots
  cases f.protocol with
  | none => rfl
  | some v => cases hn : protocolNumber v <;> simp only [hn] <;> rfl

theorem addressLines_eq (address : Option Json) (offset : Nat) (loading checking : Purpose) :
    Synthetic.addressLines address offset =
      (addressSlots address offset loading checking).map (fun ss => ss.map Slot.line) := by
  cases address with
  | none => rfl
  | some v =>
    unfold Synthetic.addressLines addressSlots
    cases hw : addressWord v <;> simp only [hw] <;> rfl

theorem portLines_eq (port : Option Json) (offset : Nat) (loading checking : Purpose) :
    Synthetic.portLines port offset = (portSlots port offset loading checking).map Slot.line := by
  cases port <;> rfl

theorem portsLines_eq (f : Filter) : Synthetic.portsLines f = (portsSlots f).map Slot.line := by
  unfold Synthetic.portsLines portsSlots bothPortSlots
  rw [portLines_eq f.srcPort Offset.srcPort .loadSrcPort .checkSrcPort,
    portLines_eq f.dstPort Offset.dstPort .loadDstPort .checkDstPort]
  split
  · simp [fragmentSlots]
  · rfl

/-- The slots of a filter hold the lines of its reference program. -/
theorem lines_eq_slots (f : Filter) :
    Synthetic.lines f = (slots f).map (fun ss => ss.map Slot.line) := by
  unfold Synthetic.lines slots frontSlots
  rw [protocolLines_eq, addressLines_eq f.srcIp Offset.srcAddr .loadSrcAddr .checkSrcAddr,
    addressLines_eq f.dstIp Offset.dstAddr .loadDstAddr .checkDstAddr, portsLines_eq]
  cases protocolSlots f with
  | error e => rfl
  | ok a =>
    cases addressSlots f.srcIp Offset.srcAddr .loadSrcAddr .checkSrcAddr with
    | error e => rfl
    | ok b =>
      cases addressSlots f.dstIp Offset.dstAddr .loadDstAddr .checkDstAddr with
      | error e => rfl
      | ok c => simp [ethertypeSlots, returnSlots]

theorem slots_body {f : Filter} {ss : List Slot} (h : slots f = .ok ss) :
    ∃ body, Synthetic.lines f = .ok (body ++ Synthetic.returnLines) ∧
      ss.map Slot.line = body ++ Synthetic.returnLines ∧ Synthetic.Stretch 15 body ∧
      ss.length = body.length + 2 := by
  have hlines : Synthetic.lines f = .ok (ss.map Slot.line) := by rw [lines_eq_slots, h, map_of_ok]
  obtain ⟨body, hbody, hstretch⟩ := Synthetic.lines_shape hlines
  have hlen : ss.length = body.length + 2 := by
    rw [← List.length_map (f := Slot.line), hbody, List.length_append]; rfl
  exact ⟨body, by rw [hlines, hbody], hbody, hstretch, hlen⟩

end FailFast

end PacketFilter
