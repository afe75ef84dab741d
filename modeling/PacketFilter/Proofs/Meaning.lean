import PacketFilter.Proofs.Comparison.SameCode
import PacketFilter.Proofs.Compile.Wiring

/-
  What the inference makes of a fail-fast program.

  The inference sees an opcode and an immediate. Loads, bit checks and returns are told
  apart by these, but all checks for equality have the same opcode, and the ranges of
  their immediates overlap: a port may be the number of a protocol or an Ethernet type,
  and an address may be any word. So the inference takes an order, and some checks are
  taken for others.

  What is proved:
    1. `ofJumpEqual_purpose` — what a check for equality is taken for, by its immediate
       alone.
    2. `Slot.Serves.inferred` — for each kind of slot of a filter that has passed
       validation, the immediates for which its purpose is inferred, which are those
       outside `misread`.
    3. `validated_inference` — hence for each instruction of the program of such a filter,
       while the tags, if they are believed, are the purposes.
-/

namespace PacketFilter

namespace Protocol

theorem ofNumber?_isSome (n : Int) : (ofNumber? n).isSome = true ↔ n = 1 ∨ n = 6 ∨ n = 17 := by
  rw [ofNumber?, List.find?_isSome]
  simp only [all, List.mem_cons, List.not_mem_nil, or_false, exists_eq_or_imp, exists_eq_left,
    beq_iff_eq, number]
  omega

end Protocol

namespace Meaning

/-! ## Values and indices

They do not depend on what is inferred. -/

section
variable (trustTags : Bool) (position : Nat) (i : Instruction)

theorem ofInstruction_value : (ofInstruction trustTags position i).value = i.kFigure := by
  rw [ofInstruction, classify]
  repeat' split
  all_goals rfl

theorem ofInstruction_index : (ofInstruction trustTags position i).index = .int position := by
  rw [ofInstruction, classify]
  repeat' split
  all_goals rfl

end

/-! ## Checks for equality -/

/-- What a check for equality with a number is taken for. -/
def equalityPurpose (n : Int) : Purpose :=
  if n = 2048 then .checkEthertype
  else if n = 1 ∨ n = 6 ∨ n = 17 then .checkProtocol
  else if 1 ≤ n ∧ n ≤ 65535 then .checkDstPort
  else if 0xc0000000 ≤ n then .checkSrcAddr
  else .unknown

theorem ofJumpEqual_purpose (k : Whole) : (ofJumpEqual k).1 = equalityPurpose k.value := by
  have htype : (ethertypeIPv4 : Int) = 2048 := rfl
  have hbound : addressBound = 0xc0000000 := rfl
  simp only [ofJumpEqual, equalityPurpose, apply_ite Prod.fst, Protocol.ofNumber?_isSome, htype,
    hbound]

/-- Checks that are taken for others, by their tag and the number they look for: source
addresses below 192.0.0.0, all destination addresses and source ports, and the destination
ports that are also the number of a protocol or the Ethernet type, or zero. -/
def misread : Purpose → Nat → Bool
  | .checkSrcAddr, n => n < 0xc0000000
  | .checkDstAddr, _ => true
  | .checkSrcPort, _ => true
  | .checkDstPort, n => n ∈ [0, 1, 6, 17, 2048]
  | _, _ => false

section
variable {n : Nat}

theorem infer_check_purpose : (infer Opcode.jumpEqual.toNat (.int n)).1 = equalityPurpose n := by
  rw [infer_jumpEqual, ofJumpEqual_purpose]
  rfl

/-- A source address is taken for one exactly if it is high. -/
theorem infer_srcAddr_iff :
    (infer Opcode.jumpEqual.toNat (.int n)).1 = .checkSrcAddr ↔
      misread .checkSrcAddr n = false := by
  rw [infer_check_purpose, misread, decide_eq_false_iff_not]
  unfold equalityPurpose
  repeat' split
  all_goals simp
  all_goals omega

/-- A destination port is taken for one unless it is zero or some other number the
inference knows. -/
theorem infer_dstPort_iff (hn : n ≤ 65535) :
    (infer Opcode.jumpEqual.toNat (.int n)).1 = .checkDstPort ↔
      misread .checkDstPort n = false := by
  have hknown : misread .checkDstPort n = false ↔ n ≠ 0 ∧ n ≠ 1 ∧ n ≠ 6 ∧ n ≠ 17 ∧ n ≠ 2048 := by
    simp [misread]
  rw [infer_check_purpose, hknown]
  unfold equalityPurpose
  repeat' split
  all_goals simp
  all_goals omega

/-- No number is taken for a destination address or a source port. -/
theorem infer_check_ne {p : Purpose} (hp : p = .checkDstAddr ∨ p = .checkSrcPort) :
    (infer Opcode.jumpEqual.toNat (.int n)).1 = p ↔ misread p n = false := by
  have hnever : ¬ misread p n = false := by
    rcases hp with rfl | rfl <;> simp [misread]
  refine iff_of_false ?_ hnever
  rw [infer_check_purpose]
  unfold equalityPurpose
  rcases hp with rfl | rfl
  all_goals
    repeat' split
    all_goals decide

end

end Meaning

/-! ## Slots -/

/-- The number a check looks for is the one that the filter asks for in that place. -/
def Filter.Asks (f : Filter) : Purpose → Nat → Prop
  | .checkProtocol, n => ∃ v, f.protocol = some v ∧ protocolNumber v = .ok n
  | .checkSrcAddr, n => ∃ v, f.srcIp = some v ∧ addressWord v = .ok n
  | .checkDstAddr, n => ∃ v, f.dstIp = some v ∧ addressWord v = .ok n
  | .checkSrcPort, n => f.srcPort = some (.nat n)
  | .checkDstPort, n => f.dstPort = some (.nat n)
  | _, _ => True

namespace FailFast

/-- What is inferred of a slot whose immediate is a number. -/
structure Slot.Inferred (f : Filter) (s : Slot) (n : Nat) : Prop where
  immediate : s.line.k = .nat n
  fits : n ≤ FieldName.k.limit
  /-- If the slot is a check, the filter asks for the number. -/
  asked : f.Asks s.purpose n
  /-- The purpose is inferred unless it is misread. -/
  inferred : (Meaning.infer s.line.opcode.toNat (.int n)).1 = s.purpose ↔
    Meaning.misread s.purpose n = false

/-- **What is inferred of each kind of slot**, one case for each of them. -/
theorem Slot.Serves.inferred {f : Filter} (hf : f.Checked) {s : Slot} (h : s.Serves f) :
    ∃ n, s.Inferred f n := by
  cases h with
  | loadEthertype => exact ⟨_, rfl, by decide, trivial, by decide⟩
  | checkEthertype => exact ⟨_, rfl, by decide, trivial, by decide⟩
  | loadProtocol => exact ⟨_, rfl, by decide, trivial, by decide⟩
  | @checkProtocol v n hv hn =>
    obtain ⟨q, rfl⟩ := hf.protocol v hv
    have hnumber : q.number = n := by
      rw [protocolNumber_name] at hn
      exact Except.ok.inj hn
    refine ⟨n, rfl, ?_, ⟨_, hv, hn⟩, ?_⟩
    · rw [← hnumber]
      cases q <;> decide
    · rw [← hnumber]
      cases q <;> decide
  | loadSrcAddr => exact ⟨_, rfl, by decide, trivial, by decide⟩
  | @checkSrcAddr v w hv hw =>
    exact ⟨w, rfl, addressWord_le hw, ⟨v, hv, hw⟩, Meaning.infer_srcAddr_iff⟩
  | loadDstAddr => exact ⟨_, rfl, by decide, trivial, by decide⟩
  | @checkDstAddr v w hv hw =>
    exact ⟨w, rfl, addressWord_le hw, ⟨v, hv, hw⟩, Meaning.infer_check_ne (.inl rfl)⟩
  | loadFragInfo => exact ⟨_, rfl, by decide, trivial, by decide⟩
  | checkFragment => exact ⟨_, rfl, by decide, trivial, by decide⟩
  | loadHeaderLen => exact ⟨_, rfl, by decide, trivial, by decide⟩
  | loadSrcPort => exact ⟨_, rfl, by decide, trivial, by decide⟩
  | @checkSrcPort v hv =>
    obtain ⟨n, rfl, hn⟩ := hf.srcPort v hv
    exact ⟨n, rfl, Nat.le_trans hn (by decide), hv, Meaning.infer_check_ne (.inr rfl)⟩
  | loadDstPort => exact ⟨_, rfl, by decide, trivial, by decide⟩
  | @checkDstPort v hv =>
    obtain ⟨n, rfl, hn⟩ := hf.dstPort v hv
    exact ⟨n, rfl, Nat.le_trans hn (by decide), hv, Meaning.infer_dstPort_iff hn⟩
  | accept => exact ⟨_, rfl, by decide, trivial, by decide⟩
  | reject => exact ⟨_, rfl, by decide, trivial, by decide⟩

/-- The instruction of a slot has its tag and, as a plain number, its immediate. -/
theorem Slot.Inferred.instruction {f : Filter} {s : Slot} {n : Nat} (h : s.Inferred f n)
    (size position : Nat) :
    (s.instruction size position).k.toNat = n ∧
      (s.instruction size position).kFigure = .int n ∧
      (s.instruction size position).purpose = some s.purpose := by
  have hwhole : s.line.whole = .int n := by
    rw [Synthetic.Line.whole, h.immediate]
    rfl
  have htoNat : (s.instruction size position).k.toNat = n := by
    show s.line.whole.value.toNat.toUInt32.toNat = n
    have hfits := h.fits
    simp only [FieldName.limit] at hfits
    rw [hwhole]
    simp [Whole.value]
    omega
  refine ⟨htoNat, ?_, rfl⟩
  have hspelling : (s.instruction size position).spelling.k = s.line.whole.isTruth := rfl
  rw [Instruction.kFigure, htoNat, hspelling, hwhole]
  rfl

/-- **The purposes of instructions, inferred and tagged.** Every filter that passes
validation has a program, in which every instruction has a tag. What is inferred from
opcode and immediate is that tag, except precisely for the checks that are misread; and if
the tags are believed, they are the purposes in order, with the immediates for values and
the positions for indices. -/
theorem validated_inference {f g : Filter} (h : f.validated = .ok g) :
    ∃ prog, program g = .ok prog ∧
      (∀ (position : Nat) (i : Instruction), prog.instructions[position]? = some i →
        ∃ tag m, i.purpose = some tag ∧ g.Asks tag i.k.toNat ∧
          (prog.meaning false)[position]? = some m ∧
          (m.purpose = tag ↔ Meaning.misread tag i.k.toNat = false)) ∧
      (prog.meaning true).map (fun m => (some m.purpose, m.value, m.index)) =
        prog.instructions.mapIdx
          (fun position i => (i.purpose, .int i.k.toNat, .int position)) := by
  have hchecked := Filter.validated_checked h
  obtain ⟨ss, prog, hss, hprog, hcode, -⟩ := checked_outcome hchecked
  have hslot {position : Nat} {i : Instruction} (hi : prog.instructions[position]? = some i) :
      ∃ (s : Slot) (n : Nat), s.instruction ss.length position = i ∧ s.Inferred g n := by
    rw [hcode] at hi
    obtain ⟨s, -, hserves, hmade, -⟩ := slotCode_slot hss hi
    obtain ⟨n, hn⟩ := hserves.inferred hchecked
    exact ⟨s, n, hmade, hn⟩
  refine ⟨prog, hprog, ?_, ?_⟩
  · intro position i hi
    obtain ⟨s, n, rfl, hn⟩ := hslot hi
    obtain ⟨hk, hfigure, htag⟩ := hn.instruction ss.length position
    refine ⟨s.purpose, .ofInstruction false position (s.instruction ss.length position), htag,
      ?_, ?_, ?_⟩
    · rw [hk]
      exact hn.asked
    · rw [Program.meaning_eq, List.getElem?_mapIdx, hi]
      rfl
    · rw [Meaning.ofInstruction_untrusted, hk, hfigure, s.instruction_opcode]
      exact hn.inferred
  · rw [Program.map_meaning]
    apply List.ext_getElem?
    intro position
    rw [List.getElem?_mapIdx, List.getElem?_mapIdx]
    cases hi : prog.instructions[position]? with
    | none => rfl
    | some i =>
      obtain ⟨s, n, rfl, hn⟩ := hslot hi
      obtain ⟨hk, hfigure, htag⟩ := hn.instruction ss.length position
      simp only [Option.map_some, Meaning.purpose_of_tag htag, Meaning.ofInstruction_value,
        Meaning.ofInstruction_index, htag, hk, hfigure]

/-- The least source address that is taken for one, and a port that is taken for the
Ethernet type. -/
def lookalikes : Filter :=
  { protocol := some (.str "UDP"), srcIp := some (.str "192.0.0.0"), dstPort := some (.nat 2048) }

/-- The address is read right and the port is not. -/
theorem validated_inference_lookalikes :
    lookalikes.validated = .ok { lookalikes with protocol := some (.str "udp") } ∧
      ∃ prog, program { lookalikes with protocol := some (.str "udp") } = .ok prog ∧
        (∃ m, (prog.meaning false)[5]? = some m ∧ m.purpose = .checkSrcAddr) ∧
        (∃ m, (prog.meaning false)[10]? = some m ∧ m.purpose ≠ .checkDstPort) ∧
        (prog.meaning true).map (fun m => (some m.purpose, m.value, m.index)) =
          prog.instructions.mapIdx
            (fun position i => (i.purpose, .int i.k.toNat, .int position)) := by
  have hvalid : lookalikes.validated = .ok { lookalikes with protocol := some (.str "udp") } := by
    rfl
  have hcode : (program { lookalikes with protocol := some (.str "udp") }).map (fun p =>
      (p.instructions[5]?.map (fun i => (i.purpose, i.k.toNat)),
        p.instructions[10]?.map (fun i => (i.purpose, i.k.toNat)))) =
      .ok (some (some .checkSrcAddr, 0xc0000000), some (some .checkDstPort, 2048)) := by rfl
  obtain ⟨prog, hprog, hinferred, htrusted⟩ := validated_inference hvalid
  rw [hprog, map_of_ok, Except.ok.injEq, Prod.mk.injEq] at hcode
  obtain ⟨⟨i, hi, hsrc⟩, ⟨j, hj, hdst⟩⟩ :=
    And.imp Option.map_eq_some_iff.mp Option.map_eq_some_iff.mp hcode
  refine ⟨hvalid, prog, hprog, ?_, ?_, htrusted⟩
  · obtain ⟨tag, m, htag, -, hm, hiff⟩ := hinferred 5 i hi
    rw [htag, Prod.mk.injEq, Option.some.injEq] at hsrc
    rw [hsrc.1, hsrc.2] at hiff
    exact ⟨m, hm, hiff.mpr (by decide)⟩
  · obtain ⟨tag, m, htag, -, hm, hiff⟩ := hinferred 10 j hj
    rw [htag, Prod.mk.injEq, Option.some.injEq] at hdst
    rw [hdst.1, hdst.2] at hiff
    exact ⟨m, hm, fun hread => absurd (hiff.mp hread) (by decide)⟩

end FailFast

end PacketFilter
