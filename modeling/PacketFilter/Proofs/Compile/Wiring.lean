import PacketFilter.Proofs.Comparison.Stages
import PacketFilter.Proofs.Run.FailFast

/-
  Where the jumps of a fail-fast program lead.

  The jumps are set by two passes. The stage of the ports sets those of the fragment
  check, before the returns are there, and counts on where the rejecting one will be; the
  last pass sets those of the checks for equality. Nothing else jumps.

  What is proved:
    1. `mem_slots` — every slot of a filter is one of seventeen kinds, one for each
       purpose, and a check has the immediate that its field of the filter stands for.
    2. `code_of_program` — whatever values a filter holds, a program made of it is the
       code of its slots.
    3. `program_wired` — in such a program every check for equality leads to the two
       returns at the end, the fragment check, which is there exactly if a port is asked
       for, leads to the rejecting return or to the next instruction, and no other
       instruction jumps.
-/

namespace PacketFilter

namespace FailFast

open Synthetic (Line)

/-! ## The kinds of slots -/

/-- The slots that a filter can have, one for each purpose. -/
inductive Slot.Serves (f : Filter) : Slot → Prop where
  | loadEthertype : Serves f ⟨.load Opcode.loadHalf Offset.ethertype, .loadEthertype⟩
  | checkEthertype : Serves f ⟨.check (.nat ethertypeIPv4), .checkEthertype⟩
  | loadProtocol : Serves f ⟨.load Opcode.loadByte Offset.protocol, .loadProtocol⟩
  | checkProtocol {v : Json} {n : Nat} (hv : f.protocol = some v) (hn : protocolNumber v = .ok n) :
      Serves f ⟨.check (.nat n), .checkProtocol⟩
  | loadSrcAddr : Serves f ⟨.load Opcode.loadWord Offset.srcAddr, .loadSrcAddr⟩
  | checkSrcAddr {v : Json} {w : Nat} (hv : f.srcIp = some v) (hw : addressWord v = .ok w) :
      Serves f ⟨.check (.nat w), .checkSrcAddr⟩
  | loadDstAddr : Serves f ⟨.load Opcode.loadWord Offset.dstAddr, .loadDstAddr⟩
  | checkDstAddr {v : Json} {w : Nat} (hv : f.dstIp = some v) (hw : addressWord v = .ok w) :
      Serves f ⟨.check (.nat w), .checkDstAddr⟩
  | loadFragInfo : Serves f ⟨.load Opcode.loadHalf Offset.fragment, .loadFragInfo⟩
  | checkFragment : Serves f ⟨⟨Opcode.jumpSet, .nat fragmentMask, .onTrue⟩, .checkFragment⟩
  | loadHeaderLen : Serves f ⟨.load Opcode.loadHeaderLen Offset.ipHeader, .loadHeaderLen⟩
  | loadSrcPort : Serves f ⟨.load Opcode.loadHalfIndexed Offset.srcPort, .loadSrcPort⟩
  | checkSrcPort {v : Json} (hv : f.srcPort = some v) : Serves f ⟨.check v, .checkSrcPort⟩
  | loadDstPort : Serves f ⟨.load Opcode.loadHalfIndexed Offset.dstPort, .loadDstPort⟩
  | checkDstPort {v : Json} (hv : f.dstPort = some v) : Serves f ⟨.check v, .checkDstPort⟩
  | accept : Serves f ⟨⟨Opcode.ret, .nat acceptLength, .never⟩, .accept⟩
  | reject : Serves f ⟨⟨Opcode.ret, .nat rejectLength, .never⟩, .reject⟩

section
variable {f : Filter} {s : Slot} {ss : List Slot}

theorem protocolSlots_serve (h : protocolSlots f = .ok ss) (hs : s ∈ ss) : s.Serves f := by
  unfold protocolSlots at h
  split at h
  · cases h
    contradiction
  · next v hv =>
    obtain ⟨n, hn, rfl⟩ := map_eq_ok.mp h
    simp only [List.mem_cons, List.not_mem_nil, or_false] at hs
    rcases hs with rfl | rfl
    · exact .loadProtocol
    · exact .checkProtocol hv hn

theorem mem_addressSlots {address : Option Json} {offset : Nat} {loading checking : Purpose}
    (h : addressSlots address offset loading checking = .ok ss) (hs : s ∈ ss) :
    s = ⟨.load Opcode.loadWord offset, loading⟩ ∨
      ∃ v w, address = some v ∧ addressWord v = .ok w ∧ s = ⟨.check (.nat w), checking⟩ := by
  cases address with
  | none =>
    cases h
    contradiction
  | some v =>
    obtain ⟨w, hw, rfl⟩ := map_eq_ok.mp h
    simp only [List.mem_cons, List.not_mem_nil, or_false] at hs
    rcases hs with rfl | rfl
    · exact .inl rfl
    · exact .inr ⟨v, w, rfl, hw, rfl⟩

theorem mem_portSlots {port : Option Json} {offset : Nat} {loading checking : Purpose}
    (hs : s ∈ portSlots port offset loading checking) :
    s = ⟨.load Opcode.loadHalfIndexed offset, loading⟩ ∨
      ∃ v, port = some v ∧ s = ⟨.check v, checking⟩ := by
  cases port with
  | none => contradiction
  | some v =>
    simp only [portSlots, List.mem_cons, List.not_mem_nil, or_false] at hs
    rcases hs with rfl | rfl
    · exact .inl rfl
    · exact .inr ⟨v, rfl, rfl⟩

theorem frontSlots_serve (h : frontSlots f = .ok ss) (hs : s ∈ ss) : s.Serves f := by
  simp only [frontSlots, bind_eq_ok] at h
  obtain ⟨protocol, hp, srcIp, hsrc, dstIp, hdst, h⟩ := h
  cases h
  simp only [List.mem_append] at hs
  rcases hs with ((hs | hs) | hs) | hs
  · simp only [ethertypeSlots, List.mem_cons, List.not_mem_nil, or_false] at hs
    rcases hs with rfl | rfl
    · exact .loadEthertype
    · exact .checkEthertype
  · exact protocolSlots_serve hp hs
  · rcases mem_addressSlots hsrc hs with rfl | ⟨v, w, hv, hw, rfl⟩
    · exact .loadSrcAddr
    · exact .checkSrcAddr hv hw
  · rcases mem_addressSlots hdst hs with rfl | ⟨v, w, hv, hw, rfl⟩
    · exact .loadDstAddr
    · exact .checkDstAddr hv hw

theorem portsSlots_serve (hs : s ∈ portsSlots f) : s.Serves f := by
  unfold portsSlots at hs
  split at hs
  · rw [bothPortSlots, List.mem_append, List.mem_append] at hs
    rcases hs with hs | hs | hs
    · simp only [fragmentSlots, List.mem_cons, List.not_mem_nil, or_false] at hs
      rcases hs with rfl | rfl | rfl
      · exact .loadFragInfo
      · exact .checkFragment
      · exact .loadHeaderLen
    · rcases mem_portSlots hs with rfl | ⟨v, hv, rfl⟩
      · exact .loadSrcPort
      · exact .checkSrcPort hv
    · rcases mem_portSlots hs with rfl | ⟨v, hv, rfl⟩
      · exact .loadDstPort
      · exact .checkDstPort hv
  · contradiction

/-- **Every slot of a filter is of one of the kinds.** -/
theorem mem_slots (h : slots f = .ok ss) (hs : s ∈ ss) : s.Serves f := by
  obtain ⟨front, hfront, rfl⟩ := map_eq_ok.mp h
  rw [List.mem_append, List.mem_append] at hs
  rcases hs with (hs | hs) | hs
  · exact frontSlots_serve hfront hs
  · exact portsSlots_serve hs
  · simp only [returnSlots, List.mem_cons, List.not_mem_nil, or_false] at hs
    rcases hs with rfl | rfl
    · exact .accept
    · exact .reject

/-- The opcodes of slots, with the way they lead out of the chain and what they are
for. -/
def kinds : List (UInt16 × Synthetic.Exit × Purpose) :=
  [(Opcode.loadHalf, .never, .loadEthertype), (Opcode.jumpEqual, .onFalse, .checkEthertype),
   (Opcode.loadByte, .never, .loadProtocol), (Opcode.jumpEqual, .onFalse, .checkProtocol),
   (Opcode.loadWord, .never, .loadSrcAddr), (Opcode.jumpEqual, .onFalse, .checkSrcAddr),
   (Opcode.loadWord, .never, .loadDstAddr), (Opcode.jumpEqual, .onFalse, .checkDstAddr),
   (Opcode.loadHalf, .never, .loadFragInfo), (Opcode.jumpSet, .onTrue, .checkFragment),
   (Opcode.loadHeaderLen, .never, .loadHeaderLen),
   (Opcode.loadHalfIndexed, .never, .loadSrcPort), (Opcode.jumpEqual, .onFalse, .checkSrcPort),
   (Opcode.loadHalfIndexed, .never, .loadDstPort), (Opcode.jumpEqual, .onFalse, .checkDstPort),
   (Opcode.ret, .never, .accept), (Opcode.ret, .never, .reject)]

namespace Slot.Serves

theorem mem_kinds (h : s.Serves f) : (s.line.opcode, s.line.exit, s.purpose) ∈ kinds := by
  cases h <;> simp [kinds, Line.load, Line.check]

theorem exit_never (h : s.Serves f) (hequal : s.line.opcode ≠ Opcode.jumpEqual)
    (hset : s.line.opcode ≠ Opcode.jumpSet) : s.line.exit = .never := by
  have hkinds : ∀ kind ∈ kinds, kind.1 ≠ Opcode.jumpEqual → kind.1 ≠ Opcode.jumpSet →
      kind.2.1 = .never := by decide
  exact hkinds _ h.mem_kinds hequal hset

theorem opcode_eq_jumpSet (h : s.Serves f) :
    s.line.opcode = Opcode.jumpSet ↔ s.purpose = .checkFragment := by
  have hkinds : ∀ kind ∈ kinds, kind.1 = Opcode.jumpSet ↔ kind.2.2 = .checkFragment := by decide
  exact hkinds _ h.mem_kinds

theorem fragment_line (h : s.Serves f) (hp : s.purpose = .checkFragment) :
    s.line = ⟨Opcode.jumpSet, .nat fragmentMask, .onTrue⟩ := by
  cases h with
  | checkFragment => rfl
  | _ => cases hp

end Slot.Serves

/-! ## The jumps -/

theorem code_of_program {prog : Program} (h : program f = .ok prog) :
    ∃ ss, slots f = .ok ss ∧ prog.instructions = slotCode ss := by
  rcases outcome f with ⟨e, herror, -⟩ | ⟨ss, prog', hss, hprog, hcode, -⟩
  · rw [h] at herror
    contradiction
  · rw [h] at hprog
    cases hprog
    exact ⟨ss, hss, hcode⟩

/-- The jumps of the program of a filter, counted from each instruction itself, and the
returns they lead to. -/
structure Wired (f : Filter) (code : List Instruction) : Prop where
  size : 2 ≤ code.length
  /-- A check for equality leads to the accepting return, or to the rejecting one. -/
  check : ∀ (position : Nat) (i : Instruction), code[position]? = some i →
    i.opcode = Opcode.jumpEqual →
    position + i.jt.toNat = code.length - 2 ∧ position + i.jf.toNat = code.length - 1
  /-- The fragment check leads to the rejecting return, or goes on. -/
  fragment : ∀ (position : Nat) (i : Instruction), code[position]? = some i →
    i.opcode = Opcode.jumpSet →
    i.k.toNat = fragmentMask ∧ i.purpose = some .checkFragment ∧
      position + i.jt.toNat = code.length - 1 ∧ i.jf.toNat = 1
  /-- There is one fragment check if a port is set, and else none. -/
  fragments : code.countP (·.opcode = Opcode.jumpSet) =
    if f.sets (.port .src) ∨ f.sets (.port .dst) then 1 else 0
  /-- Nothing else jumps. -/
  other : ∀ i ∈ code, i.opcode ≠ Opcode.jumpEqual → i.opcode ≠ Opcode.jumpSet →
    i.jt = 0 ∧ i.jf = 0
  accepting : code[code.length - 2]? =
    some { opcode := Opcode.ret, jt := 0, jf := 0, k := 0x40000, purpose := some .accept }
  rejecting : code[code.length - 1]? =
    some { opcode := Opcode.ret, jt := 0, jf := 0, k := 0, purpose := some .reject }

theorem slotCode_fragments (h : slots f = .ok ss) :
    (slotCode ss).countP (·.opcode = Opcode.jumpSet) = f.tags.count .checkFragment := by
  have hopcodes : (slotCode ss).map (·.opcode) = ss.map (·.line.opcode) := by
    apply List.ext_getElem?
    intro position
    simp only [slotCode, List.getElem?_map, List.getElem?_mapIdx, Option.map_map]
    congr 1
    funext s
    exact s.instruction_opcode _ _
  calc (slotCode ss).countP (·.opcode = Opcode.jumpSet)
      = ((slotCode ss).map (·.opcode)).countP (· = Opcode.jumpSet) := by
        rw [List.countP_map]
        rfl
    _ = ss.countP (·.line.opcode = Opcode.jumpSet) := by
        rw [hopcodes, List.countP_map]
        rfl
    _ = ss.countP (·.purpose = .checkFragment) := by
        apply List.countP_congr
        intro s hs
        simp only [decide_eq_true_eq, (mem_slots h hs).opcode_eq_jumpSet]
    _ = f.tags.count .checkFragment := by
        rw [← slots_purposes h, List.count, List.countP_map]
        rfl

theorem slotCode_eq_some {position : Nat} {i : Instruction} :
    (slotCode ss)[position]? = some i ↔
      ∃ s, ss[position]? = some s ∧ s.instruction ss.length position = i := by
  simp only [slotCode, List.getElem?_mapIdx, Option.map_eq_some_iff]

/-- What an instruction of the code takes from its slot, the jumps as they are counted. -/
theorem slotCode_slot (h : slots f = .ok ss) {position : Nat} {i : Instruction}
    (hi : (slotCode ss)[position]? = some i) :
    ∃ s, ss[position]? = some s ∧ s.Serves f ∧ s.instruction ss.length position = i ∧
      i.opcode = s.line.opcode ∧ i.jt.toNat = s.jt ss.length position ∧
      i.jf.toNat = s.jf ss.length position := by
  obtain ⟨s, hs, rfl⟩ := slotCode_eq_some.mp hi
  obtain ⟨-, hhigh⟩ := slots_length h
  obtain ⟨ht, hf⟩ := s.jumps_le (show ss.length ≤ 256 by omega) position
  exact ⟨s, hs, mem_slots h (List.mem_of_getElem? hs), rfl, s.instruction_opcode _ _,
    s.line.withJumps_jt _ ht, s.line.withJumps_jf _ hf⟩

/-- **The jumps of a program lead where they should.** Whatever values the filter holds, in
a program made of it every check for equality leads to the last two instructions, which
are the accepting and the rejecting return; the fragment check, of which there is one
exactly if a port is set, leads to the rejecting return or to the next instruction; and
nothing else jumps. -/
theorem program_wired {prog : Program} (h : program f = .ok prog) : Wired f prog.instructions := by
  obtain ⟨ss, hss, hcode⟩ := code_of_program h
  have hlength := slotCode_length ss
  obtain ⟨hlow, -⟩ := slots_length hss
  obtain ⟨haccept, hreject⟩ := slots_returns hss
  rw [hcode]
  refine {
    size := by omega
    check := ?_
    fragment := ?_
    fragments := ?_
    other := ?_
    accepting := by rw [hlength, slotCode_get haccept]; rfl
    rejecting := by rw [hlength, slotCode_get hreject]; rfl }
  · intro position i hi hjump
    obtain ⟨s, hs, -, -, hopcode, hjt, hjf⟩ := slotCode_slot hss hi
    obtain ⟨hexit, hpos⟩ := (slot_branch hss hs).1 (hopcode.symm.trans hjump)
    rw [hlength, hjt, hjf]
    simp only [Slot.jt, Slot.jf, hexit]
    omega
  · intro position i hi hjump
    obtain ⟨s, hs, hserves, hmade, hopcode, hjt, hjf⟩ := slotCode_slot hss hi
    obtain ⟨hexit, hpos⟩ := (slot_branch hss hs).2 (hopcode.symm.trans hjump)
    have hpurpose := hserves.opcode_eq_jumpSet.mp (hopcode.symm.trans hjump)
    rw [hlength, hjt, hjf]
    simp only [Slot.jt, Slot.jf, hexit]
    refine ⟨?_, ?_, by omega, trivial⟩
    · rw [← hmade]
      show s.line.immediate = fragmentMask
      rw [hserves.fragment_line hpurpose]
      rfl
    · rw [← hmade]
      exact congrArg some hpurpose
  · -- No purpose is tagged twice, and that of the fragment check goes with its stage.
    rw [slotCode_fragments hss, f.tags_nodup.count]
    simp only [Filter.mem_tags (show Purpose.checkFragment ∈ Stage.fragment.purposes by decide),
      Filter.hasStage, Bool.or_eq_true]
  · intro i hi hequal hset
    obtain ⟨position, hi⟩ := List.mem_iff_getElem?.mp hi
    obtain ⟨s, -, hserves, -, hopcode, hjt, hjf⟩ := slotCode_slot hss hi
    rw [hopcode] at hequal hset
    rw [← UInt8.toNat_inj, ← UInt8.toNat_inj, hjt, hjf]
    simp only [Slot.jt, Slot.jf, hserves.exit_never hequal hset]
    exact ⟨rfl, rfl⟩

end

/-- Ports that no packet has, as a filter may hold them before validation. -/
def oddPorts : Filter := { srcPort := some (.bool true), dstPort := some (.nat 70000) }

/-- The fragment check is the fourth of eleven instructions and leads over seven of them. -/
theorem program_wired_oddPorts :
    ∃ prog, program oddPorts = .ok prog ∧ prog.size = 11 ∧ Wired oddPorts prog.instructions ∧
      prog.instructions[3]?.map (·.toEncoding) = some ⟨Opcode.jumpSet, 7, 1, 0x1fff⟩ := by
  obtain ⟨prog, hprog⟩ : ∃ prog, program oddPorts = .ok prog := ⟨_, rfl⟩
  have hsize : (program oddPorts).map Program.size = .ok 11 := by rfl
  have hfourth : (program oddPorts).map (fun p => p.instructions[3]?.map (·.toEncoding)) =
      .ok (some ⟨Opcode.jumpSet, 7, 1, 0x1fff⟩) := by rfl
  rw [hprog] at hsize hfourth
  exact ⟨prog, hprog, Except.ok.inj hsize, program_wired hprog, Except.ok.inj hfourth⟩

end FailFast

end PacketFilter
