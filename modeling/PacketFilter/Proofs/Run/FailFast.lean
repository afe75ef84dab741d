import PacketFilter.Proofs.Run.Reference

/-
  What a fail-fast program does to a packet.

  The checks of a fail-fast program all have the same two targets: the accepting
  return if the check holds, the rejecting one if it does not. The first check is
  that of the Ethernet type, so it alone decides, and the rest of the program is
  never reached.

  Counted from the jump itself, as the compiler counts, the program accepts every
  IPv4 packet, whatever else the filter asks for (`failFast_accepts_ipv4`).
  Counted from the next instruction, as the machines that load the exported
  program count, the first target is the rejecting return and the second lies
  behind the end of the program (`failFast_leaves`).
-/

namespace PacketFilter

/-- Whether an instruction has jumps. -/
def Instruction.isBranch (i : Instruction) : Bool :=
  i.opcode == Opcode.jumpEqual || i.opcode == Opcode.jumpSet

/-- What a machine that counts jumps from the next instruction asks of a program
before it runs it: every jump leads to an instruction, and the last instruction is
a return. -/
structure Loadable (code : List Instruction) : Prop where
  jumps : ∀ (position : Nat) (i : Instruction), code[position]? = some i → i.isBranch = true →
    JumpBase.fromNext.target position i.jt.toNat < code.length ∧
      JumpBase.fromNext.target position i.jf.toNat < code.length
  last : ∃ i, code.getLast? = some i ∧ i.opcode = Opcode.ret

namespace FailFast

open Synthetic (Line)

/-! ## The code of the slots of a filter -/

/-- The code of slots. -/
def slotCode (ss : List Slot) : List Instruction :=
  ss.mapIdx (fun i s => s.instruction ss.length i)

theorem slotCode_length (ss : List Slot) : (slotCode ss).length = ss.length := by
  simp [slotCode]

theorem slotCode_get {ss : List Slot} {position : Nat} {s : Slot} (h : ss[position]? = some s) :
    (slotCode ss)[position]? = some (s.instruction ss.length position) := by
  simp [slotCode, h]

theorem Slot.instruction_opcode (s : Slot) (n position : Nat) :
    (s.instruction n position).opcode = s.line.opcode := s.line.withJumps_opcode _

section
variable {f : Filter} {ss : List Slot}

theorem slots_ends (h : slots f = .ok ss) : ∃ rest, ss = ethertypeSlots ++ rest ++ returnSlots := by
  simp only [slots, frontSlots, map_eq_ok, bind_eq_ok] at h
  obtain ⟨_, ⟨protocol, -, srcIp, -, dstIp, -, hfront⟩, rfl⟩ := h
  cases hfront
  exact ⟨protocol ++ srcIp ++ dstIp ++ portsSlots f, by simp only [List.append_assoc]⟩

theorem slot_branch (h : slots f = .ok ss) {position : Nat} {s : Slot}
    (hs : ss[position]? = some s) :
    (s.line.opcode = Opcode.jumpEqual → s.line.exit = .onFalse ∧ position + 2 < ss.length) ∧
      (s.line.opcode = Opcode.jumpSet → s.line.exit = .onTrue ∧ position + 2 < ss.length) := by
  obtain ⟨body, -, hbody, hstretch, hlen⟩ := slots_body h
  have hl : (body ++ Synthetic.returnLines)[position]? = some s.line := by
    rw [← hbody, List.getElem?_map, hs]; rfl
  -- A line is an inner one, whose exit goes with its opcode, or one of the returns.
  by_cases hp : position < body.length
  · rw [List.getElem?_append_left hp] at hl
    have hexit := (hstretch.1 s.line (List.mem_of_getElem? hl)).exit_eq
    exact ⟨fun ho => ⟨hexit.1 ho, by omega⟩, fun ho => ⟨hexit.2 ho, by omega⟩⟩
  · rw [List.getElem?_append_right (by omega)] at hl
    have hret : s.line.opcode = Opcode.ret := by
      have hmem := List.mem_of_getElem? hl
      simp only [Synthetic.returnLines, List.mem_cons, List.not_mem_nil, or_false] at hmem
      rcases hmem with h | h <;> rw [h]
    rw [hret]
    exact ⟨fun ho => absurd ho (by decide), fun ho => absurd ho (by decide)⟩

/-- Counted from the next instruction, a check for equality leads to the rejecting
return or behind the end, and the check of the fragment behind the end or past the
load of the header's length. -/
theorem slot_targets (h : slots f = .ok ss) {position : Nat} {i : Instruction}
    (hi : (slotCode ss)[position]? = some i) :
    (i.opcode = Opcode.jumpEqual →
      JumpBase.fromNext.target position i.jt.toNat = ss.length - 1 ∧
        JumpBase.fromNext.target position i.jf.toNat = ss.length) ∧
    (i.opcode = Opcode.jumpSet →
      JumpBase.fromNext.target position i.jt.toNat = ss.length ∧
        JumpBase.fromNext.target position i.jf.toNat = position + 2) := by
  simp only [slotCode, List.getElem?_mapIdx, Option.map_eq_some_iff] at hi
  obtain ⟨s, hs, rfl⟩ := hi
  have hlen := (slots_length h).2
  obtain ⟨ht, hf⟩ := s.jumps_le (show ss.length ≤ 256 by omega) position
  obtain ⟨heq, hset⟩ := slot_branch h hs
  rw [s.instruction_opcode, Slot.instruction, s.line.withJumps_jt _ ht, s.line.withJumps_jf _ hf]
  refine ⟨fun ho => ?_, fun ho => ?_⟩
  · obtain ⟨hexit, hpos⟩ := heq ho
    simp only [JumpBase.target, Slot.jt, Slot.jf, hexit]
    omega
  · obtain ⟨hexit, hpos⟩ := hset ho
    simp only [JumpBase.target, Slot.jt, Slot.jf, hexit, and_true]
    omega

theorem slots_returns (h : slots f = .ok ss) :
    ss[ss.length - 2]? = some ⟨⟨Opcode.ret, .nat acceptLength, .never⟩, .accept⟩ ∧
      ss[ss.length - 1]? = some ⟨⟨Opcode.ret, .nat rejectLength, .never⟩, .reject⟩ := by
  obtain ⟨rest, hss⟩ := slots_ends h
  have hlen : ss.length = (ethertypeSlots ++ rest).length + 2 := by
    rw [hss, List.length_append]; rfl
  constructor
  · rw [hlen, hss, List.getElem?_append_right (by omega)]
    simp [returnSlots]
  · rw [hlen, hss, List.getElem?_append_right (by omega)]
    simp [returnSlots]

theorem slotCode_returns (h : slots f = .ok ss) :
    (∃ i, (slotCode ss)[ss.length - 2]? = some i ∧ i.opcode = Opcode.ret ∧
      i.k.toNat = acceptLength) ∧
    ∃ i, (slotCode ss)[ss.length - 1]? = some i ∧ i.opcode = Opcode.ret ∧
      i.k.toNat = rejectLength := by
  obtain ⟨haccept, hreject⟩ := slots_returns h
  exact ⟨⟨_, slotCode_get haccept, Slot.instruction_opcode _ _ _, rfl⟩,
    ⟨_, slotCode_get hreject, Slot.instruction_opcode _ _ _, rfl⟩⟩

/-- The first two instructions load the Ethernet type and check it, with jumps to
the two returns. -/
theorem slotCode_start (h : slots f = .ok ss) :
    (∃ i, (slotCode ss)[0]? = some i ∧ i.opcode = Opcode.loadHalf ∧ i.k.toNat = 12) ∧
    ∃ i, (slotCode ss)[1]? = some i ∧ i.opcode = Opcode.jumpEqual ∧ i.k.toNat = 0x0800 ∧
      i.jt.toNat = ss.length - 3 ∧ i.jf.toNat = ss.length - 2 := by
  obtain ⟨rest, hss⟩ := slots_ends h
  have hlen := (slots_length h).2
  have hload : ss[0]? = some ⟨.load Opcode.loadHalf Offset.ethertype, .loadEthertype⟩ := by
    rw [hss]; rfl
  have hcheck : ss[1]? = some ⟨.check (.nat ethertypeIPv4), .checkEthertype⟩ := by
    rw [hss]; rfl
  refine ⟨⟨_, slotCode_get hload, Slot.instruction_opcode _ _ _, rfl⟩,
    ⟨_, slotCode_get hcheck, Slot.instruction_opcode _ _ _, rfl, ?_, ?_⟩⟩
  · rw [Slot.instruction, Line.withJumps_jt _ _ (Slot.jumps_le _ (by omega) 1).1]
    simp only [Slot.jt, Line.check]
    omega
  · rw [Slot.instruction, Line.withJumps_jf _ _ (Slot.jumps_le _ (by omega) 1).2]
    simp only [Slot.jf, Line.check]
    omega

theorem runs_no_type (base : JumpBase) (h : slots f = .ok ss) {p : Packet}
    (hp : p.half? 12 = none) : Runs base (slotCode ss) p {} (.beyond 0) := by
  obtain ⟨⟨i, hi, ho, hk⟩, -⟩ := slotCode_start h
  refine .beyond hi ?_
  rw [ho, hk, effect_loadHalf, hp]; rfl

/-- The Ethernet type decides which way the run goes, and nothing comes before
that. -/
theorem runs_type (base : JumpBase) (h : slots f = .ok ss) {p : Packet} {n : Nat}
    (hp : p.half? 12 = some n) {target : Nat}
    (ht : base.target 1 (if n = 0x0800 then ss.length - 3 else ss.length - 2) = target)
    {e : Ending} (rest : Runs base (slotCode ss) p ⟨target, ⟨n, 0⟩⟩ e) :
    Runs base (slotCode ss) p {} e := by
  obtain ⟨⟨i, hi, ho, hk⟩, ⟨j, hj, hjo, hjk, hjt, hjf⟩⟩ := slotCode_start h
  have hload : effect p i.opcode i.k.toNat {} = .proceed ⟨n, 0⟩ := by
    rw [ho, hk, effect_loadHalf, hp]; rfl
  have hcheck : effect p j.opcode j.k.toNat ⟨n, 0⟩ = .branch (n == 0x0800) := by
    rw [hjo, hjk, effect_jumpEqual]
  refine .proceed hi hload (.branch hj hcheck ?_)
  simpa [hjt, hjf, ht] using rest

theorem four_le_length (h : slots f = .ok ss) : 4 ≤ ss.length := by
  obtain ⟨rest, rfl⟩ := slots_ends h
  simp only [List.length_append, ethertypeSlots, returnSlots, List.length_cons, List.length_nil]
  omega

/-! ## Jumps counted from the jump itself -/

/-- The Ethernet type alone decides what the program returns. -/
theorem returns_fromBranch (h : slots f = .ok ss) (p : Packet) :
    Returns .fromBranch (slotCode ss) p (if p.half? 12 = some 0x0800 then 0x40000 else 0) := by
  have hlen := four_le_length h
  obtain ⟨⟨i, hi, hio, hik⟩, ⟨j, hj, hjo, hjk⟩⟩ := slotCode_returns h
  cases hp : p.half? 12 with
  | none => exact ⟨_, runs_no_type _ h hp, rfl⟩
  | some n =>
    by_cases hn : n = 0x0800
    · refine ⟨_, runs_type _ h hp ?_ (.returned hi hio), ?_⟩
      · rw [if_pos hn, JumpBase.target]; omega
      · rw [hn, if_pos rfl, Ending.value?, hik]; rfl
    · refine ⟨_, runs_type _ h hp ?_ (.returned hj hjo), ?_⟩
      · rw [if_neg hn, JumpBase.target]; omega
      · rw [if_neg (by simpa using hn), Ending.value?, hjk]; rfl

/-! ## Jumps counted from the next instruction -/

theorem runs_outside (h : slots f = .ok ss) {p : Packet} {n : Nat} (hp : p.half? 12 = some n)
    (hn : n ≠ 0x0800) : Runs .fromNext (slotCode ss) p {} (.outside ss.length) := by
  have hlen := four_le_length h
  refine runs_type _ h hp ?_ (.outside (Nat.le_of_eq (slotCode_length ss)))
  rw [if_neg hn, JumpBase.target]; omega

/-- Every other packet is rejected. -/
theorem returns_fromNext (h : slots f = .ok ss) {p : Packet}
    (hp : ∀ n, p.half? 12 = some n → n = 0x0800) : Returns .fromNext (slotCode ss) p 0 := by
  have hlen := four_le_length h
  obtain ⟨-, ⟨j, hj, hjo, hjk⟩⟩ := slotCode_returns h
  cases hn : p.half? 12 with
  | none => exact ⟨_, runs_no_type _ h hn, rfl⟩
  | some n =>
    refine ⟨_, runs_type _ h hn ?_ (.returned hj hjo), ?_⟩
    · rw [if_pos (hp n hn), JumpBase.target]; omega
    · rw [Ending.value?, hjk]; rfl

/-- The machine refuses the code: the check of the Ethernet type leads behind its
end. -/
theorem not_loadable (h : slots f = .ok ss) : ¬ Loadable (slotCode ss) := by
  intro hload
  obtain ⟨-, ⟨j, hj, hjo, -⟩⟩ := slotCode_start h
  have hbranch : j.isBranch = true := by rw [Instruction.isBranch, hjo]; rfl
  have hin := (hload.jumps 1 j hj hbranch).2
  rw [((slot_targets h hj).1 hjo).2, slotCode_length] at hin
  omega

theorem slotCode_last (h : slots f = .ok ss) :
    ∃ i, (slotCode ss).getLast? = some i ∧ i.opcode = Opcode.ret := by
  obtain ⟨-, ⟨j, hj, hjo, -⟩⟩ := slotCode_returns h
  refine ⟨j, ?_, hjo⟩
  rw [List.getLast?_eq_getElem?, slotCode_length, hj]

end

/-! ## Filters that have passed validation -/

theorem validated_code {f g : Filter} (h : f.validated = .ok g) :
    ∃ ss prog, slots g = .ok ss ∧ program g = .ok prog ∧ prog.instructions = slotCode ss := by
  obtain ⟨ss, prog, hss, hprog, hcode, -⟩ := checked_outcome (Filter.validated_checked h)
  exact ⟨ss, prog, hss, hprog, hcode⟩

/-- A frame that ends with its header, which says it is IPv4. -/
def bareHeader : Packet := [0, 0, 0, 0, 0, 2, 0, 0, 0, 0, 0, 1, 0x08, 0x00]

/-- **The fail-fast program accepts every IPv4 packet.** Counted as the compiler
counts, the run of the program gives a value on every packet, which is not 0 if and
only if the packet is IPv4. So the program decides the filter right for exactly
those packets that are not IPv4 or match, and no filter is decided right for all
packets. -/
theorem failFast_accepts_ipv4 {f g : Filter} (h : f.validated = .ok g) :
    ∃ prog, program g = .ok prog ∧
      (∀ p : Packet, ∃ value, Returns .fromBranch prog.instructions p value ∧
        (value ≠ 0 ↔ p.half? 12 = some 0x0800) ∧
        ((value ≠ 0 ↔ g.Matches p) ↔ (p.half? 12 = some 0x0800 → g.Matches p))) ∧
      ∃ (p : Packet) (value : Nat), Returns .fromBranch prog.instructions p value ∧ value ≠ 0 ∧
        ¬ g.Matches p := by
  obtain ⟨ss, prog, hss, hprog, hcode⟩ := validated_code h
  refine ⟨prog, hprog, fun p => ?_, bareHeader, 0x40000, ?_, by decide, ?_⟩
  · have hvalue : (if p.half? 12 = some 0x0800 then 0x40000 else 0) ≠ 0 ↔
        p.half? 12 = some 0x0800 := by
      split <;> simp [*]
    refine ⟨_, by rw [hcode]; exact returns_fromBranch hss p, hvalue, ?_⟩
    rw [hvalue]
    exact ⟨fun hiff => hiff.mp, fun himp => ⟨himp, fun m => m.ethertype⟩⟩
  · have hreturns := returns_fromBranch hss bareHeader
    rwa [if_pos (by decide), ← hcode] at hreturns
  · exact (Filter.validated_checked h).not_matches_short (by decide)

/-- A web request is accepted, and so is the frame header alone. -/
theorem failFast_accepts_webRequest :
    webFilter.validated = .ok webFilter ∧ ∃ prog, program webFilter = .ok prog ∧
      (∃ value, Returns .fromBranch prog.instructions webRequest value ∧ value ≠ 0) ∧
      ∃ value, Returns .fromBranch prog.instructions bareHeader value ∧ value ≠ 0 := by
  obtain ⟨prog, hprog, hreturns, -⟩ := failFast_accepts_ipv4 webFilter_validated
  refine ⟨webFilter_validated, prog, hprog, ?_, ?_⟩
  · obtain ⟨value, hv, hne, -⟩ := hreturns webRequest
    exact ⟨value, hv, hne.mpr (by decide)⟩
  · obtain ⟨value, hv, hne, -⟩ := hreturns bareHeader
    exact ⟨value, hv, hne.mpr (by decide)⟩

/-- A datagram of another protocol, from another host to another port. -/
def strayDatagram : Packet :=
  [0, 0, 0, 0, 0, 2, 0, 0, 0, 0, 0, 1, 0x08, 0x00,
   0x45, 0, 0, 28, 0, 0, 0, 0, 64, 17, 0, 0, 192, 168, 7, 9, 10, 0, 0, 2,
   0xc0, 0x00, 0, 53]

/-- The program for web requests accepts a datagram that has nothing of what the
filter asks for. -/
theorem failFast_accepts_strayDatagram :
    webFilter.validated = .ok webFilter ∧ ¬ webFilter.Matches strayDatagram ∧
      ∃ prog, program webFilter = .ok prog ∧
        Returns .fromBranch prog.instructions strayDatagram 0x40000 := by
  obtain ⟨ss, prog, hss, hprog, hcode⟩ := validated_code webFilter_validated
  refine ⟨webFilter_validated, ?_, prog, hprog, ?_⟩
  · intro m
    obtain ⟨n, hn, hport⟩ := m.dstPort (.nat 80) rfl
    have hstray : strayDatagram.dstPort? = some 53 := by decide
    rw [← Json.nat_inj.mp hn, hstray] at hport
    contradiction
  · have hreturns := returns_fromBranch hss strayDatagram
    rwa [if_pos (by decide), ← hcode] at hreturns

/-- **The exported program is not loadable.** Counted from the next instruction, as
the machines count that load it, every check for equality leads to the rejecting
return or behind the end, and the check of the fragment behind the end or past the
load of the header's length. The last instruction is a return, yet the run leaves
the program for exactly those packets that are long enough to have an Ethernet type
and have another than that of IPv4. All others are rejected. -/
theorem failFast_leaves {f g : Filter} (h : f.validated = .ok g) :
    ∃ prog, program g = .ok prog ∧ ¬ Loadable prog.instructions ∧
      (∀ (position : Nat) (i : Instruction), prog.instructions[position]? = some i →
        (i.opcode = Opcode.jumpEqual →
          JumpBase.fromNext.target position i.jt.toNat = prog.size - 1 ∧
            JumpBase.fromNext.target position i.jf.toNat = prog.size) ∧
        (i.opcode = Opcode.jumpSet →
          JumpBase.fromNext.target position i.jt.toNat = prog.size ∧
            JumpBase.fromNext.target position i.jf.toNat = position + 2)) ∧
      (∃ i, prog.instructions.getLast? = some i ∧ i.opcode = Opcode.ret) ∧
      (∀ (p : Packet) (n : Nat), p.half? 12 = some n → n ≠ 0x0800 →
        Runs .fromNext prog.instructions p {} (.outside prog.size)) ∧
      ∀ p : Packet, (∀ n, p.half? 12 = some n → n = 0x0800) →
        Returns .fromNext prog.instructions p 0 := by
  obtain ⟨ss, prog, hss, hprog, hcode⟩ := validated_code h
  have hsize : prog.size = ss.length := by rw [Program.size, hcode, slotCode_length]
  refine ⟨prog, hprog, ?_⟩
  rw [hsize, hcode]
  exact ⟨not_loadable hss, fun _ _ hi => slot_targets hss hi, slotCode_last hss,
    fun _ _ hp hn => runs_outside hss hp hn, fun _ hp => returns_fromNext hss hp⟩

/-- A request for the hardware address of a host. -/
def addressRequest : Packet :=
  [0xff, 0xff, 0xff, 0xff, 0xff, 0xff, 0, 0, 0, 0, 0, 1, 0x08, 0x06,
   0, 1, 0x08, 0x00, 6, 4, 0, 1, 0, 0, 0, 0, 0, 1, 10, 0, 0, 1, 0, 0, 0, 0, 0, 0, 10, 0, 0, 2]

/-- The exported program for web requests is left at a packet of another type, and
rejects web requests. -/
theorem failFast_leaves_webFilter :
    webFilter.validated = .ok webFilter ∧ ∃ prog, program webFilter = .ok prog ∧
      ¬ Loadable prog.instructions ∧
      Runs .fromNext prog.instructions addressRequest {} (.outside prog.size) ∧
      Returns .fromNext prog.instructions webRequest 0 := by
  obtain ⟨prog, hprog, hload, -, -, hout, hin⟩ := failFast_leaves webFilter_validated
  refine ⟨webFilter_validated, prog, hprog, hload, hout addressRequest 0x0806 ?_ ?_, ?_⟩
  · decide
  · decide
  · refine hin webRequest fun n hn => ?_
    have htype : webRequest.half? 12 = some 0x0800 := by decide
    rw [htype] at hn
    exact (Option.some.inj hn).symm

/-- All TCP packets. -/
def tcpFilter : Filter := { protocol := some (.str "tcp") }

/-- The second of the six instructions for TCP packets jumps behind the end, and a
packet of another type takes that jump. -/
theorem failFast_leaves_tcpFilter :
    tcpFilter.validated = .ok tcpFilter ∧ ∃ prog, program tcpFilter = .ok prog ∧ prog.size = 6 ∧
      (∃ i, prog.instructions[1]? = some i ∧ i.isBranch = true ∧
        ¬ JumpBase.fromNext.target 1 i.jf.toNat < 6) ∧
      Runs .fromNext prog.instructions addressRequest {} (.outside 6) := by
  have hvalid : tcpFilter.validated = .ok tcpFilter := by rfl
  obtain ⟨ss, prog, hss, hprog, hcode⟩ := validated_code hvalid
  have hlen : ss.length = 6 := by
    have : (slots tcpFilter).map List.length = .ok 6 := by rfl
    rw [hss] at this
    exact Except.ok.inj this
  refine ⟨hvalid, prog, hprog, by rw [Program.size, hcode, slotCode_length, hlen], ?_, ?_⟩
  · obtain ⟨-, ⟨i, hi, ho, -, -, hjf⟩⟩ := slotCode_start hss
    refine ⟨i, by rw [hcode, hi], by rw [Instruction.isBranch, ho]; rfl, ?_⟩
    rw [hjf, hlen]
    decide
  · have hrun := runs_outside hss (p := addressRequest) (n := 0x0806) (by decide) (by decide)
    rwa [hlen, ← hcode] at hrun

end FailFast

end PacketFilter
