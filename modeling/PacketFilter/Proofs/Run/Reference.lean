import PacketFilter.Proofs.Compile.Outcome

/-
  What a reference program does to a packet.

  The lines before the two returns form a chain: a packet walks down the chain
  until a load reaches beyond it or a check leads out of it (`walk`). At the end
  of the chain stands the accepting return, and every way out leads to the
  rejecting one.

  What is proved: the machine does what the walk says (`runs_walk`, by induction
  on the part of the chain still ahead); each part of the chain is a gate, which a
  packet passes exactly if it has what the filter asks for there (`Gate`); and so
  the reference program of a filter that has passed validation returns the
  accepting length for the packets that match and 0 for all others
  (`reference_decides`).
-/

namespace PacketFilter

theorem Json.nat_inj {m n : Nat} : Json.nat m = .nat n ↔ m = n := by
  simp only [Json.nat, Json.num.injEq, Number.int.injEq]
  omega

/-- A run ends inside a program: at one of its returns, with the value of that
return, or at one of its loads, which reaches beyond the packet. -/
def Ending.Inside (code : List Instruction) : Ending → Prop
  | .returned position value =>
    ∃ i, code[position]? = some i ∧ i.opcode = Opcode.ret ∧ i.k.toNat = value
  | .beyond position => position < code.length
  | .outside _ => False
  | .unknown _ => False

namespace Synthetic

/-! ## Walking down the chain -/

/-- Whether a check leads out of the chain. -/
def Exit.taken : Exit → Bool → Bool
  | onTrue, holds => holds
  | onFalse, holds => !holds
  | never, _ => false

/-- The registers of a packet that has walked down the lines, if nothing stops it
on the way. -/
def walk (p : Packet) : List Line → Registers → Option Registers
  | [], r => some r
  | l :: rest, r =>
    match effect p l.opcode l.immediate r with
    | .proceed r' => walk p rest r'
    | .branch holds => if l.exit.taken holds then none else walk p rest r
    | _ => none

theorem walk_append (p : Packet) (a b : List Line) (r : Registers) :
    walk p (a ++ b) r = (walk p a r).bind (walk p b) := by
  induction a generalizing r with
  | nil => rfl
  | cons l a ih =>
    simp only [List.cons_append, walk]
    cases effect p l.opcode l.immediate r with
    | proceed r' => exact ih r'
    | branch holds =>
      simp only
      split
      · rfl
      · exact ih r
    | beyond => rfl
    | ret value => rfl
    | unknown => rfl

theorem Line.Inner.effect_cases {l : Line} (h : l.Inner) (p : Packet) (k : Nat) (r : Registers) :
    (∃ r', effect p l.opcode k r = .proceed r') ∨ effect p l.opcode k r = .beyond ∨
      ∃ holds, effect p l.opcode k r = .branch holds := by
  have hload (value : Option Nat) (place : Nat → Registers) :
      (∃ r', Effect.ofLoad value place = .proceed r') ∨ Effect.ofLoad value place = .beyond ∨
        ∃ holds, Effect.ofLoad value place = .branch holds := by
    cases value with
    | none => exact .inr (.inl rfl)
    | some n => exact .inl ⟨place n, rfl⟩
  cases h with
  | load k' ho =>
    simp only [List.mem_cons, List.not_mem_nil, or_false] at ho
    rcases ho with rfl | rfl | rfl | rfl | rfl <;> exact hload _ _
  | check v => exact .inr (.inr ⟨_, effect_jumpEqual p k r⟩)
  | fragment => exact .inr (.inr ⟨_, effect_jumpSet p k r⟩)

/-- The code of a chain of lines and the two returns. -/
def chainCode (body : List Line) : List Instruction :=
  (body ++ returnLines).mapIdx (fun i l => l.resolved (body.length + 1) i)

theorem chainCode_line {body pre rest : List Line} {l : Line} (h : body = pre ++ l :: rest) :
    (chainCode body)[pre.length]? = some (l.resolved (body.length + 1) pre.length) := by
  simp [chainCode, h]

theorem chainCode_accept (body : List Line) : ∃ i, (chainCode body)[body.length]? = some i ∧
    i.opcode = Opcode.ret ∧ i.k.toNat = acceptLength := by
  refine ⟨Line.resolved (body.length + 1) body.length ⟨Opcode.ret, .nat acceptLength, .never⟩,
    ?_, Line.withJumps_opcode _ _, rfl⟩
  simp [chainCode, returnLines]

theorem chainCode_reject (body : List Line) : ∃ i, (chainCode body)[body.length + 1]? = some i ∧
    i.opcode = Opcode.ret ∧ i.k.toNat = rejectLength := by
  refine ⟨Line.resolved (body.length + 1) (body.length + 1)
    ⟨Opcode.ret, .nat rejectLength, .never⟩, ?_, Line.withJumps_opcode _ _, rfl⟩
  simp [chainCode, returnLines]

theorem Line.resolved_target {rejecting position : Nat} (hr : rejecting ≤ 255)
    (hp : position < rejecting) (l : Line) (holds : Bool) :
    JumpBase.fromNext.target position (if holds then (l.resolved rejecting position).jt.toNat
        else (l.resolved rejecting position).jf.toNat) =
      if l.exit.taken holds then rejecting else position + 1 := by
  have hd (c : Prop) [Decidable c] : (if c then rejecting - position - 1 else 0) ≤ 255 := by
    split <;> omega
  unfold resolved JumpBase.target
  rw [l.withJumps_jt _ (hd _), l.withJumps_jf _ (hd _)]
  cases l.exit <;> cases holds <;> simp [Exit.taken] <;> omega

/-- **The machine walks.** From any line of the chain on, the run ends inside the
program, with the accepting length if the packet walks down the rest of the chain
and with the rejecting one if it does not. -/
theorem runs_walk {body : List Line} (hbody : Stretch 15 body) (p : Packet) (pre : List Line)
    {rest : List Line} (h : body = pre ++ rest) (r : Registers) :
    ∃ e, Runs .fromNext (chainCode body) p ⟨pre.length, r⟩ e ∧ e.Inside (chainCode body) ∧
      e.value? = some (if (walk p rest r).isSome then acceptLength else rejectLength) := by
  have hlen := hbody.2
  have hreject (r : Registers) : ∃ e, Runs .fromNext (chainCode body) p ⟨body.length + 1, r⟩ e ∧
      e.Inside (chainCode body) ∧ e.value? = some rejectLength := by
    obtain ⟨i, hi, ho, hk⟩ := chainCode_reject body
    exact ⟨_, .returned hi ho, ⟨i, hi, ho, rfl⟩, by simp [Ending.value?, hk]⟩
  -- The induction is on what is left of the chain; what lies behind grows with it.
  induction rest generalizing pre r with
  | nil =>
    rw [List.append_nil] at h
    subst h
    obtain ⟨i, hi, ho, hk⟩ := chainCode_accept body
    exact ⟨_, .returned hi ho, ⟨i, hi, ho, rfl⟩, by simp [Ending.value?, hk, walk]⟩
  | cons l rest ih =>
    have hi := chainCode_line h
    have hpos : pre.length < body.length := by rw [h, List.length_append, List.length_cons]; omega
    have hnext : body = (pre ++ [l]) ++ rest := by rw [h, List.append_assoc]; rfl
    have ih (r' : Registers) := ih (pre ++ [l]) hnext r'
    simp only [List.length_append, List.length_cons, List.length_nil] at ih
    have ho : (l.resolved (body.length + 1) pre.length).opcode = l.opcode := l.withJumps_opcode _
    have hk : (l.resolved (body.length + 1) pre.length).k.toNat = l.immediate := rfl
    rw [walk]
    obtain ⟨r', he⟩ | he | ⟨holds, he⟩ :=
      (hbody.1 l (by rw [h]; simp)).effect_cases p l.immediate r
    · obtain ⟨e, hrun, hin, hv⟩ := ih r'
      rw [he]
      exact ⟨e, .proceed hi (by rw [ho, hk, he]) hrun, hin, hv⟩
    · rw [he]
      refine ⟨_, .beyond hi (by rw [ho, hk, he]), ?_, rfl⟩
      simp [Ending.Inside, chainCode]; omega
    · -- The one jump that is not zero leads to the rejecting return.
      rw [he]
      have htarget := l.resolved_target (show body.length + 1 ≤ 255 by omega)
        (show pre.length < body.length + 1 by omega) holds
      simp only
      split
      · next ht =>
        obtain ⟨e, hrun, hin, hv⟩ := hreject r
        rw [if_pos ht] at htarget
        exact ⟨e, .branch hi (by rw [ho, hk, he]) (by rw [htarget]; exact hrun), hin, hv⟩
      · next ht =>
        obtain ⟨e, hrun, hin, hv⟩ := ih r
        rw [if_neg ht] at htarget
        exact ⟨e, .branch hi (by rw [ho, hk, he]) (by rw [htarget]; exact hrun), hin, hv⟩

/-! ## Gates -/

/-- From registers with `P`, a packet passes the lines exactly if `C` holds, and
then its registers have `Q`. -/
def Gate (p : Packet) (P : Registers → Prop) (ls : List Line) (C : Prop)
    (Q : Registers → Prop) : Prop :=
  ∀ r, P r → (C ∧ ∃ r', walk p ls r = some r' ∧ Q r') ∨ (¬ C ∧ walk p ls r = none)

/-- Nothing is asked of the registers. -/
def anyRegisters (_ : Registers) : Prop := True

/-- The index holds the length of the packet's IP header. -/
def headerLoaded (p : Packet) (r : Registers) : Prop := p.headerLength? = some r.x

section
variable {p : Packet} {P Q R : Registers → Prop} {a b : List Line} {C D : Prop}

theorem Gate.nil (h : C) : Gate p P [] C P := fun r hr => .inl ⟨h, r, rfl, hr⟩

theorem Gate.append (ha : Gate p P a C Q) (hb : Gate p Q b D R) :
    Gate p P (a ++ b) (C ∧ D) R := by
  intro r hr
  rw [walk_append]
  obtain ⟨hc, r', hr', hq⟩ | ⟨hc, hstop⟩ := ha r hr
  · rw [hr', Option.bind_some]
    obtain ⟨hd, hend⟩ | ⟨hd, hstop⟩ := hb r' hq
    · exact .inl ⟨⟨hc, hd⟩, hend⟩
    · exact .inr ⟨fun h => hd h.2, hstop⟩
  · rw [hstop]
    exact .inr ⟨fun h => hc h.1, rfl⟩

theorem Gate.congr (h : Gate p P a C Q) (hcd : C ↔ D) : Gate p P a D Q := by
  intro r hr
  rw [← hcd]
  exact h r hr

theorem Gate.forget (h : Gate p P a C Q) : Gate p P a C anyRegisters := by
  intro r hr
  obtain ⟨hc, r', hr', _⟩ | hno := h r hr
  · exact .inl ⟨hc, r', hr', trivial⟩
  · exact .inr hno

/-- A load and a check let a packet pass if it has the number checked for at the
place loaded from. -/
theorem Gate.pair {opcode : UInt16} {k n : Nat} {value : Option Nat} (hk : k < 0x100000000)
    (hn : n < 0x100000000)
    (hload : ∀ r, P r → effect p opcode k r = .ofLoad value (fun m => { r with a := m }))
    (hkeep : ∀ r m, P r → P { r with a := m }) :
    Gate p P [.load opcode k, .check (.nat n)] (value = some n) P := by
  intro r hr
  simp only [Line.load, Line.check, walk, Line.immediate_nat hk, Line.immediate_nat hn, hload r hr]
  cases value with
  | none => exact .inr ⟨by simp, rfl⟩
  | some m =>
    simp only [Effect.ofLoad, effect_jumpEqual, Exit.taken]
    by_cases hm : m = n
    · exact .inl ⟨by rw [hm], { r with a := m }, by simp [hm], hkeep r m hr⟩
    · exact .inr ⟨by simpa using hm, by simp [hm]⟩

end

/-! ## The gates of a filter -/

section
variable {f : Filter} (p : Packet)

theorem ethertype_gate : Gate p anyRegisters
    [.load Opcode.loadHalf Offset.ethertype, .check (.nat ethertypeIPv4)]
    (p.half? 12 = some 0x0800) anyRegisters :=
  .pair (by decide) (by decide) (fun _ _ => rfl) (fun _ _ _ => trivial)

theorem protocol_gate (hf : f.Checked) {ls : List Line} (h : protocolLines f = .ok ls) :
    Gate p anyRegisters ls
      (∀ v, f.protocol = some v → ∃ q, Filter.protocolOf? v = some q ∧ p.byte? 23 = some q.number)
      anyRegisters := by
  unfold protocolLines at h
  cases hv : f.protocol with
  | none =>
    rw [hv] at h
    cases h
    exact .nil (by simp)
  | some v =>
    obtain ⟨q, rfl⟩ := hf.protocol v hv
    simp only [hv, FailFast.protocolNumber_name, map_of_ok] at h
    cases h
    have hq : q.number < 0x100000000 := by cases q <;> decide
    have gate : Gate p anyRegisters [.load Opcode.loadByte Offset.protocol, .check (.nat q.number)]
        (p.byte? 23 = some q.number) anyRegisters :=
      .pair (by decide) hq (fun _ _ => rfl) (fun _ _ _ => trivial)
    exact gate.congr (by simp [Filter.protocolOf?_name])

theorem address_gate {address : Option Json}
    (hf : ∀ v, address = some v → ∃ w, Address.V4.ofJson v = .ok w) {offset : Nat}
    (hoff : offset < 0x100000000) {ls : List Line} (h : addressLines address offset = .ok ls) :
    Gate p anyRegisters ls
      (∀ v, address = some v → ∃ w, Address.V4.ofJson v = .ok w ∧ p.word? offset = some w)
      anyRegisters := by
  unfold addressLines at h
  cases hv : address with
  | none =>
    rw [hv] at h
    cases h
    exact .nil (by simp)
  | some v =>
    obtain ⟨w, hw⟩ := hf v hv
    simp only [hv, addressWord, hw, mapError_of_ok, map_of_ok] at h
    cases h
    have gate : Gate p anyRegisters [.load Opcode.loadWord offset, .check (.nat w)]
        (p.word? offset = some w) anyRegisters :=
      .pair hoff (Address.V4.ofJson_lt hw) (fun _ _ => rfl) (fun _ _ _ => trivial)
    exact gate.congr (by simp [hw])

theorem port_gate {port : Option Json} (hf : ∀ v, port = some v → ∃ n, v = .nat n ∧ n ≤ 65535)
    {offset : Nat} (hoff : offset < 0x100000000) {value : Option Nat}
    (hvalue : ∀ r, headerLoaded p r → p.half? (r.x + offset) = value) :
    Gate p (headerLoaded p) (portLines port offset)
      (∀ v, port = some v → ∃ n, v = .nat n ∧ value = some n) (headerLoaded p) := by
  cases hv : port with
  | none => exact .nil (by simp)
  | some v =>
    obtain ⟨n, rfl, hn⟩ := hf v hv
    have gate : Gate p (headerLoaded p) [.load Opcode.loadHalfIndexed offset, .check (.nat n)]
        (value = some n) (headerLoaded p) := by
      refine .pair hoff (by omega) ?_ (fun _ _ hr => hr)
      intro r hr
      rw [effect_loadHalfIndexed, hvalue r hr]
    exact gate.congr (by simp [Json.nat_inj])

/-- A packet that holds the fragment's half-word holds the byte that gives the
header's length. -/
theorem headerByte_of_fragment {h : Nat} (hh : p.half? 20 = some h) : ∃ b, p.byte? 14 = some b := by
  by_cases hlen : p.length ≤ 14
  · rw [Packet.half?_eq_none (by omega)] at hh
    contradiction
  · have hlt : 14 < p.length := by omega
    exact ⟨p[14].toNat, by simp [Packet.byte?, hlt]⟩

/-- Only a packet that is no later fragment comes to have its header's length
loaded. -/
theorem fragment_gate : Gate p anyRegisters
    [.load Opcode.loadHalf Offset.fragment, ⟨Opcode.jumpSet, .nat fragmentMask, .onTrue⟩,
      .load Opcode.loadHeaderLen Offset.ipHeader]
    (∃ h, p.half? 20 = some h ∧ h &&& 0x1fff = 0) (headerLoaded p) := by
  intro r _
  have hmask := Line.immediate_nat (show fragmentMask < 0x100000000 by decide) Opcode.jumpSet .onTrue
  have hfrag := Line.immediate_nat (show Offset.fragment < 0x100000000 by decide) Opcode.loadHalf .never
  have hip := Line.immediate_nat (show Offset.ipHeader < 0x100000000 by decide) Opcode.loadHeaderLen
    .never
  simp only [Line.load, walk, hmask, hfrag, hip, effect_loadHalf, effect_jumpSet,
    effect_loadHeaderLen]
  rw [show Offset.fragment = 20 from rfl, show Offset.ipHeader = 14 from rfl,
    show fragmentMask = 0x1fff from rfl]
  cases hh : p.half? 20 with
  | none => exact .inr ⟨by simp, rfl⟩
  | some h =>
    obtain ⟨b, hb⟩ := headerByte_of_fragment p hh
    by_cases hz : h &&& 0x1fff = 0
    · refine .inl ⟨⟨h, rfl, hz⟩, ⟨h, 4 * (b &&& 0xf)⟩, ?_, ?_⟩
      · simp [Effect.ofLoad, Exit.taken, hz, hb]
      · simp [headerLoaded, Packet.headerLength?, hb]
    · exact .inr ⟨by simpa using hz, by simp [Effect.ofLoad, Exit.taken, hz]⟩

/-- The gates of the ports together. They are there only if a port is asked for. -/
theorem ports_gate (hf : f.Checked) : Gate p anyRegisters (portsLines f)
    ((f.hasPorts = true → ∃ h, p.half? 20 = some h ∧ h &&& 0x1fff = 0) ∧
      (∀ v, f.srcPort = some v → ∃ n, v = .nat n ∧ p.srcPort? = some n) ∧
      (∀ v, f.dstPort = some v → ∃ n, v = .nat n ∧ p.dstPort? = some n)) anyRegisters := by
  unfold portsLines
  cases hp : f.hasPorts with
  | false =>
    -- Without the gates nothing is asked, for then neither port is set.
    have hnone : f.srcPort = none ∧ f.dstPort = none := by
      simpa [Filter.hasPorts] using hp
    exact .nil (by simp [hnone])
  | true =>
    have hsrc : ∀ r, headerLoaded p r → p.half? (r.x + Offset.srcPort) = p.srcPort? := by
      intro r hr
      rw [Packet.srcPort?, hr, Option.bind_some, Nat.add_comm]; rfl
    have hdst : ∀ r, headerLoaded p r → p.half? (r.x + Offset.dstPort) = p.dstPort? := by
      intro r hr
      rw [Packet.dstPort?, hr, Option.bind_some, Nat.add_comm]; rfl
    have gate := ((fragment_gate p).append (port_gate p hf.srcPort (by decide) hsrc)).append
      (port_gate p hf.dstPort (by decide) hdst)
    exact gate.forget.congr (by simp [and_assoc])

/-- A packet walks down the whole chain of a checked filter exactly if it
matches. -/
theorem walk_matches (hf : f.Checked) {body : List Line} (h : lines f = .ok (body ++ returnLines)) :
    (walk p body {}).isSome ↔ f.Matches p := by
  simp only [lines, bind_eq_ok] at h
  obtain ⟨protocol, hprotocol, srcIp, hsrcIp, dstIp, hdstIp, h⟩ := h
  have hbody := List.append_cancel_right (Except.ok.inj h)
  subst hbody
  have gate := (((((ethertype_gate p).append (protocol_gate p hf hprotocol)).append
    (address_gate p hf.srcIp (by decide) hsrcIp)).append
    (address_gate p hf.dstIp (by decide) hdstIp)).append (ports_gate p hf))
  -- The condition of the joined gates is `Matches`, field by field.
  obtain ⟨⟨⟨⟨⟨he, hq⟩, hs⟩, hd⟩, hfrag, hsp, hdp⟩, r, hr, -⟩ | ⟨hno, hstop⟩ := gate {} trivial
  · rw [hr]
    exact ⟨fun _ => ⟨he, hq, hs, hd, hfrag, hsp, hdp⟩, fun _ => rfl⟩
  · rw [hstop]
    refine ⟨fun h => by contradiction, fun m => absurd ?_ hno⟩
    exact ⟨⟨⟨⟨m.ethertype, m.protocol⟩, m.srcIp⟩, m.dstIp⟩, m.fragment, m.srcPort, m.dstPort⟩

end

theorem checked_chain {f : Filter} (hf : f.Checked) :
    ∃ body, instructions f = .ok (chainCode body) ∧ Stretch 15 body ∧
      ∀ p, (walk p body {}).isSome ↔ f.Matches p := by
  obtain ⟨ss, -, hss, -, -, href⟩ := FailFast.checked_outcome hf
  obtain ⟨body, hlines, hbody, hstretch, hlen⟩ := FailFast.slots_body hss
  refine ⟨body, ?_, hstretch, fun p => walk_matches p hf hlines⟩
  have hreject : ss.length - 1 = body.length + 1 := by omega
  rw [href, chainCode, ← hbody, hreject]

/-- **The reference program decides the filter.** On every packet the run ends, in
one way only and inside the program, and what it returns is the accepting length
if the packet has all the filter asks for and 0 if it does not. -/
theorem reference_decides {f g : Filter} (h : f.validated = .ok g) :
    ∃ code, instructions g = .ok code ∧ ∀ p : Packet, ∃ e,
      (∀ e', Runs .fromNext code p {} e' ↔ e' = e) ∧ e.Inside code ∧
      (g.Matches p → e.value? = some 0x40000) ∧ (¬ g.Matches p → e.value? = some 0) := by
  obtain ⟨body, hcode, hstretch, hwalk⟩ := checked_chain (Filter.validated_checked h)
  refine ⟨chainCode body, hcode, fun p => ?_⟩
  obtain ⟨e, hrun, hin, hv⟩ := runs_walk hstretch p [] rfl {}
  refine ⟨e, fun e' => ⟨fun h' => h'.unique hrun, fun h' => h' ▸ hrun⟩, hin, ?_, ?_⟩
  · intro hm
    rw [hv, if_pos ((hwalk p).mpr hm)]; rfl
  · intro hm
    rw [hv, if_neg (fun hs => hm ((hwalk p).mp hs))]; rfl

/-- A web request is accepted, and rejected if it is cut off within its ports. -/
theorem reference_decides_webRequest :
    webFilter.validated = .ok webFilter ∧ ∃ code, instructions webFilter = .ok code ∧
      Returns .fromNext code webRequest 0x40000 ∧
      Returns .fromNext code (webRequest.take 37) 0 := by
  obtain ⟨code, hcode, hrun⟩ := reference_decides webFilter_validated
  refine ⟨webFilter_validated, code, hcode, ?_, ?_⟩
  · obtain ⟨e, he, -, hv, -⟩ := hrun webRequest
    exact ⟨e, (he e).mpr rfl, hv webFilter_matches⟩
  · obtain ⟨e, he, -, -, hv⟩ := hrun (webRequest.take 37)
    have hcut : ¬ webFilter.Matches (webRequest.take 37) := by
      intro m
      obtain ⟨n, -, hn⟩ := m.dstPort _ rfl
      have hport : Packet.dstPort? (webRequest.take 37) = none := by decide
      rw [hport] at hn
      contradiction
    exact ⟨e, (he e).mpr rfl, hv hcut⟩

end Synthetic

end PacketFilter
