import PacketFilter.Instruction.Basic
import PacketFilter.Instruction.Opcode

/-
  The machine that runs filter programs.

  A program looks at one packet. It has an accumulator `a` and an index `x`, both
  zero at the start. A load that reaches beyond the packet ends the run, and
  counts as a return of 0. A conditional jump skips forward by one of its two
  jumps; whether the count starts at the jump itself or at the instruction after
  it is a convention (`JumpBase`), and programs of both kinds are in use.

  A run ends at a return, at a load beyond the packet, by going outside the
  program, or at an opcode that no filter program has. `Runs` relates a state to
  how the run from it ends; a run that goes on forever is related to nothing.

  What is proved: a run ends in one way only (`Runs.unique`), and one lemma for
  each thing an instruction can do.
-/

namespace PacketFilter

/-- The bytes of a packet, from the start of the frame. -/
abbrev Packet := List UInt8

namespace Packet

/-- The byte at an offset, if the packet is that long. -/
def byte? (p : Packet) (offset : Nat) : Option Nat := p[offset]?.map UInt8.toNat

/-- The two bytes at an offset, the more significant first. -/
def half? (p : Packet) (offset : Nat) : Option Nat :=
  match p.byte? offset, p.byte? (offset + 1) with
  | some hi, some lo => some (hi * 256 + lo)
  | _, _ => none

/-- The four bytes at an offset, the most significant first. -/
def word? (p : Packet) (offset : Nat) : Option Nat :=
  match p.half? offset, p.half? (offset + 2) with
  | some hi, some lo => some (hi * 65536 + lo)
  | _, _ => none

/-- The length of the IP header, which the low nibble of its first byte gives in
words of four bytes. -/
def headerLength? (p : Packet) : Option Nat := (p.byte? 14).map (fun b => 4 * (b &&& 0xf))

/-- The source port, which stands right behind the IP header. -/
def srcPort? (p : Packet) : Option Nat := p.headerLength?.bind (fun n => p.half? (14 + n))

/-- The destination port, which stands behind the source port. -/
def dstPort? (p : Packet) : Option Nat := p.headerLength?.bind (fun n => p.half? (16 + n))

theorem byte?_eq_none {p : Packet} {offset : Nat} (h : p.length ≤ offset) :
    p.byte? offset = none := by
  simp [byte?, h]

theorem half?_eq_none {p : Packet} {offset : Nat} (h : p.length ≤ offset + 1) :
    p.half? offset = none := by
  unfold half?
  rw [byte?_eq_none h]
  split
  · contradiction
  · rfl

theorem word?_eq_none {p : Packet} {offset : Nat} (h : p.length ≤ offset + 3) :
    p.word? offset = none := by
  unfold word?
  rw [half?_eq_none h]
  split
  · contradiction
  · rfl

end Packet

structure Registers where
  a : Nat := 0
  x : Nat := 0
  deriving DecidableEq, Repr

/-- What an instruction does, jumps left aside. -/
inductive Effect where
  /-- The run goes on at the next instruction. -/
  | proceed (r : Registers)
  /-- There is nothing to load. -/
  | beyond
  /-- The run goes on where one of the jumps leads. -/
  | branch (holds : Bool)
  | ret (value : Nat)
  | unknown
  deriving DecidableEq, Repr

/-- The effect of a load: the registers with the value in its place. -/
def Effect.ofLoad (value : Option Nat) (place : Nat → Registers) : Effect :=
  match value with
  | some n => .proceed (place n)
  | none => .beyond

/-- What an opcode with an immediate does to the registers, given the packet. -/
def effect (p : Packet) (opcode : UInt16) (k : Nat) (r : Registers) : Effect :=
  if opcode = Opcode.loadHalf then .ofLoad (p.half? k) (fun n => { r with a := n })
  else if opcode = Opcode.loadByte then .ofLoad (p.byte? k) (fun n => { r with a := n })
  else if opcode = Opcode.loadWord then .ofLoad (p.word? k) (fun n => { r with a := n })
  else if opcode = Opcode.loadHalfIndexed then
    .ofLoad (p.half? (r.x + k)) (fun n => { r with a := n })
  else if opcode = Opcode.loadHeaderLen then
    .ofLoad (p.byte? k) (fun n => { r with x := 4 * (n &&& 0xf) })
  else if opcode = Opcode.jumpEqual then .branch (r.a == k)
  else if opcode = Opcode.jumpSet then .branch (r.a &&& k != 0)
  else if opcode = Opcode.ret then .ret k
  else .unknown

section
variable (p : Packet) (k : Nat) (r : Registers)

@[simp] theorem effect_loadHalf :
    effect p Opcode.loadHalf k r = .ofLoad (p.half? k) (fun n => { r with a := n }) := rfl

@[simp] theorem effect_loadByte :
    effect p Opcode.loadByte k r = .ofLoad (p.byte? k) (fun n => { r with a := n }) := rfl

@[simp] theorem effect_loadWord :
    effect p Opcode.loadWord k r = .ofLoad (p.word? k) (fun n => { r with a := n }) := rfl

@[simp] theorem effect_loadHalfIndexed :
    effect p Opcode.loadHalfIndexed k r =
      .ofLoad (p.half? (r.x + k)) (fun n => { r with a := n }) := rfl

@[simp] theorem effect_loadHeaderLen :
    effect p Opcode.loadHeaderLen k r =
      .ofLoad (p.byte? k) (fun n => { r with x := 4 * (n &&& 0xf) }) := rfl

@[simp] theorem effect_jumpEqual : effect p Opcode.jumpEqual k r = .branch (r.a == k) := rfl

@[simp] theorem effect_jumpSet : effect p Opcode.jumpSet k r = .branch (r.a &&& k != 0) := rfl

@[simp] theorem effect_ret : effect p Opcode.ret k r = .ret k := rfl

end

/-- Where the count of a jump starts. -/
inductive JumpBase where
  /-- At the jump itself. -/
  | fromBranch
  /-- At the instruction after it, as the machines in use count. -/
  | fromNext
  deriving DecidableEq, Repr

/-- Where a jump at `pc` leads. -/
def JumpBase.target (base : JumpBase) (pc jump : Nat) : Nat :=
  match base with
  | fromBranch => pc + jump
  | fromNext => pc + 1 + jump

/-- A state of the machine: the next instruction and the registers. -/
structure State where
  pc : Nat := 0
  registers : Registers := {}
  deriving DecidableEq, Repr

/-- How a run ends. -/
inductive Ending where
  /-- At the return at a position. -/
  | returned (position value : Nat)
  /-- At a load at a position that reaches beyond the packet. -/
  | beyond (position : Nat)
  /-- Outside the program. -/
  | outside (position : Nat)
  /-- At an opcode that no filter program has. -/
  | unknown (position : Nat)
  deriving DecidableEq, Repr

/-- What a run gives for the packet, if it ends inside the program. -/
def Ending.value? : Ending → Option Nat
  | returned _ value => some value
  | beyond _ => some 0
  | outside _ => none
  | unknown _ => none

/-- One step of the machine: how the run ends, or the next state. -/
def step (base : JumpBase) (code : List Instruction) (p : Packet) (s : State) :
    Except Ending State :=
  match code[s.pc]? with
  | none => .error (.outside s.pc)
  | some i =>
    match effect p i.opcode i.k.toNat s.registers with
    | .proceed r => .ok ⟨s.pc + 1, r⟩
    | .beyond => .error (.beyond s.pc)
    | .branch holds =>
      .ok ⟨base.target s.pc (if holds then i.jt.toNat else i.jf.toNat), s.registers⟩
    | .ret value => .error (.returned s.pc value)
    | .unknown => .error (.unknown s.pc)

/-- The run of a program on a packet from a state ends in a way. -/
inductive Runs (base : JumpBase) (code : List Instruction) (p : Packet) : State → Ending → Prop where
  | stop {s : State} {e : Ending} (h : step base code p s = .error e) : Runs base code p s e
  | next {s s' : State} {e : Ending} (h : step base code p s = .ok s')
      (rest : Runs base code p s' e) : Runs base code p s e

/-- The run of a program on a packet, from its first instruction, ends inside the
program and gives a value. -/
def Returns (base : JumpBase) (code : List Instruction) (p : Packet) (value : Nat) : Prop :=
  ∃ e, Runs base code p {} e ∧ e.value? = some value

section
variable {base : JumpBase} {code : List Instruction} {p : Packet} {s : State} {e e' : Ending}

theorem Runs.unique (h : Runs base code p s e) (h' : Runs base code p s e') : e = e' := by
  induction h with
  | stop hs =>
    cases h' with
    | stop hs' => rw [hs] at hs'; exact Except.error.inj hs'
    | next hs' _ => rw [hs] at hs'; contradiction
  | next hs _ ih =>
    cases h' with
    | stop hs' => rw [hs] at hs'; contradiction
    | next hs' rest' =>
      rw [hs] at hs'
      cases Except.ok.inj hs'
      exact ih rest'

theorem Returns.unique {v v' : Nat} (h : Returns base code p v) (h' : Returns base code p v') :
    v = v' := by
  obtain ⟨e, he, hv⟩ := h
  obtain ⟨e', he', hv'⟩ := h'
  rw [he.unique he', hv'] at hv
  exact (Option.some.inj hv).symm

variable {pc : Nat} {r r' : Registers} {i : Instruction}

theorem Runs.proceed (hi : code[pc]? = some i)
    (he : effect p i.opcode i.k.toNat r = .proceed r')
    (rest : Runs base code p ⟨pc + 1, r'⟩ e) : Runs base code p ⟨pc, r⟩ e :=
  .next (by simp [step, hi, he]) rest

theorem Runs.branch {holds : Bool} (hi : code[pc]? = some i)
    (he : effect p i.opcode i.k.toNat r = .branch holds)
    (rest : Runs base code p
      ⟨base.target pc (if holds then i.jt.toNat else i.jf.toNat), r⟩ e) :
    Runs base code p ⟨pc, r⟩ e :=
  .next (by simp [step, hi, he]) rest

theorem Runs.beyond (hi : code[pc]? = some i)
    (he : effect p i.opcode i.k.toNat r = .beyond) : Runs base code p ⟨pc, r⟩ (.beyond pc) :=
  .stop (by simp [step, hi, he])

theorem Runs.returned (hi : code[pc]? = some i) (ho : i.opcode = Opcode.ret) :
    Runs base code p ⟨pc, r⟩ (.returned pc i.k.toNat) :=
  .stop (by simp [step, hi, ho])

theorem Runs.outside (h : code.length ≤ pc) : Runs base code p ⟨pc, r⟩ (.outside pc) :=
  .stop (by simp [step, h])

end

end PacketFilter
