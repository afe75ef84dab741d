import PacketFilter.Compile.Reference
import PacketFilter.Proofs.Fallible

/-
  The lines of a reference program, and the program they make.

  A line has an opcode and an immediate, and says which of its jumps leads to the
  rejecting return. The opcodes fit by their type, and the jumps because programs
  are short, so a program fails to assemble only at an immediate, and it fails at
  the first that does not fit (`fits`).

  What is proved: an instruction with short jumps is made if its immediate fits
  (`Line.make?_eq`); the lines of a filter are checks and loads followed by the
  two returns, fifteen at most (`lines_shape`); and the reference program is
  its lines with each distance to the rejecting return filled in, provided that
  the immediates fit (`instructions_eq`).
-/

namespace PacketFilter

/-! ## Fields that fit -/

theorem FieldName.fit_nat {field : FieldName} {n : Nat} (h : n ≤ field.limit) :
    field.fit (.nat n) = .ok (.int n) := by
  have : (0 : Int) ≤ n ∧ (n : Int) ≤ field.limit := by omega
  simp only [fit, Json.nat, Json.whole?, Whole.value]
  exact if_pos this

theorem FieldName.fit_eq_ok {field : FieldName} {v : Json} {w : Whole} (h : field.fit v = .ok w) :
    v.whole? = some w ∧ 0 ≤ w.value ∧ w.value ≤ field.limit := by
  unfold fit at h
  split at h
  · next u hu =>
    split at h
    · next hr => cases h; exact ⟨hu, hr⟩
    · contradiction
  · contradiction

namespace Synthetic

/-- The number a line's immediate is, if it is one. -/
def Line.whole (l : Line) : Whole := l.k.whole?.getD (.int 0)

/-- The instruction of a line whose immediate fits, with the given jumps and tag. -/
def Line.withJumps (l : Line) (jt jf : Nat) (purpose : Option Purpose) : Instruction :=
  .ofWholes (.int l.opcode.toNat) (.int jt) (.int jf) l.whole purpose

/-- Whether the immediates of lines fit, and if not, the first that does not. -/
def fits : List Line → Except RangeError Unit
  | [] => .ok ()
  | l :: rest => do
    let _ ← FieldName.k.fit l.k
    fits rest

theorem fits_append (a b : List Line) : fits (a ++ b) = (do fits a; fits b) := by
  induction a with
  | nil => rfl
  | cons l a ih => simp only [List.cons_append, fits, ih, bind_assoc]

theorem fits_append_of_ok {a : List Line} (h : fits a = .ok ()) (b : List Line) :
    fits (a ++ b) = fits b := by
  rw [fits_append, h]; rfl

/-- Jumps of at most eight bits fit, so the immediate alone decides whether there
is an instruction. -/
theorem Line.make?_eq (l : Line) {jt jf : Nat} (ht : jt ≤ 255) (hf : jf ≤ 255)
    (purpose : Option Purpose) :
    Instruction.make? (.nat l.opcode.toNat) (.nat jt) (.nat jf) l.k purpose =
      (FieldName.k.fit l.k).map (fun _ => l.withJumps jt jf purpose) := by
  have ho : l.opcode.toNat ≤ FieldName.opcode.limit := Nat.le_of_lt_succ l.opcode.toNat_lt
  unfold Instruction.make?
  rw [FieldName.fit_nat ho, @FieldName.fit_nat .jt _ ht, @FieldName.fit_nat .jf _ hf]
  cases hk : FieldName.k.fit l.k with
  | error e => rfl
  | ok w =>
    have hw : l.whole = w := by rw [whole, (FieldName.fit_eq_ok hk).1]; rfl
    simp only [ok_bind, map_of_ok, withJumps, hw]
    rfl

/-! ## What an instruction holds of its line -/

section
variable (l : Line) {jt jf : Nat} (purpose : Option Purpose)

@[simp] theorem Line.withJumps_spelling :
    (l.withJumps jt jf purpose).spelling = { k := l.whole.isTruth } := rfl

@[simp] theorem Line.withJumps_opcode : (l.withJumps jt jf purpose).opcode = l.opcode := by
  simp [withJumps, Encoding.ofWholes, Whole.value]

theorem Line.withJumps_jt (h : jt ≤ 255) : (l.withJumps jt jf purpose).jt.toNat = jt := by
  simp [withJumps, Encoding.ofWholes, Whole.value]; omega

theorem Line.withJumps_jf (h : jf ≤ 255) : (l.withJumps jt jf purpose).jf.toNat = jf := by
  simp [withJumps, Encoding.ofWholes, Whole.value]; omega

end

/-- The immediate of a line as the machine reads it. -/
def Line.immediate (l : Line) : Nat := l.whole.value.toNat.toUInt32.toNat

theorem Line.immediate_nat {n : Nat} (hn : n < 0x100000000) (opcode : UInt16) (exit : Exit) :
    (⟨opcode, .nat n, exit⟩ : Line).immediate = n := by
  simp [immediate, whole, Json.nat, Json.whole?, Whole.value]; omega

/-! ## The lines of a filter -/

/-- The lines before the two returns: loads, checks for equality, and the check
of the fragment. -/
inductive Line.Inner : Line → Prop where
  | load {opcode : UInt16} (k : Nat)
      (h : opcode ∈ [Opcode.loadHalf, Opcode.loadByte, Opcode.loadWord, Opcode.loadHalfIndexed,
        Opcode.loadHeaderLen]) : Inner (.load opcode k)
  | check (k : Json) : Inner (.check k)
  | fragment : Inner ⟨Opcode.jumpSet, .nat fragmentMask, .onTrue⟩

theorem Line.Inner.exit_eq {l : Line} (h : l.Inner) :
    (l.opcode = Opcode.jumpEqual → l.exit = .onFalse) ∧
      (l.opcode = Opcode.jumpSet → l.exit = .onTrue) := by
  have hjumps : Opcode.jumpEqual ≠ Opcode.jumpSet := by decide
  cases h with
  | @load opcode k ho =>
    have hne : opcode ≠ Opcode.jumpEqual ∧ opcode ≠ Opcode.jumpSet := by
      simp only [List.mem_cons, List.not_mem_nil, or_false] at ho
      rcases ho with rfl | rfl | rfl | rfl | rfl <;> decide
    exact ⟨fun h => absurd h hne.1, fun h => absurd h hne.2⟩
  | check v => exact ⟨fun _ => rfl, fun h => absurd h hjumps⟩
  | fragment => exact ⟨fun h => absurd h.symm hjumps, fun _ => rfl⟩

/-- At most `n` inner lines. -/
def Stretch (n : Nat) (ls : List Line) : Prop := (∀ l ∈ ls, l.Inner) ∧ ls.length ≤ n

theorem Stretch.nil (n : Nat) : Stretch n [] := ⟨by simp, by simp⟩

theorem Stretch.append {m n : Nat} {a b : List Line} (ha : Stretch m a) (hb : Stretch n b) :
    Stretch (m + n) (a ++ b) := by
  refine ⟨?_, ?_⟩
  · intro l hl
    rcases List.mem_append.mp hl with h | h
    · exact ha.1 l h
    · exact hb.1 l h
  · have := ha.2
    have := hb.2
    rw [List.length_append]; omega

theorem Stretch.pair {opcode : UInt16} (k : Nat)
    (h : opcode ∈ [Opcode.loadHalf, Opcode.loadByte, Opcode.loadWord, Opcode.loadHalfIndexed,
      Opcode.loadHeaderLen]) (v : Json) : Stretch 2 [.load opcode k, .check v] := by
  refine ⟨?_, by simp⟩
  intro l hl
  rcases List.mem_cons.mp hl with rfl | hl
  · exact .load k h
  · rw [List.mem_singleton.mp hl]; exact .check v

theorem protocolLines_stretch {f : Filter} {ls : List Line} (h : protocolLines f = .ok ls) :
    Stretch 2 ls := by
  unfold protocolLines at h
  split at h
  · cases h; exact .nil 2
  · obtain ⟨n, _, rfl⟩ := map_eq_ok.mp h
    exact .pair _ (by decide) _

theorem addressLines_stretch {address : Option Json} {offset : Nat} {ls : List Line}
    (h : addressLines address offset = .ok ls) : Stretch 2 ls := by
  unfold addressLines at h
  split at h
  · cases h; exact .nil 2
  · obtain ⟨w, _, rfl⟩ := map_eq_ok.mp h
    exact .pair _ (by decide) _

theorem portLines_stretch (port : Option Json) (offset : Nat) :
    Stretch 2 (portLines port offset) := by
  unfold portLines
  split
  · exact .nil 2
  · exact .pair _ (by decide) _

theorem portsLines_stretch (f : Filter) : Stretch 7 (portsLines f) := by
  unfold portsLines
  split
  · have header : Stretch 3 [.load Opcode.loadHalf Offset.fragment,
        ⟨Opcode.jumpSet, .nat fragmentMask, .onTrue⟩,
        .load Opcode.loadHeaderLen Offset.ipHeader] := by
      refine ⟨?_, by simp⟩
      intro l hl
      simp only [List.mem_cons, List.not_mem_nil, or_false] at hl
      rcases hl with rfl | rfl | rfl
      · exact .load _ (by decide)
      · exact .fragment
      · exact .load _ (by decide)
    exact (header.append (portLines_stretch _ _)).append (portLines_stretch _ _)
  · exact .nil 7

/-- The two returns at the end of every program. -/
def returnLines : List Line :=
  [⟨Opcode.ret, .nat acceptLength, .never⟩, ⟨Opcode.ret, .nat rejectLength, .never⟩]

theorem lines_shape {f : Filter} {ls : List Line} (h : lines f = .ok ls) :
    ∃ body, ls = body ++ returnLines ∧ Stretch 15 body := by
  simp only [lines, bind_eq_ok] at h
  obtain ⟨protocol, hp, srcIp, hs, dstIp, hd, h⟩ := h
  refine ⟨_, (Except.ok.inj h).symm, ?_⟩
  have front : Stretch 2 [.load Opcode.loadHalf Offset.ethertype, .check (.nat ethertypeIPv4)] :=
    .pair _ (by decide) _
  exact (((front.append (protocolLines_stretch hp)).append (addressLines_stretch hs)).append
    (addressLines_stretch hd)).append (portsLines_stretch f)

/-! ## The reference program -/

/-- The line at `position` as an instruction, its jump out of the chain leading to
the rejecting return. -/
def Line.resolved (rejecting position : Nat) (l : Line) : Instruction :=
  l.withJumps (if l.exit = .onTrue then rejecting - position - 1 else 0)
    (if l.exit = .onFalse then rejecting - position - 1 else 0) none

/-- A line that is not behind the rejecting return, or does not jump, is made into
an instruction if its immediate fits. -/
theorem Line.instruction_eq {l : Line} {rejecting position : Nat} (hr : rejecting ≤ 255)
    (h : l.exit = .never ∨ position < rejecting) :
    l.instruction (rejecting - position - 1) =
      (FieldName.k.fit l.k).map (fun _ => l.resolved rejecting position) := by
  have distance (c : Prop) [Decidable c] (hc : c → position < rejecting) :
      Json.int (if c then (rejecting : Int) - position - 1 else 0) =
        .nat (if c then rejecting - position - 1 else 0) := by
    unfold Json.int Json.nat
    split
    · have := hc ‹c›
      congr 2
      omega
    · rfl
  have ht : l.exit = .onTrue → position < rejecting := by
    intro he; rw [he] at h; simpa using h
  have hf : l.exit = .onFalse → position < rejecting := by
    intro he; rw [he] at h; simpa using h
  unfold instruction resolved
  simp only
  rw [distance _ ht, distance _ hf, l.make?_eq]
  · split <;> omega
  · split <;> omega

theorem resolveFrom_eq {rejecting : Nat} (hr : rejecting ≤ 255) (ls : List Line) (position : Nat)
    (h : ∀ i l, ls[i]? = some l → l.exit = .never ∨ position + i < rejecting) :
    resolveFrom rejecting position ls =
      (fits ls).map (fun _ => ls.mapIdx (fun i l => l.resolved rejecting (position + i))) := by
  induction ls generalizing position with
  | nil => rfl
  | cons l rest ih =>
    have hl : l.exit = .never ∨ position < rejecting := h 0 l rfl
    have hrest : ∀ i l, rest[i]? = some l → l.exit = .never ∨ position + 1 + i < rejecting := by
      intro i l hi
      have := h (i + 1) l hi
      rwa [Nat.add_assoc, Nat.add_comm 1 i]
    rw [resolveFrom, Line.instruction_eq hr hl, ih (position + 1) hrest, fits]
    cases FieldName.k.fit l.k with
    | error e => rfl
    | ok w =>
      cases fits rest with
      | error e => rfl
      | ok u =>
        simp only [map_of_ok, ok_bind, List.mapIdx_cons, Nat.add_zero, Nat.add_assoc,
          Nat.add_comm 1]
        rfl

/-- **The reference program is its lines, resolved.** It is there if the lines are
and all their immediates fit, and otherwise the first thing amiss is reported. -/
theorem instructions_eq (f : Filter) :
    instructions f = (do
      let ls ← lines f
      (fits ls).mapError CompileError.range
      return ls.mapIdx (fun i l => l.resolved (ls.length - 1) i)) := by
  unfold instructions
  cases hl : lines f with
  | error e => rfl
  | ok ls =>
    obtain ⟨body, hls, hbody⟩ := lines_shape hl
    have hlen : ls.length = body.length + 2 := by rw [hls, List.length_append]; rfl
    have hcast : (ls.length : Int) - 1 = ((ls.length - 1 : Nat) : Int) := by omega
    have hexit : ∀ i l, ls[i]? = some l → l.exit = .never ∨ 0 + i < ls.length - 1 := by
      intro i l hi
      by_cases hb : i < body.length
      · right; omega
      · left
        rw [hls, List.getElem?_append_right (by omega)] at hi
        have hmem : l ∈ returnLines := List.mem_of_getElem? hi
        simp only [returnLines, List.mem_cons, List.not_mem_nil, or_false] at hmem
        rcases hmem with rfl | rfl <;> rfl
    have := hbody.2
    simp only [ok_bind]
    rw [hcast, resolveFrom_eq (by omega) ls 0 hexit]
    cases fits ls with
    | error e => rfl
    | ok u => simp only [map_of_ok, mapError_of_ok, ok_bind, Nat.zero_add]; rfl

end Synthetic

end PacketFilter
