import PacketFilter.Proofs.Address
import PacketFilter.Proofs.Compile.Slots

/-
  The stages of the fail-fast compiler.

  Each stage gives its reason and adds its slots. The stage of the ports also sets
  the jumps of the fragment check, which are known as soon as the port checks are
  out; `Work.lay` is what the work looks like from then on.

  What is proved: what each stage makes of the work so far, and when it fails
  (`ethertypeStage_eq` to `returnStage_eq`).
-/

namespace PacketFilter

def Draft.withJumps (d : Draft) (jt jf : Nat) : Draft := { d with jt := .nat jt, jf := .nat jf }

def Builder.withJumps (b : Builder) (position jt jf : Nat) : Builder :=
  { b with drafts := b.drafts.modify position (fun d => d.withJumps jt jf) }

theorem Builder.ordered_nat (n : Nat) : ordered (.nat n) = .ok (.int n) := rfl

theorem Builder.checkPosition_eq {b : Builder} {position : Nat} (h : position < b.size) :
    b.checkPosition (.nat position) = .ok () := by
  have hin : ((Number.int position).below 0 || (Number.int position).atLeast b.size) = false := by
    simp [Number.below, Number.atLeast]; omega
  unfold checkPosition
  rw [ordered_nat, ok_bind, hin]
  rfl

theorem Builder.checkJumps_eq {jt jf : Nat} (ht : jt ≤ 255) (hf : jf ≤ 255) :
    checkJumps (.nat jt) (.nat jf) = .ok () := by
  have t0 : (Number.int jt).below 0 = false := by simp [Number.below]
  have f0 : (Number.int jf).below 0 = false := by simp [Number.below]
  have tmax : (Number.int jt).above FieldName.jt.limit = false :=
    decide_eq_false (by simp only [FieldName.limit]; omega)
  have fmax : (Number.int jf).above FieldName.jf.limit = false :=
    decide_eq_false (by simp only [FieldName.limit]; omega)
  unfold checkJumps
  rw [ordered_nat, ordered_nat, ok_bind, t0, ok_bind, f0, tmax, fmax]
  rfl

theorem Builder.patch_eq {b : Builder} (ho : b.finalized = false) {position jt jf : Nat}
    (hp : position < b.size) (ht : jt ≤ 255) (hf : jf ≤ 255) :
    b.patch (.nat position) (.nat jt) (.nat jf) = .ok (b.withJumps position jt jf) := by
  unfold patch whileOpen withJumps
  rw [ho, checkPosition_eq hp, checkJumps_eq ht hf]
  rfl

namespace FailFast

open Synthetic (Line fits)

/-! ## The stages -/

theorem protocolNumber_le {v : Json} {n : Nat} (h : protocolNumber v = .ok n) :
    n ≤ FieldName.k.limit := by
  unfold protocolNumber at h
  split at h
  · split at h
    · next q _ => cases h; cases q <;> decide
    · contradiction
  · contradiction

theorem addressWord_le {v : Json} {n : Nat} (h : addressWord v = .ok n) :
    n ≤ FieldName.k.limit :=
  Nat.le_of_lt_succ (Address.V4.ofJson_lt (mapError_eq_ok.mp h))

def protocolReasons (f : Filter) : List String :=
  if f.protocol.isSome then ["2) Protocol-specific filtering"] else []

def addressReasons (f : Filter) : List String :=
  if f.srcIp.isNone && f.dstIp.isNone then [] else ["3) IP address filtering"]

def portReasons (f : Filter) : List String :=
  if f.hasPorts then ["4) Fragment-aware port filtering"] else []

theorem ethertypeStage_eq {w : Work} (ho : w.builder.finalized = false) :
    ethertypeStage w = .ok (w.append ["1) Early IP validation"] ethertypeSlots) := by
  unfold ethertypeStage
  simp only [Work.because_eq]
  rw [Work.load_eq (by exact ho) _ (by decide), ok_bind,
    Work.check_nat (by exact ho) (by decide), Work.append_append, Work.append_append]
  rfl

theorem protocolStage_eq {w : Work} (ho : w.builder.finalized = false) (f : Filter) :
    protocolStage f w = (protocolSlots f).map (w.append (protocolReasons f)) := by
  unfold protocolStage protocolSlots protocolReasons
  cases f.protocol with
  | none => simp [Work.append_nil]
  | some v =>
    simp only [Work.because_eq]
    rw [Work.load_eq (by exact ho) _ (by decide), ok_bind]
    cases hn : protocolNumber v with
    | error e => rfl
    | ok n =>
      simp only [ok_bind, map_of_ok]
      rw [Work.check_nat (by exact ho) (protocolNumber_le hn), Work.append_append,
        Work.append_append]
      rfl

theorem addressCheck_eq {w : Work} (ho : w.builder.finalized = false) (address : Option Json)
    {offset : Nat} (hoff : offset ≤ FieldName.k.limit) (loading checking : Purpose) :
    addressCheck address offset loading checking w =
      (addressSlots address offset loading checking).map (w.append []) := by
  unfold addressCheck addressSlots
  cases address with
  | none => simp [Work.append_nil]
  | some v =>
    simp only
    rw [Work.load_eq ho _ hoff, ok_bind]
    cases hn : addressWord v with
    | error e => rfl
    | ok n =>
      simp only [ok_bind, map_of_ok]
      rw [Work.check_nat (by exact ho) (addressWord_le hn), Work.append_append]
      rfl

theorem addressStage_eq {w : Work} (ho : w.builder.finalized = false) (f : Filter) :
    addressStage f w = (do
      let srcIp ← addressSlots f.srcIp Offset.srcAddr .loadSrcAddr .checkSrcAddr
      let dstIp ← addressSlots f.dstIp Offset.dstAddr .loadDstAddr .checkDstAddr
      return w.append (addressReasons f) (srcIp ++ dstIp)) := by
  unfold addressStage addressReasons
  split
  · next hn =>
    simp only [Bool.and_eq_true, Option.isNone_iff_eq_none] at hn
    simp [addressSlots, hn, Work.append_nil]
  · simp only [Work.because_eq]
    rw [addressCheck_eq (by exact ho) _ (by decide)]
    cases addressSlots f.srcIp Offset.srcAddr .loadSrcAddr .checkSrcAddr with
    | error e => rfl
    | ok a =>
      simp only [map_of_ok, ok_bind]
      rw [addressCheck_eq (by exact ho) _ (by decide)]
      cases addressSlots f.dstIp Offset.dstAddr .loadDstAddr .checkDstAddr with
      | error e => rfl
      | ok b => simp [Work.append_append]

theorem portCheck_eq {w : Work} (ho : w.builder.finalized = false) (port : Option Json)
    {offset : Nat} (hoff : offset ≤ FieldName.k.limit) (loading checking : Purpose) :
    portCheck port offset loading checking w =
      w.place [] (portSlots port offset loading checking) := by
  unfold portCheck portSlots
  cases port with
  | none => simp [Work.place, fits, Work.append_nil]
  | some v =>
    simp only
    rw [Work.load_eq ho _ hoff, ok_bind, Work.check_eq (by exact ho)]
    simp [Work.place, fits, Line.load, FieldName.fit_nat hoff, Work.append_append]

/-! ## The jumps of the fragment check -/

/-- The draft of a slot in a program of `n` instructions once the ports are out:
only the fragment check has its jumps, past the accepting return and on to the next
instruction. -/
def Slot.early (n position : Nat) (s : Slot) : Draft :=
  if s.line.exit = .onTrue then s.draft (n - 1 - position) 1 else s.draft 0 0

/-- The work with slots added as far as they are settled once the ports are out,
in a program of `n` instructions. -/
def Work.lay (w : Work) (n : Nat) (reasons : List String) (ss : List Slot) : Work where
  builder := { w.builder with drafts :=
    w.builder.drafts ++ ss.mapIdx (fun i s => s.early n (w.builder.size + i)) }
  checks := w.checks ++ checksFrom w.builder.size ss
  reasons := w.reasons ++ reasons

theorem mapIdx_early {n position : Nat} {ss : List Slot}
    (h : ∀ s ∈ ss, s.line.exit ≠ .onTrue) :
    ss.mapIdx (fun i s => s.early n (position + i)) = ss.map (fun s => s.draft 0 0) := by
  induction ss generalizing position with
  | nil => rfl
  | cons s ss ih =>
    have hs : s.early n (position + 0) = s.draft 0 0 := if_neg (h s List.mem_cons_self)
    have hss := @ih (position + 1) (fun t ht => h t (List.mem_cons_of_mem s ht))
    simp only [Nat.add_assoc, Nat.add_comm 1] at hss
    rw [List.mapIdx_cons, List.map_cons, hs, hss]

theorem Work.append_eq_lay (w : Work) (n : Nat) (rs : List String) {ss : List Slot}
    (h : ∀ s ∈ ss, s.line.exit ≠ .onTrue) : w.append rs ss = w.lay n rs ss := by
  rw [append, lay, mapIdx_early h]

theorem Work.lay_lay (w : Work) (n : Nat) (rs rs' : List String) (a b : List Slot) :
    (w.lay n rs a).lay n rs' b = w.lay n (rs ++ rs') (a ++ b) := by
  simp [lay, Builder.size, checksFrom_append, List.mapIdx_append, Nat.add_assoc,
    Nat.add_comm a.length]

theorem Work.patch_eq {w : Work} (ho : w.builder.finalized = false) {position jt jf : Nat}
    {t f : Int} (hp : position < w.builder.size) (ht : t = jt) (hf : f = jf) (hjt : jt ≤ 255)
    (hjf : jf ≤ 255) :
    w.patch position t f = .ok { w with builder := w.builder.withJumps position jt jf } := by
  subst ht hf
  have := Builder.patch_eq ho hp hjt hjf
  unfold patch
  rw [show Json.int (jt : Int) = .nat jt from rfl, show Json.int (jf : Int) = .nat jf from rfl, this]

theorem modify_second {α : Type} (l : List α) (a b : α) (rest : List α) (g : α → α) :
    (l ++ a :: b :: rest).modify (l.length + 1) g = l ++ a :: g b :: rest := by
  induction l with
  | nil => rfl
  | cons x l ih => simp [ih]

theorem bothPortSlots_exit (f : Filter) : ∀ s ∈ bothPortSlots f, s.line.exit ≠ .onTrue := by
  have hport : ∀ (port : Option Json) (offset : Nat) (loading checking : Purpose),
      ∀ s ∈ portSlots port offset loading checking, s.line.exit ≠ .onTrue := by
    intro port offset loading checking s hs
    cases port with
    | none => simp [portSlots] at hs
    | some v =>
      simp only [portSlots, List.mem_cons, List.not_mem_nil, or_false] at hs
      rcases hs with rfl | rfl <;> simp [Line.load, Line.check]
  intro s hs
  rcases List.mem_append.mp hs with h | h
  · exact hport _ _ _ _ s h
  · exact hport _ _ _ _ s h

theorem Work.withJumps_fragment (w : Work) (n : Nat) (rs : List String) (f : Filter) :
    { w.append rs (fragmentSlots ++ bothPortSlots f) with
      builder := (w.append rs (fragmentSlots ++ bothPortSlots f)).builder.withJumps
        (w.builder.size + 1) (n - 1 - (w.builder.size + 1)) 1 } =
      w.lay n rs (fragmentSlots ++ bothPortSlots f) := by
  have hports := @mapIdx_early n (w.builder.size + 3) _ (bothPortSlots_exit f)
  simp only [Nat.add_assoc, Nat.add_comm 3] at hports
  simp only [append, lay, Builder.withJumps, Builder.size, fragmentSlots, List.cons_append,
    List.nil_append, List.map_cons, modify_second, List.mapIdx_cons, Work.mk.injEq,
    Builder.mk.injEq, and_true]
  simp only [Nat.add_assoc, Nat.reduceAdd, Builder.size] at hports ⊢
  rw [hports]
  rfl

@[simp] theorem Work.lay_size (w : Work) (n : Nat) (rs : List String) (ss : List Slot) :
    (w.lay n rs ss).builder.size = w.builder.size + ss.length := by
  simp [lay, Builder.size]

theorem Work.lay_nil (w : Work) (n : Nat) : w.lay n [] [] = w := by
  simp [lay, checksFrom]

theorem portSlots_length (port : Option Json) (offset : Nat) (loading checking : Purpose) :
    (portSlots port offset loading checking).length ≤ 2 := by
  cases port <;> simp [portSlots]

theorem bothPortSlots_length (f : Filter) : (bothPortSlots f).length ≤ 4 := by
  have := portSlots_length f.srcPort Offset.srcPort .loadSrcPort .checkSrcPort
  have := portSlots_length f.dstPort Offset.dstPort .loadDstPort .checkDstPort
  rw [bothPortSlots, List.length_append]; omega

theorem Work.emit_fragment {w : Work} (ho : w.builder.finalized = false) :
    w.emit Opcode.jumpSet (.nat fragmentMask) .checkFragment =
      .ok (w.append [] [⟨⟨Opcode.jumpSet, .nat fragmentMask, .onTrue⟩, .checkFragment⟩],
        w.builder.size) := by
  have he := emit_eq ho ⟨⟨Opcode.jumpSet, .nat fragmentMask, .onTrue⟩, .checkFragment⟩
  simp only at he
  rw [he, FieldName.fit_nat (by decide)]
  simp [append, checksFrom]

/-- Once the ports are out, patching the fragment check settles its jumps. -/
theorem Work.patch_fragment {w : Work} (ho : w.builder.finalized = false) (rs : List String)
    (f : Filter) :
    (w.append rs (fragmentSlots ++ bothPortSlots f)).patch (w.builder.size + 1)
      ((w.builder.size + (fragmentSlots ++ bothPortSlots f).length + 1 : Nat) -
        (w.builder.size + 1 : Nat)) 1 =
      .ok (w.lay (w.builder.size + (fragmentSlots ++ bothPortSlots f).length + 2) rs
        (fragmentSlots ++ bothPortSlots f)) := by
  have hlen : (fragmentSlots ++ bothPortSlots f).length = 3 + (bothPortSlots f).length := by
    rw [List.length_append]; rfl
  have hports := bothPortSlots_length f
  rw [← withJumps_fragment]
  refine patch_eq (by exact ho) ?_ ?_ rfl ?_ (by decide)
  · rw [append_size]; omega
  · omega
  · omega

theorem portChecks_eq {w : Work} (ho : w.builder.finalized = false) (f : Filter) :
    (do
      let w ← portCheck f.srcPort Offset.srcPort .loadSrcPort .checkSrcPort w
      portCheck f.dstPort Offset.dstPort .loadDstPort .checkDstPort w) =
      w.place [] (bothPortSlots f) := by
  have hbind := w.place_bind [] [] (portSlots f.srcPort Offset.srcPort .loadSrcPort .checkSrcPort)
    (portSlots f.dstPort Offset.dstPort .loadDstPort .checkDstPort)
  rw [List.append_nil] at hbind
  rw [portCheck_eq ho _ (by decide), bothPortSlots, ← hbind]
  unfold Work.place
  cases fits ((portSlots f.srcPort Offset.srcPort .loadSrcPort .checkSrcPort).map Slot.line) with
  | error e => rfl
  | ok u =>
    simp only [mapError_of_ok, ok_bind, pure_ok]
    rw [portCheck_eq (by exact ho) _ (by decide)]
    rfl

theorem portStage_eq {w : Work} (ho : w.builder.finalized = false) (f : Filter) :
    portStage f w = (do
      (fits ((portsSlots f).map Slot.line)).mapError CompileError.range
      return w.lay (w.builder.size + (portsSlots f).length + 2) (portReasons f) (portsSlots f)) := by
  unfold portStage portsSlots portReasons
  cases hp : f.hasPorts with
  | false => simp [fits, Work.lay_nil]
  | true =>
    simp only [Bool.not_true, Bool.false_eq_true, if_false, if_true, Work.because_eq]
    rw [Work.load_eq (by exact ho) _ (by decide), ok_bind, Work.emit_fragment (by exact ho), ok_bind]
    simp only
    rw [Work.load_eq (by exact ho) _ (by decide), ok_bind, ← bind_assoc,
      portChecks_eq (by exact ho)]
    have hfragment : fits (fragmentSlots.map Slot.line) = .ok () := rfl
    rw [List.map_append, Synthetic.fits_append_of_ok hfragment]
    unfold Work.place
    cases fits ((bothPortSlots f).map Slot.line) with
    | error e => rfl
    | ok u =>
      simp only [mapError_of_ok, ok_bind, pure_ok, Work.append_append, Work.append_size]
      exact Work.patch_fragment ho _ f

theorem returnStage_eq {w : Work} (ho : w.builder.finalized = false) :
    returnStage w = .ok
      (w.append ["5) Optimized accept/reject with minimal instructions"] returnSlots,
        w.builder.size, w.builder.size + 1) := by
  have haccept {w : Work} (ho : w.builder.finalized = false) :=
    Work.emit_eq ho ⟨⟨Opcode.ret, .nat acceptLength, .never⟩, .accept⟩
  have hreject {w : Work} (ho : w.builder.finalized = false) :=
    Work.emit_eq ho ⟨⟨Opcode.ret, .nat rejectLength, .never⟩, .reject⟩
  simp only at haccept hreject
  unfold returnStage
  simp only [Work.because_eq]
  rw [haccept (by exact ho), FieldName.fit_nat (by decide)]
  simp only [mapError_of_ok, map_of_ok, ok_bind]
  rw [hreject (by exact ho), FieldName.fit_nat (by decide)]
  simp [Work.append, checksFrom, returnSlots, Builder.size]

end FailFast

end PacketFilter
