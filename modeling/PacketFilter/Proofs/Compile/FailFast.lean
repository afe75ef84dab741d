import PacketFilter.Proofs.Compile.Stages

/-
  The fail-fast program in one piece.

  Once the two returns are out, the last pass sets the jumps of the checks for
  equality. Together with those of the fragment check, which are set before, this
  gives every slot its jumps (`retarget_early`).

  What is proved: the last pass sets all its jumps at once (`resolve_eq`), the
  whole of the compiler's work (`assemble_eq`), and so the program: its slots with
  their jumps filled in, provided that the immediates fit (`program_eq`).
-/

namespace PacketFilter

namespace FailFast

open Synthetic (Line fits)

/-! ## The jumps of the other checks -/

/-- The drafts with the jumps at some positions leading to the two returns. -/
def retarget (accepting rejecting : Nat) (positions : List Nat) (ds : List Draft) : List Draft :=
  ds.mapIdx (fun i d => if i ∈ positions then d.withJumps (accepting - i) (rejecting - i) else d)

theorem retarget_cons (accepting rejecting q : Nat) (qs : List Nat) (ds : List Draft) :
    retarget accepting rejecting qs
      (ds.modify q (fun d => d.withJumps (accepting - q) (rejecting - q))) =
      retarget accepting rejecting (q :: qs) ds := by
  apply List.ext_getElem?
  intro i
  simp only [retarget, List.getElem?_mapIdx, List.getElem?_modify, List.mem_cons]
  cases ds[i]? with
  | none => rfl
  | some d =>
    by_cases hq : q = i
    · subst hq
      by_cases hqs : q ∈ qs <;> simp [hqs, Draft.withJumps]
    · have hq' : ¬ i = q := fun h => hq h.symm
      simp [hq, hq']

/-- The last pass sets the jumps of all checks, if they are within reach of the
returns. -/
theorem resolve_eq {accepting rejecting : Nat} (qs : List Nat) {w : Work}
    (ho : w.builder.finalized = false)
    (h : ∀ q ∈ qs, q < w.builder.size ∧ q ≤ accepting ∧ q ≤ rejecting ∧ accepting ≤ 255 ∧
      rejecting ≤ 255) :
    resolve accepting rejecting qs w = .ok { w with builder :=
      { w.builder with drafts := retarget accepting rejecting qs w.builder.drafts } } := by
  induction qs generalizing w with
  | nil =>
    have : retarget accepting rejecting [] w.builder.drafts = w.builder.drafts := by
      simp [retarget, List.mapIdx_eq_iff]
    rw [this]; rfl
  | cons q qs ih =>
    obtain ⟨hsize, ha, hr, hamax, hrmax⟩ := h q List.mem_cons_self
    have ht : (accepting : Int) - q = (accepting - q : Nat) := by omega
    have hf : (rejecting : Int) - q = (rejecting - q : Nat) := by omega
    rw [resolve, Work.patch_eq ho hsize ht hf (by omega) (by omega), ok_bind, ih]
    · simp only [Builder.withJumps, retarget_cons]
    · exact ho
    · intro q' hq'
      have := h q' (List.mem_cons_of_mem q hq')
      simpa [Builder.withJumps, Builder.size] using this

/-! ## The program -/

/-- The jump of a slot at `position` of `n` if its check holds: to the accepting
return, or to the rejecting one if the packet is a later fragment. -/
def Slot.jt (n position : Nat) (s : Slot) : Nat :=
  match s.line.exit with
  | .never => 0
  | .onFalse => n - 2 - position
  | .onTrue => n - 1 - position

/-- The jump of a slot at `position` of `n` if its check fails: to the rejecting
return, or to the next instruction if the packet is no later fragment. -/
def Slot.jf (n position : Nat) (s : Slot) : Nat :=
  match s.line.exit with
  | .never => 0
  | .onFalse => n - 1 - position
  | .onTrue => 1

def Slot.instruction (n position : Nat) (s : Slot) : Instruction :=
  s.line.withJumps (s.jt n position) (s.jf n position) (some s.purpose)

/-- The two passes together give every slot its jumps. -/
theorem retarget_early (ss : List Slot) :
    retarget (ss.length - 2) (ss.length - 1) (checksFrom 0 ss)
      (ss.mapIdx (fun i s => s.early ss.length i)) =
      ss.mapIdx (fun i s => s.draft (s.jt ss.length i) (s.jf ss.length i)) := by
  apply List.ext_getElem?
  intro i
  simp only [retarget, List.getElem?_mapIdx]
  cases hs : ss[i]? with
  | none => rfl
  | some s =>
    have hmem : i ∈ checksFrom 0 ss ↔ s.line.exit = .onFalse := by
      rw [mem_checksFrom]
      constructor
      · rintro ⟨j, t, hj, ht, rfl⟩
        rw [Nat.zero_add] at hs
        rw [hs] at hj
        cases hj
        exact ht
      · intro h
        exact ⟨i, s, hs, h, by omega⟩
    simp only [Option.map_some, Option.some.injEq, hmem, Slot.early, Slot.jt, Slot.jf]
    cases s.line.exit <;> rfl

theorem Slot.jumps_le (s : Slot) {n : Nat} (hn : n ≤ 256) (position : Nat) :
    s.jt n position ≤ 255 ∧ s.jf n position ≤ 255 := by
  unfold jt jf
  cases s.line.exit <;> simp only <;> omega

theorem mapM_instruction {n : Nat} (hn : n ≤ 256) (ss : List Slot) (position : Nat)
    (h : fits (ss.map Slot.line) = .ok ()) :
    (ss.mapIdx (fun i s => s.draft (s.jt n (position + i)) (s.jf n (position + i)))).mapM
        Draft.instruction =
      .ok (ss.mapIdx (fun i s => s.instruction n (position + i))) := by
  induction ss generalizing position with
  | nil => rfl
  | cons s ss ih =>
    rw [List.map_cons, fits, bind_eq_ok] at h
    obtain ⟨w, hw, hrest⟩ := h
    have hrest := ih (position + 1) hrest
    simp only [Nat.add_assoc, Nat.add_comm 1] at hrest
    obtain ⟨ht, hf⟩ := s.jumps_le hn (position + 0)
    rw [List.mapIdx_cons, List.mapM_cons, List.mapIdx_cons, hrest,
      s.draft_instruction ht hf, hw]
    rfl

/-- Slots whose immediates fit, none of them a fragment check. -/
def Settled (ss : List Slot) : Prop :=
  fits (ss.map Slot.line) = .ok () ∧ ∀ s ∈ ss, s.line.exit ≠ .onTrue

theorem Settled.append {a b : List Slot} (ha : Settled a) (hb : Settled b) :
    Settled (a ++ b) := by
  refine ⟨?_, ?_⟩
  · rw [List.map_append, Synthetic.fits_append_of_ok ha.1]
    exact hb.1
  · intro s hs
    rcases List.mem_append.mp hs with h | h
    · exact ha.2 s h
    · exact hb.2 s h

theorem Settled.nil : Settled [] := ⟨rfl, by simp⟩

theorem Settled.pair (opcode : UInt16) {k n : Nat} (hk : k ≤ FieldName.k.limit)
    (hn : n ≤ FieldName.k.limit) (loading checking : Purpose) :
    Settled [⟨.load opcode k, loading⟩, ⟨.check (.nat n), checking⟩] := by
  refine ⟨?_, ?_⟩
  · simp [fits, Line.load, Line.check, FieldName.fit_nat hk, FieldName.fit_nat hn]
  · intro s hs
    simp only [List.mem_cons, List.not_mem_nil, or_false] at hs
    rcases hs with rfl | rfl <;> simp [Line.load, Line.check]

theorem protocolSlots_settled {f : Filter} {ss : List Slot} (h : protocolSlots f = .ok ss) :
    Settled ss := by
  unfold protocolSlots at h
  split at h
  · cases h; exact .nil
  · obtain ⟨n, hn, rfl⟩ := map_eq_ok.mp h
    exact .pair _ (by decide) (protocolNumber_le hn) _ _

theorem addressSlots_settled {address : Option Json} {offset : Nat}
    (hoff : offset ≤ FieldName.k.limit) {loading checking : Purpose} {ss : List Slot}
    (h : addressSlots address offset loading checking = .ok ss) : Settled ss := by
  unfold addressSlots at h
  split at h
  · cases h; exact .nil
  · obtain ⟨n, hn, rfl⟩ := map_eq_ok.mp h
    exact .pair _ hoff (addressWord_le hn) _ _

theorem returnSlots_settled : Settled returnSlots := by
  refine ⟨rfl, ?_⟩
  intro s hs
  simp only [returnSlots, List.mem_cons, List.not_mem_nil, or_false] at hs
  rcases hs with rfl | rfl <;> simp

theorem frontSlots_settled {f : Filter} {ss : List Slot} (h : frontSlots f = .ok ss) :
    Settled ss := by
  simp only [frontSlots, bind_eq_ok] at h
  obtain ⟨protocol, hp, srcIp, hs, dstIp, hd, h⟩ := h
  cases h
  have hfront : Settled ethertypeSlots := .pair _ (by decide) (by decide) _ _
  exact ((hfront.append (protocolSlots_settled hp)).append
    (addressSlots_settled (by decide) hs)).append (addressSlots_settled (by decide) hd)

theorem slots_length {f : Filter} {ss : List Slot} (h : slots f = .ok ss) :
    2 ≤ ss.length ∧ ss.length ≤ 17 := by
  obtain ⟨body, -, -, hstretch, hlen⟩ := slots_body h
  have := hstretch.2
  omega

def Work.withNotes (w : Work) (texts : List String) : Work :=
  { w with builder := { w.builder with notes := w.builder.notes ++ texts } }

theorem Work.note_eq {w : Work} (ho : w.builder.finalized = false) (text : String) :
    w.note text = .ok (w.withNotes [text]) := by
  simp [note, Builder.note, Builder.whileOpen, ho, withNotes]

theorem foldlM_note (texts : List String) {w : Work} (ho : w.builder.finalized = false) :
    texts.foldlM Work.note w = .ok (w.withNotes texts) := by
  induction texts generalizing w with
  | nil => simp [Work.withNotes]
  | cons text texts ih =>
    have hnext : (w.withNotes [text]).builder.finalized = false := ho
    rw [List.foldlM_cons, Work.note_eq ho, ok_bind, ih hnext]
    simp [Work.withNotes]

/-- All reasons given for a filter. -/
def reasons (f : Filter) : List String :=
  ["1) Early IP validation"] ++ protocolReasons f ++ addressReasons f ++ portReasons f ++
    ["5) Optimized accept/reject with minimal instructions"]

theorem frontStages_eq (f : Filter) :
    (do let w ← ethertypeStage {}; let w ← protocolStage f w; addressStage f w) =
      (frontSlots f).map (({} : Work).append
        (["1) Early IP validation"] ++ protocolReasons f ++ addressReasons f)) := by
  have ho : ({} : Work).builder.finalized = false := rfl
  rw [ethertypeStage_eq ho, ok_bind, protocolStage_eq (by exact ho), frontSlots]
  cases protocolSlots f with
  | error e => rfl
  | ok protocol =>
    simp only [map_of_ok, ok_bind]
    rw [addressStage_eq (by exact ho)]
    cases addressSlots f.srcIp Offset.srcAddr .loadSrcAddr .checkSrcAddr with
    | error e => rfl
    | ok srcIp =>
      cases addressSlots f.dstIp Offset.dstAddr .loadDstAddr .checkDstAddr with
      | error e => rfl
      | ok dstIp => simp [Work.append_append]

/-- The compiler's work once all is done for the slots of a filter. -/
def finished (f : Filter) (ss : List Slot) : Work where
  builder :=
    { drafts := ss.mapIdx (fun i s => s.draft (s.jt ss.length i) (s.jf ss.length i))
      notes := notes f }
  checks := checksFrom 0 ss
  reasons := reasons f

/-- The last pass and the notes finish the work: every check stands before the two
returns, within reach of them. -/
theorem finish_lay (f : Filter) (body : List Slot) {ss : List Slot}
    (hss : ss = body ++ returnSlots) (hlen : ss.length ≤ 17) :
    (do
      let w ← resolve (ss.length - 2) (ss.length - 1) (checksFrom 0 ss)
        (({} : Work).lay ss.length (reasons f) ss)
      (notes f).foldlM Work.note w) = .ok (finished f ss) := by
  have ho : (({} : Work).lay ss.length (reasons f) ss).builder.finalized = false := rfl
  have hsize : ss.length = body.length + 2 := by rw [hss, List.length_append]; rfl
  have hchecks : checksFrom 0 ss = checksFrom 0 body := by
    rw [hss, checksFrom_append]
    exact List.append_nil _
  have hreach : ∀ q ∈ checksFrom 0 ss,
      q < (({} : Work).lay ss.length (reasons f) ss).builder.size ∧ q ≤ ss.length - 2 ∧
        q ≤ ss.length - 1 ∧ ss.length - 2 ≤ 255 ∧ ss.length - 1 ≤ 255 := by
    intro q hq
    rw [hchecks] at hq
    obtain ⟨i, s, hi, -, rfl⟩ := mem_checksFrom.mp hq
    have hi' : i < body.length := (List.getElem?_eq_some_iff.mp hi).1
    rw [Work.lay_size]
    omega
  -- Both passes succeed, so what is left is that they give every slot its jumps.
  rw [resolve_eq _ ho hreach, ok_bind, foldlM_note _ (by exact ho)]
  have hdrafts := retarget_early ss
  simp only [Work.withNotes, Work.lay, finished, Builder.empty, Builder.size, List.nil_append,
    List.length_nil, Nat.zero_add, hdrafts]

/-- **The compiler's work in one piece.** -/
theorem assemble_eq (f : Filter) :
    assemble f = (do
      let ss ← slots f
      (fits (ss.map Slot.line)).mapError CompileError.range
      return finished f ss) := by
  have hsplit : assemble f = (do
      let w ← (do let w ← ethertypeStage {}; let w ← protocolStage f w; addressStage f w)
      let w ← portStage f w
      let laid ← returnStage w
      let w ← resolve laid.2.1 laid.2.2 laid.1.checks laid.1
      (notes f).foldlM Work.note w) := by
    simp only [assemble, bind_assoc]
  rw [hsplit, frontStages_eq]
  cases hfront : frontSlots f with
  | error e => simp only [slots, hfront]; rfl
  | ok front =>
    have ho : ({} : Work).builder.finalized = false := rfl
    have hsettled := frontSlots_settled hfront
    have hslots : slots f = .ok (front ++ portsSlots f ++ returnSlots) := by
      rw [slots, hfront]; rfl
    have hlen := slots_length hslots
    have hfits : fits ((front ++ portsSlots f ++ returnSlots).map Slot.line) =
        fits ((portsSlots f).map Slot.line) := by
      rw [List.append_assoc, List.map_append, Synthetic.fits_append_of_ok hsettled.1,
        List.map_append, Synthetic.fits_append, returnSlots_settled.1]
      cases fits ((portsSlots f).map Slot.line) <;> rfl
    -- From here on only the immediates of the ports can fail.
    simp only [map_of_ok, ok_bind]
    rw [portStage_eq (by exact ho), hslots, ok_bind, hfits]
    cases fits ((portsSlots f).map Slot.line) with
    | error e => rfl
    | ok u =>
      simp only [mapError_of_ok, ok_bind, pure_ok]
      rw [returnStage_eq (by exact ho)]
      -- The stage of the ports counts on two more instructions, and they are the returns.
      have hn : (({} : Work).append (["1) Early IP validation"] ++ protocolReasons f ++
          addressReasons f) front).builder.size + (portsSlots f).length + 2 =
          (front ++ portsSlots f ++ returnSlots).length := by
        rw [Work.append_size, List.length_append, List.length_append]
        show 0 + _ + _ + 2 = _
        rw [Nat.zero_add]; rfl
      simp only [ok_bind, Work.lay_size]
      rw [show _ + (portsSlots f).length = (front ++ portsSlots f ++ returnSlots).length - 2 by
        omega, show (front ++ portsSlots f ++ returnSlots).length - 2 + 2 =
          (front ++ portsSlots f ++ returnSlots).length by omega,
        show (front ++ portsSlots f ++ returnSlots).length - 2 + 1 =
          (front ++ portsSlots f ++ returnSlots).length - 1 by omega,
        Work.append_eq_lay _ (front ++ portsSlots f ++ returnSlots).length _ hsettled.2,
        Work.lay_lay, Work.append_eq_lay _ (front ++ portsSlots f ++ returnSlots).length _
          returnSlots_settled.2, Work.lay_lay]
      exact finish_lay f (front ++ portsSlots f) rfl hlen.2

/-- A filter with slots has a name: its protocol, if it asks for one, is a text. -/
theorem label_ok {f : Filter} {ss : List Slot} (h : slots f = .ok ss) :
    ∃ label, f.label = .ok label := by
  simp only [slots, frontSlots, map_eq_ok, bind_eq_ok] at h
  obtain ⟨_, ⟨protocol, hp, _⟩, _⟩ := h
  unfold Filter.label Filter.protocolPhrase
  unfold protocolSlots protocolNumber at hp
  cases hv : f.protocol with
  | none => exact ⟨_, rfl⟩
  | some v =>
    rw [hv] at hp
    cases v with
    | str s => exact ⟨_, rfl⟩
    | _ => cases hp

theorem finalize_finished (f : Filter) {ss : List Slot} (hlen : ss.length ≤ 17)
    (hfits : fits (ss.map Slot.line) = .ok ()) (label : String) (rationale : Option String) :
    ((finished f ss).builder.finalize label rationale).2 =
      .ok { instructions := ss.mapIdx (fun i s => s.instruction ss.length i), filterExpr := label,
            rationale := rationale, optimizations := notes f } := by
  have hm := mapM_instruction (show ss.length ≤ 256 by omega) ss 0 hfits
  simp only [Nat.zero_add] at hm
  unfold Builder.finalize
  simp only [finished, hm]
  rfl

/-- **The fail-fast program is its slots with their jumps filled in.** It is there
if the slots are and all their immediates fit, and otherwise the first thing amiss
is reported. -/
theorem program_eq (f : Filter) :
    (program f).map (·.instructions) = (do
      let ss ← slots f
      (fits (ss.map Slot.line)).mapError CompileError.range
      return ss.mapIdx (fun i s => s.instruction ss.length i)) := by
  unfold program compile
  rw [assemble_eq]
  cases hss : slots f with
  | error e => rfl
  | ok ss =>
    obtain ⟨label, hlabel⟩ := label_ok hss
    simp only [ok_bind]
    cases hfits : fits (ss.map Slot.line) with
    | error e => rfl
    | ok u =>
      simp only [mapError_of_ok, ok_bind, pure_ok, hlabel,
        finalize_finished f (slots_length hss).2 hfits, map_of_ok]

end FailFast

end PacketFilter
