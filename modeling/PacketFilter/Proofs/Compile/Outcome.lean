import PacketFilter.Proofs.Compile.FailFast
import PacketFilter.Proofs.Criteria

/-
  Which filters have programs, and how the two programs of a filter compare.

  The fail-fast compiler and the reference compiler lay out the same lines, and
  both fail at the first immediate that does not fit. The one looks at immediates
  as it goes and the other at the end, but no error can come between: protocols
  and addresses are numbers that fit, and ports come last.

  What is proved: the two compilers fail with the same error or succeed with the
  same slots (`outcome`), so their programs differ in the jumps alone
  (`program_differs_in_jumps`), and a filter that has passed validation has both
  programs (`checked_outcome`), of which the second is its reference
  (`Reference.obtain_standIn`) unless a compiler is there to ask
  (`Reference.obtain_tool`).
-/

namespace PacketFilter

/-- Two instructions do the same, their jumps left aside: they have the same opcode
and the same immediate, spelled the same way. -/
structure Instruction.SameOperation (i j : Instruction) : Prop where
  opcode : i.opcode = j.opcode
  k : i.k = j.k
  opcodeFigure : i.opcodeFigure = j.opcodeFigure
  kFigure : i.kFigure = j.kFigure

theorem Synthetic.Line.withJumps_sameOperation (l : Line) (jt jf jt' jf' : Nat)
    (purpose purpose' : Option Purpose) :
    (l.withJumps jt jf purpose).SameOperation (l.withJumps jt' jf' purpose') :=
  ⟨rfl, rfl, rfl, rfl⟩

namespace FailFast

open Synthetic (Line fits)

/-! ## Both compilers -/

/-- The two compilers fail with the same error, or both make a program of the
filter's slots. -/
theorem outcome (f : Filter) :
    (∃ e, program f = .error e ∧ Synthetic.instructions f = .error e) ∨
    ∃ ss prog, slots f = .ok ss ∧ program f = .ok prog ∧
      prog.instructions = ss.mapIdx (fun i s => s.instruction ss.length i) ∧
      Synthetic.instructions f =
        .ok ((ss.map Slot.line).mapIdx (fun i l => l.resolved (ss.length - 1) i)) := by
  have hprog := program_eq f
  have href := Synthetic.instructions_eq f
  rw [lines_eq_slots] at href
  cases hss : slots f with
  | error e =>
    rw [hss] at hprog href
    exact .inl ⟨e, map_eq_error.mp hprog, href⟩
  | ok ss =>
    rw [hss] at hprog href
    simp only [ok_bind, map_of_ok] at hprog href
    cases hfits : fits (ss.map Slot.line) with
    | error e =>
      rw [hfits] at hprog href
      exact .inl ⟨.range e, map_eq_error.mp hprog, href⟩
    | ok u =>
      rw [hfits] at hprog href
      obtain ⟨prog, hp, hi⟩ := map_eq_ok.mp hprog
      refine .inr ⟨ss, prog, rfl, hp, hi, ?_⟩
      simpa only [mapError_of_ok, ok_bind, pure_ok, List.length_map] using href

/-- **The programs of a filter differ in their jumps alone.** Whatever the filter
holds, both compilers fail with the same error, or both succeed with programs of
the same length that do the same at every position. -/
theorem program_differs_in_jumps (f : Filter) :
    (∃ e, program f = .error e ∧ Synthetic.instructions f = .error e) ∨
    ∃ prog reference, program f = .ok prog ∧ Synthetic.instructions f = .ok reference ∧
      prog.instructions.length = reference.length ∧
      ∀ (position : Nat) (i j : Instruction), prog.instructions[position]? = some i → reference[position]? = some j →
        i.SameOperation j := by
  obtain herr | ⟨ss, prog, -, hprog, hi, href⟩ := outcome f
  · exact .inl herr
  · refine .inr ⟨prog, _, hprog, href, by simp [hi], ?_⟩
    intro position i j hpi hpj
    rw [hi] at hpi
    simp only [List.getElem?_mapIdx, List.getElem?_map, Option.map_eq_some_iff] at hpi hpj
    obtain ⟨s, hs, rfl⟩ := hpi
    obtain ⟨_, ⟨s', hs', rfl⟩, rfl⟩ := hpj
    rw [hs] at hs'
    cases hs'
    exact s.line.withJumps_sameOperation _ _ _ _ _ _

/-! ## Filters that have passed validation -/

theorem protocolNumber_name (q : Protocol) : protocolNumber (.str q.name) = .ok q.number := by
  simp [protocolNumber, Protocol.ofName?_name]

theorem protocolSlots_ok {f : Filter} (hf : f.Checked) : ∃ ss, protocolSlots f = .ok ss := by
  unfold protocolSlots
  cases hv : f.protocol with
  | none => exact ⟨_, rfl⟩
  | some v =>
    obtain ⟨q, rfl⟩ := hf.protocol v hv
    simp only [protocolNumber_name]
    exact ⟨_, rfl⟩

theorem addressSlots_ok {address : Option Json}
    (h : ∀ v, address = some v → ∃ w, Address.V4.ofJson v = .ok w) (offset : Nat)
    (loading checking : Purpose) :
    ∃ ss, addressSlots address offset loading checking = .ok ss := by
  unfold addressSlots
  cases hv : address with
  | none => exact ⟨_, rfl⟩
  | some v =>
    obtain ⟨w, hw⟩ := h v hv
    simp only [addressWord, hw]
    exact ⟨_, rfl⟩

theorem portSlots_fits {port : Option Json} (h : ∀ v, port = some v → ∃ n, v = .nat n ∧ n ≤ 65535)
    {offset : Nat} (hoff : offset ≤ FieldName.k.limit) (loading checking : Purpose) :
    fits ((portSlots port offset loading checking).map Slot.line) = .ok () := by
  cases hv : port with
  | none => rfl
  | some v =>
    obtain ⟨n, rfl, hn⟩ := h v hv
    have hn' : n ≤ FieldName.k.limit := Nat.le_trans hn (by decide)
    simp [portSlots, fits, Line.load, Line.check, FieldName.fit_nat hoff, FieldName.fit_nat hn']

theorem portsSlots_fits {f : Filter} (hf : f.Checked) :
    fits ((portsSlots f).map Slot.line) = .ok () := by
  unfold portsSlots
  split
  · have hfragment : fits (fragmentSlots.map Slot.line) = .ok () := rfl
    have hsrc := portSlots_fits hf.srcPort (show Offset.srcPort ≤ _ by decide) .loadSrcPort .checkSrcPort
    have hdst := portSlots_fits hf.dstPort (show Offset.dstPort ≤ _ by decide) .loadDstPort .checkDstPort
    rw [List.map_append, Synthetic.fits_append_of_ok hfragment, bothPortSlots, List.map_append,
      Synthetic.fits_append_of_ok hsrc, hdst]
  · rfl

theorem slots_ok {f : Filter} (hf : f.Checked) :
    ∃ ss, slots f = .ok ss ∧ fits (ss.map Slot.line) = .ok () := by
  obtain ⟨protocol, hp⟩ := protocolSlots_ok hf
  obtain ⟨srcIp, hs⟩ := addressSlots_ok hf.srcIp Offset.srcAddr .loadSrcAddr .checkSrcAddr
  obtain ⟨dstIp, hd⟩ := addressSlots_ok hf.dstIp Offset.dstAddr .loadDstAddr .checkDstAddr
  obtain ⟨front, hfront⟩ : ∃ front, frontSlots f = .ok front :=
    ⟨_, by rw [frontSlots, hp, hs, hd]; rfl⟩
  refine ⟨front ++ portsSlots f ++ returnSlots, by rw [slots, hfront]; rfl, ?_⟩
  rw [List.append_assoc, List.map_append, Synthetic.fits_append_of_ok (frontSlots_settled hfront).1,
    List.map_append, Synthetic.fits_append_of_ok (portsSlots_fits hf)]
  exact returnSlots_settled.1

theorem checked_outcome {f : Filter} (hf : f.Checked) :
    ∃ ss prog, slots f = .ok ss ∧ program f = .ok prog ∧
      prog.instructions = ss.mapIdx (fun i s => s.instruction ss.length i) ∧
      Synthetic.instructions f =
        .ok ((ss.map Slot.line).mapIdx (fun i l => l.resolved (ss.length - 1) i)) := by
  obtain ⟨ss, hss, hfits⟩ := slots_ok hf
  obtain ⟨e, herr, -⟩ | hok := outcome f
  · have hprog := program_eq f
    rw [hss, ok_bind, hfits, herr] at hprog
    contradiction
  · exact hok

end FailFast

/-! ## The reference of a filter, the external compiler not being installed -/

theorem intercalate_ne_empty (separator : String) {parts : List String} {part : String}
    (hmem : part ∈ parts) (hpart : part ≠ "") : separator.intercalate parts ≠ "" := by
  induction parts with
  | nil => exact absurd hmem List.not_mem_nil
  | cons p rest ih =>
    cases rest with
    | nil =>
      rw [String.intercalate_singleton, ← List.mem_singleton.mp hmem]
      exact hpart
    | cons q rest =>
      rw [String.intercalate_cons_cons]
      intro hempty
      obtain ⟨hfirst, hrest⟩ := String.append_eq_empty_iff.mp hempty
      rcases List.mem_cons.mp hmem with rfl | hmem
      · exact hpart (String.append_eq_empty_iff.mp hfirst).1
      · exact ih hmem hrest

namespace Filter

theorem phrase_part (name : String) (hname : name ≠ "") {field : Option Json}
    (hfield : field.isSome) : ∃ part ∈ phrase name field, part ≠ "" := by
  obtain ⟨v, rfl⟩ := Option.isSome_iff_exists.mp hfield
  refine ⟨_, List.mem_singleton_self _, ?_⟩
  exact fun h => hname (String.append_eq_empty_iff.mp h).1

theorem protocolPhrase_part {f : Filter} (hf : f.Checked) :
    ∃ parts, f.protocolPhrase = .ok parts ∧ (f.protocol.isSome → ∃ part ∈ parts, part ≠ "") := by
  cases hv : f.protocol with
  | none => exact ⟨[], by simp only [protocolPhrase, hv], by simp⟩
  | some v =>
    obtain ⟨q, rfl⟩ := hf.protocol v hv
    refine ⟨[q.name], ?_, fun _ => ⟨q.name, List.mem_singleton_self _, by cases q <;> decide⟩⟩
    simp only [protocolPhrase, hv, LooseText.text_ofString]

theorem isSome_of_not_isEmpty {f : Filter} (h : f.isEmpty = false) :
    f.protocol.isSome ∨ f.srcIp.isSome ∨ f.dstIp.isSome ∨ f.srcPort.isSome ∨ f.dstPort.isSome := by
  revert h
  unfold isEmpty hasPorts
  cases f.protocol <;> cases f.srcIp <;> cases f.dstIp <;> cases f.srcPort <;> cases f.dstPort <;>
    simp

theorem Checked.expression_ok {f : Filter} (hf : f.Checked) :
    ∃ e, f.expression = .ok e ∧ e.isEmpty = false := by
  obtain ⟨protocol, hp, hprotocol⟩ := protocolPhrase_part hf
  refine ⟨_, by rw [expression, hp]; rfl, ?_⟩
  -- Whichever field is set has a part of its own, and no part is empty.
  have hpart : ∃ part ∈ protocol ++ phrase "src " f.srcIp ++ phrase "dst " f.dstIp ++
      phrase "src port " f.srcPort ++ phrase "dst port " f.dstPort, part ≠ "" := by
    simp only [List.mem_append, or_and_right, exists_or]
    rcases isSome_of_not_isEmpty hf.something with h | h | h | h | h
    · exact .inl (.inl (.inl (.inl (hprotocol h))))
    · exact .inl (.inl (.inl (.inr (phrase_part _ (by decide) h))))
    · exact .inl (.inl (.inr (phrase_part _ (by decide) h)))
    · exact .inl (.inr (phrase_part _ (by decide) h))
    · exact .inr (phrase_part _ (by decide) h)
  obtain ⟨part, hmem, hne⟩ := hpart
  rw [String.isEmpty_eq_false_iff]
  exact intercalate_ne_empty " and " hmem hne

end Filter

namespace Reference

/-- The reference of a checked filter stands in for the compiler's program. -/
theorem obtain_standIn {f : Filter} (hf : f.Checked) (name : String) {is : List Instruction}
    (his : Synthetic.instructions f = .ok is) :
    ∃ reference, (obtain f name none).2 = .ok reference ∧ reference.instructions = is := by
  obtain ⟨e, he, hempty⟩ := hf.expression_ok
  refine ⟨⟨is, e, Origin.reference, none, [], some true, some (Program.dumpOf is)⟩, ?_, rfl⟩
  simp only [obtain, he, hempty, Bool.false_eq_true, ↓reduceIte, standIn, his, map_of_ok,
    mapError_of_ok]

theorem obtain_tool {f : Filter} {expression : String} (h : f.expression = .ok expression)
    (hsome : expression.isEmpty = false) (name : String) (tool : Tool) :
    (obtain f name (some tool)).2 = (do
      let out ← output tool [toolPath tool name, "-ddd", expression]
      (ofDump out expression).mapError (fun cause => .reference (.dump cause))) := by
  simp only [obtain, h, hsome, Bool.false_eq_true, ↓reduceIte]
  cases output tool [toolPath tool name, "-ddd", expression] with
  | error cause => rfl
  | ok out =>
    simp only [ok_bind]
    cases ofDump out expression with
    | error cause => rfl
    | ok p => rfl

end Reference

end PacketFilter
