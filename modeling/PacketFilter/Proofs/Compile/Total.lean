import PacketFilter.Proofs.Comparison.Stages

/-
  Filters that have passed validation can be used.

  Validation and compilation read the same values, each in its own way. Validation asks
  what kind of address a value is, of which there are two, and the compiler asks for the
  word of an IPv4 address; validation takes a protocol in any letter case, and the
  compiler looks up its exact name. A filter that passes the one must not fail the other.

  What is proved: an address passes validation exactly if it has a word
  (`checkAddress_ok_iff`); the size of a program follows from the fields that are set
  (`tags_length`); and a filter that has passed validation has a label, an expression
  with something in it, a reference and a program, both of that size
  (`validated_compilable`).
-/

namespace PacketFilter

namespace Filter

/-! ## Addresses -/

theorem addressWord_eq_ok {v : Json} {w : Nat} :
    addressWord v = .ok w ↔ Address.V4.ofJson v = .ok w := by
  rw [addressWord, mapError_eq_ok]

/-- **An address passes validation exactly if it has a word.** -/
theorem checkAddress_ok_iff {f : Filter} {side : Side} {v : Json} (hv : f.address side = some v) :
    f.checkAddress side = .ok () ↔ ∃ w, addressWord v = .ok w := by
  simp only [addressWord_eq_ok]
  refine ⟨?_, ?_⟩
  · intro h
    exact checkAddress_ok h v hv
  · intro h
    simp only [checkAddress, hv, Address.Family.ofJson?_eq_v4_iff.mpr h]

/-! ## Sizes -/

/-- How many instructions the program of a filter has: two for each check of a field and
two returns, the Ethernet type being checked always, and three more before the checks of
ports. -/
def programSize (f : Filter) : Nat :=
  4 + 2 * (f.sets .protocol).toNat + 2 * (f.sets (.address .src)).toNat +
    2 * (f.sets (.address .dst)).toNat +
    if f.hasPorts then 3 + 2 * (f.sets (.port .src)).toNat + 2 * (f.sets (.port .dst)).toNat else 0

theorem stage_length (f : Filter) (s : Stage) :
    (if f.hasStage s then s.purposes else []).length = s.purposes.length * (f.hasStage s).toNat := by
  cases f.hasStage s with
  | false => rfl
  | true => exact (Nat.mul_one _).symm

theorem tags_length (f : Filter) : f.tags.length = f.programSize := by
  have hports : f.hasPorts = (f.sets (.port .src) || f.sets (.port .dst)) := rfl
  rw [tags, stages, filter_flatMap_eq, Stage.all, programSize, hports]
  simp only [List.flatMap_cons, List.flatMap_nil, List.length_append, List.length_nil, stage_length]
  simp only [hasStage, Stage.purposes, List.length_cons, List.length_nil]
  cases f.sets (.port .src) <;> cases f.sets (.port .dst) <;>
    simp only [Bool.or_true, Bool.or_false, Bool.toNat_true, Bool.toNat_false, Bool.false_eq_true,
      ↓reduceIte] <;> omega

/-! ## What a checked filter has -/

/-- A filter has everything that is made from filters. -/
structure Compilable (f : Filter) : Prop where
  label : ∃ l, f.label = .ok l
  expression : ∃ e, f.expression = .ok e ∧ e ≠ ""
  reference : ∃ is, Synthetic.instructions f = .ok is ∧ is.length = f.programSize
  program : ∃ p, FailFast.program f = .ok p ∧ p.size = f.programSize

theorem Checked.label_ok {f : Filter} (hf : f.Checked) : ∃ l, f.label = .ok l := by
  obtain ⟨protocol, hp, -⟩ := protocolPhrase_part hf
  exact ⟨_, by rw [label, hp]; rfl⟩

theorem Checked.compilable {f : Filter} (hf : f.Checked) : f.Compilable := by
  obtain ⟨ss, prog, hss, hprog, hi, href⟩ := FailFast.checked_outcome hf
  obtain ⟨e, he, hsome⟩ := hf.expression_ok
  -- There is one slot for each tag, and one instruction of either program for each slot.
  have hslots : ss.length = f.programSize := by
    rw [← tags_length, ← FailFast.slots_purposes hss, List.length_map]
  exact {
    label := hf.label_ok
    expression := ⟨e, he, String.isEmpty_eq_false_iff.mp hsome⟩
    reference := ⟨_, href, by rw [List.length_mapIdx, List.length_map, hslots]⟩
    program := ⟨prog, hprog, by rw [Program.size, hi, List.length_mapIdx, hslots]⟩ }

/-- **A filter that has passed validation can be compiled.** Whatever values a filter was
built from, an address passes its check exactly if the compiler finds a word for it, and
once all checks have passed the filter has a label, an expression that is not empty, and
both of its programs, whose size follows from the fields that are set. -/
theorem validated_compilable (f : Filter) :
    (∀ side v, f.address side = some v →
      (f.checkAddress side = .ok () ↔ ∃ w, addressWord v = .ok w)) ∧
    ∀ g, f.validated = .ok g → g.Compilable := by
  refine ⟨?_, ?_⟩
  · intro side v hv
    exact checkAddress_ok_iff hv
  · intro g hg
    exact (validated_checked hg).compilable

/-- A filter as a file may give it, with the protocol in capitals and one address as a
number. -/
def looseFields : Json :=
  .obj [("dst_port", .nat 80), ("src_ip", .nat 0x0a000001), ("protocol", .str "TCP"),
    ("dst_ip", .str "10.0.0.2")]

def looseFilter : Filter where
  protocol := some (.str "TCP")
  srcIp := some (.nat 0x0a000001)
  dstIp := some (.str "10.0.0.2")
  dstPort := some (.nat 80)

/-- The program has four instructions, two for each of the addresses and the protocol, and
five for the port. -/
theorem validated_compilable_looseFilter :
    ofJson looseFields = .ok looseFilter ∧
      (looseFilter.checkAddress .src = .ok () ↔ ∃ w, addressWord (.nat 0x0a000001) = .ok w) ∧
      looseFilter.validated = .ok { looseFilter with protocol := some (.str "tcp") } ∧
      programSize { looseFilter with protocol := some (.str "tcp") } = 15 ∧
      Compilable { looseFilter with protocol := some (.str "tcp") } := by
  obtain ⟨haddress, hcompilable⟩ := validated_compilable looseFilter
  exact ⟨by rfl, haddress .src _ rfl, by rfl, by decide, hcompilable _ (by rfl)⟩

end Filter

end PacketFilter
