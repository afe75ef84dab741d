import PacketFilter.Proofs.Comparison.Accounting
import PacketFilter.Proofs.Compile.Outcome

/-
  Comparisons that find nothing amiss.

  A full match is a comparison in which both programs mean the same, instruction by
  instruction, and nothing is said against the candidate.

  What is proved: programs with the same purposes equally often give a comparison that
  finds nothing amiss (`of_nothingAmiss`); programs that mean the same match in full
  (`of_fullMatch`); and the two programs of a filter that has passed validation mean
  the same once tags are left aside, so they match in full whichever is taken for the
  reference (`validated_fullMatch`).
-/

namespace PacketFilter

namespace Comparison

/-- Nothing is said against the candidate, and the score is one. -/
structure NothingAmiss (c : Comparison) : Prop where
  score : c.verdict.score = .ofInt 1
  rating : c.verdict.rating = .excellent
  text : c.verdict.text = Rating.excellent.words
  differences : c.differences = []
  missing : c.missing = []
  extra : c.extra = []
  shape : c.shape = []

/-- The comparison finds nothing amiss: the two programs mean the same at every
position, the score is one, and nothing is said against the candidate. -/
structure FullMatch (c : Comparison) : Prop where
  meaning : c.referenceMeaning = c.candidateMeaning
  score : c.verdict.score = .ofInt 1
  rating : c.verdict.rating = .excellent
  uncritical : ¬ "CRITICAL ISSUE: ".toList <+: c.verdict.text.toList
  differences : c.differences = []
  missing : c.missing = []
  extra : c.extra = []
  shape : c.shape = []

/-- **Programs with the same purposes equally often give nothing amiss**, unless both
are empty. -/
theorem of_nothingAmiss {reference candidate : Program}
    (hperm : (reference.purposesBeside candidate).Perm (candidate.purposesBeside reference))
    (hsome : reference.instructions ≠ []) : (Comparison.of reference candidate).NothingAmiss := by
  have hboth : ¬ (reference.instructions = [] ∧ candidate.instructions = []) := fun h => hsome h.1
  have hsize : reference.size = candidate.size := by
    rw [← purposesBeside_length reference candidate, hperm.length_eq, purposesBeside_length]
  obtain ⟨hdiff, hmiss, hextra⟩ := (nothingAmiss_iff_perm _ _).mpr hperm
  obtain ⟨-, hdiff', hmiss', hextra', hshape⟩ := of_lists reference candidate
  have hmissing : (Comparison.of reference candidate).missing = [] := hmiss'.trans hmiss
  have hverdict : (Comparison.of reference candidate).verdict =
      ⟨.ofInt 1, .excellent, Rating.excellent.words⟩ := by
    have hscore := (of_matching_eq_iff reference candidate).mpr hperm
    rw [of_verdict_eq hboth, hscore, Binary64.ofRatio_self (of_entries_pos hboth), missingPurposes,
      hmissing]
    decide
  exact {
    score := by rw [hverdict]
    rating := by rw [hverdict]
    text := by rw [hverdict]
    differences := hdiff'.trans hdiff
    missing := hmissing
    extra := hextra'.trans hextra
    shape := by rw [hshape, hsize, shapeOf_perm hperm] }

/-- **Programs that mean the same match in full**, unless both are empty. -/
theorem of_fullMatch {reference candidate : Program}
    (hmeaning : reference.meaning (reference.isTagged && candidate.isTagged) =
      candidate.meaning (reference.isTagged && candidate.isTagged))
    (hsome : reference.instructions ≠ []) : (Comparison.of reference candidate).FullMatch := by
  have hpurposes : reference.purposesBeside candidate = candidate.purposesBeside reference := by
    rw [Program.purposesBeside, Program.purposesBeside, hmeaning, Bool.and_comm]
  have h := of_nothingAmiss (.of_eq hpurposes) hsome
  exact {
    meaning := hmeaning
    score := h.score
    rating := h.rating
    uncritical := by rw [h.text]; decide
    differences := h.differences
    missing := h.missing
    extra := h.extra
    shape := h.shape }

end Comparison

/-! ## The two programs of a filter -/

theorem Instruction.SameOperation.meaning {i j : Instruction} (h : i.SameOperation j) (index : Nat) :
    Meaning.ofInstruction false index i = Meaning.ofInstruction false index j := by
  simp only [Meaning.ofInstruction, h.opcode, h.kFigure, Bool.false_eq_true, ↓reduceIte]

theorem FailFast.slots_meaning {ss : List Slot} {prog reference : Program}
    (hprog : prog.instructions = ss.mapIdx (fun i s => s.instruction ss.length i))
    (href : reference.instructions =
      (ss.map Slot.line).mapIdx (fun i l => l.resolved (ss.length - 1) i)) :
    reference.meaning false = prog.meaning false := by
  have hsame : (fun i (s : Slot) => Meaning.ofInstruction false i (s.line.resolved (ss.length - 1) i)) =
      fun i (s : Slot) => Meaning.ofInstruction false i (s.instruction ss.length i) := by
    funext i s
    exact (s.line.withJumps_sameOperation _ _ _ _ _ _).meaning i
  calc reference.meaning false
      = ss.mapIdx (fun i s => Meaning.ofInstruction false i (s.line.resolved (ss.length - 1) i)) := by
        apply List.ext_getElem?
        intro i
        simp [reference.meaning_eq, href, List.getElem?_mapIdx, Function.comp_def]
    _ = ss.mapIdx (fun i s => Meaning.ofInstruction false i (s.instruction ss.length i)) := by
        rw [hsame]
    _ = prog.meaning false := by
        rw [prog.meaning_eq, hprog, List.mapIdx_mapIdx]
        rfl

theorem Program.not_isTagged {p : Program} {i : Instruction} (hmem : i ∈ p.instructions)
    (hi : i.purpose = none) : p.isTagged = false := by
  rw [Program.isTagged, List.all_eq_false]
  exact ⟨i, hmem, by simp [hi]⟩

/-- **The fail-fast program of a filter matches its reference in full**, and the
reference matches it: a filter that has passed validation has both programs, and
nothing is amiss between them in either order. -/
theorem validated_fullMatch {f g : Filter} (hvalid : f.validated = .ok g) (name : String) :
    ∃ reference prog, (Reference.obtain g name none).2 = .ok reference ∧
      FailFast.program g = .ok prog ∧
      (Comparison.of reference prog).FullMatch ∧ (Comparison.of prog reference).FullMatch := by
  have hg := Filter.validated_checked hvalid
  obtain ⟨ss, prog, hss, hprog, hi, href⟩ := FailFast.checked_outcome hg
  obtain ⟨reference, hobtain, hreference⟩ := Reference.obtain_standIn hg name href
  have hmeaning := FailFast.slots_meaning hi hreference
  obtain ⟨s, rest, rfl⟩ : ∃ s rest, ss = s :: rest := by
    have hlen := (FailFast.slots_length hss).1
    exact List.exists_cons_of_length_pos (by omega)
  -- The reference has no tags, so tags are believed in neither order.
  have hfirst : s.line.resolved ((s :: rest).length - 1) 0 ∈ reference.instructions := by
    rw [hreference, List.map_cons, List.mapIdx_cons]
    exact List.mem_cons_self
  have htags : reference.isTagged = false := Program.not_isTagged hfirst rfl
  have hsome : prog.instructions ≠ [] := by
    rw [hi, List.mapIdx_cons]
    exact List.cons_ne_nil _ _
  refine ⟨reference, prog, hobtain, hprog, ?_, ?_⟩
  · refine Comparison.of_fullMatch ?_ (List.ne_nil_of_mem hfirst)
    rw [htags, Bool.false_and]
    exact hmeaning
  · refine Comparison.of_fullMatch ?_ hsome
    rw [htags, Bool.and_false]
    exact hmeaning.symm

/-- The inference takes the source address of this filter for no address, on both
sides alike. -/
theorem validated_fullMatch_webFilter :
    webFilter.validated = .ok webFilter ∧
      ∃ reference prog, (Reference.obtain webFilter "" none).2 = .ok reference ∧
        FailFast.program webFilter = .ok prog ∧
        (Comparison.of reference prog).FullMatch ∧ (Comparison.of prog reference).FullMatch :=
  ⟨webFilter_validated, validated_fullMatch webFilter_validated ""⟩

end PacketFilter
