import PacketFilter.Proofs.Comparison.Accounting
import PacketFilter.Proofs.Compile.Outcome

/-
  Comparing the programs of two filters.

  A fail-fast program is laid out in stages, and each stage tags its instructions with
  purposes of its own. Some stages are always there, some go with a field of the
  filter, and the fragment check goes with either port. So a comparison of two such
  programs goes by the stages that one filter has and the other lacks, and the values
  of the fields do not count.

  What is proved: the tags of a program are the purposes of its stages in order
  (`slots_purposes`, `checked_tagged`); a comparison of two tagged programs believes the
  tags (`Tagged.purposesBeside`); the purposes that another filter lacks are those of
  the stages it lacks (`lacking_eq`); and from these follow the lists, the score and the
  verdict of the comparison (`validated_byStages`).
-/

namespace PacketFilter

/-! ## Stages -/

theorem filter_flatMap_eq {α β : Type} (c : α → Bool) (g : α → List β) (l : List α) :
    (l.filter c).flatMap g = l.flatMap (fun x => if c x then g x else []) := by
  induction l with
  | nil => rfl
  | cons x l ih =>
    rw [List.filter_cons, List.flatMap_cons, ← ih]
    split <;> rfl

inductive Stage where
  | ethertype
  | protocol
  | address (side : Side)
  | fragment
  | port (side : Side)
  | returns
  deriving DecidableEq, Repr

namespace Stage

/-- All stages, in the order they are laid out in. -/
def all : List Stage :=
  [ethertype, protocol, address .src, address .dst, fragment, port .src, port .dst, returns]

/-- What the instructions of a stage are for. -/
def purposes : Stage → List Purpose
  | ethertype => [.loadEthertype, .checkEthertype]
  | protocol => [.loadProtocol, .checkProtocol]
  | address .src => [.loadSrcAddr, .checkSrcAddr]
  | address .dst => [.loadDstAddr, .checkDstAddr]
  | fragment => [.loadFragInfo, .checkFragment, .loadHeaderLen]
  | port .src => [.loadSrcPort, .checkSrcPort]
  | port .dst => [.loadDstPort, .checkDstPort]
  | returns => [.accept, .reject]

theorem mem_all (s : Stage) : s ∈ all := by
  rcases s with _ | _ | (_ | _) | _ | (_ | _) | _ <;> decide

theorem all_purposes_nodup : (all.flatMap purposes).Nodup := by
  decide

theorem purposes_ne_nil (s : Stage) : s.purposes ≠ [] := by
  rcases s with _ | _ | (_ | _) | _ | (_ | _) | _ <;> decide

theorem eq_of_mem_purposes {s t : Stage} {p : Purpose} (hs : p ∈ s.purposes) (ht : p ∈ t.purposes) :
    s = t := by
  have hdisjoint : ∀ s ∈ all, ∀ t ∈ all, ∀ p ∈ s.purposes, p ∈ t.purposes → s = t := by decide
  exact hdisjoint s s.mem_all t t.mem_all p hs ht

end Stage

namespace Filter

def sets (f : Filter) : FilterField → Bool
  | .protocol => f.protocol.isSome
  | .address side => (f.address side).isSome
  | .port side => (f.port side).isSome

def hasStage (f : Filter) : Stage → Bool
  | .ethertype => true
  | .protocol => f.sets .protocol
  | .address side => f.sets (.address side)
  | .fragment => f.sets (.port .src) || f.sets (.port .dst)
  | .port side => f.sets (.port side)
  | .returns => true

/-- The stages of the program of the filter, in order. -/
def stages (f : Filter) : List Stage := Stage.all.filter f.hasStage

/-- The purposes of the stages, in order. -/
def tags (f : Filter) : List Purpose := f.stages.flatMap Stage.purposes

theorem mem_stages {f : Filter} {s : Stage} : s ∈ f.stages ↔ f.hasStage s = true := by
  rw [stages, List.mem_filter]
  exact ⟨fun h => h.2, fun h => ⟨s.mem_all, h⟩⟩

theorem mem_tags {f : Filter} {s : Stage} {p : Purpose} (hp : p ∈ s.purposes) :
    p ∈ f.tags ↔ f.hasStage s = true := by
  rw [tags, List.mem_flatMap]
  constructor
  · rintro ⟨t, ht, hpt⟩
    rw [Stage.eq_of_mem_purposes hp hpt]
    exact mem_stages.mp ht
  · intro h
    exact ⟨s, mem_stages.mpr h, hp⟩

theorem tags_nodup (f : Filter) : f.tags.Nodup := by
  apply List.Sublist.nodup _ Stage.all_purposes_nodup
  rw [tags, stages]
  generalize Stage.all = ss
  induction ss with
  | nil => exact List.Sublist.refl _
  | cons s ss ih =>
    rw [List.filter_cons, List.flatMap_cons]
    split
    · rw [List.flatMap_cons]
      exact List.Sublist.append (List.Sublist.refl _) ih
    · exact List.Sublist.trans ih (List.sublist_append_right _ _)

theorem sets_eq_iff_hasStage_eq {f g : Filter} :
    (∀ field, f.sets field = g.sets field) ↔ ∀ s, f.hasStage s = g.hasStage s := by
  constructor
  · intro h s
    cases s <;> simp only [hasStage, h]
  · intro h field
    cases field with
    | protocol => exact h .protocol
    | address side => exact h (.address side)
    | port side => exact h (.port side)

/-- One filter has the tags of another, in whatever order, exactly if the same fields
are set. -/
theorem tags_perm_iff {f g : Filter} :
    f.tags.Perm g.tags ↔ ∀ field, f.sets field = g.sets field := by
  rw [sets_eq_iff_hasStage_eq, List.perm_ext_iff_of_nodup f.tags_nodup g.tags_nodup]
  constructor
  · intro h s
    -- Any purpose of a stage tells whether the stage is there.
    obtain ⟨p, hp⟩ := List.exists_mem_of_ne_nil _ s.purposes_ne_nil
    rw [Bool.eq_iff_iff, ← mem_tags hp, ← mem_tags hp, h p]
  · intro h p
    have hstages : f.stages = g.stages := by
      rw [stages, stages, funext h]
    rw [tags, tags, hstages]

theorem lacking_eq (f g : Filter) :
    f.tags.filter (fun p => p ∉ g.tags) =
      (f.stages.filter (fun s => !g.hasStage s)).flatMap Stage.purposes := by
  -- A stage lacks all of its purposes or none.
  have hstage (s : Stage) : s.purposes.filter (fun p => p ∉ g.tags) =
      if !g.hasStage s then s.purposes else [] := by
    cases h : g.hasStage s with
    | true =>
      apply List.filter_eq_nil_iff.mpr
      intro p hp
      simp [mem_tags hp, h]
    | false =>
      apply List.filter_eq_self.mpr
      intro p hp
      simp [mem_tags hp, h]
  rw [show f.tags = f.stages.flatMap Stage.purposes from rfl, List.filter_flatMap, funext hstage,
    filter_flatMap_eq]

theorem mem_lacking {f g : Filter} {s : Stage} {p : Purpose} (hp : p ∈ s.purposes) :
    p ∈ f.tags.filter (fun p => p ∉ g.tags) ↔ f.hasStage s = true ∧ g.hasStage s = false := by
  rw [List.mem_filter, decide_eq_true_eq, mem_tags hp, mem_tags hp, Bool.not_eq_true]

theorem validated_tags {f g : Filter} (h : f.validated = .ok g) : g.tags = f.tags := by
  have hsets : ∀ field, g.sets field = f.sets field := by
    intro field
    rcases validated_eq h with ⟨-, rfl⟩ | ⟨v, q, hv, -, rfl⟩
    · rfl
    · cases field with
      | protocol => simp [sets, hv]
      | address side => cases side <;> rfl
      | port side => cases side <;> rfl
  rw [tags, tags, stages, stages, funext (sets_eq_iff_hasStage_eq.mp hsets)]

end Filter

/-! ## The tags of a program -/

namespace FailFast

theorem protocolSlots_purposes {f : Filter} {ss : List Slot} (h : protocolSlots f = .ok ss) :
    ss.map Slot.purpose = if f.hasStage .protocol then Stage.protocol.purposes else [] := by
  unfold protocolSlots at h
  rw [Filter.hasStage, Filter.sets]
  cases hv : f.protocol with
  | none =>
    rw [hv] at h
    cases h
    rfl
  | some v =>
    rw [hv] at h
    obtain ⟨n, -, rfl⟩ := map_eq_ok.mp h
    rfl

theorem addressSlots_purposes {address : Option Json} {offset : Nat} {loading checking : Purpose}
    {ss : List Slot} (h : addressSlots address offset loading checking = .ok ss) :
    ss.map Slot.purpose = if address.isSome then [loading, checking] else [] := by
  unfold addressSlots at h
  cases address with
  | none =>
    cases h
    rfl
  | some v =>
    obtain ⟨w, -, rfl⟩ := map_eq_ok.mp h
    rfl

theorem portSlots_purposes (port : Option Json) (offset : Nat) (loading checking : Purpose) :
    (portSlots port offset loading checking).map Slot.purpose =
      if port.isSome then [loading, checking] else [] := by
  cases port <;> rfl

theorem portsSlots_purposes (f : Filter) :
    (portsSlots f).map Slot.purpose =
      (if f.hasStage .fragment then Stage.fragment.purposes else []) ++
        (if f.hasStage (.port .src) then (Stage.port .src).purposes else []) ++
        (if f.hasStage (.port .dst) then (Stage.port .dst).purposes else []) := by
  have hports : f.hasStage .fragment = f.hasPorts := rfl
  rw [portsSlots, hports]
  split
  · rw [bothPortSlots, List.map_append, List.map_append, portSlots_purposes, portSlots_purposes,
      List.append_assoc]
    rfl
  · next h =>
    simp only [Filter.hasPorts, Bool.or_eq_true, not_or, Option.not_isSome_iff_eq_none] at h
    simp [Filter.hasStage, Filter.sets, Filter.port, h]

theorem slots_purposes {f : Filter} {ss : List Slot} (h : slots f = .ok ss) :
    ss.map Slot.purpose = f.tags := by
  obtain ⟨front, hfront, rfl⟩ := map_eq_ok.mp h
  simp only [frontSlots, bind_eq_ok] at hfront
  obtain ⟨protocol, hp, srcIp, hs, dstIp, hd, hfront⟩ := hfront
  cases hfront
  rw [Filter.tags, Filter.stages, filter_flatMap_eq, Stage.all]
  simp only [List.flatMap_cons, List.flatMap_nil, List.append_nil, List.map_append,
    protocolSlots_purposes hp, addressSlots_purposes hs, addressSlots_purposes hd,
    portsSlots_purposes, List.append_assoc]
  rfl

end FailFast

theorem Meaning.purpose_of_tag {i : Instruction} {p : Purpose} (h : i.purpose = some p) (index : Nat) :
    (Meaning.ofInstruction true index i).purpose = p := by
  simp only [Meaning.ofInstruction, Meaning.classify, ↓reduceIte, h]
  split
  · next heq => exact heq.symm
  · rfl

namespace Program

/-- Every instruction of the program is tagged, with the given purposes in order. -/
def Tagged (p : Program) (tags : List Purpose) : Prop :=
  p.instructions.map (·.purpose) = tags.map some

variable {p q : Program} {a b : List Purpose}

theorem Tagged.isTagged (h : p.Tagged a) : p.isTagged = true := by
  have hall : (p.instructions.map (·.purpose)).all Option.isSome = true := by
    rw [h, List.all_map]
    exact List.all_eq_true.mpr (fun _ _ => rfl)
  rw [List.all_map] at hall
  exact hall

theorem Tagged.purposes (h : p.Tagged a) : Comparison.purposes (p.meaning true) = a := by
  rw [Comparison.purposes, map_meaning]
  apply List.ext_getElem?
  intro n
  have hat : (p.instructions.map (·.purpose))[n]? = (a.map some)[n]? := by rw [h]
  rw [List.getElem?_map, List.getElem?_map] at hat
  rw [List.getElem?_mapIdx]
  cases hi : p.instructions[n]? with
  | none =>
    rw [hi, Option.map_none, eq_comm, Option.map_eq_none_iff] at hat
    rw [hat, Option.map_none]
  | some i =>
    rw [hi, Option.map_some, eq_comm, Option.map_eq_some_iff] at hat
    obtain ⟨t, ht, htag⟩ := hat
    rw [ht, Option.map_some, Meaning.purpose_of_tag htag.symm]

theorem Tagged.purposesBeside (hp : p.Tagged a) (hq : q.Tagged b) : p.purposesBeside q = a := by
  rw [Program.purposesBeside, hp.isTagged, hq.isTagged, Bool.and_self, hp.purposes]

end Program

theorem FailFast.checked_tagged {f : Filter} (hf : f.Checked) :
    ∃ prog, program f = .ok prog ∧ prog.Tagged f.tags ∧ prog.instructions ≠ [] := by
  obtain ⟨ss, prog, hss, hprog, hi, -⟩ := checked_outcome hf
  refine ⟨prog, hprog, ?_, ?_⟩
  · rw [Program.Tagged, ← slots_purposes hss, hi, List.map_map]
    apply List.ext_getElem?
    intro position
    simp [List.getElem?_mapIdx, Slot.instruction, Synthetic.Line.withJumps, Function.comp_def]
  · have hlen := (slots_length hss).1
    rw [hi, List.ne_nil_iff_length_pos, List.length_mapIdx]
    omega

/-! ## The comparison -/

theorem Purpose.lack?_isSome (p : Purpose) :
    p.lack?.isSome = true ↔ p = .checkEthertype ∨ p = .checkProtocol := by
  cases p <;> decide

namespace Verdict

theorem critical_iff (rating : Rating) (missing : List Purpose) :
    "CRITICAL ISSUE: ".toList <+: (words rating missing).toList ↔
      .checkEthertype ∈ missing ∨ .checkProtocol ∈ missing := by
  have hsome : (missing.findSome? Purpose.lack?).isSome ↔
      .checkEthertype ∈ missing ∨ .checkProtocol ∈ missing := by
    rw [List.findSome?_isSome_iff]
    simp only [Purpose.lack?_isSome]
    constructor
    · rintro ⟨p, hp, rfl | rfl⟩
      · exact .inl hp
      · exact .inr hp
    · rintro (h | h)
      · exact ⟨_, h, .inl rfl⟩
      · exact ⟨_, h, .inr rfl⟩
  rw [← hsome, words]
  cases missing.findSome? Purpose.lack? with
  | some lack =>
    simp only [String.toList_append, List.append_assoc, Option.isSome_some, iff_true]
    exact List.prefix_append _ _
  | none =>
    have hplain : ¬ "CRITICAL ISSUE: ".toList <+: rating.words.toList := by
      cases rating <;> decide +kernel
    exact ⟨fun h => absurd h hplain, nofun⟩

end Verdict

namespace Comparison

/-- The comparison of the programs of two filters goes by their stages: it believes the
tags, which are those of the stages, and what it finds missing or extra are the purposes
of the stages that only one of the filters has. -/
structure ByStages (c : Comparison) (f g : Filter) : Prop where
  trusted : c.trusted = true
  referenceTags : c.reference.Tagged f.tags
  referencePurposes : purposes c.referenceMeaning = f.tags
  candidateTags : c.candidate.Tagged g.tags
  candidatePurposes : purposes c.candidateMeaning = g.tags
  differences : c.differences = []
  missing : c.missingPurposes = (f.stages.filter (fun s => !g.hasStage s)).flatMap Stage.purposes
  extra : c.extraPurposes = (g.stages.filter (fun s => !f.hasStage s)).flatMap Stage.purposes
  score : c.verdict.score = .ofInt 1 ↔ ∀ field, f.sets field = g.sets field
  critical : "CRITICAL ISSUE: ".toList <+: c.verdict.text.toList ↔
    f.sets .protocol = true ∧ g.sets .protocol = false

section
variable {a b : List Purpose}

theorem differencesOf_nodup (ha : a.Nodup) (hb : b.Nodup) :
    differencesOf (Histogram.ofPurposes a) (Histogram.ofPurposes b) = [] := by
  rw [differencesOf_ofPurposes, List.map_eq_nil_iff, List.filter_eq_nil_iff]
  intro p hp
  have hmem := List.mem_eraseDups.mp hp
  rw [decide_eq_true_eq, ha.count, if_pos hmem]
  rintro ⟨hmem', hne⟩
  rw [hb.count, if_pos hmem'] at hne
  exact hne rfl

theorem loneOf_nodup (ha : a.Nodup) :
    (loneOf (Histogram.ofPurposes a) (Histogram.ofPurposes b)).map (·.purpose) =
      a.filter (fun p => p ∉ b) := by
  rw [loneOf_ofPurposes, eraseDups_of_nodup ha, List.map_map]
  exact List.map_id _

end

theorem of_byStages {f g : Filter} {reference candidate : Program} (hf : reference.Tagged f.tags)
    (hg : candidate.Tagged g.tags) (hsome : reference.instructions ≠ []) :
    (Comparison.of reference candidate).ByStages f g := by
  have hboth : ¬ (reference.instructions = [] ∧ candidate.instructions = []) := fun h => hsome h.1
  have htrusted : (Comparison.of reference candidate).trusted = true := by
    rw [Comparison.of, hf.isTagged, hg.isTagged]
    rfl
  obtain ⟨-, hdiff, hmiss, hextra, -⟩ := of_lists reference candidate
  rw [hf.purposesBeside hg, hg.purposesBeside hf] at hdiff hmiss hextra
  have hmissing : (Comparison.of reference candidate).missingPurposes =
      f.tags.filter (fun p => p ∉ g.tags) := by
    rw [missingPurposes, hmiss, loneOf_nodup f.tags_nodup]
  refine ⟨htrusted, hf, ?_, hg, ?_, ?_, ?_, ?_, ?_, ?_⟩
  · exact (congrArg (fun trust => purposes (reference.meaning trust)) htrusted).trans hf.purposes
  · exact (congrArg (fun trust => purposes (candidate.meaning trust)) htrusted).trans hg.purposes
  · rw [hdiff, differencesOf_nodup f.tags_nodup g.tags_nodup]
  · rw [hmissing, Filter.lacking_eq]
  · rw [extraPurposes, hextra, loneOf_nodup g.tags_nodup, Filter.lacking_eq]
  · rw [of_score_eq_one_iff hboth, hf.purposesBeside hg, hg.purposesBeside hf, Filter.tags_perm_iff]
  · -- The check of the Ethernet type is never missing, since every filter has that stage.
    have hethertype : ¬ Purpose.checkEthertype ∈ f.tags.filter (fun p => p ∉ g.tags) := by
      rw [Filter.mem_lacking (s := .ethertype) (by decide)]
      intro h
      exact Bool.false_ne_true h.2.symm
    rw [of_verdict_eq hboth, Verdict.critical_iff, hmissing, or_iff_right hethertype,
      Filter.mem_lacking (s := .protocol) (by decide)]
    rfl

end Comparison

/-- **The programs of two filters are compared by the fields that are set.** Filters that
have passed validation have programs, and their comparison believes the tags and finds
no difference in counts; it finds missing what the stages are for that only the first
filter has, and extra what those are for that only the second has, in the order of the
program; the score is one exactly if the same fields are set, whatever their values; and
the verdict is critical exactly if the first filter has a protocol and the second none. -/
theorem validated_byStages {f f' g g' : Filter} (hf : f.validated = .ok f')
    (hg : g.validated = .ok g') :
    ∃ reference candidate, FailFast.program f' = .ok reference ∧
      FailFast.program g' = .ok candidate ∧
      (Comparison.of reference candidate).ByStages f g := by
  obtain ⟨reference, hreference, hftags, hsome⟩ :=
    FailFast.checked_tagged (Filter.validated_checked hf)
  obtain ⟨candidate, hcandidate, hgtags, -⟩ :=
    FailFast.checked_tagged (Filter.validated_checked hg)
  rw [Filter.validated_tags hf] at hftags
  rw [Filter.validated_tags hg] at hgtags
  exact ⟨reference, candidate, hreference, hcandidate, Comparison.of_byStages hftags hgtags hsome⟩

/-- Answers from a web server. -/
def answerFilter : Filter :=
  { srcIp := some (.str "10.0.0.2"), srcPort := some (.nat 80) }

/-- The second filter leaves the protocol open and asks for the other port. -/
theorem validated_byStages_webFilter :
    webFilter.validated = .ok webFilter ∧ answerFilter.validated = .ok answerFilter ∧
      ∃ reference candidate, FailFast.program webFilter = .ok reference ∧
        FailFast.program answerFilter = .ok candidate ∧
        (Comparison.of reference candidate).ByStages webFilter answerFilter :=
  ⟨webFilter_validated, by rfl, validated_byStages webFilter_validated (by rfl)⟩

end PacketFilter
