import PacketFilter.Proofs.Command.Result
import PacketFilter.Proofs.Expression.Refusal

/-
  How a run of the command ends.

  A run ends in one of three ways. Its text is delivered where it was asked for, or it is
  refused with a message, or a fault that it does not expect ends it.

  What is proved:
    1. `runOptions_cases`: there is no fourth way. What is delivered is exactly the text
       that the run came to, and a run that is refused has written nothing but messages.
    2. `runOptions_eq_error_iff`: the faults are the errors that a run does not expect,
       a level of detail left blank, and a text that cannot be written.
    3. `run_ends`: both for arguments that ask for a run; and `run_raised_digit`: such a
       fault does occur.
-/

namespace PacketFilter.Command

/-! ## The three endings -/

/-- The path that a result is written to, if it can be. -/
def destination (w : World) (s : Setting String) : Except OpenError String := do
  let path ← pathOf s
  w.write path
  return path

/-- The run has delivered exactly its text, to the path that was asked for or, if there is
none, to the standard output. -/
structure Outcome.Delivered (r : Outcome) (o : Options) (w : World) : Prop where
  status : r.status = 0
  text : ∃ text, result o w = .ok text ∧
    ((o.output = none ∧ r.stdout = text ∧ r.written = none) ∨
      ∃ path, o.output = some (.value path) ∧ w.write path = .ok () ∧ r.stdout = "" ∧
        r.written = some (path, text))

/-- The run has written nothing but a message, after what it had said before. -/
structure Outcome.Refused (r : Outcome) (o : Options) (w : World) : Prop where
  status : r.status = 1
  stdout : r.stdout = ""
  written : r.written = none
  message : ∃ said e, result o w = .error e ∧ r.stderr = said ++ ("Error: " ++ e.message ++ "\n")

/-- The faults that end a run, and what they come from. -/
inductive Escapes (o : Options) (w : World) : Crash → Prop where
  /-- The level of detail was left blank. -/
  | level (h : o.debug = .blank) : Escapes o w .blankLevel
  /-- The result is an error that is not expected. -/
  | result {detail : Int} {e : RunError} (h : o.debug = .value detail) (he : Unforeseen o w e) :
      Escapes o w (.run e)
  /-- There is a text, and it cannot be written where it was asked for. -/
  | output {detail : Int} {text : String} {s : Setting String} {cause : OpenError}
      (h : o.debug = .value detail) (htext : Command.result o w = .ok text)
      (hs : o.output = some s) (hcause : destination w s = .error cause) :
      Escapes o w (.output cause)

section
variable {o : Options} {w : World}

theorem destination_eq_ok {s : Setting String} {path : String} :
    destination w s = .ok path ↔ s = .value path ∧ w.write path = .ok () := by
  cases s with
  | blank =>
    refine ⟨?_, ?_⟩
    · intro h
      contradiction
    · intro h
      exact absurd h.1 nofun
  | value given =>
    simp only [destination, pathOf, ok_bind, bind_eq_ok, pure_ok, Except.ok.injEq, Setting.value.injEq]
    refine ⟨?_, ?_⟩
    · intro h
      obtain ⟨_, hwrite, rfl⟩ := h
      exact ⟨rfl, hwrite⟩
    · intro h
      obtain ⟨rfl, hwrite⟩ := h
      exact ⟨(), hwrite, rfl⟩

theorem runOptions_eq {detail : Int} (h : o.debug = .value detail) : ∃ said, runOptions o w =
    match result o w with
    | .error e =>
      if e.isKnown then .ok ⟨1, "", said ++ "Error: " ++ e.message ++ "\n", none⟩
      else .error (.run e)
    | .ok text => deliver o w text said := by
  refine ⟨((running o detail w).run "").2, ?_⟩
  simp only [runOptions, h, ← running_gives o detail w ""]
  rfl

theorem deliver_eq {s : Setting String} (h : o.output = some s) (text said : String) :
    deliver o w text said =
      match destination w s with
      | .ok path => .ok ⟨0, "", said, some (path, text)⟩
      | .error cause => .error (.output cause) := by
  simp only [deliver, h]
  rfl

theorem deliver_cases {text : String} (htext : result o w = .ok text) (said : String) :
    (∃ r, deliver o w text said = .ok r ∧ r.Delivered o w) ∨
      ∃ s cause, o.output = some s ∧ destination w s = .error cause ∧
        deliver o w text said = .error (.output cause) := by
  cases hout : o.output with
  | none =>
    refine .inl ⟨⟨0, text, said, none⟩, ?_, rfl, text, htext, .inl ⟨hout, rfl, rfl⟩⟩
    simp only [deliver, hout]
  | some s =>
    cases hdest : destination w s with
    | ok path =>
      obtain ⟨rfl, hwrite⟩ := destination_eq_ok.mp hdest
      refine .inl ⟨⟨0, "", said, some (path, text)⟩, ?_, rfl, text, htext,
        .inr ⟨path, hout, hwrite, rfl, rfl⟩⟩
      rw [deliver_eq hout, hdest]
    | error cause =>
      refine .inr ⟨s, cause, rfl, hdest, ?_⟩
      rw [deliver_eq hout, hdest]

theorem runOptions_cases (o : Options) (w : World) :
    (∃ r, runOptions o w = .ok r ∧ (r.Delivered o w ∨ r.Refused o w)) ∨
      ∃ c, runOptions o w = .error c ∧ Escapes o w c := by
  cases hlevel : o.debug with
  | blank => exact .inr ⟨.blankLevel, by simp only [runOptions, hlevel], .level hlevel⟩
  | value detail =>
    obtain ⟨said, hrun⟩ := runOptions_eq (w := w) hlevel
    cases hresult : result o w with
    | error e =>
      rw [hresult] at hrun
      cases hknown : e.isKnown with
      | true =>
        simp only [hknown, ↓reduceIte] at hrun
        refine .inl ⟨_, hrun, .inr ⟨rfl, rfl, rfl, said, e, hresult, ?_⟩⟩
        simp only [String.append_assoc]
      | false =>
        simp only [hknown, Bool.false_eq_true, ↓reduceIte] at hrun
        exact .inr ⟨_, hrun, .result hlevel (unforeseen_iff.mpr ⟨hresult, hknown⟩)⟩
    | ok text =>
      rw [hresult] at hrun
      simp only at hrun
      rw [hrun]
      rcases deliver_cases hresult said with ⟨r, hr, hdelivered⟩ | ⟨s, cause, hs, hcause, hfault⟩
      · exact .inl ⟨r, hr, .inl hdelivered⟩
      · exact .inr ⟨_, hfault, .output hlevel hresult hs hcause⟩

/-- **A run ends by a fault exactly if one escapes it.** -/
theorem runOptions_eq_error_iff {c : Crash} : runOptions o w = .error c ↔ Escapes o w c := by
  refine ⟨?_, ?_⟩
  · intro h
    rcases runOptions_cases o w with ⟨r, hr, -⟩ | ⟨d, hd, hescapes⟩
    · rw [h] at hr
      contradiction
    · rw [h] at hd
      cases hd
      exact hescapes
  · intro h
    cases h with
    | level hlevel => simp only [runOptions, hlevel]
    | result hlevel he =>
      obtain ⟨said, hrun⟩ := runOptions_eq (w := w) hlevel
      simp only [hrun, he.result_eq, he.isKnown_eq, Bool.false_eq_true, ↓reduceIte]
    | output hlevel htext hs hcause =>
      obtain ⟨said, hrun⟩ := runOptions_eq (w := w) hlevel
      simp only [hrun, htext, deliver_eq hs, hcause]

end

/-- **How a run of the command ends.** For arguments that ask for a run, whatever the files
hold, whatever the external compiler does and wherever the result is to go: a run ends by
a fault exactly if one of the faults of `Escapes` has a cause, and otherwise it delivers
exactly the text that was asked for with status zero, or is refused with a message and
status one, having written nothing else. -/
theorem run_ends {args : List String} {o : Options} (hargs : Options.parse args = .ok (.run o))
    (w : World) :
    (∀ c, run args w = .error c ↔ Escapes o w c) ∧
      ((∀ c, ¬ Escapes o w c) ↔
        ∃ r, run args w = .ok r ∧ (r.Delivered o w ∨ r.Refused o w)) := by
  have hrun : run args w = runOptions o w := by
    rw [run, hargs]
  rw [hrun]
  refine ⟨fun c => runOptions_eq_error_iff, ?_, ?_⟩
  · intro hnone
    rcases runOptions_cases o w with hends | ⟨c, -, hescapes⟩
    · exact hends
    · exact absurd hescapes (hnone c)
  · intro hends c hescapes
    obtain ⟨r, hr, -⟩ := hends
    rw [runOptions_eq_error_iff.mpr hescapes] at hr
    contradiction

/-! ## A run that delivers and a run that does not -/

/-- A run that asks for one protocol and one port. -/
def webOptions : Options where
  protocol := .value "tcp"
  dstPort := some (.value 80)

/-- No fault can escape a run that names no file. -/
theorem run_ends_webOptions :
    Options.parse ["--protocol", "tcp", "--dst-port=80"] = .ok (.run webOptions) ∧
      ∃ r, run ["--protocol", "tcp", "--dst-port=80"] (Directory.world {} none) = .ok r ∧
        (r.Delivered webOptions (Directory.world {} none) ∨
          r.Refused webOptions (Directory.world {} none)) := by
  have hargs : Options.parse ["--protocol", "tcp", "--dst-port=80"] = .ok (.run webOptions) := by
    rfl
  refine ⟨hargs, (run_ends hargs _).2.mp ?_⟩
  intro c h
  cases h with
  | level h => contradiction
  | result _ he => cases he <;> contradiction
  | output _ _ hs => contradiction

/-- A run whose expression asks for a port that is written with a raised digit. -/
def raisedOptions : Options where
  expression := some (.value "dst port ²")

theorem parse_raised_digit :
    Expression.parse "dst port ²" = .error (.scan (.numeral (.malformed "²"))) := by
  have hcomes : Expression.ComesTo "dst port ²" ['²'] :=
    Expression.comesTo_dstPort (Expression.word_iff.mpr ⟨by decide, rfl, rfl⟩)
  have hno : Expression.NoNumber ['²'] :=
    ⟨List.all_eq_true.mp (by decide), .inl ⟨'²', List.mem_cons_self, by decide⟩⟩
  exact Expression.parse_eq_numeral_iff.mpr ⟨['²'], hcomes, hno, rfl⟩

/-- The word counts as numeric, but it is no literal, and the run does not expect this. -/
theorem run_raised_digit :
    Options.parse ["--expression", "dst port ²"] = .ok (.run raisedOptions) ∧
      run ["--expression", "dst port ²"] (Directory.world {} none) =
        .error (.run (.expression (.scan (.numeral (.malformed "²"))))) := by
  have hargs : Options.parse ["--expression", "dst port ²"] = .ok (.run raisedOptions) := by
    rfl
  refine ⟨hargs, ?_⟩
  rw [run, hargs]
  exact runOptions_eq_error_iff.mpr (.result rfl (.numeral rfl parse_raised_digit))

end PacketFilter.Command
