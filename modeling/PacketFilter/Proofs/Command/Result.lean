import PacketFilter.Command.Run
import PacketFilter.Proofs.Compile.Outcome

/-
  What comes of a run of the command.

  A run reads a filter, obtains a reference, compiles and compares, and comes to a text
  or to an error. It talks on the way, and what it says does not decide what comes of it.
  Some errors it expects and answers with a message, and others it does not.

  What is proved: what comes of a run depends neither on the level of detail nor on what
  was said, and is `result`, in which nothing is said (`running_gives`); and the errors
  that a run does not expect are an expression left blank or with a number that cannot be
  read, a path that is none, a file that is no text, a document with a number too long or
  nested too deep, and an external compiler that writes what is no text
  (`unforeseen_iff`). A filter that is refused, a program that cannot be compiled and
  whatever else the external compiler does are not among them.
-/

namespace PacketFilter.Command

/-! ## What comes of a run in progress -/

/-- Whatever has been said before, `x` comes to `r`. -/
def Gives {α : Type} (x : Running α) (r : Except RunError α) : Prop :=
  ∀ said, (x.run said).1 = r

namespace Gives

variable {α β : Type}

theorem say (s : String) : Gives (Command.say s) (.ok ()) := fun _ => rfl

theorem attempt {ε : Type} (wrap : ε → RunError) (r : Except ε α) :
    Gives (Command.attempt wrap r) (r.mapError wrap) := by
  intro said
  cases r with
  | ok a => rfl
  | error e => rfl

theorem attempt_id (r : Except RunError α) : Gives (Command.attempt id r) r := by
  intro said
  cases r with
  | ok a => rfl
  | error e => rfl

theorem bind {x : Running α} {f : α → Running β} {r : Except RunError α}
    {g : α → Except RunError β} (hx : Gives x r) (hf : ∀ a, Gives (f a) (g a)) :
    Gives (x >>= f) (r >>= g) := by
  intro said
  have hfirst := hx said
  -- What the first part says goes on to the second, unless the first part fails.
  have hbind : (x >>= f).run said =
      match x.run said with
      | (.ok a, said) => (f a).run said
      | (.error e, said) => (.error e, said) := by
    show (match x said with | (a, s) => ExceptT.bindCont f a s) = _
    cases hrun : x said with
    | mk outcome later => cases outcome <;> simp only [ExceptT.run, hrun] <;> rfl
  rw [hbind]
  cases hrun : x.run said with
  | mk outcome later =>
    rw [hrun] at hfirst
    cases outcome with
    | ok a =>
      rw [← hfirst]
      exact hf a later
    | error e =>
      rw [← hfirst]
      rfl

/-- Something said first changes nothing. -/
theorem said (s : String) {f : Unit → Running β} {r : Except RunError β} (hf : Gives (f ()) r) :
    Gives (Command.say s >>= f) r :=
  bind (g := fun _ => r) (say s) (fun _ => hf)

theorem ite {c : Prop} [Decidable c] {x y : Running α} {r : Except RunError α} (hx : Gives x r)
    (hy : Gives y r) : Gives (if c then x else y) r := by
  split
  · exact hx
  · exact hy

end Gives

/-- The reference program for a filter, nothing being said. -/
def referenceOf (o : Options) (w : World) (f : Filter) : Except RunError Program :=
  match o.referenceDump with
  | some file => do
    let expression ← f.expression.mapError .join
    let bytes ← (fileOf w file).mapError .file
    (Reference.ofFile bytes expression).mapError .ofLoad
  | none => (Reference.obtain f (o.tcpdump.getD "") w.tool).2.mapError .ofFailure

/-- What a run comes to: the text that was asked for, or an error. -/
def result (o : Options) (w : World) : Except RunError String := do
  let f ← checkedFilter o w
  let reference ← referenceOf o w f
  let compilation ← (FailFast.compile f).mapError .compile
  return render (o.format.getD .report) f (Comparison.of reference compilation.program)

theorem reference_gives (o : Options) (detail : Int) (w : World) (f : Filter) :
    Gives (reference o detail w f) (referenceOf o w f) := by
  unfold reference referenceOf
  cases o.referenceDump with
  | some file =>
    apply Gives.bind (.attempt _ _)
    intro expression
    apply Gives.bind (.attempt _ _)
    intro bytes
    exact .attempt _ _
  | none => exact .said _ (.attempt _ _)

/-- **What is said does not decide what comes of a run.** -/
theorem running_gives (o : Options) (detail : Int) (w : World) :
    Gives (running o detail w) (result o w) := by
  unfold running result
  apply Gives.bind (.attempt_id _)
  intro f
  -- Showing the filter and the program is optional, and what follows is the same.
  refine .ite (.said _ ?_) ?_
  all_goals
    apply Gives.bind (reference_gives o detail w f)
    intro reference
    apply Gives.bind (.attempt _ _)
    intro compilation
    apply Gives.said
    refine .ite (.said _ (.said _ ?_)) ?_
    all_goals exact .said _ (fun _ => rfl)

/-! ## Errors that a run does not expect -/

/-- What the compiler writes is no text, on the first channel or else on the second. -/
def Garbles (tool : Tool) (cause : Text.DecodeError) : Prop :=
  ∃ status stdout stderr, tool.run = .ended status stdout stderr ∧
    (tool.decode stdout = .error cause ∨
      (∃ out, tool.decode stdout = .ok out) ∧ tool.decode stderr = .error cause)

/-- The errors of a run that it does not expect, and what they come from. -/
inductive Unforeseen (o : Options) (w : World) : RunError → Prop where
  /-- The expression was left blank. -/
  | blankExpression (h : o.expression = some .blank) : Unforeseen o w .blankExpression
  /-- The expression has a word of numeric characters that is no number. -/
  | numeral {text : String} {cause : LiteralError} (h : o.expression = some (.value text))
      (hparse : Expression.parse text = .error (.scan (.numeral cause))) :
      Unforeseen o w (.expression (.scan (.numeral cause)))
  /-- The filter's path is none, which is not for the system to say. -/
  | filterPath {file : Setting String} {cause : OpenError} (h : o.expression = none)
      (hfile : o.filterFile = some file) (hopen : fileOf w file = .error cause)
      (hcause : ∀ errno path, cause ≠ .system errno path) : Unforeseen o w (.file cause)
  /-- The filter's file is no text. -/
  | filterBytes {file : Setting String} {bytes : List UInt8} {cause : Text.DecodeError}
      (h : o.expression = none) (hfile : o.filterFile = some file)
      (hopen : fileOf w file = .ok bytes) (hdecode : Text.Charset.utf8.decode bytes = .error cause) :
      Unforeseen o w (.decode cause)
  /-- The filter's document has a number that is too long, or is nested too deep. -/
  | filterDocument {file : Setting String} {bytes : List UInt8} {text : String} {cause : JsonError}
      (h : o.expression = none) (hfile : o.filterFile = some file)
      (hopen : fileOf w file = .ok bytes) (hdecode : Text.Charset.utf8.decode bytes = .ok text)
      (hread : Json.read w.nesting text = .error cause)
      (hcause : ∀ what position line column, cause ≠ .fault what position line column) :
      Unforeseen o w (.json cause)
  /-- The dump's path is none. -/
  | dumpPath {f : Filter} {file : Setting String} {cause : OpenError}
      (h : checkedFilter o w = .ok f) (hfile : o.referenceDump = some file)
      (hopen : fileOf w file = .error cause) (hcause : ∀ errno path, cause ≠ .system errno path) :
      Unforeseen o w (.file cause)
  /-- The dump is no text. -/
  | dumpBytes {f : Filter} {file : Setting String} {bytes : List UInt8} {cause : Text.DecodeError}
      (h : checkedFilter o w = .ok f) (hfile : o.referenceDump = some file)
      (hopen : fileOf w file = .ok bytes)
      (hdecode : Text.Charset.ascii.decode bytes = .error cause) : Unforeseen o w (.decode cause)
  /-- The external compiler is asked, and what it writes is no text. -/
  | toolBytes {f : Filter} {tool : Tool} {cause : Text.DecodeError}
      (h : checkedFilter o w = .ok f) (hfile : o.referenceDump = none) (htool : w.tool = some tool)
      (hgarbles : Garbles tool cause) : Unforeseen o w (.decode cause)

theorem isKnown_file {cause : OpenError} :
    (RunError.file cause).isKnown = false ↔ ∀ errno path, cause ≠ .system errno path := by
  cases cause with
  | system errno path => exact ⟨nofun, fun h => absurd rfl (h errno path)⟩
  | noPath => exact ⟨fun _ => nofun, fun _ => rfl⟩
  | nullCharacter => exact ⟨fun _ => nofun, fun _ => rfl⟩

theorem isKnown_json {cause : JsonError} :
    (RunError.json cause).isKnown = false ↔
      ∀ what position line column, cause ≠ .fault what position line column := by
  cases cause with
  | fault what position line column =>
    exact ⟨nofun, fun h => absurd rfl (h what position line column)⟩
  | number cause => exact ⟨fun _ => nofun, fun _ => rfl⟩
  | tooDeep nest => exact ⟨fun _ => nofun, fun _ => rfl⟩

theorem isKnown_expression {cause : Expression.ExpressionError} :
    (RunError.expression cause).isKnown = false ↔ ∃ e, cause = .scan (.numeral e) := by
  cases cause with
  | scan cause =>
    cases cause with
    | numeral e => exact ⟨fun _ => ⟨e, rfl⟩, fun _ => rfl⟩
    | illegalCharacter c position => exact ⟨nofun, nofun⟩
    | unsupportedKeyword word => exact ⟨nofun, nofun⟩
  | empty => exact ⟨nofun, nofun⟩
  | unexpectedToken text => exact ⟨nofun, nofun⟩
  | unexpectedEnd => exact ⟨nofun, nofun⟩
  | repeated field => exact ⟨nofun, nofun⟩

section
variable {o : Options} {w : World} {e : RunError}

/-! ### Where an error that is not expected comes from -/

theorem filterOf_expression {text : String} (h : o.expression = some (.value text)) :
    filterOf o w = (Expression.parse text).mapError .expression := by
  simp only [filterOf, h]

theorem filterOf_file {file : Setting String} (h : o.expression = none)
    (hfile : o.filterFile = some file) :
    filterOf o w = (do filterOfFile w (← (fileOf w file).mapError .file)) := by
  simp only [filterOf, h, hfile]

theorem filterOf_unforeseen (h : filterOf o w = .error e) (he : e.isKnown = false) :
    Unforeseen o w e := by
  unfold filterOf at h
  split at h
  · next text hexpression =>
    obtain ⟨cause, hparse, rfl⟩ := mapError_eq_error.mp h
    obtain ⟨numeral, rfl⟩ := isKnown_expression.mp he
    exact .numeral hexpression hparse
  · next hexpression =>
    cases h
    exact .blankExpression hexpression
  · next file hexpression hfile =>
    simp only [filterOfFile, bind_eq_error, mapError_eq_error, mapError_eq_ok] at h
    rcases h with ⟨cause, hopen, rfl⟩ | ⟨bytes, hopen, ⟨cause, hdecode, rfl⟩ |
      ⟨text, hdecode, ⟨cause, hread, rfl⟩ | ⟨value, -, cause, -, rfl⟩⟩⟩
    · exact .filterPath hexpression hfile hopen (isKnown_file.mp he)
    · exact .filterBytes hexpression hfile hopen hdecode
    · exact .filterDocument hexpression hfile hopen hdecode hread (isKnown_json.mp he)
    · contradiction
  · contradiction

theorem checkedFilter_unforeseen (h : checkedFilter o w = .error e) (he : e.isKnown = false) :
    Unforeseen o w e := by
  simp only [checkedFilter, bind_eq_error, mapError_eq_error] at h
  rcases h with h | ⟨f, -, cause, -, rfl⟩
  · exact filterOf_unforeseen h he
  · contradiction

theorem checkedFilter_checked {f : Filter} (h : checkedFilter o w = .ok f) : f.Checked := by
  simp only [checkedFilter, bind_eq_ok, mapError_eq_ok] at h
  obtain ⟨g, -, hvalid⟩ := h
  exact Filter.validated_checked hvalid

theorem output_error {tool : Tool} {command : List String} {cause : Reference.Failure}
    (h : Reference.output tool command = .error cause) :
    (∃ reason, cause = .reference reason) ∨ ∃ e, cause = .decode e ∧ Garbles tool e := by
  unfold Reference.output at h
  split at h
  · cases h
    exact .inl ⟨_, rfl⟩
  · next status stdout stderr hrun =>
    simp only [bind_eq_error, mapError_eq_error, mapError_eq_ok] at h
    rcases h with ⟨e, hout, rfl⟩ | ⟨out, hout, ⟨e, herr, rfl⟩ | ⟨err, -, h⟩⟩
    · exact .inr ⟨e, rfl, status, stdout, stderr, hrun, .inl hout⟩
    · exact .inr ⟨e, rfl, status, stdout, stderr, hrun, .inr ⟨⟨out, hout⟩, herr⟩⟩
    · split at h
      · contradiction
      · cases h
        exact .inl ⟨_, rfl⟩

theorem output_garbled {tool : Tool} {e : Text.DecodeError} (h : Garbles tool e)
    (command : List String) : Reference.output tool command = .error (.decode e) := by
  obtain ⟨status, stdout, stderr, hrun, hout | ⟨⟨out, hout⟩, herr⟩⟩ := h
  · simp only [Reference.output, hrun, hout, mapError_of_error, error_bind]
  · simp only [Reference.output, hrun, hout, herr, mapError_of_ok, mapError_of_error, ok_bind,
      error_bind]

/-- A checked filter has a reference, or the reason why it has none is an error that is
expected, or a compiler was asked that writes what is no text. -/
theorem obtain_error {f : Filter} (hf : f.Checked) {name : String} {tool : Option Tool}
    {cause : Reference.Failure} (h : (Reference.obtain f name tool).2 = .error cause) :
    (∃ reason, cause = .reference reason) ∨
      ∃ t e, tool = some t ∧ cause = .decode e ∧ Garbles t e := by
  cases tool with
  | none =>
    -- The program that stands in for the compiler's is there.
    obtain ⟨ss, prog, -, -, -, his⟩ := FailFast.checked_outcome hf
    obtain ⟨reference, hreference, -⟩ := Reference.obtain_standIn hf name his
    rw [hreference] at h
    contradiction
  | some tool =>
    obtain ⟨expression, hexpression, hsome⟩ := hf.expression_ok
    rw [Reference.obtain_tool hexpression hsome, bind_eq_error] at h
    rcases h with h | ⟨out, -, h⟩
    · obtain hreason | ⟨e, rfl, hgarbles⟩ := output_error h
      · exact .inl hreason
      · exact .inr ⟨tool, e, rfl, rfl, hgarbles⟩
    · obtain ⟨cause, -, rfl⟩ := mapError_eq_error.mp h
      exact .inl ⟨_, rfl⟩

/-- A checked filter has an expression, so only the dump itself can be at fault. -/
theorem referenceOf_dump {f : Filter} (hf : f.Checked) {file : Setting String}
    (hfile : o.referenceDump = some file) :
    ∃ expression, referenceOf o w f = (do
      let bytes ← (fileOf w file).mapError .file
      (Reference.ofFile bytes expression).mapError .ofLoad) := by
  obtain ⟨expression, hexpression, -⟩ := hf.expression_ok
  refine ⟨expression, ?_⟩
  simp only [referenceOf, hfile, hexpression, mapError_of_ok, ok_bind]

theorem referenceOf_unforeseen {f : Filter} (hchecked : checkedFilter o w = .ok f)
    (h : referenceOf o w f = .error e) (he : e.isKnown = false) : Unforeseen o w e := by
  have hf := checkedFilter_checked hchecked
  cases hfile : o.referenceDump with
  | some file =>
    obtain ⟨expression, hreference⟩ := referenceOf_dump (w := w) hf hfile
    rw [hreference] at h
    simp only [bind_eq_error, mapError_eq_error, mapError_eq_ok, Reference.ofFile] at h
    rcases h with ⟨cause, hopen, rfl⟩ | ⟨bytes, hopen, load, ⟨cause, hdecode, rfl⟩ |
      ⟨text, -, cause, -, rfl⟩, rfl⟩
    · exact .dumpPath hchecked hfile hopen (isKnown_file.mp he)
    · exact .dumpBytes hchecked hfile hopen hdecode
    · contradiction
  | none =>
    simp only [referenceOf, hfile] at h
    obtain ⟨cause, hobtain, rfl⟩ := mapError_eq_error.mp h
    obtain ⟨reason, rfl⟩ | ⟨tool, garbled, htool, rfl, hgarbles⟩ := obtain_error hf hobtain
    · contradiction
    · exact .toolBytes hchecked hfile htool hgarbles

theorem compile_ok {f : Filter} (hf : f.Checked) : ∃ c, FailFast.compile f = .ok c := by
  obtain ⟨ss, prog, -, hprog, -, -⟩ := FailFast.checked_outcome hf
  obtain ⟨c, hc, -⟩ := map_eq_ok.mp hprog
  exact ⟨c, hc⟩

/-! ### What such an error does to the result -/

theorem result_of_filterOf (h : filterOf o w = .error e) : result o w = .error e := by
  rw [result, checkedFilter, h, error_bind, error_bind]

theorem result_of_referenceOf {f : Filter} (hf : checkedFilter o w = .ok f)
    (h : referenceOf o w f = .error e) : result o w = .error e := by
  rw [result, hf, ok_bind, h, error_bind]

theorem Unforeseen.isKnown_eq (h : Unforeseen o w e) : e.isKnown = false := by
  cases h with
  | blankExpression => rfl
  | numeral => rfl
  | filterPath _ _ _ hcause => exact isKnown_file.mpr hcause
  | filterBytes => rfl
  | filterDocument _ _ _ _ _ hcause => exact isKnown_json.mpr hcause
  | dumpPath _ _ _ hcause => exact isKnown_file.mpr hcause
  | dumpBytes => rfl
  | toolBytes => rfl

theorem Unforeseen.result_eq (h : Unforeseen o w e) : result o w = .error e := by
  cases h with
  | blankExpression h =>
    apply result_of_filterOf
    simp only [filterOf, h]
  | numeral h hparse =>
    apply result_of_filterOf
    rw [filterOf_expression h, hparse, mapError_of_error]
  | filterPath h hfile hopen =>
    apply result_of_filterOf
    rw [filterOf_file h hfile, hopen, mapError_of_error, error_bind]
  | filterBytes h hfile hopen hdecode =>
    apply result_of_filterOf
    rw [filterOf_file h hfile, hopen, mapError_of_ok, ok_bind, filterOfFile, hdecode,
      mapError_of_error, error_bind]
  | filterDocument h hfile hopen hdecode hread =>
    apply result_of_filterOf
    rw [filterOf_file h hfile, hopen, mapError_of_ok, ok_bind, filterOfFile, hdecode, mapError_of_ok,
      ok_bind, hread, mapError_of_error, error_bind]
  | dumpPath h hfile hopen =>
    obtain ⟨expression, hreference⟩ := referenceOf_dump (w := w) (checkedFilter_checked h) hfile
    apply result_of_referenceOf h
    rw [hreference, hopen, mapError_of_error, error_bind]
  | dumpBytes h hfile hopen hdecode =>
    obtain ⟨expression, hreference⟩ := referenceOf_dump (w := w) (checkedFilter_checked h) hfile
    apply result_of_referenceOf h
    rw [hreference, hopen, mapError_of_ok, ok_bind, Reference.ofFile, hdecode, mapError_of_error,
      error_bind]
    rfl
  | toolBytes h hfile htool hgarbles =>
    obtain ⟨expression, hexpression, hsome⟩ := (checkedFilter_checked h).expression_ok
    apply result_of_referenceOf h
    simp only [referenceOf, hfile, htool]
    rw [Reference.obtain_tool hexpression hsome, output_garbled hgarbles, error_bind]
    rfl

/-- **The errors that a run does not expect.** Compilation is not among them, nor the
failure of the external compiler, nor what a filter, a document or a dump says. -/
theorem unforeseen_iff : Unforeseen o w e ↔ result o w = .error e ∧ e.isKnown = false := by
  refine ⟨?_, ?_⟩
  · intro h
    exact ⟨h.result_eq, h.isKnown_eq⟩
  · intro h
    obtain ⟨hresult, he⟩ := h
    simp only [result, bind_eq_error] at hresult
    rcases hresult with hfilter | ⟨f, hf, hreference | ⟨reference, -, hcompile⟩⟩
    · exact checkedFilter_unforeseen hfilter he
    · exact referenceOf_unforeseen hf hreference he
    · obtain ⟨c, hc⟩ := compile_ok (checkedFilter_checked hf)
      rw [hc] at hcompile
      simp only [mapError_of_ok, reduceCtorEq, pure_ok, and_false, exists_false, or_self] at hcompile

end

end PacketFilter.Command
