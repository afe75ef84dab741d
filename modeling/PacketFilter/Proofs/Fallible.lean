/-
  Computations that may fail.

  A chain of steps fails with the error of its first step that fails. The lemmas
  here say what a chain, a mapped result and a mapped error are once it is known
  how the first step ends, take a chain that succeeded apart, and put the results
  of steps that all succeed together. Checks in a row fail by the first of them that
  fails (`forM_eq_error`).
-/

namespace PacketFilter

variable {ε ε' α β : Type}

@[simp] theorem ok_bind (a : α) (f : α → Except ε β) : (Except.ok a >>= f) = f a := rfl

@[simp] theorem error_bind (e : ε) (f : α → Except ε β) :
    (Except.error e >>= f) = Except.error e := rfl

@[simp] theorem pure_ok (a : α) : (pure a : Except ε α) = .ok a := rfl

@[simp] theorem map_of_ok (f : α → β) (a : α) : (Except.ok a : Except ε α).map f = .ok (f a) := rfl

@[simp] theorem map_of_error (f : α → β) (e : ε) :
    (Except.error e : Except ε α).map f = .error e := rfl

@[simp] theorem mapError_of_ok (f : ε → ε') (a : α) :
    (Except.ok a : Except ε α).mapError f = .ok a := rfl

@[simp] theorem mapError_of_error (f : ε → ε') (e : ε) :
    (Except.error e : Except ε α).mapError f = .error (f e) := rfl

theorem bind_eq_ok {x : Except ε α} {f : α → Except ε β} {b : β} :
    (x >>= f) = .ok b ↔ ∃ a, x = .ok a ∧ f a = .ok b := by
  cases x with
  | ok a => simp
  | error e => simp

theorem bind_eq_error {x : Except ε α} {f : α → Except ε β} {e : ε} :
    (x >>= f) = .error e ↔ x = .error e ∨ ∃ a, x = .ok a ∧ f a = .error e := by
  cases x with
  | ok a => simp
  | error e' => simp

theorem map_eq_ok {x : Except ε α} {f : α → β} {b : β} :
    x.map f = .ok b ↔ ∃ a, x = .ok a ∧ f a = b := by
  cases x with
  | ok a => simp
  | error e => simp

theorem map_eq_error {x : Except ε α} {f : α → β} {e : ε} :
    x.map f = .error e ↔ x = .error e := by
  cases x with
  | ok a => simp
  | error e' => simp

theorem mapError_eq_ok {x : Except ε α} {f : ε → ε'} {a : α} :
    x.mapError f = .ok a ↔ x = .ok a := by
  cases x with
  | ok b => simp
  | error e => simp

theorem mapError_eq_error {x : Except ε α} {f : ε → ε'} {e : ε'} :
    x.mapError f = .error e ↔ ∃ cause, x = .error cause ∧ f cause = e := by
  cases x with
  | ok a => simp
  | error e' => simp

theorem mapM_ok {f : α → Except ε β} {l : List α} (h : ∀ a ∈ l, ∃ b, f a = .ok b) :
    ∃ bs, l.mapM f = .ok bs ∧ bs.length = l.length ∧
      ∀ (i : Nat) (a : α), l[i]? = some a → ∃ b, bs[i]? = some b ∧ f a = .ok b := by
  induction l with
  | nil => exact ⟨[], rfl, rfl, by simp⟩
  | cons a l ih =>
    obtain ⟨b, hb⟩ := h a List.mem_cons_self
    obtain ⟨bs, hbs, hlen, hget⟩ := ih fun x hx => h x (List.mem_cons_of_mem a hx)
    refine ⟨b :: bs, ?_, by simp [hlen], ?_⟩
    · rw [List.mapM_cons, hb, ok_bind, hbs]; rfl
    · intro i x hx
      cases i with
      | zero => cases hx; exact ⟨b, rfl, hb⟩
      | succ i => exact hget i x hx

theorem mapM_isOk_iff {f : α → Except ε β} {l : List α} :
    (∃ bs, l.mapM f = .ok bs) ↔ ∀ a ∈ l, ∃ b, f a = .ok b := by
  constructor
  · intro h
    induction l with
    | nil => simp
    | cons a l ih =>
      obtain ⟨bs, hbs⟩ := h
      simp only [List.mapM_cons, bind_eq_ok] at hbs
      obtain ⟨b, hb, rest, hrest, -⟩ := hbs
      exact List.forall_mem_cons.mpr ⟨⟨b, hb⟩, ih ⟨rest, hrest⟩⟩
  · intro h
    obtain ⟨bs, hbs, -⟩ := mapM_ok h
    exact ⟨bs, hbs⟩

theorem mapM_error {f : α → Except ε β} {l : List α} {e : ε} (h : l.mapM f = .error e) :
    ∃ a ∈ l, f a = .error e := by
  induction l with
  | nil => contradiction
  | cons a l ih =>
    simp only [List.mapM_cons, bind_eq_error] at h
    rcases h with ha | ⟨b, -, hrest | ⟨bs, -, hpure⟩⟩
    · exact ⟨a, List.mem_cons_self, ha⟩
    · obtain ⟨x, hx, hcause⟩ := ih hrest
      exact ⟨x, List.mem_cons_of_mem a hx, hcause⟩
    · contradiction

theorem forM_eq_ok {check : α → Except ε Unit} {l : List α} :
    l.forM check = .ok () ↔ ∀ a ∈ l, check a = .ok () := by
  induction l with
  | nil => simp [List.forM]
  | cons a l ih =>
    rw [List.forM, bind_eq_ok, List.forall_mem_cons, ← ih]
    constructor
    · rintro ⟨⟨⟩, ha, hl⟩
      exact ⟨ha, hl⟩
    · rintro ⟨ha, hl⟩
      exact ⟨(), ha, hl⟩

/-- Checks that are made one after the other fail with the error of the first that fails. -/
theorem forM_eq_error {check : α → Except ε Unit} {l : List α} {e : ε} :
    l.forM check = .error e ↔ ∃ before a after, l = before ++ a :: after ∧
      (∀ b ∈ before, check b = .ok ()) ∧ check a = .error e := by
  induction l with
  | nil => simp [List.forM]
  | cons a l ih =>
    rw [List.forM, bind_eq_error]
    constructor
    · rintro (ha | ⟨⟨⟩, ha, hl⟩)
      · exact ⟨[], a, l, rfl, by simp, ha⟩
      · obtain ⟨before, b, after, rfl, hbefore, hb⟩ := ih.mp hl
        exact ⟨a :: before, b, after, rfl, List.forall_mem_cons.mpr ⟨ha, hbefore⟩, hb⟩
    · rintro ⟨before, b, after, hsplit, hbefore, hb⟩
      cases before with
      | nil =>
        cases hsplit
        exact .inl hb
      | cons c before =>
        cases hsplit
        obtain ⟨ha, hbefore⟩ := List.forall_mem_cons.mp hbefore
        exact .inr ⟨(), ha, ih.mpr ⟨before, b, after, rfl, hbefore, hb⟩⟩

end PacketFilter
