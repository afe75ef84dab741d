import PacketFilter.Proofs.Criteria

/-
  What validation asks of a filter, and what it leaves of it.

  A filter may be built from any values. `Condition` lists what validation asks of them, in
  the order in which it asks, and `Condition.Holds` says of each condition what it means
  for the values, without the checks.

  What is proved:
    1. `validate_eq`: validation makes the checks in their order, and leaves the filter with
       its protocol in lower case if that names one.
    2. `check_eq_ok_iff`: a check passes exactly if its condition holds.
    3. `validate_iff_holds`: so a filter passes validation exactly if all conditions hold, and
       is refused for the first that does not.
    4. `validate_settles`: validation changes nothing but the letter case of the protocol,
       and after it validation finds the same and changes nothing.
-/

namespace PacketFilter.Filter

open Text

/-! ## The conditions -/

/-- The filter that is built from the values given for its fields. -/
def ofGiven (given : FilterField → Json) : Filter :=
  ofValues (given .protocol) (given (.address .src)) (given (.address .dst)) (given (.port .src))
    (given (.port .dst))

/-- A field is set: a port by any value but null, another field by a value that says
something. -/
def IsSet (given : FilterField → Json) : FilterField → Prop
  | .protocol => (given .protocol).isVoid = false
  | .address side => (given (.address side)).isVoid = false
  | .port side => given (.port side) ≠ .null

instance (given : FilterField → Json) : (x : FilterField) → Decidable (IsSet given x)
  | .protocol => inferInstanceAs (Decidable (_ = _))
  | .address _ => inferInstanceAs (Decidable (_ = _))
  | .port _ => inferInstanceAs (Decidable (_ ≠ _))

/-- An IPv4 address: the dotted text of a word, or a whole number of 32 bits, a truth value
counting as one. -/
inductive IsAddress : Json → Prop where
  | text {s : LooseText} {w : Nat} (hw : w < 0x100000000) (hs : s.text = Address.V4.text w) :
    IsAddress (.str s)
  | number {v : Json} {n : Int} (hv : v.int? = some n) (hlow : 0 ≤ n) (hhigh : n ≤ 0xffffffff) :
    IsAddress v

/-- What validation asks of the values. -/
inductive Condition where
  | protocol
  | address (side : Side)
  | port (side : Side)
  | something
  | portsSupported
  deriving DecidableEq, Repr

namespace Condition

/-- All conditions, in the order in which they are checked. -/
def all : List Condition :=
  [protocol, address .src, address .dst, port .src, port .dst, something, portsSupported]

/-- What a condition means for the values. -/
def Holds (given : FilterField → Json) : Condition → Prop
  | protocol => IsSet given .protocol → ∃ q : Protocol, lower (given .protocol).plain = q.name
  | address side => IsSet given (.address side) → IsAddress (given (.address side))
  | port side =>
    IsSet given (.port side) → ∃ n : Int, given (.port side) = .int n ∧ 0 ≤ n ∧ n ≤ 65535
  | something => ∃ x, IsSet given x
  | portsSupported =>
    ¬ (lower (given .protocol).plain = Protocol.icmp.name ∧ ∃ side, IsSet given (.port side))

/-- The error for values that break a condition. An address of the other kind has an error
of its own. -/
def error (given : FilterField → Json) : Condition → FilterError
  | protocol => .protocol (given .protocol)
  | address side =>
    if Address.Family.ofJson? (given (.address side)) = some .v6 then
      .notV4 side (given (.address side))
    else .address side (given (.address side))
  | port side => .port side (given (.port side))
  | something => .empty
  | portsSupported => .portsUnsupported .icmp

/-- The first condition that does not hold. -/
def FirstBroken (given : FilterField → Json) (c : Condition) : Prop :=
  ∃ before after, all = before ++ c :: after ∧ (∀ b ∈ before, b.Holds given) ∧ ¬ c.Holds given

theorem mem_all (c : Condition) : c ∈ all := by
  rcases c with _ | (_ | _) | (_ | _) | _ | _ <;> decide

end Condition

/-! ## The checks -/

def check (f : Filter) : Condition → Except FilterError Unit
  | .protocol => f.checkProtocol.map (fun _ => ())
  | .address side => f.checkAddress side
  | .port side => f.checkPort side
  | .something => f.checkSomething
  | .portsSupported => f.checkPortsSupported

/-- The filter with its protocol in lower case, if that names one. -/
def lowered (f : Filter) : Filter :=
  match f.protocol.bind protocolOf? with
  | some q => { f with protocol := some (.str q.name) }
  | none => f

section
variable {f : Filter} {q : Protocol}

theorem lowered_of_none (h : f.protocol.bind protocolOf? = none) : f.lowered = f := by
  rw [lowered, h]

theorem lowered_of_some (h : f.protocol.bind protocolOf? = some q) :
    f.lowered = { f with protocol := some (.str q.name) } := by
  rw [lowered, h]

theorem lowered_keeps (f : Filter) :
    f.lowered.srcIp = f.srcIp ∧ f.lowered.dstIp = f.dstIp ∧ f.lowered.srcPort = f.srcPort ∧
      f.lowered.dstPort = f.dstPort ∧ f.lowered.protocol.isNone = f.protocol.isNone := by
  cases h : f.protocol.bind protocolOf? with
  | none =>
    rw [lowered_of_none h]
    exact ⟨rfl, rfl, rfl, rfl, rfl⟩
  | some q =>
    obtain ⟨v, hv, -⟩ := Option.bind_eq_some_iff.mp h
    rw [lowered_of_some h, hv]
    exact ⟨rfl, rfl, rfl, rfl, rfl⟩

theorem lowered_address (f : Filter) (side : Side) : f.lowered.address side = f.address side := by
  obtain ⟨hsrc, hdst, -⟩ := f.lowered_keeps
  cases side with
  | src => exact hsrc
  | dst => exact hdst

theorem lowered_port (f : Filter) (side : Side) : f.lowered.port side = f.port side := by
  obtain ⟨-, -, hsrc, hdst, -⟩ := f.lowered_keeps
  cases side with
  | src => exact hsrc
  | dst => exact hdst

theorem lowered_protocol (f : Filter) :
    f.lowered.protocol.bind protocolOf? = f.protocol.bind protocolOf? := by
  cases h : f.protocol.bind protocolOf? with
  | none => rw [lowered_of_none h, h]
  | some q => rw [lowered_of_some h, Option.bind_some, protocolOf?_name]

theorem lowered_lowered (f : Filter) : f.lowered.lowered = f.lowered := by
  cases h : f.protocol.bind protocolOf? with
  | none => rw [lowered_of_none h, lowered_of_none h]
  | some q => rw [lowered_of_some (f.lowered_protocol.trans h), lowered_of_some h]

theorem checkProtocol_eq_ok (h : f.check .protocol = .ok ()) : f.checkProtocol = .ok f.lowered := by
  rw [check, map_eq_ok] at h
  obtain ⟨g, hg, -⟩ := h
  rw [hg, lowered]
  unfold checkProtocol at hg
  split at hg
  · next hnone =>
    cases hg
    rw [hnone]
    rfl
  · next v hv =>
    split at hg
    · next q hq =>
      cases hg
      rw [hv, Option.bind_some, hq]
    · contradiction

theorem checkProtocol_eq_error {e : FilterError} (h : f.check .protocol = .error e) :
    f.checkProtocol = .error e ∧ f.lowered = f := by
  rw [check, map_eq_error] at h
  refine ⟨h, lowered_of_none ?_⟩
  unfold checkProtocol at h
  split at h
  · contradiction
  · next v hv =>
    split at h
    · contradiction
    · next hq => rw [hv, Option.bind_some, hq]

theorem check_protocol_of_some (h : f.protocol.bind protocolOf? = some q) :
    f.check .protocol = .ok () := by
  obtain ⟨v, hv, hq⟩ := Option.bind_eq_some_iff.mp h
  simp only [check, checkProtocol, hv, hq, map_of_ok]

theorem check_lowered (f : Filter) (c : Condition) : f.lowered.check c = f.check c := by
  obtain ⟨hsrcIp, hdstIp, hsrcPort, hdstPort, hprotocol⟩ := f.lowered_keeps
  have hports : f.lowered.hasPorts = f.hasPorts := by rw [hasPorts, hasPorts, hsrcPort, hdstPort]
  have hempty : f.lowered.isEmpty = f.isEmpty := by
    rw [isEmpty, isEmpty, hprotocol, hsrcIp, hdstIp, hports]
  cases c with
  | protocol =>
    cases h : f.protocol.bind protocolOf? with
    | none => rw [lowered_of_none h]
    | some q => rw [check_protocol_of_some h, check_protocol_of_some (f.lowered_protocol.trans h)]
  | address side => simp only [check, checkAddress, lowered_address]
  | port side => simp only [check, checkPort, lowered_port]
  | something => rw [check, check, checkSomething, checkSomething, hempty]
  | portsSupported => simp only [check, checkPortsSupported, lowered_protocol, hports]

end

theorem checkRest_eq (f : Filter) : f.checkRest = Condition.all.tail.forM f.check := by
  have hlast : f.checkPortsSupported = (f.checkPortsSupported >>= fun _ => pure ()) :=
    bind_pure_unit.symm
  rw [checkRest, hlast]
  rfl

/-- **Validation makes the checks in their order**, and leaves the filter with its protocol
in lower case. -/
theorem validate_eq (f : Filter) : f.validate = (f.lowered, Condition.all.forM f.check) := by
  have hall : Condition.all.forM f.check =
      (f.check .protocol >>= fun _ => Condition.all.tail.forM f.check) := rfl
  rw [hall, validate]
  cases h : f.check .protocol with
  | ok u =>
    rw [checkProtocol_eq_ok h, ok_bind, ← funext f.check_lowered, ← checkRest_eq]
  | error e =>
    obtain ⟨hprotocol, hlowered⟩ := checkProtocol_eq_error h
    rw [hprotocol, error_bind, hlowered]

/-! ## The fields of a filter -/

section
variable {given : FilterField → Json}

theorem criterion_eq (v : Json) : criterion v = if v.isVoid = false then some v else none := by
  cases h : v.isVoid <;> simp [criterion, h]

theorem portCriterion_eq (v : Json) : portCriterion v = if v ≠ .null then some v else none := by
  cases v <;> simp [portCriterion]

theorem ofGiven_protocol :
    (ofGiven given).protocol = if IsSet given .protocol then some (given .protocol) else none :=
  criterion_eq _

theorem ofGiven_address (side : Side) : (ofGiven given).address side =
    if IsSet given (.address side) then some (given (.address side)) else none := by
  cases side <;> exact criterion_eq _

theorem ofGiven_port (side : Side) : (ofGiven given).port side =
    if IsSet given (.port side) then some (given (.port side)) else none := by
  cases side <;> exact portCriterion_eq _

theorem ofGiven_hasPorts :
    (ofGiven given).hasPorts = true ↔ ∃ side, IsSet given (.port side) := by
  have hports : (ofGiven given).hasPorts =
      (((ofGiven given).port .src).isSome || ((ofGiven given).port .dst).isSome) := rfl
  rw [hports, ofGiven_port, ofGiven_port, Bool.or_eq_true]
  constructor
  · rintro (h | h)
    · exact ⟨.src, by simpa using h⟩
    · exact ⟨.dst, by simpa using h⟩
  · rintro ⟨_ | _, h⟩
    · exact .inl (by simpa using h)
    · exact .inr (by simpa using h)

theorem ofGiven_isEmpty : (ofGiven given).isEmpty = false ↔ ∃ x, IsSet given x := by
  have hempty : (ofGiven given).isEmpty =
      ((ofGiven given).protocol.isNone && ((ofGiven given).address .src).isNone &&
        ((ofGiven given).address .dst).isNone && !(ofGiven given).hasPorts) := rfl
  have hnone {x : FilterField} : (if IsSet given x then some (given x) else none).isNone = false ↔
      IsSet given x := by simp
  rw [hempty, ofGiven_protocol, ofGiven_address, ofGiven_address, Bool.and_eq_false_iff,
    Bool.and_eq_false_iff, Bool.and_eq_false_iff, hnone, hnone, hnone, Bool.not_eq_false',
    ofGiven_hasPorts]
  constructor
  · rintro (((h | h) | h) | ⟨side, h⟩)
    · exact ⟨_, h⟩
    · exact ⟨_, h⟩
    · exact ⟨_, h⟩
    · exact ⟨_, h⟩
  · rintro ⟨_ | (_ | _) | side, h⟩
    · exact .inl (.inl (.inl h))
    · exact .inl (.inl (.inr h))
    · exact .inl (.inr h)
    · exact .inr ⟨side, h⟩

theorem isAddress_iff {v : Json} : IsAddress v ↔ Address.Family.ofJson? v = some .v4 := by
  simp only [Address.Family.ofJson?_eq_v4_iff, Address.V4.ofJson_eq_ok_iff]
  constructor
  · intro h
    cases h with
    | text hw hs => exact ⟨_, hw, .inr ⟨_, rfl, hs⟩⟩
    | @number _ n hv hlow hhigh =>
      refine ⟨n.toNat, by omega, .inl ?_⟩
      rw [hv, Int.toNat_of_nonneg hlow]
  · rintro ⟨w, hw, hint | ⟨s, rfl, hs⟩⟩
    · exact .number hint (by omega) (by omega)
    · exact .text hw hs

theorem isPort_iff {v : Json} : isPort v = true ↔ ∃ n : Int, v = .int n ∧ 0 ≤ n ∧ n ≤ 65535 := by
  constructor
  · intro h
    obtain ⟨n, rfl, hn⟩ := isPort_nat h
    exact ⟨n, rfl, by omega, by omega⟩
  · rintro ⟨n, rfl, hlow, hhigh⟩
    simp [isPort, Json.int, hlow, hhigh]

theorem protocolOf?_eq_some_iff {v : Json} {q : Protocol} :
    protocolOf? v = some q ↔ lower v.plain = q.name := by
  constructor
  · exact lower_of_protocolOf?
  · intro h
    rw [protocolOf?, h, Protocol.ofName?_name]

theorem protocolOf?_of_void {v : Json} (hv : v.isVoid = true) : protocolOf? v = none := by
  cases h : protocolOf? v with
  | none => rfl
  | some q =>
    obtain ⟨⟨units⟩, rfl⟩ := text_of_protocolOf? h
    cases units with
    | nil => contradiction
    | cons u units => contradiction

theorem ofGiven_protocolOf? :
    (ofGiven given).protocol.bind protocolOf? = protocolOf? (given .protocol) := by
  rw [ofGiven_protocol]
  split
  · rfl
  · next hset => rw [protocolOf?_of_void (by simpa [IsSet] using hset), Option.bind_none]

/-! ## What the checks find -/

/-- The check of a condition passes, or fails with the error of the condition. -/
def Answers (given : FilterField → Json) (c : Condition) : Prop :=
  (c.Holds given ∧ (ofGiven given).check c = .ok ()) ∨
    (¬ c.Holds given ∧ (ofGiven given).check c = .error (c.error given))

theorem protocol_answers : Answers given .protocol := by
  by_cases hset : IsSet given .protocol
  · have hv : (ofGiven given).protocol = some (given .protocol) := by
      rw [ofGiven_protocol, if_pos hset]
    cases hq : protocolOf? (given .protocol) with
    | some q =>
      refine .inl ⟨fun _ => ⟨q, protocolOf?_eq_some_iff.mp hq⟩, ?_⟩
      simp only [check, checkProtocol, hv, hq, map_of_ok]
    | none =>
      refine .inr ⟨?_, by simp only [check, checkProtocol, hv, hq, map_of_error, Condition.error]⟩
      intro h
      obtain ⟨q, hname⟩ := h hset
      rw [protocolOf?_eq_some_iff.mpr hname] at hq
      contradiction
  · have hv : (ofGiven given).protocol = none := by rw [ofGiven_protocol, if_neg hset]
    exact .inl ⟨fun h => absurd h hset, by simp only [check, checkProtocol, hv, map_of_ok]⟩

theorem address_answers (side : Side) : Answers given (.address side) := by
  by_cases hset : IsSet given (.address side)
  · have hv : (ofGiven given).address side = some (given (.address side)) := by
      rw [ofGiven_address, if_pos hset]
    have hholds : (Condition.address side).Holds given ↔
        Address.Family.ofJson? (given (.address side)) = some .v4 := by
      rw [Condition.Holds, forall_prop_of_true hset, isAddress_iff]
    simp only [Answers, hholds, check, checkAddress, hv, Condition.error]
    -- The value is an address of the first kind, of the second, or of none.
    rcases Address.Family.ofJson? (given (.address side)) with _ | (_ | _) <;> simp
  · have hv : (ofGiven given).address side = none := by rw [ofGiven_address, if_neg hset]
    exact .inl ⟨fun h => absurd h hset, by simp only [check, checkAddress, hv]⟩

theorem port_answers (side : Side) : Answers given (.port side) := by
  by_cases hset : IsSet given (.port side)
  · have hv : (ofGiven given).port side = some (given (.port side)) := by
      rw [ofGiven_port, if_pos hset]
    have hholds : (Condition.port side).Holds given ↔ isPort (given (.port side)) = true := by
      rw [Condition.Holds, forall_prop_of_true hset, isPort_iff]
    simp only [Answers, hholds, check, checkPort, hv, Condition.error]
    cases isPort (given (.port side)) <;> simp
  · have hv : (ofGiven given).port side = none := by rw [ofGiven_port, if_neg hset]
    exact .inl ⟨fun h => absurd h hset, by simp only [check, checkPort, hv]⟩

theorem something_answers : Answers given .something := by
  rw [Answers, Condition.Holds, ← ofGiven_isEmpty, check, checkSomething, Condition.error]
  cases (ofGiven given).isEmpty <;> simp

theorem portsSupported_answers : Answers given .portsSupported := by
  rw [Answers, Condition.Holds, ← protocolOf?_eq_some_iff, ← ofGiven_hasPorts, check,
    checkPortsSupported, ofGiven_protocolOf?, Condition.error]
  -- Of the three protocols one has no ports.
  rcases protocolOf? (given .protocol) with _ | (_ | _ | _) <;>
    cases (ofGiven given).hasPorts <;> simp [Protocol.hasPorts]

theorem answers (given : FilterField → Json) : ∀ c, Answers given c
  | .protocol => protocol_answers
  | .address side => address_answers side
  | .port side => port_answers side
  | .something => something_answers
  | .portsSupported => portsSupported_answers

theorem check_eq_ok_iff {c : Condition} : (ofGiven given).check c = .ok () ↔ c.Holds given := by
  rcases answers given c with ⟨hholds, hcheck⟩ | ⟨hbroken, hcheck⟩ <;> simp [*]

theorem check_eq_error_iff {c : Condition} {e : FilterError} :
    (ofGiven given).check c = .error e ↔ ¬ c.Holds given ∧ c.error given = e := by
  rcases answers given c with ⟨hholds, hcheck⟩ | ⟨hbroken, hcheck⟩ <;> simp [*]

end

/-! ## Validation -/

/-- **What validation asks.** A filter that is built from any values passes validation if
and only if every condition holds of the values. Otherwise it is refused with the error of
the first condition that does not hold. -/
theorem validate_iff_holds (given : FilterField → Json) :
    ((ofGiven given).validate.2 = .ok () ↔ ∀ c, Condition.Holds given c) ∧
      ∀ e, (ofGiven given).validate.2 = .error e ↔
        ∃ c, Condition.FirstBroken given c ∧ c.error given = e := by
  rw [validate_eq]
  constructor
  · rw [forM_eq_ok]
    constructor
    · intro h c
      exact check_eq_ok_iff.mp (h c c.mem_all)
    · intro h c _
      exact check_eq_ok_iff.mpr (h c)
  · intro e
    simp only [forM_eq_error, check_eq_ok_iff, check_eq_error_iff]
    constructor
    · rintro ⟨before, c, after, hall, hbefore, hbroken, he⟩
      exact ⟨c, ⟨before, after, hall, hbefore, hbroken⟩, he⟩
    · rintro ⟨c, ⟨before, after, hall, hbefore, hbroken⟩, he⟩
      exact ⟨before, c, after, hall, hbefore, hbroken, he⟩

/-- **What validation leaves.** Whether a filter passes or fails, validation keeps its
addresses and its ports, and of its protocol at most the letter case changes: to lower
case, exactly if that names a protocol. Validation of what is left finds the same, down to
the error, and leaves it as it is. -/
theorem validate_settles (f : Filter) :
    f.validate.1.address = f.address ∧ f.validate.1.port = f.port ∧
      (f.protocol = none → f.validate.1.protocol = none) ∧
      (∀ v, f.protocol = some v →
        ((∃ q : Protocol, lower v.plain = q.name) ∧
            f.validate.1.protocol = some (.str (lower v.plain))) ∨
          ((¬ ∃ q : Protocol, lower v.plain = q.name) ∧ f.validate.1.protocol = some v)) ∧
      f.validate.1.validate = f.validate := by
  rw [validate_eq f]
  refine ⟨funext f.lowered_address, funext f.lowered_port, ?_, ?_, ?_⟩
  · intro h
    rw [lowered_of_none (by rw [h]; rfl), h]
  · intro v hv
    cases hq : protocolOf? v with
    | some q =>
      have hname := protocolOf?_eq_some_iff.mp hq
      refine .inl ⟨⟨q, hname⟩, ?_⟩
      rw [lowered_of_some (by rw [hv]; exact hq), hname]
    | none =>
      refine .inr ⟨?_, by rw [lowered_of_none (by rw [hv]; exact hq), hv]⟩
      rintro ⟨q, hname⟩
      rw [protocolOf?_eq_some_iff.mpr hname] at hq
      contradiction
  · rw [validate_eq, lowered_lowered, funext f.check_lowered]

end PacketFilter.Filter
