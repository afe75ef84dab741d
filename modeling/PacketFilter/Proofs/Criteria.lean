import PacketFilter.Filter.Validation
import PacketFilter.Proofs.Address
import PacketFilter.Proofs.Machine

/-
  What a filter asks of a packet.

  `Filter.Matches f p` is the meaning of a filter: the packet `p` is IPv4, and has
  the protocol, the addresses and the ports that `f` asks for. A packet too short
  to hold a field has no value there, so it matches no filter that asks for it. A
  packet that is a later fragment has no ports.

  `Filter.Checked f` is what is known of a filter once it has passed validation:
  every field that is set stands for a number of its width, and some field is set.

  What is proved: validation leaves a checked filter (`validated_checked`), and
  every checked filter asks for something that a bare Ethernet header lacks
  (`Checked.not_matches_short`).
-/

namespace PacketFilter

/-- The packet has everything the filter asks for. -/
structure Filter.Matches (f : Filter) (p : Packet) : Prop where
  ethertype : p.half? 12 = some 0x0800
  protocol : ∀ v, f.protocol = some v →
    ∃ q, Filter.protocolOf? v = some q ∧ p.byte? 23 = some q.number
  srcIp : ∀ v, f.srcIp = some v → ∃ w, Address.V4.ofJson v = .ok w ∧ p.word? 26 = some w
  dstIp : ∀ v, f.dstIp = some v → ∃ w, Address.V4.ofJson v = .ok w ∧ p.word? 30 = some w
  fragment : f.hasPorts = true → ∃ h, p.half? 20 = some h ∧ h &&& 0x1fff = 0
  srcPort : ∀ v, f.srcPort = some v → ∃ n, v = .nat n ∧ p.srcPort? = some n
  dstPort : ∀ v, f.dstPort = some v → ∃ n, v = .nat n ∧ p.dstPort? = some n

/-- Every field that is set stands for a number, and some field is set. -/
structure Filter.Checked (f : Filter) : Prop where
  protocol : ∀ v, f.protocol = some v → ∃ q : Protocol, v = .str q.name
  srcIp : ∀ v, f.srcIp = some v → ∃ w, Address.V4.ofJson v = .ok w
  dstIp : ∀ v, f.dstIp = some v → ∃ w, Address.V4.ofJson v = .ok w
  srcPort : ∀ v, f.srcPort = some v → ∃ n, v = .nat n ∧ n ≤ 65535
  dstPort : ∀ v, f.dstPort = some v → ∃ n, v = .nat n ∧ n ≤ 65535
  something : f.isEmpty = false

/-! ## Texts and protocols -/

theorem Protocol.ofName?_name (q : Protocol) : Protocol.ofName? q.name = some q := by
  cases q <;> decide

theorem Filter.protocolOf?_name (q : Protocol) : Filter.protocolOf? (.str q.name) = some q := by
  have h : Text.lower q.name = q.name := by cases q <;> decide
  simp [Filter.protocolOf?, Json.plain, h, Protocol.ofName?_name]

theorem Protocol.letters (q : Protocol) : ∀ c ∈ q.name.toList, Text.AsciiLetter c := by
  have hall : q.name.toList.all (fun c => decide (Text.AsciiLetter c)) = true := by
    cases q <;> decide
  intro c hc
  exact of_decide_eq_true (List.all_eq_true.mp hall c hc)

theorem Filter.lower_of_protocolOf? {v : Json} {q : Protocol} (h : Filter.protocolOf? v = some q) :
    Text.lower v.plain = q.name := by
  have hfound : Protocol.all.find? (fun p => p.name == Text.lower v.plain) = some q := h
  have hname : q.name = Text.lower v.plain := by simpa using List.find?_some hfound
  exact hname.symm

/-- Only a text names a protocol, though every value is shown as one. -/
theorem Filter.text_of_protocolOf? {v : Json} {q : Protocol} (h : Filter.protocolOf? v = some q) :
    ∃ s, v = .str s := by
  have hlower := Filter.lower_of_protocolOf? h
  rcases Json.plain_letters (Text.letter_of_lower hlower q.letters) with htext | hname
  · exact htext
  · have hother : ∀ t ∈ ["None", "True", "False", "inf", "nan"], Text.lower t ≠ q.name := by
      cases q <;> decide
    exact absurd hlower (hother _ hname)

/-! ## Validation -/

namespace Filter

theorem checkProtocol_ok {f g : Filter} (h : f.checkProtocol = .ok g) (v : Json)
    (hv : g.protocol = some v) : ∃ q : Protocol, v = .str q.name := by
  unfold checkProtocol at h
  split at h
  · next hp =>
    cases h
    rw [hp] at hv
    contradiction
  · split at h
    · next q _ =>
      cases h
      exact ⟨q, (Option.some.inj hv).symm⟩
    · contradiction

theorem checkAddress_ok {f : Filter} {side : Side} (h : f.checkAddress side = .ok ()) (v : Json)
    (hv : f.address side = some v) : ∃ w, Address.V4.ofJson v = .ok w := by
  simp only [checkAddress, hv] at h
  split at h
  · next hfamily => exact Address.Family.ofJson?_eq_v4_iff.mp hfamily
  · contradiction
  · contradiction

theorem isPort_nat {v : Json} (h : isPort v = true) : ∃ n, v = .nat n ∧ n ≤ 65535 := by
  unfold isPort at h
  split at h
  · next n =>
    simp only [Bool.and_eq_true, decide_eq_true_eq] at h
    refine ⟨n.toNat, ?_, by omega⟩
    rw [Json.nat, Int.toNat_of_nonneg h.1]
  · contradiction

theorem checkPort_ok {f : Filter} {side : Side} (h : f.checkPort side = .ok ()) (v : Json)
    (hv : f.port side = some v) : ∃ n, v = .nat n ∧ n ≤ 65535 := by
  simp only [checkPort, hv] at h
  split at h
  · next hp => exact isPort_nat hp
  · contradiction

theorem checkSomething_ok {f : Filter} (h : f.checkSomething = .ok ()) : f.isEmpty = false := by
  unfold checkSomething at h
  split at h
  · contradiction
  · next he => simpa using he

theorem checkRest_ok {f : Filter} (h : f.checkRest = .ok ()) :
    f.checkAddress .src = .ok () ∧ f.checkAddress .dst = .ok () ∧ f.checkPort .src = .ok () ∧
      f.checkPort .dst = .ok () ∧ f.checkSomething = .ok () ∧ f.checkPortsSupported = .ok () := by
  simp only [checkRest, bind_eq_ok] at h
  obtain ⟨_, hs, _, hd, _, ps, _, pd, _, he, hu⟩ := h
  exact ⟨hs, hd, ps, pd, he, hu⟩

theorem validated_checks {f g : Filter} (h : f.validated = .ok g) :
    f.checkProtocol = .ok g ∧ g.checkRest = .ok () := by
  unfold validated validate at h
  cases hp : f.checkProtocol with
  | error e => rw [hp] at h; contradiction
  | ok g' =>
    rw [hp] at h
    simp only at h
    split at h
    · next hr =>
      cases h
      obtain ⟨rfl, hrest⟩ := Prod.mk.inj hr
      exact ⟨rfl, hrest⟩
    · contradiction

theorem validated_checked {f g : Filter} (h : f.validated = .ok g) : g.Checked := by
  obtain ⟨hp, hrest⟩ := validated_checks h
  obtain ⟨hs, hd, ps, pd, he, _⟩ := checkRest_ok hrest
  exact {
    protocol := checkProtocol_ok hp
    srcIp := checkAddress_ok hs
    dstIp := checkAddress_ok hd
    srcPort := checkPort_ok ps
    dstPort := checkPort_ok pd
    something := checkSomething_ok he }

/-- Validation writes the protocol in lower case and changes nothing else. -/
theorem validated_eq {f g : Filter} (h : f.validated = .ok g) :
    (f.protocol = none ∧ g = f) ∨
      ∃ v q, f.protocol = some v ∧ protocolOf? v = some q ∧
        g = { f with protocol := some (.str q.name) } := by
  have hp := (validated_checks h).1
  unfold checkProtocol at hp
  split at hp
  · next hnone =>
    cases hp
    exact .inl ⟨hnone, rfl⟩
  · next v hv =>
    split at hp
    · next q hq =>
      cases hp
      exact .inr ⟨v, q, hv, hq, rfl⟩
    · contradiction

theorem validated_keeps {f g : Filter} (h : f.validated = .ok g) :
    f.address = g.address ∧ f.port = g.port := by
  rcases validated_eq h with ⟨-, rfl⟩ | ⟨v, q, -, -, rfl⟩
  · exact ⟨rfl, rfl⟩
  · exact ⟨funext fun side => by cases side <;> rfl, funext fun side => by cases side <;> rfl⟩

/-- A packet that ends with its Ethernet header has nothing of what a checked
filter asks for. -/
theorem Checked.not_matches_short {f : Filter} (hf : f.Checked) {p : Packet} (h : p.length ≤ 14) :
    ¬ f.Matches p := by
  intro m
  have hbyte : p.byte? 23 = none := Packet.byte?_eq_none (by omega)
  have hsrc : p.word? 26 = none := Packet.word?_eq_none (by omega)
  have hdst : p.word? 30 = none := Packet.word?_eq_none (by omega)
  have hfrag : p.half? 20 = none := Packet.half?_eq_none (by omega)
  have hprotocol : f.protocol = none := by
    refine Option.eq_none_iff_forall_ne_some.mpr fun v hv => ?_
    obtain ⟨q, _, hq⟩ := m.protocol v hv
    rw [hbyte] at hq; contradiction
  have hsrcIp : f.srcIp = none := by
    refine Option.eq_none_iff_forall_ne_some.mpr fun v hv => ?_
    obtain ⟨w, _, hw⟩ := m.srcIp v hv
    rw [hsrc] at hw; contradiction
  have hdstIp : f.dstIp = none := by
    refine Option.eq_none_iff_forall_ne_some.mpr fun v hv => ?_
    obtain ⟨w, _, hw⟩ := m.dstIp v hv
    rw [hdst] at hw; contradiction
  have hports : f.hasPorts = false := by
    refine Bool.eq_false_iff.mpr fun hv => ?_
    obtain ⟨w, hw, _⟩ := m.fragment hv
    rw [hfrag] at hw; contradiction
  have := hf.something
  simp [isEmpty, hprotocol, hsrcIp, hdstIp, hports] at this

end Filter

/-! ## A filter and a packet it matches -/

/-- Requests from one host to a web server. -/
def webFilter : Filter :=
  { protocol := some (.str "tcp"), srcIp := some (.str "10.0.0.1"), dstPort := some (.nat 80) }

/-- The start of such a request, up to its ports. -/
def webRequest : Packet :=
  [0, 0, 0, 0, 0, 2, 0, 0, 0, 0, 0, 1, 0x08, 0x00,
   0x45, 0, 0, 40, 0, 0, 0x40, 0, 64, 6, 0, 0, 10, 0, 0, 1, 10, 0, 0, 2,
   0xc0, 0x00, 0, 80]

theorem webFilter_validated : webFilter.validated = .ok webFilter := by rfl

theorem webFilter_matches : webFilter.Matches webRequest where
  ethertype := by decide
  protocol := by
    rintro v ⟨⟩
    exact ⟨.tcp, Filter.protocolOf?_name .tcp, by decide⟩
  srcIp := by
    rintro v ⟨⟩
    exact ⟨0x0a000001, by rfl, by decide⟩
  dstIp := by rintro v ⟨⟩
  fragment := fun _ => ⟨0x4000, by decide, by decide⟩
  srcPort := by rintro v ⟨⟩
  dstPort := by
    rintro v ⟨⟩
    exact ⟨80, rfl, by decide⟩

end PacketFilter
