import PacketFilter.Filter.Basic
import PacketFilter.Address.V6
import PacketFilter.Text.CharClass

/-
  Which filters can be compiled.

  `Filter.ofJson` builds a filter from an object with known fields.
  `Filter.validate` checks one: the protocol, both addresses, both ports, that
  something is asked for, and that ports are asked for only of a protocol that
  has them, in this order. It writes the protocol in lower case, and does so even
  if a later check fails.
-/

namespace PacketFilter

inductive FilterError where
  | notObject
  | unknownFields (names : List String)
  | protocol (value : Json)
  | address (side : Side) (value : Json)
  | notV4 (side : Side) (value : Json)
  | port (side : Side) (value : Json)
  | empty
  | portsUnsupported (protocol : Protocol)
  deriving DecidableEq, Repr

def FilterError.message : FilterError → String
  | notObject => "filter must be an object"
  | unknownFields names => "unknown filter fields: " ++ ", ".intercalate names
  | protocol value => "invalid protocol '" ++ value.plain ++ "', must be tcp, udp, or icmp"
  | address side value => "invalid " ++ side.words ++ " IP address: " ++ value.plain
  | notV4 side value => "only IPv4 " ++ side.words ++ " addresses are supported: " ++ value.plain
  | port side value => "invalid " ++ side.words ++ " port " ++ value.plain ++ ", must be 0-65535"
  | empty => "at least one filter criterion must be specified"
  | portsUnsupported p => p.title ++ " protocol does not support port filtering"

namespace Filter

/-- The filter an object describes. Fields that are absent are left open, and a
name that is no field is refused. -/
def ofJson : Json → Except FilterError Filter
  | .obj fields =>
    let known : List LooseText := FilterField.all.map (fun field => field.name)
    let unknown := (fields.map (·.1)).filter (fun name => !known.contains name)
    if unknown.isEmpty then
      let value (field : FilterField) : Json := ((Json.obj fields).field? field.name).getD .null
      .ok (ofValues (value .protocol) (value (.address .src)) (value (.address .dst))
        (value (.port .src)) (value (.port .dst)))
    else .error (.unknownFields ((unknown.map LooseText.text).mergeSort (fun a b => a ≤ b)))
  | _ => .error .notObject

/-- The protocol a value names, in any letter case. -/
def protocolOf? (v : Json) : Option Protocol := Protocol.ofName? (Text.lower v.plain)

/-- Checks the protocol and writes it in lower case. -/
def checkProtocol (f : Filter) : Except FilterError Filter :=
  match f.protocol with
  | none => .ok f
  | some v =>
    match protocolOf? v with
    | some p => .ok { f with protocol := some (.str p.name) }
    | none => .error (.protocol v)

def checkAddress (f : Filter) (side : Side) : Except FilterError Unit :=
  match f.address side with
  | none => .ok ()
  | some v =>
    match Address.Family.ofJson? v with
    | some .v4 => .ok ()
    | some .v6 => .error (.notV4 side v)
    | none => .error (.address side v)

/-- Whether a value is a port: an integer, not a truth value, of 16 bits. -/
def isPort : Json → Bool
  | .num (.int n) => 0 ≤ n && n ≤ 65535
  | _ => false

def checkPort (f : Filter) (side : Side) : Except FilterError Unit :=
  match f.port side with
  | none => .ok ()
  | some v => if isPort v then .ok () else .error (.port side v)

def checkSomething (f : Filter) : Except FilterError Unit :=
  if f.isEmpty then .error .empty else .ok ()

/-- Checks that ports are asked for only of a protocol that has them. -/
def checkPortsSupported (f : Filter) : Except FilterError Unit :=
  match f.protocol.bind protocolOf? with
  | some p => if !p.hasPorts && f.hasPorts then .error (.portsUnsupported p) else .ok ()
  | none => .ok ()

/-- The checks after the protocol, in order. -/
def checkRest (f : Filter) : Except FilterError Unit := do
  f.checkAddress .src
  f.checkAddress .dst
  f.checkPort .src
  f.checkPort .dst
  f.checkSomething
  f.checkPortsSupported

/-- Checks a filter: the filter as the checks leave it, and what they found. -/
def validate (f : Filter) : Filter × Except FilterError Unit :=
  match f.checkProtocol with
  | .ok g => (g, g.checkRest)
  | .error e => (f, .error e)

/-- The filter after all checks have passed. -/
def validated (f : Filter) : Except FilterError Filter :=
  match f.validate with
  | (g, .ok _) => .ok g
  | (_, .error e) => .error e

end Filter

end PacketFilter
