import PacketFilter.Json.Text
import PacketFilter.PacketLayout

/-
  Packet filters: a protocol, two addresses and two ports, each of which may be
  left open.

  A filter is built from JSON values and holds them as they are until
  `Filter.validate` has looked at them. A protocol or an address that says
  nothing, such as an empty text or zero, is left open; a port is left open by
  null alone.
-/

namespace PacketFilter

/-- The two ends of a packet's way. -/
inductive Side where
  | src
  | dst
  deriving DecidableEq, Repr

namespace Side

def words : Side → String
  | src => "source"
  | dst => "destination"

def keyword : Side → String
  | src => "src"
  | dst => "dst"

end Side

inductive FilterField where
  | protocol
  | address (side : Side)
  | port (side : Side)
  deriving DecidableEq, Repr

namespace FilterField

def name : FilterField → String
  | protocol => "protocol"
  | address .src => "src_ip"
  | address .dst => "dst_ip"
  | port .src => "src_port"
  | port .dst => "dst_port"

/-- All fields, in the order of documents. -/
def all : List FilterField :=
  [protocol, address .src, address .dst, port .src, port .dst]

end FilterField

/-- A packet filter. A field that is left open is `none`. -/
structure Filter where
  protocol : Option Json := none
  srcIp : Option Json := none
  dstIp : Option Json := none
  srcPort : Option Json := none
  dstPort : Option Json := none
  deriving DecidableEq, Repr, Inhabited

namespace Filter

/-- A protocol or an address: left open if it says nothing. -/
def criterion (v : Json) : Option Json := if v.isVoid then none else some v

/-- A port: left open by null. -/
def portCriterion : Json → Option Json
  | .null => none
  | v => some v

def ofValues (protocol srcIp dstIp srcPort dstPort : Json) : Filter where
  protocol := criterion protocol
  srcIp := criterion srcIp
  dstIp := criterion dstIp
  srcPort := portCriterion srcPort
  dstPort := portCriterion dstPort

def address (f : Filter) : Side → Option Json
  | .src => f.srcIp
  | .dst => f.dstIp

def port (f : Filter) : Side → Option Json
  | .src => f.srcPort
  | .dst => f.dstPort

def hasPorts (f : Filter) : Bool := f.srcPort.isSome || f.dstPort.isSome

/-- Whether the filter leaves everything open. -/
def isEmpty (f : Filter) : Bool :=
  f.protocol.isNone && f.srcIp.isNone && f.dstIp.isNone && !f.hasPorts

def toJson (f : Filter) : Json :=
  .obj
    [(FilterField.protocol.name, f.protocol.getD (.str "")),
     ((FilterField.address .src).name, f.srcIp.getD .null),
     ((FilterField.address .dst).name, f.dstIp.getD .null),
     ((FilterField.port .src).name, f.srcPort.getD .null),
     ((FilterField.port .dst).name, f.dstPort.getD .null)]

end Filter

end PacketFilter
