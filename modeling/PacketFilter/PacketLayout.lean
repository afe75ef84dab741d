/-
  Where a filter looks in a packet, and what it looks for.

  Offsets count bytes from the start of an Ethernet frame that carries IPv4. The
  port offsets are those of a packet whose IP header is empty: a filter adds the
  length of the header it finds.
-/

namespace PacketFilter

namespace Offset

/-- The size of the Ethernet header. -/
def ipHeader : Nat := 14

/-- The type field of the Ethernet header. -/
def ethertype : Nat := 12

/-- The flags and the fragment offset. -/
def fragment : Nat := ipHeader + 6

/-- The protocol byte of the IP header. -/
def protocol : Nat := ipHeader + 9

def srcAddr : Nat := ipHeader + 12

def dstAddr : Nat := ipHeader + 16

/-- The source port, the length of the IP header left out. -/
def srcPort : Nat := ipHeader

/-- The destination port, the length of the IP header left out. -/
def dstPort : Nat := ipHeader + 2

end Offset

def ethertypeIPv4 : Nat := 0x0800

/-- The bits of the fragment offset. -/
def fragmentMask : Nat := 0x1fff

/-- What a program returns for a packet it accepts: how many bytes of it to
keep. -/
def acceptLength : Nat := 0x40000

/-- What a program returns for a packet it rejects. -/
def rejectLength : Nat := 0

inductive Protocol where
  | icmp
  | tcp
  | udp
  deriving DecidableEq, Repr, Inhabited

namespace Protocol

def name : Protocol → String
  | icmp => "icmp"
  | tcp => "tcp"
  | udp => "udp"

def title : Protocol → String
  | icmp => "ICMP"
  | tcp => "TCP"
  | udp => "UDP"

def number : Protocol → Nat
  | icmp => 1
  | tcp => 6
  | udp => 17

/-- Whether ports stand right at the start of the payload. -/
def hasPorts : Protocol → Bool
  | icmp => false
  | tcp => true
  | udp => true

def all : List Protocol := [icmp, tcp, udp]

def ofName? (s : String) : Option Protocol := all.find? (fun p => p.name == s)

def ofNumber? (n : Int) : Option Protocol := all.find? (fun p => (p.number : Int) == n)

end Protocol

end PacketFilter
