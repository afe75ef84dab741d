/-
  What an instruction is for, however it is encoded.
-/

namespace PacketFilter

inductive Purpose where
  | loadEthertype
  | checkEthertype
  | loadProtocol
  | checkProtocol
  | loadSrcAddr
  | checkSrcAddr
  | loadDstAddr
  | checkDstAddr
  | loadFragInfo
  | checkFragment
  | loadHeaderLen
  | loadSrcPort
  | loadDstPort
  | checkSrcPort
  | checkDstPort
  | accept
  | reject
  | unknown
  deriving DecidableEq, Repr, Inhabited

namespace Purpose

def name : Purpose → String
  | loadEthertype => "LOAD_ETHERTYPE"
  | checkEthertype => "CHECK_ETHERTYPE"
  | loadProtocol => "LOAD_PROTOCOL"
  | checkProtocol => "CHECK_PROTOCOL"
  | loadSrcAddr => "LOAD_SRC_ADDR"
  | checkSrcAddr => "CHECK_SRC_ADDR"
  | loadDstAddr => "LOAD_DST_ADDR"
  | checkDstAddr => "CHECK_DST_ADDR"
  | loadFragInfo => "LOAD_FRAG_INFO"
  | checkFragment => "CHECK_FRAGMENT"
  | loadHeaderLen => "LOAD_HEADER_LEN"
  | loadSrcPort => "LOAD_SRC_PORT"
  | loadDstPort => "LOAD_DST_PORT"
  | checkSrcPort => "CHECK_SRC_PORT"
  | checkDstPort => "CHECK_DST_PORT"
  | accept => "ACCEPT"
  | reject => "REJECT"
  | unknown => "UNKNOWN"

def words : Purpose → String
  | loadEthertype => "Load Ethernet Type"
  | checkEthertype => "Check IP Protocol"
  | loadProtocol => "Load IP Protocol"
  | checkProtocol => "Check Protocol"
  | loadSrcAddr => "Load Source IP"
  | checkSrcAddr => "Check Source IP"
  | loadDstAddr => "Load Dest IP"
  | checkDstAddr => "Check Dest IP"
  | loadFragInfo => "Load Fragment Info"
  | checkFragment => "Check Fragment"
  | loadHeaderLen => "Load Header Length"
  | loadSrcPort => "Load Source Port"
  | loadDstPort => "Load Dest Port"
  | checkSrcPort => "Check Source Port"
  | checkDstPort => "Check Dest Port"
  | accept => "Accept Packet"
  | reject => "Reject Packet"
  | unknown => "Unknown"

def all : List Purpose :=
  [loadEthertype, checkEthertype, loadProtocol, checkProtocol, loadSrcAddr, checkSrcAddr,
   loadDstAddr, checkDstAddr, loadFragInfo, checkFragment, loadHeaderLen, loadSrcPort, loadDstPort,
   checkSrcPort, checkDstPort, accept, reject, unknown]

def ofName? (s : String) : Option Purpose := all.find? (fun p => p.name == s)

end Purpose

end PacketFilter
