import PacketFilter.Instruction.Opcode
import PacketFilter.PacketLayout
import PacketFilter.Program.Basic

/-
  What an instruction means.

  The purpose of an instruction is inferred from its opcode and its immediate;
  the tag it carries, if any, is believed instead. The inference is a guess: a
  comparison with a number of 16 bits is taken for one of the destination port,
  and a comparison with a large number for one of the source address.
-/

namespace PacketFilter

open Text

/-- What an instruction means, and where it stands. -/
structure Meaning where
  purpose : Purpose
  value : Whole
  description : String
  index : Whole
  deriving DecidableEq, Repr

namespace Meaning

def text (m : Meaning) : String :=
  "[" ++ padLeft 2 (decimal m.index.value) ++ "] " ++ m.purpose.words ++ ": " ++ m.description

def toJson (m : Meaning) : Json :=
  .obj
    [("purpose", .str m.purpose.name), ("value", .whole m.value),
     ("description", .str m.description), ("index", .whole m.index)]

/-- The least number that is taken for an address. -/
def addressBound : Int := 0xc0000000

def protocolCheck (k : Whole) : String :=
  let name :=
    match Protocol.ofNumber? k.value with
    | some p => p.title
    | none => k.text
  "Check if protocol is " ++ name ++ " (" ++ k.text ++ ")"

def srcAddrCheck (k : Whole) : String := "Check source IP (0x" ++ hex 8 k.value ++ ")"

def dstPortCheck (k : Whole) : String := "Check if destination port is " ++ k.text

def ofLoadHalf (k : Int) : Purpose × String :=
  if k = Offset.ethertype then (.loadEthertype, "Load Ethernet type field")
  else if k = Offset.fragment then (.loadFragInfo, "Load IP fragment information")
  else (.unknown, "Load half-word from offset 0x" ++ hex 0 k)

def ofLoadByte (k : Int) : Purpose × String :=
  if k = Offset.protocol then (.loadProtocol, "Load IP protocol field")
  else (.unknown, "Load byte from offset 0x" ++ hex 0 k)

def ofLoadWord (k : Int) : Purpose × String :=
  if k = Offset.srcAddr then (.loadSrcAddr, "Load source IP address")
  else if k = Offset.dstAddr then (.loadDstAddr, "Load destination IP address")
  else (.unknown, "Load word from offset 0x" ++ hex 0 k)

/-- What a half-word behind the IP header is loaded for. -/
def ofLoadHalfIndexed (k : Int) : Purpose × String :=
  if k = Offset.srcPort then (.loadSrcPort, "Load source port (with header offset)")
  else if k = Offset.dstPort then (.loadDstPort, "Load destination port (with header offset)")
  else (.unknown, "Load half-word with offset 0x" ++ hex 0 k)

/-- What a check for equality looks for. -/
def ofJumpEqual (k : Whole) : Purpose × String :=
  if k.value = ethertypeIPv4 then
    (.checkEthertype, "Check if packet is IP (0x" ++ hex 0 k.value ++ ")")
  else if (Protocol.ofNumber? k.value).isSome then (.checkProtocol, protocolCheck k)
  else if 1 ≤ k.value ∧ k.value ≤ 65535 then (.checkDstPort, dstPortCheck k)
  else if addressBound ≤ k.value then (.checkSrcAddr, srcAddrCheck k)
  else (.unknown, "Check if value equals 0x" ++ hex 8 k.value)

/-- What a check of bits looks for. -/
def ofJumpSet (k : Int) : Purpose × String :=
  if k = fragmentMask then (.checkFragment, "Check for IP fragmentation")
  else (.unknown, "Check if bits 0x" ++ hex 8 k ++ " are set")

/-- What a return answers. -/
def ofReturn (k : Whole) : Purpose × String :=
  if 0 < k.value then (.accept, "Accept packet (return " ++ k.text ++ " bytes)")
  else (.reject, "Reject packet (return 0)")

/-- The purpose and the description inferred from an opcode and an immediate. -/
def infer (opcode : Int) (k : Whole) : Purpose × String :=
  if opcode = Opcode.loadHalf.toNat then ofLoadHalf k.value
  else if opcode = Opcode.loadByte.toNat then ofLoadByte k.value
  else if opcode = Opcode.loadWord.toNat then ofLoadWord k.value
  else if opcode = Opcode.loadHalfIndexed.toNat then ofLoadHalfIndexed k.value
  else if opcode = Opcode.jumpEqual.toNat then ofJumpEqual k
  else if opcode = Opcode.jumpSet.toNat then ofJumpSet k.value
  else if opcode = Opcode.loadHeaderLen.toNat then
    (.loadHeaderLen, "Load IP header length into index register")
  else if opcode = Opcode.ret.toNat then ofReturn k
  else (.unknown, "Unknown instruction: 0x" ++ hex 4 opcode ++ " k=0x" ++ hex 8 k.value)

/-- The description of an instruction whose tag the inference misses. -/
def describe (purpose : Purpose) (k : Whole) : String :=
  match purpose with
  | .checkProtocol => protocolCheck k
  | .checkSrcAddr => srcAddrCheck k
  | .checkDstAddr => "Check destination IP (0x" ++ hex 8 k.value ++ ")"
  | .checkSrcPort => "Check if source port is " ++ k.text
  | .checkDstPort => dstPortCheck k
  | p => p.words

/-- The meaning of an opcode and an immediate, given the tag they carry. -/
def classify (opcode : Int) (k index : Whole) (tag : Option Purpose) : Meaning :=
  let (inferred, description) := infer opcode k
  match tag with
  | none => ⟨inferred, k, description, index⟩
  | some p =>
    if p = inferred then ⟨inferred, k, description, index⟩ else ⟨p, k, describe p k, index⟩

/-- The meaning of an instruction at a position, its tag believed or not. -/
def ofInstruction (trustTags : Bool) (index : Nat) (i : Instruction) : Meaning :=
  classify i.opcode.toNat i.kFigure (.int index) (if trustTags then i.purpose else none)

end Meaning

/-- The meaning of every instruction, tags believed or not. -/
def Program.meaning (p : Program) (trustTags : Bool) : List Meaning :=
  p.instructions.zipIdx.map (fun (i, index) => Meaning.ofInstruction trustTags index i)

end PacketFilter
