/-
  The opcodes a filter program is made of.
-/

namespace PacketFilter.Opcode

/-- Loads the half-word at `k`. -/
def loadHalf : UInt16 := 0x28

/-- Loads the byte at `k`. -/
def loadByte : UInt16 := 0x30

/-- Loads the word at `k`. -/
def loadWord : UInt16 := 0x20

/-- Loads the half-word at `x + k`. -/
def loadHalfIndexed : UInt16 := 0x48

/-- Loads into `x` four times the low nibble of the byte at `k`. -/
def loadHeaderLen : UInt16 := 0xb1

/-- Jumps by whether the accumulator equals `k`. -/
def jumpEqual : UInt16 := 0x15

/-- Jumps by whether the accumulator and `k` have a bit in common. -/
def jumpSet : UInt16 := 0x45

/-- Returns `k`. -/
def ret : UInt16 := 0x06

end PacketFilter.Opcode
