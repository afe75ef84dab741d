import PacketFilter.Json.Text
import PacketFilter.Text.Blank

/-
  IPv4 addresses.

  `V4.read` takes four decimal octets without leading zeros, joined by points,
  to the 32-bit word found in a packet; `V4.text` writes that form. `V4.ofJson`
  takes a JSON value: an integer within the range of words is the word itself,
  any other value is read from its text.
-/

namespace PacketFilter.Address

open Text

inductive OctetFault where
  | empty
  | notDecimal (octet : String)
  | tooLong (octet : String)
  | leadingZero (octet : String)
  | tooLarge (value : Nat)
  deriving DecidableEq, Repr

def OctetFault.message : OctetFault → String
  | empty => "Empty octet not permitted"
  | notDecimal octet => "Only decimal digits permitted in " ++ quoted octet
  | tooLong octet => "At most 3 characters permitted in " ++ quoted octet
  | leadingZero octet => "Leading zeros are not permitted in " ++ quoted octet
  | tooLarge value => "Octet " ++ decimalNat value ++ " (> 255) not permitted"

inductive V4Error where
  /-- The value, as messages quote it, holds a slash. -/
  | slash (quotedValue : String)
  | empty
  | octetCount (text : String)
  | octet (fault : OctetFault) (text : String)
  | negative (n : Int)
  | tooLarge (n : Int)
  deriving DecidableEq, Repr

def V4Error.message : V4Error → String
  | slash quotedValue => "Unexpected '/' in " ++ quotedValue
  | empty => "Address cannot be empty"
  | octetCount text => "Expected 4 octets in " ++ quoted text
  | octet fault text => fault.message ++ " in " ++ quoted text
  | negative n => decimal n ++ " (< 0) is not permitted as an IPv4 address"
  | tooLarge n => decimal n ++ " (>= 2**32) is not permitted as an IPv4 address"

namespace V4

def digitsValue (cs : List Char) : Nat := cs.foldl (fun n c => 10 * n + (c.toNat - 48)) 0

def octet (cs : List Char) : Except OctetFault Nat :=
  if cs.isEmpty then .error .empty
  else if !cs.all Char.isDigit then .error (.notDecimal (String.ofList cs))
  else if 3 < cs.length then .error (.tooLong (String.ofList cs))
  else if cs ≠ ['0'] ∧ cs.head? = some '0' then .error (.leadingZero (String.ofList cs))
  else if 255 < digitsValue cs then .error (.tooLarge (digitsValue cs))
  else .ok (digitsValue cs)

/-- The word of four octets, the most significant first. -/
def word (a b c d : Nat) : Nat := ((a * 256 + b) * 256 + c) * 256 + d

/-- The word of an address text without a slash. -/
def ofText (text : String) : Except V4Error Nat :=
  if text.isEmpty then .error .empty
  else
    match splitAt '.' text.toList with
    | [a, b, c, d] =>
      let octets : Except OctetFault Nat := do
        let a ← octet a
        let b ← octet b
        let c ← octet c
        let d ← octet d
        return word a b c d
      octets.mapError (.octet · text)
    | _ => .error (.octetCount text)

/-- The word of an address text. -/
def read (text : String) : Except V4Error Nat :=
  if text.toList.contains '/' then .error (.slash (quoted text)) else ofText text

def ofInt (n : Int) : Except V4Error Nat :=
  if n < 0 then .error (.negative n)
  else if 0xffffffff < n then .error (.tooLarge n)
  else .ok n.toNat

/-- The word a JSON value stands for. -/
def ofJson (v : Json) : Except V4Error Nat :=
  match v.int? with
  | some n => ofInt n
  | none =>
    if v.plain.toList.contains '/' then .error (.slash v.quoted) else ofText v.plain

/-- The dotted text of a word. -/
def text (w : Nat) : String :=
  ".".intercalate
    [decimalNat (w / 0x1000000 % 256), decimalNat (w / 0x10000 % 256), decimalNat (w / 256 % 256),
     decimalNat (w % 256)]

end V4

end PacketFilter.Address
