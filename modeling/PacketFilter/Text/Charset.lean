import PacketFilter.Text.Figures

/-
  Text from bytes.

  A file is read as ASCII or as UTF-8, after which a carriage return, with the
  line feed after it if there is one, becomes a line feed. A byte sequence that
  is not text in the encoding is an error that names the first offending bytes.
-/

namespace PacketFilter.Text

inductive Charset where
  | ascii
  | utf8
  deriving DecidableEq, Repr

def Charset.name : Charset → String
  | .ascii => "ascii"
  | .utf8 => "utf-8"

inductive DecodeReason where
  | notAscii
  | badStart
  | badContinuation
  | truncated
  deriving DecidableEq, Repr

def DecodeReason.text : DecodeReason → String
  | .notAscii => "ordinal not in range(128)"
  | .badStart => "invalid start byte"
  | .badContinuation => "invalid continuation byte"
  | .truncated => "unexpected end of data"

/-- The offending bytes: the first of them, where they start and how many there
are. -/
structure DecodeError where
  charset : Charset
  byte : UInt8
  position : Nat
  count : Nat
  reason : DecodeReason
  deriving DecidableEq, Repr

def DecodeError.message (e : DecodeError) : String :=
  let what :=
    if e.count ≤ 1 then
      "byte 0x" ++ hex 2 e.byte.toNat ++ " in position " ++ decimalNat e.position
    else
      "bytes in position " ++ decimalNat e.position ++ "-" ++ decimalNat (e.position + e.count - 1)
  "'" ++ e.charset.name ++ "' codec can't decode " ++ what ++ ": " ++ e.reason.text

/-- Bytes as ASCII text, from byte `position` of the whole on. -/
def decodeAsciiFrom (position : Nat) : List UInt8 → Except DecodeError (List Char)
  | [] => .ok []
  | b :: rest =>
    if b < 0x80 then (decodeAsciiFrom (position + 1) rest).map (Char.ofNat b.toNat :: ·)
    else .error ⟨.ascii, b, position, 1, .notAscii⟩

/-- Whether `b` continues a sequence whose lead byte asks for at least `low` and
at most `high` next. -/
def inRange (low high b : UInt8) : Bool := low ≤ b && b ≤ high

/-- Bytes that may follow a lead byte: the range of the second byte, and how many
further bytes come after it. -/
def utf8Follow (lead : UInt8) : Option (UInt8 × UInt8 × Nat) :=
  if inRange 0xc2 0xdf lead then some (0x80, 0xbf, 0)
  else if lead = 0xe0 then some (0xa0, 0xbf, 1)
  else if lead = 0xed then some (0x80, 0x9f, 1)
  else if inRange 0xe1 0xef lead then some (0x80, 0xbf, 1)
  else if lead = 0xf0 then some (0x90, 0xbf, 2)
  else if lead = 0xf4 then some (0x80, 0x8f, 2)
  else if inRange 0xf1 0xf3 lead then some (0x80, 0xbf, 2)
  else none

/-- The bits a lead byte contributes. -/
def utf8LeadBits (lead : UInt8) : Nat :=
  if lead < 0xe0 then lead.toNat % 32 else if lead < 0xf0 then lead.toNat % 16 else lead.toNat % 8

/-- Bytes as UTF-8 text, from byte `position` of the whole on. -/
def decodeUtf8From (position : Nat) : List UInt8 → Except DecodeError (List Char)
  | [] => .ok []
  | lead :: rest =>
    if lead < 0x80 then (decodeUtf8From (position + 1) rest).map (Char.ofNat lead.toNat :: ·)
    else
      let fault (count : Nat) (reason : DecodeReason) : Except DecodeError (List Char) :=
        .error ⟨.utf8, lead, position, count, reason⟩
      match utf8Follow lead with
      | none => fault 1 .badStart
      | some (low, high, more) =>
        match rest with
        | [] => fault 1 .truncated
        | second :: rest =>
          if !inRange low high second then fault 1 .badContinuation
          else
            let bits := utf8LeadBits lead * 64 + second.toNat % 64
            if more = 0 then (decodeUtf8From (position + 2) rest).map (Char.ofNat bits :: ·)
            else
              match rest with
              | [] => fault 2 .truncated
              | third :: rest =>
                if !inRange 0x80 0xbf third then fault 2 .badContinuation
                else
                  let bits := bits * 64 + third.toNat % 64
                  if more = 1 then (decodeUtf8From (position + 3) rest).map (Char.ofNat bits :: ·)
                  else
                    match rest with
                    | [] => fault 3 .truncated
                    | fourth :: rest =>
                      if !inRange 0x80 0xbf fourth then fault 3 .badContinuation
                      else
                        let bits := bits * 64 + fourth.toNat % 64
                        (decodeUtf8From (position + 4) rest).map (Char.ofNat bits :: ·)

/-- One line feed for each line end written with a carriage return. -/
def unifyLineEnds : List Char → List Char
  | [] => []
  | '\r' :: '\n' :: rest => '\n' :: unifyLineEnds rest
  | c :: rest => (if c = '\r' then '\n' else c) :: unifyLineEnds rest

def Charset.decode (charset : Charset) (bytes : List UInt8) : Except DecodeError String :=
  let chars :=
    match charset with
    | .ascii => decodeAsciiFrom 0 bytes
    | .utf8 => decodeUtf8From 0 bytes
  chars.map (fun cs => String.ofList (unifyLineEnds cs))

end PacketFilter.Text
