import PacketFilter.Address.V4

/-
  IPv6 addresses, as far as telling one from a text that is no address at all.

  `V6.valid` decides whether a text is an IPv6 address: groups of up to four
  hexadecimal digits joined by colons, `::` standing for at least one group, an
  IPv4 text allowed in place of the last two groups and a scope after a percent
  sign. `Family.ofJson?` says which kind of address a JSON value is.
-/

namespace PacketFilter.Address

open Text

namespace V6

def isHexDigit (c : Char) : Bool :=
  c.isDigit || ('a' ≤ c && c ≤ 'f') || ('A' ≤ c && c ≤ 'F')

/-- A group: one to four hexadecimal digits. -/
def isGroup (cs : List Char) : Bool := !cs.isEmpty && cs.length ≤ 4 && cs.all isHexDigit

/-- The groups of a text, an IPv4 ending taken as two; there are none if the
ending has a point and is no IPv4 address. -/
def groups? (cs : List Char) : Option (List (List Char)) :=
  let parts := splitAt ':' cs
  if parts.length < 3 then none
  else
    match parts.getLast? with
    | some last =>
      if last.contains '.' then
        match V4.read (String.ofList last) with
        | .ok w =>
          some (parts.dropLast ++ [Nat.toDigits 16 (w / 0x10000), Nat.toDigits 16 (w % 0x10000)])
        | .error _ => none
      else some parts
    | none => none

/-- The groups before and after the gap of a text with one empty part inside,
an empty first or last part belonging to the gap. -/
def gapSides? (parts : List (List Char)) (gap : Nat) : Option (List (List Char) × List (List Char)) :=
  let before := parts.take gap
  let after := parts.drop (gap + 1)
  let before? := if before.head? = some [] then (if before.length = 1 then some [] else none) else some before
  let after? := if after.getLast? = some [] then (if after.length = 1 then some [] else none) else some after
  match before?, after? with
  | some before, some after => some (before, after)
  | _, _ => none

/-- Whether the parts between the colons make an address. -/
def partsValid (parts : List (List Char)) : Bool :=
  let inner := (parts.drop 1).dropLast
  if 9 < parts.length then false
  else
    match inner.findIdx? List.isEmpty with
    | none => parts.length == 8 && parts.all isGroup
    | some i =>
      if (inner.drop (i + 1)).any List.isEmpty then false
      else
        match gapSides? parts (i + 1) with
        | none => false
        | some (before, after) =>
          before.length + after.length ≤ 7 && before.all isGroup && after.all isGroup

/-- The text before the scope; there is none if the scope is empty or holds a
percent sign. -/
def withoutScope? (cs : List Char) : Option (List Char) :=
  let address := cs.takeWhile (· != '%')
  match cs.dropWhile (· != '%') with
  | [] => some address
  | _ :: scope => if scope.isEmpty || scope.contains '%' then none else some address

def valid (text : String) : Bool :=
  if text.toList.contains '/' then false
  else
    match withoutScope? text.toList with
    | none => false
    | some address =>
      match groups? address with
      | none => false
      | some parts => partsValid parts

end V6

inductive Family where
  | v4
  | v6
  deriving DecidableEq, Repr

/-- The kind of address a JSON value is: an integer by its size, any other value
by its text. -/
def Family.ofJson? (v : Json) : Option Family :=
  match V4.ofJson v with
  | .ok _ => some .v4
  | .error _ =>
    match v.int? with
    | some n => if 0 ≤ n ∧ n ≤ 0xffffffffffffffffffffffffffffffff then some .v6 else none
    | none => if V6.valid v.plain then some .v6 else none

end PacketFilter.Address
