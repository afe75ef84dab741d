import PacketFilter.Filter.Basic

/-
  Filters in words.

  `describe` is for people, `label` names the programs generated for a filter,
  and `expression` is the filter in the language of expressions. The last two
  join their parts as texts, so a protocol that is no text has no label and no
  expression.
-/

namespace PacketFilter

/-- A protocol that is no text and cannot be joined with one. -/
structure JoinError where
  value : Json
  deriving DecidableEq, Repr

def JoinError.message (e : JoinError) : String :=
  "sequence item 0: expected str instance, " ++ e.value.kind ++ " found"

namespace Filter

/-- A field that is asked for, after its name. -/
def phrase (name : String) (field : Option Json) : List String :=
  match field with
  | some v => [name ++ v.plain]
  | none => []

/-- The filter for people. -/
def describe (f : Filter) : String :=
  ", ".intercalate
    (phrase "Protocol: " f.protocol ++ phrase "Source IP: " f.srcIp ++
      phrase "Destination IP: " f.dstIp ++ phrase "Source Port: " f.srcPort ++
      phrase "Destination Port: " f.dstPort)

/-- The protocol as the first part of a text. -/
def protocolPhrase (f : Filter) : Except JoinError (List String) :=
  match f.protocol with
  | some (.str s) => .ok [s.text]
  | some v => .error ⟨v⟩
  | none => .ok []

def label (f : Filter) : Except JoinError String := do
  let protocol ← f.protocolPhrase
  return " ".intercalate
    (protocol ++ phrase "src=" f.srcIp ++ phrase "dst=" f.dstIp ++ phrase "sport=" f.srcPort ++
      phrase "dport=" f.dstPort)

def expression (f : Filter) : Except JoinError String := do
  let protocol ← f.protocolPhrase
  return " and ".intercalate
    (protocol ++ phrase "src " f.srcIp ++ phrase "dst " f.dstIp ++ phrase "src port " f.srcPort ++
      phrase "dst port " f.dstPort)

end Filter

end PacketFilter
