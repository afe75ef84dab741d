import PacketFilter.Json.Basic

/-
  JSON values in messages.

  A message shows a text as it stands (`plain`) or in quotes (`quoted`); inside
  a list or an object texts are always quoted. `kind` names the kind of a value.
-/

namespace PacketFilter.Json

open PacketFilter.Text

mutual

/-- A value as messages quote it. -/
def quoted : Json → String
  | null => "None"
  | bool b => Whole.truthText b
  | num n => n.text
  | str s => s.quoted
  | arr items => "[" ++ ", ".intercalate (quotedItems items) ++ "]"
  | obj fields => "\x7b" ++ ", ".intercalate (quotedFields fields) ++ "\x7d"

def quotedItems : List Json → List String
  | [] => []
  | v :: rest => quoted v :: quotedItems rest

def quotedFields : List (LooseText × Json) → List String
  | [] => []
  | (name, v) :: rest => (name.quoted ++ ": " ++ quoted v) :: quotedFields rest

end

/-- A value as messages show it: a text as it stands, all else quoted. -/
def plain : Json → String
  | str s => s.text
  | v => quoted v

/-- The name of a value's kind. -/
def kind : Json → String
  | null => "NoneType"
  | bool _ => "bool"
  | num (.int _) => "int"
  | num (.real _) => "float"
  | str _ => "str"
  | arr _ => "list"
  | obj _ => "dict"

end PacketFilter.Json
