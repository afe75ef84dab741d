import PacketFilter.Filter.Basic
import PacketFilter.Json.Printer
import PacketFilter.Program.Basic

/-
  Documents: lists of things that have a JSON form.
-/

namespace PacketFilter

/-- A thing to be written in a document. -/
inductive Item where
  | program (p : Program)
  | instruction (i : Instruction)
  | purpose (p : Purpose)
  | filter (f : Filter)
  | value (v : Json)
  /-- A thing of some other type, which has no JSON form. -/
  | foreign (typeName : String)
  deriving DecidableEq, Repr

/-- A thing without a JSON form. -/
structure DocumentError where
  typeName : String
  deriving DecidableEq, Repr

def DocumentError.message (e : DocumentError) : String :=
  "Object of type " ++ e.typeName ++ " is not JSON serializable"

def Item.toJson : Item → Except DocumentError Json
  | program p => .ok p.toJson
  | instruction i => .ok i.toJson
  | purpose p => .ok (.str p.name)
  | filter f => .ok f.toJson
  | value v => .ok v
  | foreign typeName => .error ⟨typeName⟩

def Item.document (style : Json.Style) (items : List Item) : Except DocumentError String := do
  let values ← items.mapM Item.toJson
  return Json.render style (.arr values)

end PacketFilter
