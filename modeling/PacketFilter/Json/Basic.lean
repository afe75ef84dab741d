import PacketFilter.Number.Basic
import PacketFilter.Number.Whole
import PacketFilter.Text.Loose

/-
  JSON values.

  Filters come from JSON documents and from callers that promise nothing about
  the kind of a field, so a field holds a JSON value until it has been checked.
  Objects keep the order of their fields. Texts may hold surrogates that stand
  alone, since JSON can name them.
-/

namespace PacketFilter

inductive Json where
  | null
  | bool (b : Bool)
  | num (n : Number)
  | str (s : LooseText)
  | arr (items : List Json)
  | obj (fields : List (LooseText × Json))
  deriving Repr, Inhabited

namespace Json

mutual

def decEq : (a b : Json) → Decidable (a = b)
  | null, null => isTrue rfl
  | bool a, bool b => decidable_of_iff (a = b) (by simp)
  | num a, num b => decidable_of_iff (a = b) (by simp)
  | str a, str b => decidable_of_iff (a = b) (by simp)
  | arr as, arr bs =>
    have := decEqItems as bs
    decidable_of_iff (as = bs) (by simp)
  | obj as, obj bs =>
    have := decEqFields as bs
    decidable_of_iff (as = bs) (by simp)
  | null, bool _ | null, num _ | null, str _ | null, arr _ | null, obj _ => isFalse nofun
  | bool _, null | bool _, num _ | bool _, str _ | bool _, arr _ | bool _, obj _ => isFalse nofun
  | num _, null | num _, bool _ | num _, str _ | num _, arr _ | num _, obj _ => isFalse nofun
  | str _, null | str _, bool _ | str _, num _ | str _, arr _ | str _, obj _ => isFalse nofun
  | arr _, null | arr _, bool _ | arr _, num _ | arr _, str _ | arr _, obj _ => isFalse nofun
  | obj _, null | obj _, bool _ | obj _, num _ | obj _, str _ | obj _, arr _ => isFalse nofun

def decEqItems : (as bs : List Json) → Decidable (as = bs)
  | [], [] => isTrue rfl
  | [], _ :: _ => isFalse nofun
  | _ :: _, [] => isFalse nofun
  | a :: as, b :: bs =>
    have := decEq a b
    have := decEqItems as bs
    decidable_of_iff (a = b ∧ as = bs) (by simp)

def decEqFields : (as bs : List (LooseText × Json)) → Decidable (as = bs)
  | [], [] => isTrue rfl
  | [], _ :: _ => isFalse nofun
  | _ :: _, [] => isFalse nofun
  | (n, a) :: as, (m, b) :: bs =>
    have := decEq a b
    have := decEqFields as bs
    decidable_of_iff (n = m ∧ a = b ∧ as = bs) (by simp [and_assoc])

end

instance : DecidableEq Json := decEq

def int (n : Int) : Json := .num (.int n)

def nat (n : Nat) : Json := .num (.int n)

def text (s : String) : Json := .str s

def texts (ss : List String) : Json := .arr (ss.map text)

/-- A whole number as it is written. -/
def whole : Whole → Json
  | .int n => int n
  | .truth b => .bool b

/-- The whole number a value is, if it is one. -/
def whole? : Json → Option Whole
  | num (.int n) => some (.int n)
  | bool b => some (.truth b)
  | _ => none

/-- The integer a value stands for; a truth value counts as 0 or 1. -/
def int? (v : Json) : Option Int := v.whole?.map Whole.value

/-- The number a value stands for; a truth value counts as 0 or 1. -/
def number? : Json → Option Number
  | num n => some n
  | bool b => some (.int (Whole.truth b).value)
  | _ => none

/-- Whether a value says nothing: null, false, zero, or empty. -/
def isVoid : Json → Bool
  | null => true
  | bool b => !b
  | num n => n.isZero
  | str s => s.isEmpty
  | arr items => items.isEmpty
  | obj fields => fields.isEmpty

def field? (name : String) : Json → Option Json
  | obj fields => (fields.find? (fun f => f.1 == (name : LooseText))).map (·.2)
  | _ => none

/-- The fields with `name` set to `value`: in its old place if it is there
already, otherwise at the end. -/
def setField (name : LooseText) (value : Json) : List (LooseText × Json) → List (LooseText × Json)
  | [] => [(name, value)]
  | (n, v) :: rest => if n = name then (name, value) :: rest else (n, v) :: setField name value rest

/-- A text, or null. -/
def ofText? : Option String → Json
  | some s => .str s
  | none => .null

end Json

end PacketFilter
