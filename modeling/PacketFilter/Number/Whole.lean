import PacketFilter.Text.Figures

/-
  Whole numbers as data gives them.

  A truth value counts as a whole number, one for true and zero for false, but
  it is still written as a truth value. `Whole.value` is what it counts as, and
  `Whole.text` is how it is written.
-/

namespace PacketFilter

/-- A whole number, or a truth value that counts as one. -/
inductive Whole where
  | int (n : Int)
  | truth (b : Bool)
  deriving DecidableEq, Repr, Inhabited

namespace Whole

/-- The number it counts as. -/
def value : Whole → Int
  | int n => n
  | truth b => if b then 1 else 0

def isTruth : Whole → Bool
  | int _ => false
  | truth _ => true

theorem value_toNat_le_one {w : Whole} (h : w.isTruth = true) : w.value.toNat ≤ 1 := by
  cases w with
  | int n => contradiction
  | truth b => cases b <;> decide

/-- The number `n`, written as a truth value if `spelled` says so. -/
def ofNat (n : Nat) (spelled : Bool) : Whole := if spelled then truth (n != 0) else int n

@[simp] theorem isTruth_ofNat (n : Nat) (spelled : Bool) : (ofNat n spelled).isTruth = spelled := by
  cases spelled <;> rfl

theorem value_ofNat {n : Nat} {spelled : Bool} (h : spelled = true → n ≤ 1) :
    (ofNat n spelled).value = n := by
  cases spelled with
  | false => rfl
  | true =>
    obtain rfl | rfl : n = 0 ∨ n = 1 := by
      have := h rfl
      omega
    · rfl
    · rfl

/-- A truth value as messages write it. -/
def truthText (b : Bool) : String := if b then "True" else "False"

def text : Whole → String
  | int n => Text.decimal n
  | truth b => truthText b

end Whole

end PacketFilter
