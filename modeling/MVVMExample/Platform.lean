import Mathlib.Data.Int.Order.Basic
import Mathlib.Order.Lattice

/-!
# Values of the platform

Integers are 64-bit and their addition traps on overflow. A trap or an
exception that nothing catches ends the process.
-/

namespace MVVMExample

/-- Ways in which an operation ends the process. -/
inductive Crash
  | arithmeticOverflow
  | indexOutOfRange
  | exception (message : String)
  deriving DecidableEq

/-- Ways in which library code ends the process. -/
inductive Trap
  | indexOutOfRange
  | unexpectedlyNil
  | preconditionFailed
  | fatalError (message : String)
  deriving DecidableEq

/-- A Swift `Int` on a 64-bit platform. -/
structure SwiftInt where
  val : Int
  inRange : -9223372036854775808 ≤ val ∧ val ≤ 9223372036854775807

namespace SwiftInt

theorem val_injective : Function.Injective val := by
  rintro ⟨left, _⟩ ⟨right, _⟩ same
  cases same
  rfl

instance : LinearOrder SwiftInt :=
  @LinearOrder.lift' SwiftInt Int Int.instLinearOrder val val_injective

/-- `Int.max`. -/
def max : SwiftInt := ⟨9223372036854775807, by decide⟩

instance : OfNat SwiftInt 0 := ⟨⟨0, by decide⟩⟩

instance : OfNat SwiftInt 1 := ⟨⟨1, by decide⟩⟩

@[simp] theorem val_one : (1 : SwiftInt).val = 1 := rfl

/-- Addition, trapping on overflow. -/
def add (left right : SwiftInt) : Except Crash SwiftInt :=
  if inRange :
      -9223372036854775808 ≤ left.val + right.val ∧
        left.val + right.val ≤ 9223372036854775807 then
    .ok ⟨left.val + right.val, inRange⟩
  else .error .arithmeticOverflow

theorem val_of_add_eq_ok
    {left right sum : SwiftInt}
    (added : left.add right = .ok sum) :
    sum.val = left.val + right.val := by
  unfold add at added
  split at added
  · cases added
    rfl
  · contradiction

/-- Adding one traps only at `Int.max`. -/
theorem add_one_of_lt_max
    {value : SwiftInt}
    (room : value < max) :
    ∃ sum, value.add 1 = .ok sum := by
  have valueLower := value.inRange.1
  have valueRoom : value.val < 9223372036854775807 := room
  refine ⟨⟨value.val + 1, by omega, by omega⟩, ?_⟩
  have inRange : -9223372036854775808 ≤ value.val + (1 : SwiftInt).val ∧
      value.val + (1 : SwiftInt).val ≤ 9223372036854775807 := by
    rw [val_one]
    omega
  exact dif_pos inRange

end SwiftInt

/-- An error value of the platform. -/
structure SwiftError where
  localizedDescription : String
  deriving DecidableEq

end MVVMExample
