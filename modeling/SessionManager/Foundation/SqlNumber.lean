import Mathlib.Algebra.Group.Int.Defs
import Mathlib.Algebra.Group.Nat.Defs

/-! Integer columns of a SQL database. An integer has 64 bits; a sum beyond them is computed in double
precision and stays a floating-point number as long as it does not fit back. Only sums of integers
are formed, so the floating-point numbers here are whole. -/
namespace SessionManager.Foundation

inductive SqlNumber
  | integer (value : Int)
  | real (value : Int)
  deriving DecidableEq, Repr

namespace SqlNumber

def FitsInteger (value : Int) : Prop := -2 ^ 63 ≤ value ∧ value < 2 ^ 63

instance (value : Int) : Decidable (FitsInteger value) := inferInstanceAs (Decidable (_ ∧ _))

/-- The nearest number with 53 significant bits, the even one of two. -/
def toDouble (value : Int) : Int :=
  let size := value.natAbs
  let unit := 2 ^ (size.log2 - 52)
  let below := size / unit
  let twice := 2 * (size % unit)
  let nearest := if twice < unit ∨ twice = unit ∧ below % 2 = 0 then below else below + 1
  value.sign * (nearest * unit : Nat)

/-- A floating-point number stored in an integer column: it becomes an integer strictly between the
bounds. -/
def ofDouble (value : Int) : SqlNumber :=
  if -2 ^ 63 < value ∧ value < 2 ^ 63 - 1 then .integer value else .real value

def plus : SqlNumber → Int → SqlNumber
  | .integer value, amount =>
    if FitsInteger (value + amount) then .integer (value + amount)
    else ofDouble (toDouble (toDouble value + toDouble amount))
  | .real value, amount => ofDouble (toDouble (value + toDouble amount))

theorem plus_of_fits {value amount : Int} (fits : FitsInteger (value + amount)) :
    (integer value).plus amount = integer (value + amount) := if_pos fits

end SqlNumber

end SessionManager.Foundation
