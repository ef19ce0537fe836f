import FeatureFlags.Datum.Basic
import FeatureFlags.Text.Digits

/-! Integers with too many digits. They can be reckoned with, but in base ten they are neither written
out nor read.
-/

namespace FeatureFlags

namespace Datum

/-- The number of digits up to which integers are written out and read. -/
def mostDigits : Nat := 4300

mutual

/-- Whether a value holds an integer with too many digits to be written out. -/
def isOverlong : Datum → Bool
  | int n => Nat.pow 10 mostDigits ≤ n.natAbs
  | list items | tuple items | set items => anyOverlong items
  | record entries => anyEntryOverlong entries
  | _ => false

def anyOverlong : List Datum → Bool
  | [] => false
  | x :: rest => isOverlong x || anyOverlong rest

def anyEntryOverlong : List (String × Datum) → Bool
  | [] => false
  | (_, value) :: rest => isOverlong value || anyEntryOverlong rest

end

end Datum

/-- Why a text is not read. -/
inductive Unread (Fault : Type) where
  | malformed (fault : Fault)
  /-- An integer has so many digits. -/
  | tooManyDigits (count : Nat)
deriving DecidableEq, Repr

namespace Unread

variable {Fault : Type}

/-- Says otherwise what is wrong with a text. -/
def map {Other : Type} (f : Fault → Other) : Unread Fault → Unread Other
  | malformed fault => .malformed (f fault)
  | tooManyDigits count => .tooManyDigits count

end Unread

/-- An integer that is read from its digits. -/
def Datum.ofDigits {Fault : Type} (negative : Bool) (digits : List Char)
    : Except (Unread Fault) Datum :=
  if mostDigits < digits.length then .error (.tooManyDigits digits.length)
  else
    let size : Int := Digits.value digits
    .ok (.int (if negative then -size else size))

end FeatureFlags
