import ClientGen.Decimal.Numeral
import ClientGen.Value

/-!
# Integers that are too long

A value with an integer of too many digits cannot be written (`Value.hasLongInteger`).
-/

namespace ClientGen.Value

mutual

/-- Whether an integer in a value has too many digits to be written. -/
def hasLongInteger : Value → Bool
  | .int n => Numeral.isLong n
  | .list items | .set items | .tuple items => hasLongItem items
  | .object fields => hasLongField fields
  | .mapping entries => hasLongEntry entries
  | _ => false

/-- Whether an integer in some values is too long. -/
def hasLongItem : List Value → Bool
  | [] => false
  | item :: rest => hasLongInteger item || hasLongItem rest

/-- Whether an integer in some fields is too long. -/
def hasLongField : List (String × Value) → Bool
  | [] => false
  | (_, value) :: rest => hasLongInteger value || hasLongField rest

/-- Whether an integer in some entries is too long. -/
def hasLongEntry : List (Value × Value) → Bool
  | [] => false
  | (key, value) :: rest => hasLongInteger key || hasLongInteger value || hasLongEntry rest

end

end ClientGen.Value
