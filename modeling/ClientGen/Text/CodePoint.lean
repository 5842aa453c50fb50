/-!
# Code points

Some numbers below 0x110000 and all above belong to no character.  U+FFFD stands in their place, as
it does for octets that are malformed (`numbered`).  Classes of characters are given by tables of
closed ranges of code points in increasing order, and `inRanges` searches such a table by halving.
-/

namespace ClientGen.Text

/-! ### Characters by their numbers -/

/-- What stands for something that is no character. -/
def replacement : Char := Char.ofNat 0xfffd

/-- The character with a number. -/
def numbered (n : Nat) : Char :=
  if n.isValidChar then Char.ofNat n else replacement

/-! ### Ranges -/

/-- Whether `n` lies in one of the ranges of `table` with index in `[lo, hi)`: the range in the
middle decides which half is searched on. -/
def inRangesFrom (table : Array (Nat × Nat)) (n lo hi : Nat) : Bool :=
  if lo < hi then
    let mid := lo + (hi - lo) / 2
    match table[mid]? with
    | none => false
    | some (first, last) =>
      if n < first then inRangesFrom table n lo mid
      else if last < n then inRangesFrom table n (mid + 1) hi
      else true
  else false
termination_by hi - lo

/-- Whether `n` lies in one of the ranges of `table`, which are in increasing order. -/
def inRanges (table : Array (Nat × Nat)) (n : Nat) : Bool :=
  inRangesFrom table n 0 table.size

end ClientGen.Text
