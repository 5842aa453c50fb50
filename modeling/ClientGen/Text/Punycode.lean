import ClientGen.Text.CodePoint

/-!
# Texts in the characters of host names

`encode` writes a text with ASCII letters, digits and hyphens only: its ASCII characters come first,
and behind a hyphen stand numbers that say where the others belong.  Each number is a distance from
the state before, written with digits of 36 values whose weights adapt to the numbers before it.
`decode` reads such a text and stops at a number that is none; `read?` does not accept one.
-/

namespace ClientGen.Text.Punycode

/-- The digit of a value below 36: letters stand for the first 26 of them. -/
def digit (value : Nat) : Char :=
  if value < 26 then Char.ofNat ('a'.toNat + value) else Char.ofNat ('0'.toNat + (value - 26))

/-- The least value that does not end a number at a place, which is a multiple of 36. -/
def threshold (place bias : Nat) : Nat :=
  if place ≤ bias then 1 else min 26 (place - bias)

/-- A threshold lies between 1 and 26. -/
theorem threshold_bounds (place bias : Nat) :
    1 ≤ threshold place bias ∧ threshold place bias ≤ 26 := by
  unfold threshold
  split <;> omega

/-- The digits of a number from some place on. -/
def digits (bias place n : Nat) : List Char :=
  let least := threshold place bias
  if n < least then [digit n]
  else
    digit (least + (n - least) % (36 - least)) ::
      digits bias (place + 36) ((n - least) / (36 - least))
termination_by n
decreasing_by
  have h := threshold_bounds place bias
  have : (n - threshold place bias) / (36 - threshold place bias) ≤ n - threshold place bias :=
    Nat.div_le_self _ _
  omega

/-- Scales a distance down, and counts by how much. -/
def scale (place distance : Nat) : Nat × Nat :=
  if 455 < distance then scale (place + 36) (distance / 35) else (place, distance)
termination_by distance
decreasing_by exact Nat.div_lt_self (by omega) (by omega)

/-- The bias of the next number, after a distance in a text of `count` characters. -/
def adapt (distance count : Nat) (first : Bool) : Nat :=
  let damped := if first then distance / 700 else distance / 2
  let (place, rest) := scale 0 (damped + damped / count)
  place + 36 * rest / (rest + 38)

/-- What has been written so far, the distance that has been covered since the last number, the
bias, and the number of characters that are accounted for. -/
structure State where
  written : List Char
  distance : Nat
  bias : Nat
  count : Nat
  first : Bool

/-- Passes a character while the code point `n` is placed. -/
def State.pass (n : Nat) (state : State) (c : Char) : State :=
  if c.toNat < n then { state with distance := state.distance + 1 }
  else if c.toNat = n then
    { written := state.written ++ digits state.bias 36 state.distance
      distance := 0
      bias := adapt state.distance (state.count + 1) state.first
      count := state.count + 1
      first := false }
  else state

/-- Places the code points of a list, which is in increasing order, from `next` on. -/
def place (text : List Char) (next : Nat) : List Nat → State → State
  | [], state => state
  | n :: rest, state =>
    let reached := { state with distance := state.distance + (n - next) * (state.count + 1) }
    let passed := text.foldl (State.pass n) reached
    place text (n + 1) rest { passed with distance := passed.distance + 1 }

/-- Puts a number in its place unless it is there. -/
def insertOnce (n : Nat) : List Nat → List Nat
  | [] => [n]
  | m :: rest =>
    if n < m then n :: m :: rest
    else if n = m then m :: rest
    else m :: insertOnce n rest

/-- Writes a text with ASCII characters. -/
def encode (text : List Char) : List Char :=
  let plain := text.filter fun c => c.toNat < 128
  let others := (text.filter fun c => 128 ≤ c.toNat).map Char.toNat
  let final := place text 128 (others.foldr insertOnce []) ⟨[], 0, 72, plain.length, true⟩
  (if plain.isEmpty then [] else plain ++ ['-']) ++ final.written

/-! ### Reading -/

/-- The value of a digit in either case. -/
def value? (c : Char) : Option Nat :=
  if c.isDigit then some (c.toNat - '0'.toNat + 26)
  else if c.isAlpha then some (c.toLower.toNat - 'a'.toNat)
  else none

/-- Reads a number from some place on, where a digit counts `weight`; what stands behind it. -/
def number? (bias place weight : Nat) : List Char → Option (Nat × List Char)
  | [] => none
  | c :: rest =>
    match value? c with
    | none => none
    | some value =>
      let least := threshold place bias
      if value < least then some (value * weight, rest)
      else
        (number? bias (place + 36) (weight * (36 - least)) rest).map fun (n, rest) =>
          (value * weight + n, rest)

/-- A number takes characters. -/
theorem length_lt_of_number? {bias place weight n : Nat} {text rest : List Char}
    (h : number? bias place weight text = some (n, rest)) : rest.length < text.length := by
  induction text generalizing place weight n with
  | nil => simp [number?] at h
  | cons c text ih =>
    rw [number?] at h
    split at h
    · simp at h
    · dsimp only at h
      split at h
      · obtain ⟨-, rfl⟩ := Prod.mk.inj (Option.some.inj h)
        simp
      · obtain ⟨⟨m, behind⟩, hm, hr⟩ := Option.map_eq_some_iff.1 h
        obtain ⟨-, rfl⟩ := Prod.mk.inj hr
        exact Nat.lt_succ_of_lt (ih hm)

/-- Puts characters into a text as numbers say: the next one is looked for from the character `code`
at `place` on, and a question mark stands for those beyond all characters.  The second part tells
whether the numbers are all there, and no character is beyond. -/
def insert (text : List Char) (code place bias : Nat) (first : Bool) (numbers : List Char) :
    List Char × Bool :=
  match _h : number? bias 36 1 numbers with
  | none => (text, numbers.isEmpty)
  | some (distance, rest) =>
    let count := text.length + 1
    let reached := code + (place + distance) / count
    let beyond := 0x10ffff < reached
    let code := if beyond then '?'.toNat else reached
    let place := (place + distance) % count
    let (text, complete) := insert (text.take place ++ numbered code :: text.drop place) code
      (place + 1) (adapt distance count first) false rest
    (text, complete && !beyond)
termination_by numbers.length
decreasing_by exact length_lt_of_number? (by assumption)

/-- Reads a text that starts with `plain` characters, as far as the numbers tell. -/
def decode (plain numbers : List Char) : List Char :=
  (insert plain 128 0 72 true numbers).1

/-- Reads a text in ASCII that has its numbers behind the last hyphen. -/
def read? (spelled : List Char) : Option (List Char) :=
  let numbers := (spelled.reverse.takeWhile (· ≠ '-')).reverse
  let (text, complete) :=
    insert (spelled.take (spelled.length - numbers.length - 1)) 128 0 72 true numbers
  if complete then some text else none

end ClientGen.Text.Punycode
