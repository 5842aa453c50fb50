/-!
# The text of a float

A finite double is `m · 2^q` for natural `m` and integer `q`.  The decimals that round to it fill an
interval around it, half a unit of its last binary place on either side, the ends included exactly
when `m` is even.  `shortest` finds the fewest digits of a decimal inside that interval, and of two
such decimals of that length the nearer one.  All comparisons are between natural numbers.

Floats are written with their shortest digits: positionally, always with a point, when the leading
digit stands between `10^-4` and `10^15`, and otherwise with an exponent of a sign and at least two
digits.  What is written for the values that are not finite belongs to a `FloatStyle`.
-/

namespace ClientGen.Decimal

/-! ### Shortest digits -/

/-- A positive binary value `mantissa · 2^exponent`; `isolated` marks a mantissa whose lower
neighbour is only half as far as the upper one. -/
structure Binary where
  mantissa : Nat
  exponent : Int
  isolated : Bool
  deriving Repr, DecidableEq

/-- A positive decimal value `digits · 10^exponent`. -/
structure Digits where
  digits : Nat
  exponent : Int
  deriving Repr, DecidableEq

/-- The bit in front of the fraction of a normal double, `2^52`. -/
def leadingBit : Nat := 0x10000000000000

/-- The bit for the sign of a double, `2^63`. -/
def signBit : Nat := 0x8000000000000000

/-- The value of a finite double without its sign. -/
def Binary.ofBits (bits : UInt64) : Binary :=
  let fraction : Nat := bits.toNat % leadingBit
  let biased : Nat := bits.toNat / leadingBit % 2048
  if biased = 0 then ⟨fraction, -1074, false⟩
  else ⟨fraction + leadingBit, biased - 1075, fraction == 0 && decide (1 < biased)⟩

/-- Numerator and denominator of `2^q / 10^k`. -/
def unitRatio (q k : Int) : Nat × Nat :=
  (Nat.pow 2 q.toNat * Nat.pow 10 (-k).toNat, Nat.pow 2 (-q).toNat * Nat.pow 10 k.toNat)

/-- The exponent of the leading decimal digit of a positive value. -/
def leadingExponent (b : Binary) : Int :=
  -- The ratio stands for the decimal logarithm of two; the guess is at most one too low.
  let low := ((b.mantissa.log2 : Int) + b.exponent) * 30103 / 100000
  let (num, den) := unitRatio b.exponent (low + 1)
  if den ≤ b.mantissa * num then low + 1 else low

/-- Whether the decimal `c · 10^k` rounds to `b`, where `2^b.exponent / 10^k = num / den`. -/
def roundsTo (b : Binary) (num den c : Nat) : Bool :=
  -- Four times everything, so that half of a half step is a natural number.
  let lower := num * (4 * b.mantissa - (if b.isolated then 1 else 2))
  let upper := num * (4 * b.mantissa + 2)
  let here := 4 * (c * den)
  if b.mantissa % 2 = 0 then decide (lower ≤ here ∧ here ≤ upper)
  else decide (lower < here ∧ here < upper)

/-- The decimal with last place `10^k` that rounds to `b` and is nearest to it, if there is one; of
two equally near the even one. -/
def nearestOnGrid? (b : Binary) (k : Int) : Option Digits :=
  let (num, den) := unitRatio b.exponent k
  let below := b.mantissa * num / den
  let rest := 2 * (b.mantissa * num % den)
  let downFirst := rest < den || (rest == den && below % 2 == 0)
  let candidates := if downFirst then [below, below + 1] else [below + 1, below]
  (candidates.find? (roundsTo b num den)).map (⟨·, k⟩)

/-- Moves the zeros at the end of the digits into the exponent. -/
def Digits.strip (fuel : Nat) (d : Digits) : Digits :=
  match fuel with
  | 0 => d
  | fuel + 1 =>
    if d.digits ≠ 0 ∧ d.digits % 10 = 0 then Digits.strip fuel ⟨d.digits / 10, d.exponent + 1⟩
    else d

/-- The shortest decimal that rounds to the positive value `b`. -/
def shortest (b : Binary) : Digits :=
  let top := leadingExponent b
  -- Seventeen digits tell any two doubles apart.
  match (List.range 17).findSome? fun (n : Nat) => nearestOnGrid? b (top - n) with
  | some d => d.strip 20
  | none => ⟨b.mantissa, b.exponent⟩

/-! ### Digits as text -/

/-- The texts of the values that have no digits. -/
structure FloatStyle where
  nan : String
  infinity : String
  negativeInfinity : String

/-- The style of plain text. -/
def FloatStyle.plain : FloatStyle := ⟨"nan", "inf", "-inf"⟩

/-- The style of JSON text. -/
def FloatStyle.json : FloatStyle := ⟨"NaN", "Infinity", "-Infinity"⟩

private def zeros (n : Nat) : String :=
  String.ofList (List.replicate n '0')

/-- Writes the digits `ds`, the decimal point standing `point` places after their start. -/
def placePoint (ds : String) (point : Int) : String :=
  let size : Int := ds.length
  if -4 < point ∧ point ≤ 16 then
    if point ≤ 0 then "0." ++ zeros (-point).toNat ++ ds
    else if size ≤ point then ds ++ zeros (point - size).toNat ++ ".0"
    else
      let (whole, fraction) := ds.toList.splitAt point.toNat
      String.ofList whole ++ "." ++ String.ofList fraction
  else
    let fraction := ds.toList.drop 1
    let head := String.ofList (ds.toList.take 1) ++
      (if fraction.isEmpty then "" else "." ++ String.ofList fraction)
    let exponent := point - 1
    let size := toString exponent.natAbs
    head ++ (if exponent < 0 then "e-" else "e+") ++ (if size.length < 2 then "0" ++ size else size)

/-- The text of a float in the given style. -/
def floatText (style : FloatStyle) (x : Float) : String :=
  if x.isNaN then style.nan
  else
    let bits := x.toBits
    let negative := decide (signBit ≤ bits.toNat)
    if x.isInf then (if negative then style.negativeInfinity else style.infinity)
    else
      let sign := if negative then "-" else ""
      let b := Binary.ofBits bits
      if b.mantissa = 0 then sign ++ "0.0"
      else
        let d := shortest b
        let ds := toString d.digits
        sign ++ placePoint ds (d.exponent + ds.length)

/-- The integer a float stands for, when it is finite and has no fraction. -/
def integerOf? (x : Float) : Option Int :=
  if x.isNaN || x.isInf then none
  else
    let bits := x.toBits
    let b := Binary.ofBits bits
    let size? : Option Nat :=
      if 0 ≤ b.exponent then some (b.mantissa <<< b.exponent.toNat)
      else
        let unit := 1 <<< (-b.exponent).toNat
        if b.mantissa % unit = 0 then some (b.mantissa / unit) else none
    size?.map fun n => if signBit ≤ bits.toNat then -(n : Int) else n

/-- The double nearest to `digits · 10^exponent`, with a sign.  Values beyond the range of doubles
become infinite and values far below it zero. -/
def toFloat (negative : Bool) (digits : Nat) (exponent : Int) : Float :=
  let size : Int := (toString digits).length
  let x : Float :=
    if digits = 0 then 0.0
    -- Far outside the range the power of ten is not worked out.
    else if 400 < exponent + size then 1.0 / 0.0
    else if exponent + size < -400 then 0.0
    else if exponent < 0 then Float.ofScientific digits true exponent.natAbs
    else Float.ofScientific digits false exponent.natAbs
  if negative then -x else x

/-- The double nearest to an integer. -/
def ofInt (n : Int) : Float :=
  toFloat (decide (n < 0)) n.natAbs 0

end ClientGen.Decimal
