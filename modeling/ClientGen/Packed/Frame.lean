import ClientGen.Packed.Deflate

/-!
# Frames of deflated octets

Deflated octets stand between a header and sums that tell whether they came through whole.  `gunzip`
reads the frame with a name and a time, `unframe` the small one.  Octets that end early are no fault
here either.
-/

namespace ClientGen.Packed

/-! ### Sums -/

/-- The check sum after one more bit, by division of polynomials. -/
def divideBit (sum : UInt32) : UInt32 :=
  if sum &&& 1 = 1 then (sum >>> 1) ^^^ 0xedb88320 else sum >>> 1

/-- The check sum of octets by division of polynomials. -/
def divisionSum (octets : List UInt8) : Nat :=
  let sum := octets.foldl (fun sum octet => (List.range 8).foldl (fun sum _ => divideBit sum)
    (sum ^^^ octet.toUInt32)) (0xffffffff : UInt32)
  (sum ^^^ 0xffffffff).toNat

/-- The check sum of octets by adding them, and adding the sums. -/
def additionSum (octets : List UInt8) : Nat :=
  let (a, b) := octets.foldl (fun (a, b) octet =>
    let a := (a + octet.toNat) % 65521
    (a, (b + a) % 65521)) (1, 0)
  b * 0x10000 + a

/-- The number that octets write, the lowest one first. -/
def lowFirst : List UInt8 → Nat
  | [] => 0
  | octet :: rest => octet.toNat + 0x100 * lowFirst rest

/-! ### Parts of a header -/

/-- The octets behind `n` others, if there are so many. -/
def behind? (n : Nat) (octets : List UInt8) : Option (List UInt8) :=
  if octets.length < n then none else some (octets.drop n)

/-- The octets behind a field that has its size in front. -/
def behindField? (octets : List UInt8) : Option (List UInt8) := do
  let rest ← behind? 2 octets
  behind? (lowFirst (octets.take 2)) rest

/-- The octets behind the first zero. -/
def behindZero? : List UInt8 → Option (List UInt8)
  | [] => none
  | octet :: rest => if octet = 0 then some rest else behindZero? rest

/-- The octets behind the parts of a header that its flags announce, up to its sum. -/
def behindParts? (flags : UInt8) (octets : List UInt8) : Option (List UInt8) := do
  let octets ← if flags &&& 4 = 0 then some octets else behindField? octets
  let octets ← if flags &&& 8 = 0 then some octets else behindZero? octets
  if flags &&& 16 = 0 then some octets else behindZero? octets

/-! ### Frames -/

/-- Whether the first four octets hold, when there are so many; if not, there is a fault. -/
def checkSum (holds : List UInt8 → Bool) (fault : Fault) (octets : List UInt8) :
    Except Fault Unit :=
  if octets.length < 4 || holds (octets.take 4) then .ok () else .error fault

/-- Unpacks what stands behind a long header. -/
def gunzipBody (octets : List UInt8) : Except Fault (List UInt8) := do
  let (output, rest) ← inflate octets
  let sums := rest.getD []
  checkSum (fun sum => lowFirst sum = divisionSum output) .dataSum sums
  checkSum (fun sum => lowFirst sum = output.length % 0x100000000) .dataLength (sums.drop 4)
  return output

/-- Unpacks octets with a long header: it may have a name and a time. -/
def gunzip (octets : List UInt8) : Except Fault (List UInt8) :=
  match octets with
  | a :: b :: method :: flags :: _ =>
    if a ≠ 0x1f || b ≠ 0x8b then .error .headerCheck
    else if method ≠ 8 then .error .method
    else if flags &&& 0xe0 ≠ 0 then .error .headerFlags
    else match (behind? 10 octets).bind (behindParts? flags) with
      | none => .ok []
      | some body =>
        if flags &&& 2 = 0 then gunzipBody body
        else match behind? 2 body with
          | none => .ok []
          | some rest =>
            let header := octets.take (octets.length - body.length)
            if lowFirst (body.take 2) = divisionSum header % 0x10000 then gunzipBody rest
            else .error .headerSum
  | a :: b :: _ => if a ≠ 0x1f || b ≠ 0x8b then .error .headerCheck else .ok []
  | _ => .ok []

/-- Unpacks octets with a short header. -/
def unframe (octets : List UInt8) : Except Fault (List UInt8) :=
  match octets with
  | method :: flags :: body => do
    if (0x100 * method.toNat + flags.toNat) % 31 ≠ 0 then throw .headerCheck
    if method &&& 15 ≠ 8 then throw .method
    if method.toNat / 16 > 7 then throw .windowSize
    if flags &&& 0x20 ≠ 0 then
      if body.length < 4 then return [] else throw .dictionary
    let (output, rest) ← inflate body
    checkSum (fun sum => lowFirst sum.reverse = additionSum output) .dataSum (rest.getD [])
    return output
  | _ => .ok []

/-- Unpacks octets with a short header or, where they are none, with no header at all. -/
def unframeOrInflate (octets : List UInt8) : Except Fault (List UInt8) :=
  match unframe octets with
  | .ok output => .ok output
  | .error _ => (inflate octets).map (·.1)

end ClientGen.Packed
