/-!
# Deflated octets

Packed octets are a sequence of bits, those of an octet from the lowest to the highest.  Numbers are
written with their lowest bit first; symbols are written in a prefix code that the lengths of its
words determine: words of one length are consecutive numbers, in the order of their symbols, and
follow the shorter words.

Deflated octets are blocks of octets as they are, or of symbols in prefix codes.  A symbol stands
for an octet, for the end of the block, or for octets that stood some distance back.  The codes are
fixed, or their lengths are written in front of the symbols, in a prefix code as well.

Bits that end early are no fault: `inflate` then gives what they have said so far.
-/

namespace ClientGen.Packed

/-- Why packed octets cannot be unpacked. -/
inductive Fault where
  | headerCheck
  | method
  | windowSize
  | dictionary
  | headerFlags
  | headerSum
  | dataSum
  | dataLength
  | blockType
  | storedLengths
  | tooManySymbols
  | lengthCodes
  | lengthRepeat
  | noEndOfBlock
  | literalCodes
  | distanceCodes
  | literal
  | distance
  | tooFarBack
  deriving Repr, DecidableEq

/-- The wording of a fault. -/
def Fault.message : Fault → String
  | dictionary => "Error 2 while decompressing data"
  | fault => "Error -3 while decompressing data: " ++ match fault with
    | headerCheck => "incorrect header check"
    | method => "unknown compression method"
    | windowSize => "invalid window size"
    | dictionary => ""
    | headerFlags => "unknown header flags set"
    | headerSum => "header crc mismatch"
    | dataSum => "incorrect data check"
    | dataLength => "incorrect length check"
    | blockType => "invalid block type"
    | storedLengths => "invalid stored block lengths"
    | tooManySymbols => "too many length or distance symbols"
    | lengthCodes => "invalid code lengths set"
    | lengthRepeat => "invalid bit length repeat"
    | noEndOfBlock => "invalid code -- missing end-of-block"
    | literalCodes => "invalid literal/lengths set"
    | distanceCodes => "invalid distances set"
    | literal => "invalid literal/length code"
    | distance => "invalid distance code"
    | tooFarBack => "invalid distance too far back"

/-- Why reading stops: the bits end, or they are at fault. -/
inductive Stop where
  | ended
  | fault (f : Fault)
  deriving Repr, DecidableEq

/-- Reads from the front of bits. -/
abbrev Reading := StateT (List Bool) (Except Stop)

/-! ### Bits -/

/-- The bits of an octet. -/
def bitsOfOctet (octet : UInt8) : List Bool :=
  (List.range 8).map fun i => octet.toNat.testBit i

/-- The bits of octets. -/
def bitsOf (octets : List UInt8) : List Bool :=
  octets.flatMap bitsOfOctet

/-- The number that bits write. -/
def number : List Bool → Nat
  | [] => 0
  | bit :: rest => (if bit then 1 else 0) + 2 * number rest

/-- The octets that bits write; bits that fill no octet are left out. -/
def octetsOf : List Bool → List UInt8
  | a :: b :: c :: d :: e :: f :: g :: h :: rest =>
    UInt8.ofNat (number [a, b, c, d, e, f, g, h]) :: octetsOf rest
  | _ => []

/-- The bits from the next octet on, where the bits fill octets up to their end. -/
def fromOctet (bits : List Bool) : List Bool :=
  bits.drop (bits.length % 8)

/-- Reads a number of `n` bits. -/
def readNumber (n : Nat) : Reading Nat := fun bits =>
  let (front, rest) := bits.splitAt n
  if front.length < n then .error .ended else .ok (number front, rest)

/-! ### Codes -/

/-- A prefix code: how many words there are of length one, two and so on, and the symbols in the
order of their words. -/
structure PrefixCode where
  counts : List Nat
  symbols : Array Nat
  deriving Repr

namespace PrefixCode

/-- The code in which every symbol has a word of the given length; one of length zero has none. -/
def ofLengths (lengths : List Nat) : PrefixCode :=
  let wordLengths := (List.range (lengths.foldl max 0)).map (· + 1)
  { counts := wordLengths.map fun n => lengths.count n
    symbols := (wordLengths.flatMap fun n =>
      lengths.zipIdx.filterMap fun (length, symbol) =>
        if length = n then some symbol else none).toArray }

/-- How many words of the greatest length are not used; the number is negative where there are more
words than can be told apart. -/
def spare (code : PrefixCode) : Int :=
  code.counts.foldl (fun (left : Int) (count : Nat) => 2 * left - count) 1

/-- Whether every sequence of bits starts with a word, or the code has no words at all. -/
def isComplete (code : PrefixCode) : Bool :=
  code.counts.isEmpty || code.spare = 0

/-- Whether the code is complete or has one word only, of one bit. -/
def isUsable (code : PrefixCode) : Bool :=
  code.isComplete || (0 < code.spare && code.counts.length = 1)

/-- Reads the symbol of a word, where `word` was read so far, `first` is the first word that is a
bit longer and not longer than `counts` tell, and `index` the place of its symbol.  There is no
symbol where no word starts in this way. -/
def readFrom (symbols : Array Nat) :
    List Nat → Nat → Nat → Nat → List Bool → Except Stop (Option Nat × List Bool)
  | [], _, _, _, bits => .ok (none, bits)
  | _ :: _, _, _, _, [] => .error .ended
  | count :: counts, word, first, index, bit :: bits =>
    let word := 2 * word + (if bit then 1 else 0)
    if word < first + count then .ok (symbols[index + (word - first)]?, bits)
    else readFrom symbols counts word (2 * (first + count)) (index + count) bits

/-- Reads the symbol of a word; in a code without words a bit stands for none. -/
def read (code : PrefixCode) : Reading (Option Nat) :=
  if code.counts.isEmpty then (fun _ => none) <$> readNumber 1
  else readFrom code.symbols code.counts 0 0 0

end PrefixCode

/-- The octets that were unpacked and the bits behind them, if these have not ended before. -/
abbrev Unpacked := Except Fault (Array UInt8 × Option (List Bool))

/-- What is unpacked where reading stops. -/
def Stop.unpacked (output : Array UInt8) : Stop → Unpacked
  | .ended => .ok (output, none)
  | .fault f => .error f

/-! ### Symbols -/

/-- The least length that a symbol stands for, by the symbols from 257 on, and the number of bits
that add to it. -/
def lengthSteps : Array (Nat × Nat) :=
  #[(3, 0), (4, 0), (5, 0), (6, 0), (7, 0), (8, 0), (9, 0), (10, 0), (11, 1), (13, 1), (15, 1),
    (17, 1), (19, 2), (23, 2), (27, 2), (31, 2), (35, 3), (43, 3), (51, 3), (59, 3), (67, 4),
    (83, 4), (99, 4), (115, 4), (131, 5), (163, 5), (195, 5), (227, 5), (258, 0)]

/-- The least distance that a symbol stands for, and the number of bits that add to it. -/
def distanceSteps : Array (Nat × Nat) :=
  #[(1, 0), (2, 0), (3, 0), (4, 0), (5, 1), (7, 1), (9, 2), (13, 2), (17, 3), (25, 3), (33, 4),
    (49, 4), (65, 5), (97, 5), (129, 6), (193, 6), (257, 7), (385, 7), (513, 8), (769, 8),
    (1025, 9), (1537, 9), (2049, 10), (3073, 10), (4097, 11), (6145, 11), (8193, 12), (12289, 12),
    (16385, 13), (24577, 13)]

/-- Reads the number that a symbol and the bits behind it stand for. -/
def readStep (steps : Array (Nat × Nat)) (fault : Fault) (symbol : Option Nat) : Reading Nat :=
  match symbol.bind fun n => steps[n]? with
  | none => throw (.fault fault)
  | some (least, extra) => (least + ·) <$> readNumber extra

/-- Reads the rest of a reference to octets before: their number and their distance. -/
def readReference (distances : PrefixCode) (symbol : Nat) : Reading (Nat × Nat) := do
  let length ← readStep lengthSteps .literal (some (symbol - 257))
  let distance ← readStep distanceSteps .distance (← distances.read)
  return (length, distance)

/-- Repeats `length` octets that start some distance before the end. -/
def repeatFrom (distance : Nat) : Nat → Array UInt8 → Array UInt8
  | 0, output => output
  | length + 1, output =>
    repeatFrom distance length (output.push (output.getD (output.size - distance) 0))

/-- Unpacks the symbols of a block, at most `fuel` of them; each takes a bit. -/
def unpackSymbols (literals distances : PrefixCode) :
    Nat → Array UInt8 → List Bool → Unpacked
  | 0, output, _ => .ok (output, none)
  | fuel + 1, output, bits =>
    match (literals.read).run bits with
    | .error stop => stop.unpacked output
    | .ok (none, _) => .error .literal
    | .ok (some symbol, bits) =>
      if symbol < 256 then
        unpackSymbols literals distances fuel (output.push (UInt8.ofNat symbol)) bits
      else if symbol = 256 then .ok (output, some bits)
      else match (readReference distances symbol).run bits with
        | .error stop => stop.unpacked output
        | .ok ((length, distance), bits) =>
          if output.size < distance then .error .tooFarBack
          else
            unpackSymbols literals distances fuel (repeatFrom distance length output) bits

/-! ### Codes in front of the symbols -/

/-- The fixed code of octets and lengths. -/
def fixedLiterals : PrefixCode :=
  .ofLengths (List.replicate 144 8 ++ List.replicate 112 9 ++ List.replicate 24 7 ++
    List.replicate 8 8)

/-- The fixed code of distances. -/
def fixedDistances : PrefixCode :=
  .ofLengths (List.replicate 32 5)

/-- The order in which the lengths of the code for lengths are written. -/
def lengthOrder : List Nat :=
  [16, 17, 18, 0, 8, 7, 9, 6, 10, 5, 11, 4, 12, 3, 13, 2, 14, 1, 15]

/-- Reads `n` numbers of three bits. -/
def readTriples : Nat → Reading (List Nat)
  | 0 => return []
  | n + 1 => do
    let first ← readNumber 3
    let others ← readTriples n
    return first :: others

/-- Reads how often a length stands, by the symbol for it: the length and how often. -/
def readRun (known : Array Nat) (symbol : Nat) : Reading (Nat × Nat) := do
  if symbol < 16 then return (symbol, 1)
  else if symbol = 16 then
    let more ← readNumber 2
    match known.back? with
    | none => throw (.fault .lengthRepeat)
    | some last => return (last, 3 + more)
  else if symbol = 17 then return (0, 3 + (← readNumber 3))
  else return (0, 11 + (← readNumber 7))

/-- Reads lengths up to `total` of them; the ones that are known come first.  Every symbol adds one
at least, so `fuel` symbols are enough. -/
def readLengths (code : PrefixCode) (total : Nat) : Nat → Array Nat → Reading (Array Nat)
  | 0, known => return known
  | fuel + 1, known => do
    if known.size = total then return known
    let symbol ← code.read
    -- The code for lengths is complete, so every run of bits leads to a symbol.
    let (length, count) ← readRun known (symbol.getD 0)
    if total < known.size + count then throw (.fault .lengthRepeat)
    readLengths code total fuel (known ++ Array.replicate count length)

/-- The given fault unless a condition holds. -/
def demand (condition : Bool) (fault : Fault) : Reading Unit :=
  if condition then return else throw (.fault fault)

/-- Reads the codes of a block: those of octets and lengths, and those of distances. -/
def readCodes : Reading (PrefixCode × PrefixCode) := do
  let literalCount := 257 + (← readNumber 5)
  let distanceCount := 1 + (← readNumber 5)
  let tripleCount := 4 + (← readNumber 4)
  demand (literalCount ≤ 286 && distanceCount ≤ 30) .tooManySymbols
  let triples ← readTriples tripleCount
  let lengthCode := PrefixCode.ofLengths ((List.range 19).map fun symbol =>
    ((lengthOrder.zip triples).lookup symbol).getD 0)
  demand lengthCode.isComplete .lengthCodes
  let total := literalCount + distanceCount
  -- Both codes share one list of lengths, and a run may reach from the first into the second.
  let lengths ← readLengths lengthCode total total #[]
  demand (0 < lengths.getD 256 0) .noEndOfBlock
  let literals := PrefixCode.ofLengths (lengths.toList.take literalCount)
  demand literals.isUsable .literalCodes
  let distances := PrefixCode.ofLengths (lengths.toList.drop literalCount)
  demand distances.isUsable .distanceCodes
  return (literals, distances)

/-! ### Blocks -/

/-- Unpacks a block of octets as they are. -/
def unpackStored (output : Array UInt8) (bits : List Bool) : Unpacked :=
  match (readNumber 32).run (fromOctet bits) with
  | .error stop => stop.unpacked output
  | .ok (sizes, bits) =>
    let size := sizes % 0x10000
    -- The size is written twice, the second time with all bits turned.
    if size + sizes / 0x10000 ≠ 0xffff then .error .storedLengths
    else
      let (front, rest) := bits.splitAt (8 * size)
      .ok (output ++ (octetsOf front).toArray,
        if front.length < 8 * size then none else some rest)

/-- Unpacks a block of some type. -/
def unpackBlock (type : Nat) (output : Array UInt8) (bits : List Bool) : Unpacked :=
  match type with
  | 0 => unpackStored output bits
  | 1 => unpackSymbols fixedLiterals fixedDistances bits.length output bits
  | 2 =>
    match readCodes.run bits with
    | .error stop => stop.unpacked output
    | .ok ((literals, distances), bits) =>
      unpackSymbols literals distances bits.length output bits
  | _ => .error .blockType

/-- Unpacks blocks up to the last one, at most `fuel` of them; each takes a bit. -/
def unpackBlocks : Nat → Array UInt8 → List Bool → Unpacked
  | 0, output, _ => .ok (output, none)
  | fuel + 1, output, bits =>
    match (readNumber 3).run bits with
    | .error stop => stop.unpacked output
    | .ok (head, bits) =>
      match unpackBlock (head / 2) output bits with
      | .error fault => .error fault
      | .ok (output, none) => .ok (output, none)
      | .ok (output, some bits) =>
        -- The first bit of a block tells whether it is the last one.
        if head % 2 = 1 then .ok (output, some bits) else unpackBlocks fuel output bits

/-- Unpacks deflated octets: what they stand for, and the octets behind them unless they have ended
before. -/
def inflate (octets : List UInt8) : Except Fault (List UInt8 × Option (List UInt8)) :=
  let bits := bitsOf octets
  (unpackBlocks bits.length #[] bits).map fun (output, rest) =>
    (output.toList, rest.map fun bits => octetsOf (fromOctet bits))

end ClientGen.Packed
