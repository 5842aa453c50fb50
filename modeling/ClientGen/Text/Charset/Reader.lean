import ClientGen.Text.Charset.Basic
import ClientGen.Text.CodePoint

/-!
# Reading octets piece by piece

A `Reader` says what octets begin with: characters, a malformed part, or the beginning of a
character that the end cuts off.  What it says may depend on a state that the octets before have
left.  `Reader.decode` puts the pieces together.
-/

namespace ClientGen.Text.Charset

/-- What octets begin with. -/
inductive Piece (σ : Type) where
  /-- Some characters, which take some octets and leave a state. -/
  | shown (text : List Char) (size : Nat) (state : σ)
  /-- Some octets that are malformed; the state stays. -/
  | malformed (size : Nat)
  /-- A character that is not complete, and nothing else. -/
  | unfinished
  /-- A character of a chart that has none to give in its place. -/
  | misplaced

/-- How a character set is read: the state in front of the octets, and what some octets begin with
in a state. -/
structure Reader (σ : Type) where
  start : σ
  piece : σ → UInt8 → List UInt8 → Piece σ

namespace Reader

variable {σ : Type}

/-- Reads octets in a state; `skip` of them belong to the piece before, and `done` holds the
characters so far, the last one first. -/
def decodeFrom (reader : Reader σ) (skip : Nat) (state : σ) (done : List Char) :
    List UInt8 → Except Fault (List Char)
  | [] => .ok done.reverse
  | b :: rest =>
    match skip with
    | skip + 1 => decodeFrom reader skip state done rest
    | 0 =>
      match reader.piece state b rest with
      | .shown text size state => decodeFrom reader (size - 1) state (text.reverseAux done) rest
      | .malformed size => decodeFrom reader (size - 1) state (replacement :: done) rest
      | .unfinished =>
        if rest.length < 8 then .ok (replacement :: done).reverse else .error .leftover
      | .misplaced => .error .misplaced

/-- Reads octets. -/
def decode (reader : Reader σ) (octets : List UInt8) : Except Fault (List Char) :=
  reader.decodeFrom 0 reader.start [] octets

end Reader

/-- The piece that is a character of some size, if there is one. -/
def Piece.ofChar? {σ : Type} (size : Nat) (state : σ) : Option Char → Piece σ
  | some c => .shown [c] size state
  | none => .malformed 1

/-- A reader without states, for characters of one octet and of two. -/
def Reader.ofPairs (single? : Nat → Option Char) (pair? : Nat → Nat → Option (List Char)) :
    Reader Unit where
  start := ()
  piece := fun _ b rest =>
    match single? b.toNat with
    | some c => .shown [c] 1 ()
    | none =>
      match rest with
      | [] => .unfinished
      | c :: _ =>
        match pair? b.toNat c.toNat with
        | some text => .shown text 2 ()
        | none => .malformed 1

/-- The character of an octet in ASCII. -/
def ascii? (n : Nat) : Option Char :=
  if n < 0x80 then some (Char.ofNat n) else none

end ClientGen.Text.Charset
