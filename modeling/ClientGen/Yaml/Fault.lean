import ClientGen.Calendar
import ClientGen.Decimal.Numeral
import ClientGen.Text.Quoted

/-!
# Faults of YAML documents

Most faults only say that a text is not a YAML document (`Fault.malformed`).  The others arise when
the text of a scalar is read as the type that its tag asks for, and each has its own wording.
-/

namespace ClientGen.Yaml

/-- Why a text does not yield a value. -/
inductive Fault where
  /-- The text is not a document, or one with tags or aliases that have no meaning. -/
  | malformed
  /-- A character escape with a code beyond the last character. -/
  | characterCode
  /-- A character escape with a code of more than 31 bits. -/
  | characterCodeSize
  /-- A text that is no integer in the base, or one too long to be read. -/
  | integer (base : Nat) (text : String) (fault : Numeral.Fault)
  /-- A text that is no float. -/
  | float (text : String)
  /-- A number without any digits or signs. -/
  | emptyNumber
  /-- A word that is no truth value. -/
  | truthValue (word : String)
  /-- A float in base sixty with more parts than a float has room for. -/
  | largeUnit
  /-- Numbers that are no date or time. -/
  | calendar (fault : CalendarFault)
  /-- A text that has not the form of a date or time. -/
  | timestamp
  /-- A mapping where a date or time is asked for. -/
  | notText
  /-- An integer as a key with more digits than are written. -/
  | longKey
  /-- A collection that contains itself. -/
  | recursion
  deriving Repr, DecidableEq

/-- The integer that a text stands for in a base. -/
def readInteger (base : Nat) (text : String) : Except Fault Int :=
  (Numeral.integer base text).mapError (Fault.integer base text)

/-- The wording of a fault. -/
def Fault.message : Fault → String
  | .malformed => "<yaml error>"
  | .characterCode => "chr() arg not in range(0x110000)"
  | .characterCodeSize => "Python int too large to convert to C int"
  | .integer base text fault => fault.message base text
  | .float text => "could not convert string to float: " ++ Text.quoted text
  | .emptyNumber => "string index out of range"
  | .truthValue word => Text.quoted word
  | .largeUnit => "int too large to convert to float"
  | .calendar fault => fault.message
  | .timestamp => "'NoneType' object has no attribute 'groupdict'"
  | .notText => "expected string or bytes-like object, got 'list'"
  | .longKey => Numeral.longMessage
  | .recursion => ""

end ClientGen.Yaml
