import CursorLift.Failure
import CursorLift.Literal.Floating
import CursorLift.Text.Basic

/-! # Literal values

A literal of a form is read from the front of its token, after blanks. A token with
no numeral there is degenerate and its value is no number.
-/

namespace CursorLift

/-- The value of a literal: an integer of any size or a double. -/
inductive Number where
  | integer (value : Int)
  | double (value : Binary64)
  deriving Repr, DecidableEq

def Number.isNaN : Number → Bool
  | .integer _ => false
  | .double value => value.isNaN

namespace Literal

/-- The forms of literals that can be read. -/
inductive Form where
  | integer
  | floating
  deriving Repr, DecidableEq

namespace Form

def name : Form → String
  | .integer => "integer"
  | .floating => "floating"

def ofName? (name : String) : Option Form :=
  [Form.integer, Form.floating].find? fun form => form.name == name

end Form

/-- Reads the integer at the front of a text. -/
def readInteger (text : String) : Except Failure Number :=
  match Integer.scan? (Text.dropBlanks text.toList) with
  | none => .ok (.double .nan)
  | some numeral =>
    if numeral.digits.length ≤ Integer.digitLimit then .ok (.integer numeral.value)
    else .error (.tooManyDigits numeral.digits.length)

def readFloating (text : String) : Binary64 :=
  match Floating.scan? (Text.dropBlanks text.toList) with
  | none => .nan
  | some numeral => numeral.value

/-- Reads the number of a form at the front of a text. -/
def Form.read : Form → String → Except Failure Number
  | .integer, text => readInteger text
  | .floating, text => .ok (.double (readFloating text))

end Literal

end CursorLift
