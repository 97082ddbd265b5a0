import CursorLift.Json.Basic
import CursorLift.Text.Basic

/-! # Written JSON

A value is written compactly, without any blank, or with an indent: then every item
and every field has a line of its own, moved in by the indent once for each level, and
a blank follows the colon. An empty array or object is a pair of brackets either way.
Strings escape the quote, the backslash and the control characters below the space.
-/

namespace CursorLift.Json

/-- One character as it is written in a string. -/
def escaped (c : Char) : List Char :=
  if c = '"' ∨ c = '\\' then ['\\', c]
  else if c = '\x08' then ['\\', 'b']
  else if c = '\t' then ['\\', 't']
  else if c = '\n' then ['\\', 'n']
  else if c = '\x0c' then ['\\', 'f']
  else if c = '\r' then ['\\', 'r']
  else if c.toNat < 0x20 then '\\' :: 'u' :: Text.hexDigits 4 c.toNat
  else [c]

def writtenText (text : String) : List Char :=
  '"' :: (text.toList.flatMap escaped ++ ['"'])

/-- What stands before an item at a depth. -/
def lineBreak (indent : Option Nat) (depth : Nat) : List Char :=
  match indent with
  | none => []
  | some width => '\n' :: List.replicate (width * depth) ' '

/-- What stands between the name and the value of a field. -/
def fieldMark (indent : Option Nat) : List Char :=
  if indent.isSome then [':', ' '] else [':']

mutual

/-- A value as it is written at a depth. -/
def write (indent : Option Nat) (depth : Nat) : Json → List Char
  | .null => ['n', 'u', 'l', 'l']
  | .bool true => ['t', 'r', 'u', 'e']
  | .bool false => ['f', 'a', 'l', 's', 'e']
  | .number token => token.toList
  | .string text => writtenText text
  | .array [] => ['[', ']']
  | .array (item :: items) =>
    '[' :: (lineBreak indent (depth + 1) ++ write indent (depth + 1) item
      ++ writeItems indent (depth + 1) items ++ lineBreak indent depth ++ [']'])
  | .object [] => ['\x7b', '\x7d']
  | .object ((name, value) :: fields) =>
    '\x7b' :: (lineBreak indent (depth + 1) ++ writtenText name ++ fieldMark indent
      ++ write indent (depth + 1) value
      ++ writeFields indent (depth + 1) fields ++ lineBreak indent depth ++ ['\x7d'])

/-- The items after the first as they are written. -/
def writeItems (indent : Option Nat) (depth : Nat) : List Json → List Char
  | [] => []
  | item :: items =>
    ',' :: (lineBreak indent depth ++ write indent depth item ++ writeItems indent depth items)

def writeFields (indent : Option Nat) (depth : Nat) : List (String × Json) → List Char
  | [] => []
  | (name, value) :: fields =>
    ',' :: (lineBreak indent depth ++ writtenText name ++ fieldMark indent
      ++ write indent depth value ++ writeFields indent depth fields)

end

def render (indent : Option Nat) (json : Json) : String := String.ofList (json.write indent 0)

end CursorLift.Json
