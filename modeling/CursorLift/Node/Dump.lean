import CursorLift.Json.Printer
import CursorLift.Node.Basic
import CursorLift.Number.Written

/-! # Dumps

A dump is the JSON text of a node: its shape first, then the fields of the shape.
A value that is no finite number is null. Only so many levels can be dumped.
-/

namespace CursorLift

def Binary64.toJson (value : Binary64) : Json :=
  match value.written? with
  | some token => .number token
  | none => .null

def Number.toJson : Number → Json
  | .integer value => Json.ofInt value
  | .double value => value.toJson

namespace Node

/-- The fields of a node after its shape. -/
def tagged (shape : Shape) (fields : List (String × Json)) : Json :=
  .object (("kind", .string shape.name) :: fields)

mutual

/-- A node as a JSON value. -/
def toJson : Node → Json
  | .translationUnit _ body => tagged .translationUnit [("body", .array (bodyToJson body))]
  | .integerLiteral _ value => tagged .integerLiteral [("value", value.toJson)]
  | .floatingLiteral _ value => tagged .floatingLiteral [("value", value.toJson)]
  | .varDecl _ name typeName value =>
    tagged .varDecl [("name", .string name), ("type_name", .string typeName),
      ("value", valueToJson value)]
  | .stringLiteral _ text => tagged .stringLiteral [("text", .string text)]

def bodyToJson : List Node → List Json
  | [] => []
  | node :: nodes => node.toJson :: bodyToJson nodes

def valueToJson : Option Node → Json
  | none => .null
  | some node => node.toJson

end

mutual

/-- How many levels the dump of a node reaches below the node. Each node below is a level,
and so is the value of an integer literal, which is an integer or a double. -/
def levels : Node → Nat
  | .translationUnit _ body => bodyLevels body
  | .varDecl _ _ _ value => valueLevels value
  | .integerLiteral .. => 1
  | .floatingLiteral .. => 0
  | .stringLiteral .. => 0

def bodyLevels : List Node → Nat
  | [] => 0
  | node :: nodes => max (node.levels + 1) (bodyLevels nodes)

def valueLevels : Option Node → Nat
  | none => 0
  | some node => node.levels + 1

end

/-- The indent of a dump unless it is given one. -/
def defaultIndent : Int := 2

/-- The widest indent: what a word of 64 bits can count. -/
def widestIndent : Nat := 18446744073709551615

/-- How many levels a dump may reach below its root. -/
def lowestLevel : Nat := 255

/-- The width of an indent. -/
def indentWidth : Int → Except Failure Nat
  | .ofNat width => if width ≤ widestIndent then .ok width else .error .indentTooLarge
  | .negSucc _ => .error .negativeIndent

/-- The dump of a node with an indent, or compact without one. -/
def dump (node : Node) (indent : Option Int) : Except Failure String := do
  let width ← indent.mapM indentWidth
  if lowestLevel < node.levels then throw .tooDeep
  return node.toJson.render width

/-- With an indent that fits, a dump fails for too many levels only. -/
theorem dump_of_fits {width : Nat} (fits : width ≤ widestIndent) (node : Node) :
    node.dump (some (width : Int)) =
      if lowestLevel < node.levels then .error .tooDeep
      else .ok (node.toJson.render (some width)) := by
  have indent : indentWidth (width : Int) = .ok width := if_pos fits
  simp only [dump, Option.mapM_some, indent]
  show (if lowestLevel < node.levels then _ else _) = _
  split <;> rfl

end Node

end CursorLift
