import CursorLift.Cursor
import CursorLift.Literal.Basic

/-! # Nodes

The typed tree that cursors are lifted to, and the shapes that it is made of. Every node
keeps the cursor that it was made from.
-/

namespace CursorLift

/-- The shapes that a cursor can be lifted to. -/
inductive Shape where
  | translationUnit
  /-- A literal of no form: it has a token, which cannot be read. -/
  | literal
  | integerLiteral
  | floatingLiteral
  | varDecl
  | stringLiteral
  deriving Repr, DecidableEq

namespace Shape

def name : Shape → String
  | .translationUnit => "TranslationUnit"
  | .literal => "Literal"
  | .integerLiteral => "IntegerLiteral"
  | .floatingLiteral => "FloatingLiteral"
  | .varDecl => "VarDecl"
  | .stringLiteral => "StringLiteral"

def all : List Shape :=
  [.translationUnit, .literal, .integerLiteral, .floatingLiteral, .varDecl, .stringLiteral]

def ofName? (name : String) : Option Shape := all.find? fun shape => shape.name == name

end Shape

/-- A node of the typed tree. -/
inductive Node where
  | translationUnit (cursor : Cursor) (body : List Node)
  | integerLiteral (cursor : Cursor) (value : Number)
  | floatingLiteral (cursor : Cursor) (value : Binary64)
  | varDecl (cursor : Cursor) (name typeName : String) (value : Option Node)
  | stringLiteral (cursor : Cursor) (text : String)

namespace Node

def cursor : Node → Cursor
  | .translationUnit cursor _ => cursor
  | .integerLiteral cursor _ => cursor
  | .floatingLiteral cursor _ => cursor
  | .varDecl cursor .. => cursor
  | .stringLiteral cursor _ => cursor

def shape : Node → Shape
  | .translationUnit .. => .translationUnit
  | .integerLiteral .. => .integerLiteral
  | .floatingLiteral .. => .floatingLiteral
  | .varDecl .. => .varDecl
  | .stringLiteral .. => .stringLiteral

/-- One step down a tree. -/
inductive Selector where
  /-- The member of a translation unit's body with a number. -/
  | member (number : Nat)
  /-- The value of a variable. -/
  | value
  deriving Repr, DecidableEq

/-- The node one step down. -/
def select? : Node → Selector → Option Node
  | .translationUnit _ body, .member number => body[number]?
  | .varDecl _ _ _ value, .value => value
  | _, _ => none

def descend? (node : Node) : List Selector → Option Node
  | [] => some node
  | selector :: path => (node.select? selector).bind fun next => next.descend? path

end Node

end CursorLift
