import CursorLift.Node.Basic
import CursorLift.Trace

/-! # Catalogues

A catalogue says, for each kind of cursor, the shape of the node that such a cursor is
lifted to. Kinds stand in the order of their first registration. A kind that the
catalogue does not know is a failure, never a default.
-/

namespace CursorLift

/-- Kinds with their shapes, in order of first registration. A kind may be held without a
shape, to keep its place. -/
structure Catalogue where
  entries : List (Kind × Option Shape) := []
  deriving Repr, DecidableEq

/-- A request to give a kind a shape. -/
structure Registration where
  kind : Kind
  shape : Option Shape
  /-- Whether the shape may take the place of an earlier one. -/
  replace : Bool := false
  deriving Repr, DecidableEq

namespace Catalogue

def kinds (catalogue : Catalogue) : List Kind := catalogue.entries.map Prod.fst

def size (catalogue : Catalogue) : Nat := catalogue.entries.length

def holds (catalogue : Catalogue) (kind : Kind) : Bool :=
  catalogue.entries.any fun entry => entry.1 == kind

def lookup (catalogue : Catalogue) (kind : Kind) : Except Failure Shape :=
  match (catalogue.entries.lookup kind).join with
  | some shape => .ok shape
  | none => .error (.unhandledKind kind)

/-- Gives a kind a shape: in its old place, or at the end when it is new. -/
def put (catalogue : Catalogue) (kind : Kind) (shape : Option Shape) : Catalogue :=
  if catalogue.holds kind then
    ⟨catalogue.entries.map fun entry => if entry.1 = kind then (kind, shape) else entry⟩
  else ⟨catalogue.entries ++ [(kind, shape)]⟩

/-- The catalogue after a registration. A kind that is held is replaced only on request. -/
def register (catalogue : Catalogue) (request : Registration) : Except Failure Catalogue :=
  if catalogue.holds request.kind && !request.replace then .error (.duplicateKind request.kind)
  else .ok (catalogue.put request.kind request.shape)

def registerNoted (catalogue : Catalogue) (request : Registration) : Run Catalogue := do
  let extended ← Run.ofExcept (catalogue.register request)
  Run.note (.registered request.kind)
  return extended

/-- Registrations one after the other, up to the first that fails. -/
def registerAll (catalogue : Catalogue) : List Registration → Run Catalogue
  | [] => pure catalogue
  | request :: requests => do
    let extended ← catalogue.registerNoted request
    extended.registerAll requests

/-- What every catalogue starts from unless it is to be empty. -/
def basicRegistrations : List Registration := [
  { kind := .translationUnit, shape := some .translationUnit },
  { kind := .integerLiteral, shape := some .integerLiteral },
  { kind := .floatingLiteral, shape := some .floatingLiteral },
  { kind := .varDecl, shape := some .varDecl }]

def basic : Run Catalogue := registerAll {} basicRegistrations

end Catalogue

end CursorLift
