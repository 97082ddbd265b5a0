import CursorLift.Kind.Basic

/-! # Cursors

A cursor is a place in the tree that a front end makes of a source file, together
with everything it can be asked about: its name, its type, the cursors below it, its
initializer, its arguments, and the cursors that it is defined by or refers to.
-/

namespace CursorLift

/-- How available an entity is to the code around it. -/
inductive Availability where
  | available
  | deprecated
  | notAvailable
  | notAccessible
  deriving Repr, DecidableEq

namespace Availability

def name : Availability → String
  | .available => "AVAILABLE"
  | .deprecated => "DEPRECATED"
  | .notAvailable => "NOT_AVAILABLE"
  | .notAccessible => "NOT_ACCESSIBLE"

/-- The table of availabilities, in the order of their numbers. -/
def table : List Availability := [.available, .deprecated, .notAvailable, .notAccessible]

end Availability

/-- The language that an entity is written in. -/
inductive SourceLanguage where
  | invalid
  | c
  | objC
  | cPlusPlus
  deriving Repr, DecidableEq

namespace SourceLanguage

def name : SourceLanguage → String
  | .invalid => "INVALID"
  | .c => "C"
  | .objC => "OBJ_C"
  | .cPlusPlus => "C_PLUS_PLUS"

def ofCode? : Int → Option SourceLanguage
  | 0 => some .invalid
  | 1 => some .c
  | 2 => some .objC
  | 3 => some .cPlusPlus
  | _ => none

end SourceLanguage

/-- What the type of a cursor is known as. -/
inductive TypeKind where
  /-- A kind that bindings list, by its name. -/
  | listed (name : String)
  /-- A number for which they list none. -/
  | number (id : Nat)
  deriving Repr, DecidableEq

/-- What a cursor says of itself, apart from other cursors. -/
structure Facts where
  kind : Kind := .absent
  /-- A label that reports know the cursor by. -/
  label : Option String := none
  spelling : Option String := some ""
  displayName : Option String := some ""
  typeKind : TypeKind := .listed "INVALID"
  typeSpelling : Option String := some ""
  /-- The token at the cursor's own location. -/
  token : Option String := none
  /-- A key under which the active unit knows the token instead. -/
  place : Option String := none
  /-- All tokens within the cursor's extent. -/
  lexemes : List String := []
  /-- Whether the cursor covers any part of the source. -/
  hasExtent : Bool := true
  /-- How many arguments are reported; -1 where there can be none. -/
  argumentCount : Int := -1
  /-- The number of the language. -/
  language : Int := 1
  /-- The number of the availability. -/
  availability : Int := 0
  /-- Whether the cursor stands for nothing. -/
  isNull : Bool := false
  deriving Repr, DecidableEq

/-- Where a cursor leads: nowhere, to itself, or to another one. -/
inductive Link (α : Type) where
  | nowhere
  | itself
  | other (target : α)
  deriving Repr, DecidableEq

def Link.follow {α : Type} (start : α) : Link α → Option α
  | .nowhere => none
  | .itself => some start
  | .other target => some target

/-- A cursor with the cursors that it leads to. -/
structure Cursor where
  facts : Facts
  children : List Cursor := []
  initializer : Option Cursor := none
  arguments : List Cursor := []
  definition : Link Cursor := .nowhere
  referenced : Link Cursor := .nowhere

namespace Cursor

def extentLexemes (c : Cursor) : List String :=
  if c.facts.hasExtent then c.facts.lexemes else []

theorem sizeOf_lt_of_mem_children {c d : Cursor} (h : d ∈ c.children) : sizeOf d < sizeOf c := by
  have := List.sizeOf_lt_of_mem h
  cases c
  simp only [Cursor.mk.sizeOf_spec]
  simp only at this
  omega

theorem sizeOf_lt_of_initializer {c d : Cursor} (h : c.initializer = some d) :
    sizeOf d < sizeOf c := by
  cases c
  simp only at h
  subst h
  simp only [Cursor.mk.sizeOf_spec, Option.some.sizeOf_spec]
  omega

end Cursor

end CursorLift
