import CursorLift.Engine
import CursorLift.Json.Basic

/-! # Described units

Cursors, units and libraries can be described in JSON. Every field of a description may
be left out and then has its usual value.
-/

namespace CursorLift.Description

/-- A field that is a text or null, with its value when it is left out. -/
def textField (json : Json) (name : String) (default : Option String) : Option String :=
  match json.field? name with
  | some value => value.text?
  | none => default

def intField (json : Json) (name : String) (default : Int) : Int :=
  ((json.field? name).bind Json.int?).getD default

def boolField (json : Json) (name : String) (default : Bool) : Bool :=
  ((json.field? name).bind Json.bool?).getD default

/-- A field that is a list of texts, of which nulls are left out. -/
def textsField (json : Json) (name : String) : List String :=
  match json.field? name with
  | some value => value.items.filterMap Json.text?
  | none => []

/-- A described kind: a word, a number or nothing. -/
def kind (json : Json) : Kind :=
  match json with
  | .string text => .ofWord text
  | json =>
    match json.int? with
    | some id => .number id
    | none => .absent

def kindField (json : Json) (name : String) : Kind :=
  match json.field? name with
  | some value => kind value
  | none => .absent

def facts (json : Json) : Facts :=
  let spelling := textField json "spelling" (some "")
  let type := (json.field? "type").getD .null
  { kind := kindField json "kind"
    label := textField json "id" none
    spelling
    displayName := textField json "display_name" spelling
    typeKind := .listed ((textField type "kind" none).getD "INVALID")
    typeSpelling := textField type "spelling" (some "")
    token := textField json "token" none
    place := textField json "loc" none
    lexemes := textsField json "tokens"
    hasExtent := !boolField json "null_extent" false
    argumentCount := intField json "num_args" (-1)
    language := intField json "language" 1
    availability := intField json "availability" 0
    isNull := boolField json "null" false }

def childAt? (children : List Cursor) : Int → Option Cursor
  | .ofNat number => children[number]?
  | .negSucc _ => none

mutual

/-- A described cursor. Its initializer is the number of a child or a cursor of its own. -/
def cursor (json : Json) : Cursor :=
  let children := cursorsField json "children"
  let initializer := match _found : json.field? "init" with
    | some (.object fields) => some (cursor (.object fields))
    | some value => value.int?.bind (childAt? children)
    | none => none
  { facts := facts json
    children
    initializer
    arguments := cursorsField json "args"
    definition := linkField json "definition"
    referenced := linkField json "referenced" }
termination_by (sizeOf json, 1)
decreasing_by
  · exact Prod.Lex.right _ Nat.zero_lt_one
  · exact Prod.Lex.left _ _ (Json.sizeOf_lt_of_field? _found)
  · exact Prod.Lex.right _ Nat.zero_lt_one
  · exact Prod.Lex.right _ Nat.zero_lt_one
  · exact Prod.Lex.right _ Nat.zero_lt_one

def cursorsField (json : Json) (name : String) : List Cursor :=
  match _found : json.field? name with
  | some (.array items) => cursors items
  | _ => []
termination_by (sizeOf json, 0)
decreasing_by
  have := Json.sizeOf_lt_of_field? _found
  simp only [Json.array.sizeOf_spec] at this
  apply Prod.Lex.left
  omega

/-- A field that leads to a cursor: the one it stands in, another one, or none. -/
def linkField (json : Json) (name : String) : Link Cursor :=
  match _found : json.field? name with
  | some (.object fields) => .other (cursor (.object fields))
  | some (.string _) => .itself
  | _ => .nowhere
termination_by (sizeOf json, 0)
decreasing_by exact Prod.Lex.left _ _ (Json.sizeOf_lt_of_field? _found)

def cursors : List Json → List Cursor
  | [] => []
  | json :: rest => cursor json :: cursors rest
termination_by items => (sizeOf items, 0)
decreasing_by
  · apply Prod.Lex.left
    simp only [List.cons.sizeOf_spec]
    omega
  · apply Prod.Lex.left
    simp only [List.cons.sizeOf_spec]
    omega

end

/-- A described unit; null is one that cannot be loaded. -/
def sourceUnit? (json : Json) : Option SourceUnit :=
  match json.field? "root" with
  | none => none
  | some root =>
    let tokens := match json.field? "tokens" with
      | some (.object fields) =>
        fields.filterMap fun (place, token) => token.text?.map fun text => (place, text)
      | _ => []
    some { root := cursor root, tokens }

def supply (json : Json) : List (Option SourceUnit) :=
  match json.field? "units" with
  | some value => value.items.map sourceUnit?
  | none => []

/-- The exports of a library that lacks some. -/
def exportsWithout (missing : List String) : Exports :=
  { tokens := !missing.contains "clang_getToken"
    initializers := !missing.contains "clang_Cursor_getVarDeclInitializer" }

def exports (json : Json) : Exports := exportsWithout (textsField json "missing")

end CursorLift.Description
