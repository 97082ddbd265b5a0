import CursorLift.Json.Token

/-! # Reading JSON

Tokens are put together by a machine with a stack: one frame for each array or object
that is open. It is total because each token is read once.
-/

namespace CursorLift.Json

/-- An array or object that is open, with its items or fields so far, latest first. -/
inductive Frame where
  | array (items : List Json)
  /-- The value of the field with this name comes next. -/
  | field (fields : List (String × Json)) (name : String)

/-- What the machine waits for, with the frames that are open, innermost first. -/
inductive Reader where
  /-- A value. -/
  | expectValue (frames : List Frame)
  /-- The first item of an array or its end. -/
  | firstItem (frames : List Frame)
  /-- The first field of an object or its end. -/
  | firstField (frames : List Frame)
  /-- The name of another field. -/
  | expectName (frames : List Frame) (fields : List (String × Json))
  /-- The colon after the name of a field. -/
  | expectColon (frames : List Frame) (fields : List (String × Json)) (name : String)
  /-- What follows a complete value. -/
  | complete (frames : List Frame) (json : Json)

namespace Reader

/-- Reads the first token of a value. -/
def begin? (frames : List Frame) : Token → Option Reader
  | .null => some (.complete frames .null)
  | .bool value => some (.complete frames (.bool value))
  | .number token => some (.complete frames (.number token))
  | .string text => some (.complete frames (.string text))
  | .openArray => some (.firstItem frames)
  | .openObject => some (.firstField frames)
  | _ => none

def step? : Reader → Token → Option Reader
  | .expectValue frames, token => begin? frames token
  | .firstItem frames, .closeArray => some (.complete frames (.array []))
  | .firstItem frames, token => begin? (.array [] :: frames) token
  | .firstField frames, .closeObject => some (.complete frames (.object []))
  | .firstField frames, .string name => some (.expectColon frames [] name)
  | .expectName frames fields, .string name => some (.expectColon frames fields name)
  | .expectColon frames fields name, .colon => some (.expectValue (.field fields name :: frames))
  | .complete (.array items :: frames) json, .comma =>
    some (.expectValue (.array (json :: items) :: frames))
  | .complete (.array items :: frames) json, .closeArray =>
    some (.complete frames (.array (json :: items).reverse))
  | .complete (.field fields name :: frames) json, .comma =>
    some (.expectName frames ((name, json) :: fields))
  | .complete (.field fields name :: frames) json, .closeObject =>
    some (.complete frames (.object ((name, json) :: fields).reverse))
  | _, _ => none

def run? : Reader → List Token → Option Reader
  | reader, [] => some reader
  | reader, token :: rest =>
    match reader.step? token with
    | none => none
    | some next => next.run? rest

def result? : Reader → Option Json
  | .complete [] json => some json
  | _ => none

end Reader

/-- The value that tokens make. -/
def ofTokens? (tokens : List Token) : Option Json :=
  ((Reader.expectValue []).run? tokens).bind Reader.result?

/-- The value that a text writes. -/
def parse? (text : String) : Option Json := (tokens? text.toList).bind ofTokens?

end CursorLift.Json
