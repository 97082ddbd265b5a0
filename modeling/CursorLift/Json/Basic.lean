import CursorLift.Text.Basic

/-! # JSON values

A number is kept as the token that writes it, so integers of any size and the exact
digits of a double survive. The fields of an object keep their order.
-/

namespace CursorLift

inductive Json where
  | null
  | bool (value : Bool)
  | number (token : String)
  | string (text : String)
  | array (items : List Json)
  | object (fields : List (String × Json))
  deriving Repr, Inhabited

namespace Json

def ofInt (value : Int) : Json := .number (Text.decimal value)

def ofText? : Option String → Json
  | none => .null
  | some text => .string text

/-- The value of an object's first field with a name. -/
def field? : Json → String → Option Json
  | .object fields, name => fields.lookup name
  | _, _ => none

/-- The items of an array; nothing else has any. -/
def items : Json → List Json
  | .array items => items
  | _ => []

def text? : Json → Option String
  | .string text => some text
  | _ => none

def bool? : Json → Option Bool
  | .bool value => some value
  | _ => none

/-- The number that a row of ASCII digits denotes. -/
def natural? (digits : List Char) : Option Nat :=
  if digits.isEmpty || !digits.all Char.isDigit then none else some (Text.digitsValue digits)

/-- The integer that a number's token writes without a fraction or an exponent. -/
def int? : Json → Option Int
  | .number token =>
    match token.toList with
    | '-' :: digits => (natural? digits).map fun value => -(value : Int)
    | digits => (natural? digits).map fun value => (value : Int)
  | _ => none

theorem sizeOf_lt_of_field? {json value : Json} {name : String}
    (h : json.field? name = some value) : sizeOf value < sizeOf json := by
  cases json with
  | object fields =>
    have below : ∀ fields : List (String × Json), fields.lookup name = some value →
        sizeOf value < sizeOf fields := by
      intro fields
      induction fields with
      | nil => simp
      | cons entry rest ih =>
        obtain ⟨key, first⟩ := entry
        intro hlook
        simp only [List.lookup_cons] at hlook
        simp only [List.cons.sizeOf_spec, Prod.mk.sizeOf_spec]
        split at hlook
        · obtain rfl := Option.some.inj hlook
          omega
        · have := ih hlook
          omega
    have := below fields h
    simp only [Json.object.sizeOf_spec]
    omega
  | _ => simp [field?] at h

end Json

end CursorLift
