import CursorLift.Json.Reader
import CursorLift.Proofs.Tokens

/-! # Written JSON reads back

The machine with a stack puts the tokens of a value together to that value again, whatever
is open around it. So what was written with any indent, or compactly, is read as the value that
it was written for.
-/

namespace CursorLift.Json

namespace Reader

theorem run?_firstItem (frames : List Frame) (json : Json) (later : List Token) :
    (Reader.firstItem frames).run? (json.tokens ++ later) =
      (Reader.expectValue (.array [] :: frames)).run? (json.tokens ++ later) := by
  cases json with
  | null | bool | number | string => rfl
  | array items => cases items <;> rfl
  | object fields =>
      cases fields with
      | nil => rfl
      | cons field fields => cases field; rfl

mutual

/-- The tokens of a value make that value, whatever is open. -/
theorem run?_tokens (frames : List Frame) (later : List Token) : ∀ json : Json,
    (Reader.expectValue frames).run? (json.tokens ++ later) =
      (Reader.complete frames json).run? later
  | .null => rfl
  | .bool _ => rfl
  | .number _ => rfl
  | .string _ => rfl
  | .array [] => rfl
  | .array (item :: items) => by
      have opened : (Reader.expectValue frames).run? ((array (item :: items)).tokens ++ later) =
          (Reader.firstItem frames).run?
            (item.tokens ++ (itemTokens items ++ .closeArray :: later)) := by
        rw [tokens]
        simp [run?, step?, begin?]
      rw [opened, run?_firstItem, run?_tokens, run?_itemTokens]
      rfl
  | .object [] => rfl
  | .object ((name, value) :: fields) => by
      have opened : (Reader.expectValue frames).run?
          ((object ((name, value) :: fields)).tokens ++ later) =
          (Reader.expectValue (.field [] name :: frames)).run?
            (value.tokens ++ (fieldTokens fields ++ .closeObject :: later)) := by
        rw [tokens]
        simp [run?, step?, begin?]
      rw [opened, run?_tokens, run?_fieldTokens]
      rfl

theorem run?_itemTokens (frames : List Frame) (later : List Token) (early : List Json)
    (json : Json) : ∀ items : List Json,
    (Reader.complete (.array early :: frames) json).run?
        (itemTokens items ++ .closeArray :: later) =
      (Reader.complete frames (.array (early.reverse ++ json :: items))).run? later
  | [] => by simp [itemTokens, run?, step?]
  | item :: items => by
      have next : (Reader.complete (.array early :: frames) json).run?
          (itemTokens (item :: items) ++ .closeArray :: later) =
          (Reader.expectValue (.array (json :: early) :: frames)).run?
            (item.tokens ++ (itemTokens items ++ .closeArray :: later)) := by
        rw [itemTokens]
        simp [run?, step?]
      rw [next, run?_tokens, run?_itemTokens]
      simp

theorem run?_fieldTokens (frames : List Frame) (later : List Token)
    (early : List (String × Json)) (name : String) (json : Json) :
    ∀ fields : List (String × Json),
    (Reader.complete (.field early name :: frames) json).run?
        (fieldTokens fields ++ .closeObject :: later) =
      (Reader.complete frames (.object (early.reverse ++ (name, json) :: fields))).run? later
  | [] => by simp [fieldTokens, run?, step?]
  | (other, value) :: fields => by
      have next : (Reader.complete (.field early name :: frames) json).run?
          (fieldTokens ((other, value) :: fields) ++ .closeObject :: later) =
          (Reader.expectValue (.field ((name, json) :: early) other :: frames)).run?
            (value.tokens ++ (fieldTokens fields ++ .closeObject :: later)) := by
        rw [fieldTokens]
        simp [run?, step?]
      rw [next, run?_tokens, run?_fieldTokens]
      simp

end

end Reader

theorem ofTokens?_tokens (json : Json) : ofTokens? json.tokens = some json := by
  have read := Reader.run?_tokens [] [] json
  rw [List.append_nil] at read
  rw [ofTokens?, read]
  rfl

/-- What was written is read back, with every indent and without one. -/
theorem parse?_render (json : Json) (proper : Proper json.tokens) (indent : Option Nat) :
    parse? (json.render indent) = some json := by
  rw [parse?, render, String.toList_ofList, tokens?_write json proper, Option.bind_some,
    ofTokens?_tokens]

end CursorLift.Json
