import CursorLift.Cursor

/-! # Visits

An engine does not hand out the cursors below a cursor; it visits them. It shows them to a
visitor one by one, depth first in the order of the children, and after each of them the visitor
says how to go on. What the visitor learns is handed on from one cursor to the next.
-/

namespace CursorLift

/-- How a visit goes on after a cursor. -/
inductive Visit where
  /-- It is over. -/
  | stop
  /-- The next one beside it is visited. -/
  | next
  /-- The cursors below it are visited first. -/
  | descend
  deriving Repr, DecidableEq

namespace Cursor

variable {σ : Type}

mutual

/-- Visits the cursors below a cursor. It gives whether the visit came to its end without being
stopped, and what the visitor has learned. -/
def visit (visitor : Cursor → σ → Visit × σ) : Cursor → σ → Bool × σ
  | ⟨_, children, _, _, _, _⟩, known => visitAll visitor children known

/-- Visits cursors side by side. A stop anywhere below one of them stops the whole visit. -/
def visitAll (visitor : Cursor → σ → Visit × σ) : List Cursor → σ → Bool × σ
  | [], known => (true, known)
  | c :: rest, known =>
    match visitor c known with
    | (.stop, known) => (false, known)
    | (.next, known) => visitAll visitor rest known
    | (.descend, known) =>
      match visit visitor c known with
      | (false, known) => (false, known)
      | (true, known) => visitAll visitor rest known

end

end Cursor

end CursorLift
