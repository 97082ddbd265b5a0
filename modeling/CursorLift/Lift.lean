import CursorLift.Catalogue
import CursorLift.Concrete
import CursorLift.Node.Basic

/-! # Lifting

Lifting turns a cursor into a node of the shape that the catalogue has for its kind,
together with the cursors below that the shape asks for. Wrappers are looked through
first, so they never reach the catalogue.
-/

namespace CursorLift

/-- What lifting depends on besides the cursor. -/
structure Context where
  engine : Engine
  /-- The unit that tokens are read from. -/
  unit : Option ActiveUnit
  catalogue : Catalogue

/-- The kinds that are looked through unless others are named. -/
def defaultWrappers : List Kind := [.unexposedExpr]

namespace Literal

def noteDegenerate (form : Form) (text : String) (isNaN : Bool) : Run Unit :=
  if isNaN then Run.note (.degenerate form text) else pure ()

/-- Reads the number of a form at the front of a text and notes a degenerate one. -/
def readNoted (form : Form) (text : String) : Run Number := do
  let value ← Run.ofExcept (form.read text)
  noteDegenerate form text value.isNaN
  return value

def readNamed (name text : String) : Run Number :=
  match Form.ofName? name with
  | some form => readNoted form text
  | none => Run.fail (.unknownForm name)

end Literal

namespace Context

/-- The text of the token at a cursor, empty when there is none. Nothing is asked of a
cursor without an extent. -/
def tokenText (ctx : Context) (c : Cursor) : Run String :=
  if c.facts.hasExtent then do
    let token ← ctx.engine.token ctx.unit c
    return token.getD ""
  else return ""

/-- Lifts a cursor to a literal or a text: a shape with no nodes below. -/
def liftLeaf (ctx : Context) (c : Cursor) (read : String → Run Node) : Run Node := do
  let text ← ctx.tokenText c
  read text

def integerNode (c : Cursor) (text : String) : Run Node := do
  let value ← Literal.readNoted .integer text
  return .integerLiteral c value

def floatingNode (c : Cursor) (text : String) : Run Node := do
  let value := Literal.readFloating text
  Literal.noteDegenerate .floating text value.isNaN
  return .floatingLiteral c value

/-- Asks for what a variable's node needs: its name first, then its initializer. -/
def askVariable (ctx : Context) (c : Cursor) : Run Unit := do
  ctx.engine.attempt .spelling
  ctx.engine.seekInitializer c

def variableNode (c : Cursor) (value : Option Node) : Node :=
  .varDecl c (c.facts.spelling.getD "") (c.facts.typeSpelling.getD "") value

/-- Asks for a cursor's kind and says when it is looked through. -/
def approach (ctx : Context) (wrappers : List Kind) (c : Cursor) : Run Kind := do
  let kind ← ctx.engine.kind c
  if wrappers.contains kind then Run.note (.unwrapping kind)
  return kind

def shapeOf (ctx : Context) (c : Cursor) : Run Shape := do
  let kind ← ctx.engine.kind c
  let shape ← Run.ofExcept (ctx.catalogue.lookup kind)
  Run.note (.building kind)
  return shape

mutual

/-- Lifts a concrete cursor by the shape of its kind. -/
def liftConcrete (ctx : Context) (c : Cursor) : Run Node := do
  match ← ctx.shapeOf c with
  | .translationUnit => return .translationUnit c (← ctx.liftAll c.children)
  | .literal => ctx.liftLeaf c fun _ => Run.fail (.unknownForm "")
  | .integerLiteral => ctx.liftLeaf c (integerNode c)
  | .floatingLiteral => ctx.liftLeaf c (floatingNode c)
  | .stringLiteral => ctx.liftLeaf c fun text => return .stringLiteral c text
  | .varDecl =>
    ctx.askVariable c
    match (ctx.engine.initializerOf? c).attach with
    | none => return variableNode c none
    | some ⟨initializer, _found⟩ =>
      return variableNode c (some (← ctx.liftThrough defaultWrappers initializer))
termination_by (sizeOf c, 0)
decreasing_by
  · cases c
    simp only [Cursor.mk.sizeOf_spec]
    apply Prod.Lex.left
    omega
  · exact Prod.Lex.left _ _ (Engine.sizeOf_lt_of_initializerOf? _found)

/-- Lifts the concrete cursor that stands for a cursor. The wrapper kinds are in force down
to that one; below it the usual ones are. -/
def liftThrough (ctx : Context) (wrappers : List Kind) (c : Cursor) : Run Node := do
  let kind ← ctx.approach wrappers c
  match (ctx.engine.standIn? wrappers c).attach with
  | none => Run.fail (.barrenWrapper kind)
  | some ⟨concrete, _found⟩ => ctx.liftConcrete concrete
termination_by (sizeOf c, 1)
decreasing_by
  rcases Nat.lt_or_eq_of_le (Engine.sizeOf_le_of_standIn? _found) with smaller | same
  · exact Prod.Lex.left _ _ smaller
  · rw [same]
    exact Prod.Lex.right _ Nat.zero_lt_one

/-- Lifts cursors in order, up to the first that fails. -/
def liftAll (ctx : Context) : List Cursor → Run (List Node)
  | [] => pure []
  | c :: rest => do
    let node ← ctx.liftThrough defaultWrappers c
    let nodes ← ctx.liftAll rest
    return node :: nodes
termination_by cursors => (sizeOf cursors, 0)
decreasing_by
  · apply Prod.Lex.left
    simp only [List.cons.sizeOf_spec]
    omega
  · apply Prod.Lex.left
    simp only [List.cons.sizeOf_spec]
    omega

end

/-- Lifts a cursor, looking through the usual wrappers. -/
def lift (ctx : Context) (c : Cursor) : Run Node := ctx.liftThrough defaultWrappers c

end Context

end CursorLift
