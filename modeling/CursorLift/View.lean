import CursorLift.Engine

/-! # Views of cursors

A view asks an engine about a cursor, or about no cursor at all. Without a cursor only
whether there is one, and how the view is shown, can be answered; every other question
fails. Asking for an argument fails in its own way, and so do the questions for which a
library has no more than a function that takes a cursor. Questions that lead to another
cursor can be followed by questions about that one.
-/

namespace CursorLift

/-- A cursor, or none, seen through an engine. -/
structure View where
  engine : Engine
  cursor : Option Cursor

/-- What can be asked of a cursor's type. -/
inductive TypeQuery where
  | whole
  | kind
  | spelling
  deriving Repr, DecidableEq

/-- What can be asked of a view. -/
inductive Query where
  | whole
  | spelling
  | displayName
  | language
  | availability
  | isNull
  | isFunctionDecl
  | isMethodDecl
  | argumentCount
  | shown
  | type (query : TypeQuery)
  | definition (query : Query)
  | referenced (query : Query)
  | argument (number : Int) (query : Query)
  deriving Repr, DecidableEq

inductive Reading where
  | text (text : String)
  | flag (value : Bool)
  | count (value : Int)
  | language (language : SourceLanguage)
  | availability (availability : Availability)
  /-- A view: the label of its cursor, and how it is shown. -/
  | view (label : Option String) (shown : String)
  /-- A type, by its spelling. -/
  | type (spelling : String)
  deriving Repr, DecidableEq

namespace Engine

/-- What a cursor leads to as the engine gives it: a library has no cursor that is null. -/
def given? (engine : Engine) (found : Option Cursor) : Option Cursor :=
  match engine with
  | .memory _ => found
  | .library _ => found.filter fun c => !c.facts.isNull

/-- The argument of a cursor with a number; there is none outside the list. -/
def argumentOf? (engine : Engine) (c : Cursor) : Int → Option Cursor
  | .ofNat number => engine.given? c.arguments[number]?
  | .negSucc _ => none

end Engine

namespace View

/-- The cursor of a view, where one is needed. -/
def target (view : View) : Except Failure Cursor :=
  match view.cursor with
  | some c => .ok c
  | none => .error .noCursor

/-- The cursor of a view, where it is to be handed to a function. Those of a library refuse
to be handed none. -/
def handed (view : View) : Except Failure Cursor :=
  match view.engine, view.cursor with
  | .library _, none => .error .cursorExpected
  | _, _ => view.target

/-- Whether a view has no cursor or a null one. -/
def isNull (view : View) : Bool :=
  match view.cursor with
  | some c => c.facts.isNull
  | none => true

def spelling (view : View) : Except Failure String := do
  (view.engine.attempt .spelling).outcome
  let c ← view.target
  return c.facts.spelling.getD ""

def kind (view : View) : Except Failure Kind := do
  (view.engine.attempt .kind).outcome
  let c ← view.target
  view.engine.kindOf c

/-- How a view is shown. -/
def shown (view : View) : Except Failure String := do
  if view.isNull then return "CursorHandle(<null>)"
  let spelling ← view.spelling
  return "CursorHandle(" ++ Text.quoted spelling ++ ")"

/-- The view of what a cursor is linked to. -/
def follow (view : View) (link : Cursor → Link Cursor) : Except Failure View := do
  let c ← view.target
  return ⟨view.engine, view.engine.given? ((link c).follow c)⟩

/-- The view of an argument. Only a function has any. -/
def argument (view : View) (number : Int) : Except Failure View := do
  if view.isNull then throw .argumentOfNonFunction
  let kind ← view.kind
  if kind ≠ .functionDecl then throw .argumentOfNonFunction
  let c ← view.target
  return ⟨view.engine, view.engine.argumentOf? c number⟩

def argumentCount (view : View) : Except Failure Int := do
  let c ← view.handed
  if c.facts.argumentCount = -1 then throw .uncountedArguments
  return c.facts.argumentCount

def language (view : View) : Except Failure SourceLanguage := do
  let c ← view.handed
  match SourceLanguage.ofCode? c.facts.language with
  | some language => return language
  | none => throw (.unknownLanguage c.facts.language)

def availability (view : View) : Except Failure Availability := do
  let c ← view.target
  match Numbering.place? Availability.table.length c.facts.availability with
  | none => throw .outsideTable
  | some place =>
    match Availability.table[place]? with
    | some availability => return availability
    | none => throw (.unlisted c.facts.availability)

/-- Answers a question about the type of a cursor. -/
def askType (engine : Engine) (c : Cursor) : TypeQuery → Except Failure Reading
  | .whole => return .type (c.facts.typeSpelling.getD "")
  | .kind => return .text (← engine.typeKindOf c)
  | .spelling => return .text (c.facts.typeSpelling.getD "")

def ask (view : View) : Query → Except Failure Reading
  | .whole => return .view (view.cursor.bind fun c => c.facts.label) (← view.shown)
  | .spelling => return .text (← view.spelling)
  | .displayName => return .text ((← view.target).facts.displayName.getD "")
  | .language => return .language (← view.language)
  | .availability => return .availability (← view.availability)
  | .isNull => return .flag view.isNull
  | .isFunctionDecl => return .flag ((← view.kind) == .functionDecl)
  | .isMethodDecl => return .flag ((← view.kind) == .cxxMethod)
  | .argumentCount => return .count (← view.argumentCount)
  | .shown => return .text (← view.shown)
  | .type query => do askType view.engine (← view.target) query
  | .definition query => do
    let next ← view.follow Cursor.definition
    next.ask query
  | .referenced query => do
    let next ← view.follow Cursor.referenced
    next.ask query
  | .argument number query => do
    let next ← view.argument number
    next.ask query

end View

end CursorLift
