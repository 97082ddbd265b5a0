import CursorLift.Kind.Table
import CursorLift.Text.Basic

/-! # Kinds of cursors

The kind of a cursor is one of the table, or a key that the table does not know: a
number, a word, or nothing. Keys of different sorts never coincide, so the number 9
is not the kind that the table lists under 9.

The places of a table are numbered from 0. A negative number counts back from the end
of the table: -1 is the last place. Before the first place there is none; what stands
past the end, or at an empty place, is for the table to say. Where numbers are kept in
words, only what a word holds of a number is left of it.
-/

namespace CursorLift

namespace Numbering

/-- What a signed word of 32 bits holds of a number. -/
def word (number : Int) : Int := number.bmod 4294967296

/-- The place that a number means in a table of a size, counting back from the end when it
is negative. -/
def place? (size : Nat) : Int → Option Nat
  | .ofNat number => some number
  | .negSucc back => if back < size then some (size - 1 - back) else none

theorem place?_eq_none_iff {size : Nat} {number : Int} :
    place? size number = none ↔ number < -(size : Int) := by
  cases number with
  | ofNat number =>
    simp only [place?, reduceCtorEq, false_iff, Int.ofNat_eq_natCast]
    omega
  | negSucc back =>
    simp only [place?]
    split <;> simp only [reduceCtorEq, false_iff, true_iff] <;> omega

end Numbering

/-- A kind of the table, held by its number. -/
structure CursorKind where
  id : Nat
  listed : (Kind.Table.name? id).isSome
  deriving Repr, DecidableEq

namespace CursorKind

def ofId? (id : Nat) : Option CursorKind :=
  if h : (Kind.Table.name? id).isSome then some ⟨id, h⟩ else none

def ofName? (name : String) : Option CursorKind := (Kind.Table.id? name).bind ofId?

def name (kind : CursorKind) : String := (Kind.Table.name? kind.id).get kind.listed

/-- Whether a kind is one of the expressions, which are numbered from 100 to 154. -/
def isExpression (kind : CursorKind) : Bool := 100 ≤ kind.id && kind.id ≤ 154

end CursorKind

/-- What a cursor is known as. -/
inductive Kind where
  /-- A kind of the table. -/
  | listed (kind : CursorKind)
  /-- A number that is a key of its own. -/
  | number (id : Int)
  /-- A word that names no kind of the table. -/
  | word (text : String)
  /-- No kind. -/
  | absent
  deriving Repr, DecidableEq

namespace Kind

/-- The kind that a word stands for: that of the table, or else the word itself. -/
def ofWord (text : String) : Kind :=
  match CursorKind.ofName? text with
  | some kind => .listed kind
  | none => .word text

/-- Reads a number, kept in a word, as the kind that the table lists at its place, or as
itself where the table lists none. A number without a place is no kind. -/
def identify? : Kind → Option Kind
  | .number id =>
    (Numbering.place? Table.size (Numbering.word id)).map fun place =>
      match CursorKind.ofId? place with
      | some kind => .listed kind
      | none => .number (Numbering.word id)
  | kind => some kind

/-- The kind of a wrapper that the front end puts around an expression it does not expose. -/
def unexposedExpr : Kind := .listed ⟨100, by decide⟩

def integerLiteral : Kind := .listed ⟨106, by decide⟩

def floatingLiteral : Kind := .listed ⟨107, by decide⟩

def varDecl : Kind := .listed ⟨9, by decide⟩

def functionDecl : Kind := .listed ⟨8, by decide⟩

def cxxMethod : Kind := .listed ⟨21, by decide⟩

def translationUnit : Kind := .listed ⟨350, by decide⟩

/-- How messages show a kind. -/
def shown : Kind → String
  | .listed kind => "CursorKind." ++ kind.name
  | .number id => Text.decimal id
  | .word text => Text.quoted text
  | .absent => "None"

/-- How messages name a kind: one of the table by its bare name. -/
def named : Kind → String
  | .listed kind => kind.name
  | kind => kind.shown

end Kind

end CursorLift
