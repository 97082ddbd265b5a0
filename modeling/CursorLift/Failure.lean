import CursorLift.Kind.Basic

/-! # Failures

What can go wrong, by cause, and the one place where each cause gets its words.
-/

namespace CursorLift

/-- Why an operation has no result. -/
inductive Failure where
  /-- No shape is registered for the kind of a cursor. -/
  | unhandledKind (kind : Kind)
  /-- A wrapper of this kind hides no concrete cursor. -/
  | barrenWrapper (kind : Kind)
  /-- The cursor has no arguments to count. -/
  | uncountedArguments
  /-- The cursor is no function whose arguments could be taken. -/
  | argumentOfNonFunction
  | sessionClosed
  | unitNotLoaded
  /-- The engine gave up, with its own message. -/
  | engineFault (message : String)
  /-- An integer numeral has too many digits. -/
  | tooManyDigits (count : Nat)
  /-- A table lists nothing at the place of a number. -/
  | unlisted (number : Int)
  /-- A number counts back past the first place of a table. -/
  | outsideTable
  | unknownLanguage (code : Int)
  | duplicateKind (kind : Kind)
  | unknownForm (name : String)
  /-- A dump cannot be indented by a negative number of blanks. -/
  | negativeIndent
  /-- A dump cannot be indented by more blanks than a word can count. -/
  | indentTooLarge
  | tooDeep
  /-- A directory was named for paths to be relative to, and no text is left of it. -/
  | directoryNotText
  /-- No unit is active that tokens could be read from. -/
  | noUnit
  /-- There is no cursor to ask. -/
  | noCursor
  /-- A function of a library was handed something else than a cursor. -/
  | cursorExpected
  | noNode
  deriving Repr, DecidableEq

namespace Failure

def message : Failure → String
  | .unhandledKind kind => "Cursor kind not implemented: " ++ kind.named
  | .barrenWrapper kind => "Unknown expression: no concrete cursor under " ++ kind.shown
  | .uncountedArguments =>
    "Cursor must be a function or method declaration to retrieve the number of arguments"
  | .argumentOfNonFunction => "Cursor must be a function declaration to retrieve arguments"
  | .sessionClosed => "Cannot parse with a closed parser session"
  | .unitNotLoaded => "Error parsing translation unit."
  | .engineFault message => message
  | .tooManyDigits count =>
    "Exceeds the limit (4300 digits) for integer string conversion: value has "
      ++ Text.decimal count
      ++ " digits; use sys.set_int_max_str_digits() to increase the limit"
  | .unlisted number => "Unknown template argument kind " ++ Text.decimal number
  | .outsideTable => "list index out of range"
  | .unknownLanguage code => Text.decimal code ++ " is not a valid LanguageKind"
  | .duplicateKind kind => "Cursor kind already registered: " ++ kind.shown
  | .unknownForm name => Text.quoted name
  | .negativeIndent => "can't convert negative int to unsigned"
  | .indentTooLarge => "int too big to convert"
  | .tooDeep => "Error serializing to JSON: ValueError: Maximum serialization depth exceeded"
  | .directoryNotText => "expected str, bytes or os.PathLike object, not list"
  | .noUnit => "no unit"
  | .noCursor => "no cursor"
  | .cursorExpected =>
    "argument 1: <class 'TypeError'>: expected Cursor instance instead of NoneType"
  | .noNode => "no node built yet"

/-- Whether a failure is about the tree or the use made of it, and not about the engine
or the arguments of a call. Programs report these and end in order. -/
def isConstruction : Failure → Bool
  | .unhandledKind _ => true
  | .barrenWrapper _ => true
  | .uncountedArguments => true
  | .argumentOfNonFunction => true
  | .sessionClosed => true
  | _ => false

end Failure

end CursorLift
