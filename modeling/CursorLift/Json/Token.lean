import CursorLift.Json.Basic

/-! # JSON tokens

A text is split into tokens by a machine that reads one character after the other: it
is between two tokens or inside a number, a word or a string.
-/

namespace CursorLift.Json

inductive Token where
  | openArray
  | closeArray
  | openObject
  | closeObject
  | comma
  | colon
  | null
  | bool (value : Bool)
  | number (token : String)
  | string (text : String)
  deriving Repr, DecidableEq

/-- Takes one or more ASCII digits off the front of a text. -/
def dropDigits? (text : List Char) : Option (List Char) :=
  if (text.takeWhile Char.isDigit).isEmpty then none else some (text.dropWhile Char.isDigit)

/-- Takes the exponent of a number off the front of a text, if there is one. -/
def dropExponent? : List Char → Option (List Char)
  | [] => some []
  | mark :: rest =>
    if mark = 'e' ∨ mark = 'E' then
      match rest with
      | '+' :: digits => dropDigits? digits
      | '-' :: digits => dropDigits? digits
      | digits => dropDigits? digits
    else some (mark :: rest)

/-- Takes the fraction of a number off the front of a text, if there is one. -/
def dropFraction? : List Char → Option (List Char)
  | '.' :: rest => dropDigits? rest
  | text => some text

/-- Takes the whole part of a number off the front of a text: no zero stands in front of
other digits. -/
def dropWhole? : List Char → Option (List Char)
  | '0' :: rest => some rest
  | text => dropDigits? text

/-- Whether a text is a number: a whole part with an optional minus sign, an optional
fraction and an optional exponent. -/
def isNumber (text : List Char) : Bool :=
  let unsigned := match text with
    | '-' :: rest => rest
    | _ => text
  (((dropWhole? unsigned).bind dropFraction?).bind dropExponent?) == some []

def Token.ofWord? (word : List Char) : Option Token :=
  if word = ['n', 'u', 'l', 'l'] then some .null
  else if word = ['t', 'r', 'u', 'e'] then some (.bool true)
  else if word = ['f', 'a', 'l', 's', 'e'] then some (.bool false)
  else none

def Token.ofMark? (c : Char) : Option Token :=
  if c = '[' then some .openArray
  else if c = ']' then some .closeArray
  else if c = '\x7b' then some .openObject
  else if c = '\x7d' then some .closeObject
  else if c = ',' then some .comma
  else if c = ':' then some .colon
  else none

/-- The character that a letter after a backslash stands for. -/
def unescape? (c : Char) : Option Char :=
  if c = '"' ∨ c = '\\' ∨ c = '/' then some c
  else if c = 'b' then some '\x08'
  else if c = 't' then some '\t'
  else if c = 'n' then some '\n'
  else if c = 'f' then some '\x0c'
  else if c = 'r' then some '\r'
  else none

def hexValue? (c : Char) : Option Nat :=
  if '0' ≤ c ∧ c ≤ '9' then some (c.toNat - 0x30)
  else if 'a' ≤ c ∧ c ≤ 'f' then some (c.toNat - 0x57)
  else if 'A' ≤ c ∧ c ≤ 'F' then some (c.toNat - 0x37)
  else none

/-- Where the machine is. Characters seen so far stand latest first. -/
inductive Mode where
  | between
  | number (seen : List Char)
  | word (seen : List Char)
  | string (seen : List Char)
  /-- After a backslash. -/
  | escape (seen : List Char)
  /-- In a numeric escape that has some digits yet to come, perhaps the second half of a
  pair. -/
  | code (seen : List Char) (high : Option Nat) (left : Nat) (value : Nat)
  /-- After the first half of a pair, before the backslash of the second. -/
  | pair (seen : List Char) (high : Nat)
  /-- After the backslash of the second half of a pair. -/
  | pairMark (seen : List Char) (high : Nat)
  deriving Repr, DecidableEq

/-- The machine: the tokens that are complete, latest first, and where it is. -/
structure Lexer where
  tokens : List Token := []
  mode : Mode := .between
  deriving Repr, DecidableEq

namespace Lexer

/-- Reads a character between two tokens. -/
def start? (tokens : List Token) (c : Char) : Option Lexer :=
  if c = ' ' ∨ c = '\t' ∨ c = '\n' ∨ c = '\r' then some ⟨tokens, .between⟩
  else if c = '"' then some ⟨tokens, .string []⟩
  else if c = '-' ∨ c.isDigit then some ⟨tokens, .number [c]⟩
  else if c.isAlpha then some ⟨tokens, .word [c]⟩
  else (Token.ofMark? c).map fun token => ⟨token :: tokens, .between⟩

/-- Ends a number or a word. -/
def settle? (lexer : Lexer) : Option (List Token) :=
  match lexer.mode with
  | .between => some lexer.tokens
  | .number seen =>
    if isNumber seen.reverse then some (.number (String.ofList seen.reverse) :: lexer.tokens)
    else none
  | .word seen => (Token.ofWord? seen.reverse).map fun token => token :: lexer.tokens
  | _ => none

/-- Takes in the number of a numeric escape. A number of the first half of a pair waits for
the second half. -/
def decode? (tokens : List Token) (seen : List Char) (high : Option Nat) (value : Nat) :
    Option Lexer :=
  match high with
  | some high =>
    if 0xDC00 ≤ value ∧ value < 0xE000 then
      let code := 0x10000 + (high - 0xD800) * 0x400 + (value - 0xDC00)
      some ⟨tokens, .string (Char.ofNat code :: seen)⟩
    else none
  | none =>
    if 0xD800 ≤ value ∧ value < 0xDC00 then some ⟨tokens, .pair seen value⟩
    else if 0xDC00 ≤ value ∧ value < 0xE000 then none
    else some ⟨tokens, .string (Char.ofNat value :: seen)⟩

def step? (lexer : Lexer) (c : Char) : Option Lexer :=
  let tokens := lexer.tokens
  match lexer.mode with
  | .between => start? tokens c
  | .number seen =>
    if c.isDigit ∨ c = '.' ∨ c = 'e' ∨ c = 'E' ∨ c = '+' ∨ c = '-' then
      some ⟨tokens, .number (c :: seen)⟩
    else lexer.settle?.bind (start? · c)
  | .word seen =>
    if c.isAlpha then some ⟨tokens, .word (c :: seen)⟩ else lexer.settle?.bind (start? · c)
  | .string seen =>
    if c = '"' then some ⟨.string (String.ofList seen.reverse) :: tokens, .between⟩
    else if c = '\\' then some ⟨tokens, .escape seen⟩
    else if c.toNat < 0x20 then none
    else some ⟨tokens, .string (c :: seen)⟩
  | .escape seen =>
    if c = 'u' then some ⟨tokens, .code seen none 4 0⟩
    else (unescape? c).map fun plain => ⟨tokens, .string (plain :: seen)⟩
  | .code seen high left value =>
    (hexValue? c).bind fun digit =>
      if left ≤ 1 then decode? tokens seen high (16 * value + digit)
      else some ⟨tokens, .code seen high (left - 1) (16 * value + digit)⟩
  | .pair seen high => if c = '\\' then some ⟨tokens, .pairMark seen high⟩ else none
  | .pairMark seen high => if c = 'u' then some ⟨tokens, .code seen (some high) 4 0⟩ else none

def run? : Lexer → List Char → Option Lexer
  | lexer, [] => some lexer
  | lexer, c :: rest =>
    match lexer.step? c with
    | none => none
    | some next => next.run? rest

end Lexer

/-- The tokens of a text. -/
def tokens? (text : List Char) : Option (List Token) :=
  ((({} : Lexer).run? text).bind Lexer.settle?).map List.reverse

end CursorLift.Json
