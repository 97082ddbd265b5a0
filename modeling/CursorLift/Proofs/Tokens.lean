import CursorLift.Json.Printer
import CursorLift.Json.Token
import Mathlib.Data.List.Basic

/-! # Written JSON splits into its tokens

A value is a sequence of tokens, and writing it puts those into characters, with blanks in
between that depend on the indent. The machine that splits a text finds the tokens again,
whatever the indent is. After a value it may still be inside a number or a word, which the next
mark, line break or the end of the text completes.
-/

namespace CursorLift.Json

mutual

/-- The tokens of a value, in order. -/
def tokens : Json → List Token
  | .null => [.null]
  | .bool value => [.bool value]
  | .number token => [.number token]
  | .string text => [.string text]
  | .array [] => [.openArray, .closeArray]
  | .array (item :: items) => .openArray :: (item.tokens ++ itemTokens items ++ [.closeArray])
  | .object [] => [.openObject, .closeObject]
  | .object ((name, value) :: fields) =>
    .openObject :: .string name :: .colon ::
      (value.tokens ++ fieldTokens fields ++ [.closeObject])

def itemTokens : List Json → List Token
  | [] => []
  | item :: items => .comma :: (item.tokens ++ itemTokens items)

def fieldTokens : List (String × Json) → List Token
  | [] => []
  | (name, value) :: fields =>
    .comma :: .string name :: .colon :: (value.tokens ++ fieldTokens fields)

end

/-- Whether all numbers among some tokens are written as numbers are. -/
def Proper (tokens : List Token) : Prop :=
  ∀ token, Token.number token ∈ tokens → isNumber token.toList = true

theorem proper_append {early late : List Token} :
    Proper (early ++ late) ↔ Proper early ∧ Proper late := by
  simp only [Proper, List.mem_append, or_imp, forall_and]

theorem Proper.tail {token : Token} {rest : List Token} (h : Proper (token :: rest)) :
    Proper rest :=
  fun other member => h other (List.mem_cons_of_mem _ member)

theorem proper_null : Proper null.tokens := by simp [Proper, tokens]

theorem proper_string (text : String) : Proper (string text).tokens := by simp [Proper, tokens]

theorem proper_number {token : String} (h : isNumber token.toList = true) :
    Proper (number token).tokens := by
  simpa [Proper, tokens] using h

section Each

variable {items : List Json} {fields : List (String × Json)}

theorem proper_itemTokens (each : ∀ item ∈ items, Proper item.tokens) :
    Proper (itemTokens items) := by
  induction items with
  | nil => simp [Proper, itemTokens]
  | cons item items ih =>
      obtain ⟨first, rest⟩ := List.forall_mem_cons.mp each
      have both := proper_append.mpr ⟨first, ih rest⟩
      simpa [Proper, itemTokens] using both

theorem proper_fieldTokens (each : ∀ field ∈ fields, Proper field.2.tokens) :
    Proper (fieldTokens fields) := by
  induction fields with
  | nil => simp [Proper, fieldTokens]
  | cons field fields ih =>
      obtain ⟨first, rest⟩ := List.forall_mem_cons.mp each
      have both := proper_append.mpr ⟨first, ih rest⟩
      simpa [Proper, fieldTokens] using both

theorem proper_array (each : ∀ item ∈ items, Proper item.tokens) :
    Proper (array items).tokens := by
  cases items with
  | nil => simp [Proper, tokens]
  | cons item items =>
      obtain ⟨first, rest⟩ := List.forall_mem_cons.mp each
      have both := proper_append.mpr ⟨first, proper_itemTokens rest⟩
      simpa [Proper, tokens] using both

theorem proper_object (each : ∀ field ∈ fields, Proper field.2.tokens) :
    Proper (object fields).tokens := by
  cases fields with
  | nil => simp [Proper, tokens]
  | cons field fields =>
      obtain ⟨first, rest⟩ := List.forall_mem_cons.mp each
      have both := proper_append.mpr ⟨first, proper_fieldTokens rest⟩
      simpa [Proper, tokens] using both

end Each

/-! ## What a number is made of -/

def isNumeric (c : Char) : Bool :=
  c.isDigit || c == '.' || c == 'e' || c == 'E' || c == '+' || c == '-'

section Numeric

variable {text rest : List Char}

theorem numeric_of_dropDigits? (h : dropDigits? text = some rest)
    (later : ∀ c ∈ rest, isNumeric c = true) : ∀ c ∈ text, isNumeric c = true := by
  unfold dropDigits? at h
  split at h
  · cases h
  · cases h
    intro c member
    rw [← List.takeWhile_append_dropWhile (p := Char.isDigit) (l := text)] at member
    cases List.mem_append.mp member with
    | inl among =>
        have digit : c.isDigit = true := List.all_eq_true.mp List.all_takeWhile c among
        simp [isNumeric, digit]
    | inr behind => exact later c behind

theorem numeric_of_dropExponent? (h : dropExponent? text = some []) :
    ∀ c ∈ text, isNumeric c = true := by
  cases text with
  | nil => nofun
  | cons mark text =>
      rw [dropExponent?.eq_def] at h
      dsimp only at h
      split at h
      · next exponent =>
          have marked : isNumeric mark = true := by
            rcases exponent with rfl | rfl <;> decide
          have behind : ∀ c ∈ text, isNumeric c = true := by
            split at h
            · have digits := numeric_of_dropDigits? h nofun
              exact List.forall_mem_cons.mpr ⟨by decide, digits⟩
            · have digits := numeric_of_dropDigits? h nofun
              exact List.forall_mem_cons.mpr ⟨by decide, digits⟩
            · exact numeric_of_dropDigits? h nofun
          exact List.forall_mem_cons.mpr ⟨marked, behind⟩
      · cases h

theorem numeric_of_dropFraction? (h : dropFraction? text = some rest)
    (later : ∀ c ∈ rest, isNumeric c = true) : ∀ c ∈ text, isNumeric c = true := by
  unfold dropFraction? at h
  split at h
  · have digits := numeric_of_dropDigits? h later
    exact List.forall_mem_cons.mpr ⟨by decide, digits⟩
  · cases h
    exact later

theorem numeric_of_dropWhole? (h : dropWhole? text = some rest)
    (later : ∀ c ∈ rest, isNumeric c = true) : ∀ c ∈ text, isNumeric c = true := by
  unfold dropWhole? at h
  split at h
  · cases h
    exact List.forall_mem_cons.mpr ⟨by decide, later⟩
  · exact numeric_of_dropDigits? h later

theorem ne_nil_of_dropWhole? (h : dropWhole? text = some rest) : ∃ c more,
    text = c :: more ∧ c.isDigit = true := by
  cases text with
  | nil => cases h
  | cons c more =>
      refine ⟨c, more, rfl, ?_⟩
      unfold dropWhole? at h
      split at h
      · next same => cases same; decide
      · unfold dropDigits? at h
        split at h
        · cases h
        · next nonempty =>
            by_contra plain
            simp [plain] at nonempty

theorem numeric_of_isNumber (h : isNumber text = true) :
    ∃ c more, text = c :: more ∧ (c = '-' ∨ c.isDigit = true) ∧
      ∀ d ∈ more, isNumeric d = true := by
  have unsigned (text : List Char)
      (h : ((dropWhole? text).bind dropFraction?).bind dropExponent? = some []) :
      (∀ c ∈ text, isNumeric c = true) ∧ ∃ c more, text = c :: more ∧ c.isDigit = true := by
    obtain ⟨behind, h, exponent⟩ := Option.bind_eq_some_iff.mp h
    obtain ⟨first, whole, fraction⟩ := Option.bind_eq_some_iff.mp h
    refine ⟨?_, ne_nil_of_dropWhole? whole⟩
    apply numeric_of_dropWhole? whole
    apply numeric_of_dropFraction? fraction
    exact numeric_of_dropExponent? exponent
  unfold isNumber at h
  split at h
  · next rest =>
      obtain ⟨all, -⟩ := unsigned rest (eq_of_beq h)
      exact ⟨'-', rest, rfl, .inl rfl, all⟩
  · obtain ⟨all, c, more, rfl, digit⟩ := unsigned text (eq_of_beq h)
    exact ⟨c, more, rfl, .inr digit, fun d member => all d (List.mem_cons_of_mem c member)⟩

end Numeric

namespace Lexer

/-! ## Strings -/

theorem run?_cons {lexer next : Lexer} {c : Char} {rest : List Char}
    (step : lexer.step? c = some next) : lexer.run? (c :: rest) = next.run? rest := by
  rw [run?, step]

theorem run?_append (lexer : Lexer) (early late : List Char) :
    lexer.run? (early ++ late) = (lexer.run? early).bind fun next => next.run? late := by
  induction early generalizing lexer with
  | nil => rfl
  | cons c early ih =>
      rw [List.cons_append, run?, run?]
      cases lexer.step? c with
      | none => rfl
      | some next => exact ih next

theorem hexDigits_of_control {code : Nat} (control : code < 32) :
    ∃ a b, Text.hexDigits 4 code = ['0', '0', a, b] ∧ hexValue? a = some (code / 16) ∧
      hexValue? b = some (code % 16) := by
  have each : ∀ code < 32, Text.hexDigits 4 code =
      ['0', '0', Text.hexDigit (code / 16), Text.hexDigit (code % 16)] ∧
      hexValue? (Text.hexDigit (code / 16)) = some (code / 16) ∧
      hexValue? (Text.hexDigit (code % 16)) = some (code % 16) := by decide
  obtain ⟨digits, high, low⟩ := each code control
  exact ⟨_, _, digits, high, low⟩

theorem step?_code {c : Char} {digit : Nat} (h : hexValue? c = some digit) (tokens : List Token)
    (seen : List Char) (high : Option Nat) (left value : Nat) :
    (⟨tokens, .code seen high left value⟩ : Lexer).step? c =
      if left ≤ 1 then decode? tokens seen high (16 * value + digit)
      else some ⟨tokens, .code seen high (left - 1) (16 * value + digit)⟩ := by
  simp [step?, h]

/-- However a character is escaped in a string, it is read as itself. -/
theorem run?_escaped (tokens : List Token) (seen : List Char) (c : Char) :
    (⟨tokens, .string seen⟩ : Lexer).run? (escaped c) = some ⟨tokens, .string (c :: seen)⟩ := by
  unfold escaped
  split
  · next special => rcases special with rfl | rfl <;> rfl
  split
  · next same => cases same; rfl
  split
  · next same => cases same; rfl
  split
  · next same => cases same; rfl
  split
  · next same => cases same; rfl
  split
  · next same => cases same; rfl
  split
  · next control =>
      obtain ⟨a, b, digits, high, low⟩ := hexDigits_of_control control
      have zero : hexValue? '0' = some 0 := by decide
      have whole : 16 * (c.toNat / 16) + c.toNat % 16 = c.toNat := Nat.div_add_mod _ _
      have single : ¬ 0xD800 ≤ c.toNat ∧ ¬ 0xDC00 ≤ c.toNat := by omega
      rw [digits]
      show (⟨tokens, .code seen none 4 0⟩ : Lexer).run? ['0', '0', a, b] = _
      simp [run?, step?_code zero, step?_code high, step?_code low, decode?, whole, single]
  · next quote _ _ _ _ _ control =>
      obtain ⟨quote, backslash⟩ := not_or.mp quote
      simp [run?, step?, quote, backslash, control]

theorem run?_flatMap_escaped (tokens : List Token) (seen text : List Char) :
    (⟨tokens, .string seen⟩ : Lexer).run? (text.flatMap escaped) =
      some ⟨tokens, .string (text.reverse ++ seen)⟩ := by
  induction text generalizing seen with
  | nil => rfl
  | cons c text ih =>
      rw [List.flatMap_cons, run?_append, run?_escaped, Option.bind_some, ih, List.reverse_cons,
        List.append_assoc]
      rfl

theorem run?_writtenText (tokens : List Token) (text : String) :
    (⟨tokens, .between⟩ : Lexer).run? (writtenText text) =
      some ⟨.string text :: tokens, .between⟩ := by
  show (⟨tokens, .string []⟩ : Lexer).run? (text.toList.flatMap escaped ++ ['"']) = _
  rw [run?_append, run?_flatMap_escaped, Option.bind_some]
  simp [run?, step?]

/-! ## Where a value ends -/

/-- What may stand behind a value in a text. -/
def follows : List Char := [',', ']', '\x7d', '\n']

/-- Whether the machine has some tokens, the last of them perhaps not yet completed, and goes on
from them with whatever follows. -/
structure Holds (lexer : Lexer) (tokens : List Token) : Prop where
  settles : lexer.settle? = some tokens
  next : ∀ c ∈ follows, lexer.step? c = start? tokens c

variable {lexer : Lexer} {tokens : List Token}

theorem holds_between (tokens : List Token) : Holds ⟨tokens, .between⟩ tokens :=
  ⟨rfl, fun _ _ => rfl⟩

theorem holds_word {seen : List Char} {token : Token}
    (word : Token.ofWord? seen.reverse = some token) :
    Holds ⟨tokens, .word seen⟩ (token :: tokens) := by
  have settles : (⟨tokens, .word seen⟩ : Lexer).settle? = some (token :: tokens) := by
    simp [settle?, word]
  refine ⟨settles, ?_⟩
  intro c member
  have plain : c.isAlpha = false := by
    have all : follows.all (fun c => !c.isAlpha) = true := by decide
    simpa using List.all_eq_true.mp all c member
  simp [step?, plain, settles]

theorem holds_number {seen : List Char} (number : isNumber seen.reverse = true) :
    Holds ⟨tokens, .number seen⟩ (.number (String.ofList seen.reverse) :: tokens) := by
  have settles : (⟨tokens, .number seen⟩ : Lexer).settle? =
      some (.number (String.ofList seen.reverse) :: tokens) := by
    simp [settle?, number]
  refine ⟨settles, ?_⟩
  intro c member
  have plain : ¬(c.isDigit ∨ c = '.' ∨ c = 'e' ∨ c = 'E' ∨ c = '+' ∨ c = '-') := by
    have all : follows.all (fun c => !isNumeric c) = true := by decide
    simpa [isNumeric, and_assoc] using List.all_eq_true.mp all c member
  simp only [step?, if_neg plain, settles, Option.bind_some]

theorem run?_numeric (tokens : List Token) (seen text : List Char)
    (numeric : ∀ c ∈ text, isNumeric c = true) :
    (⟨tokens, .number seen⟩ : Lexer).run? text = some ⟨tokens, .number (text.reverse ++ seen)⟩ := by
  induction text generalizing seen with
  | nil => rfl
  | cons c text ih =>
      have first := numeric c List.mem_cons_self
      have rest := ih (c :: seen) fun d member => numeric d (List.mem_cons_of_mem c member)
      have goes : c.isDigit ∨ c = '.' ∨ c = 'e' ∨ c = 'E' ∨ c = '+' ∨ c = '-' := by
        simpa [isNumeric, or_assoc] using first
      simp only [run?, step?, if_pos goes, rest]
      simp

theorem run?_number {text : String} (number : isNumber text.toList = true) (tokens : List Token) :
    ∃ lexer, (⟨tokens, .between⟩ : Lexer).run? text.toList = some lexer ∧
      lexer.Holds (.number text :: tokens) := by
  obtain ⟨c, more, spelled, first, numeric⟩ := numeric_of_isNumber number
  have starts : start? tokens c = some ⟨tokens, .number [c]⟩ := by
    rcases first with rfl | digit
    · rfl
    · have blank : ¬(c = ' ' ∨ c = '\t' ∨ c = '\n' ∨ c = '\r') := by
        rintro (rfl | rfl | rfl | rfl) <;> exact absurd digit (by decide)
      have quote : c ≠ '"' := by
        rintro rfl
        exact absurd digit (by decide)
      rw [start?, if_neg blank, if_neg quote, if_pos (.inr digit)]
  have whole : (more.reverse ++ [c]).reverse = text.toList := by simp [spelled]
  have ends : (⟨tokens, .between⟩ : Lexer).run? text.toList =
      some ⟨tokens, .number (more.reverse ++ [c])⟩ := by
    have step : (⟨tokens, .between⟩ : Lexer).step? c = some ⟨tokens, .number [c]⟩ := starts
    rw [spelled, run?_cons step]
    exact run?_numeric tokens [c] more numeric
  have held : Holds ⟨tokens, .number (more.reverse ++ [c])⟩
      (.number (String.ofList (more.reverse ++ [c]).reverse) :: tokens) :=
    holds_number (by rw [whole]; exact number)
  rw [whole, String.ofList_toList] at held
  exact ⟨_, ends, held⟩

/-! ## From one row of tokens to another -/

/-- Whether some characters take the machine between two tokens from one row of them to another
one. -/
def Passes (before : List Token) (text : List Char) (after : List Token) : Prop :=
  (⟨before, .between⟩ : Lexer).run? text = some ⟨after, .between⟩

/-- The same where the last token may be left incomplete. -/
def Begins (before : List Token) (text : List Char) (after : List Token) : Prop :=
  ∃ lexer, (⟨before, .between⟩ : Lexer).run? text = some lexer ∧ lexer.Holds after

/-- The same where the first token may have been left incomplete as well. -/
def Leads (before : List Token) (text : List Char) (after : List Token) : Prop :=
  ∀ lexer : Lexer, lexer.Holds before → ∃ next, lexer.run? text = some next ∧ next.Holds after

section Chains

variable {before middle after : List Token} {early late : List Char}

theorem Passes.append (first : Passes before early middle) (second : Passes middle late after) :
    Passes before (early ++ late) after := by
  rw [Passes, run?_append, first]
  exact second

theorem Passes.begins (first : Passes before early middle) (second : Begins middle late after) :
    Begins before (early ++ late) after := by
  obtain ⟨lexer, ran, held⟩ := second
  refine ⟨lexer, ?_, held⟩
  rw [run?_append, first]
  exact ran

theorem Begins.append (first : Begins before early middle) (second : Leads middle late after) :
    Begins before (early ++ late) after := by
  obtain ⟨lexer, ran, held⟩ := first
  obtain ⟨last, ended, held⟩ := second lexer held
  refine ⟨last, ?_, held⟩
  rw [run?_append, ran]
  exact ended

theorem Begins.leads {c : Char} (member : c ∈ follows)
    (mark : start? before c = some ⟨middle, .between⟩) (rest : Begins middle late after) :
    Leads before (c :: late) after := by
  intro lexer held
  obtain ⟨next, ran, held'⟩ := rest
  refine ⟨next, ?_, held'⟩
  rw [run?_cons ((held.next c member).trans mark)]
  exact ran

theorem Begins.mark {c : Char} (mark : start? before c = some ⟨middle, .between⟩)
    (rest : Begins middle late after) : Begins before (c :: late) after := by
  obtain ⟨lexer, ran, held⟩ := rest
  refine ⟨lexer, ?_, held⟩
  have step : (⟨before, .between⟩ : Lexer).step? c = some ⟨middle, .between⟩ := mark
  rw [run?_cons step]
  exact ran

end Chains

theorem begins_nil (tokens : List Token) : Begins tokens [] tokens :=
  ⟨_, rfl, holds_between tokens⟩

theorem passes_blanks (tokens : List Token) (count : Nat) :
    Passes tokens (List.replicate count ' ') tokens := by
  induction count with
  | zero => rfl
  | succ count ih => exact ih

theorem passes_lineBreak (tokens : List Token) (indent : Option Nat) (depth : Nat) :
    Passes tokens (lineBreak indent depth) tokens := by
  cases indent with
  | none => rfl
  | some width => exact passes_blanks tokens _

theorem passes_fieldMark (tokens : List Token) (indent : Option Nat) :
    Passes tokens (fieldMark indent) (.colon :: tokens) := by
  cases indent <;> rfl

theorem leads_lineBreak (tokens : List Token) (indent : Option Nat) (depth : Nat) :
    Leads tokens (lineBreak indent depth) tokens := by
  cases indent with
  | none => exact fun lexer held => ⟨lexer, rfl, held⟩
  | some width =>
      have blanks := (passes_blanks tokens (width * depth)).begins (begins_nil tokens)
      rw [List.append_nil] at blanks
      exact blanks.leads (by decide) rfl

end Lexer

/-! ## Values -/

open Lexer (Begins Leads Passes)

section Marks

variable {before after : List Token} {text : List Char}

theorem begins_array (h : Begins (.openArray :: before) text after) :
    Begins before ('[' :: text) after :=
  h.mark rfl

theorem begins_object (h : Begins (.openObject :: before) text after) :
    Begins before ('\x7b' :: text) after :=
  h.mark rfl

theorem leads_comma (h : Begins (.comma :: before) text after) : Leads before (',' :: text) after :=
  h.leads (by decide) rfl

end Marks

theorem leads_closeArray (tokens : List Token) : Leads tokens [']'] (.closeArray :: tokens) :=
  (Lexer.begins_nil _).leads (by decide) rfl

theorem leads_closeObject (tokens : List Token) : Leads tokens ['\x7d'] (.closeObject :: tokens) :=
  (Lexer.begins_nil _).leads (by decide) rfl

theorem passes_name (before : List Token) (indent : Option Nat) (depth : Nat) (name : String) :
    Passes before (lineBreak indent depth ++ writtenText name ++ fieldMark indent)
      (.colon :: .string name :: before) := by
  have named : Passes before (writtenText name) (.string name :: before) :=
    Lexer.run?_writtenText before name
  have broken := (Lexer.passes_lineBreak before indent depth).append named
  exact broken.append (Lexer.passes_fieldMark _ indent)

mutual

/-- A value is written as its tokens, wherever it begins. -/
theorem begins_write (indent : Option Nat) (depth : Nat) (before : List Token) :
    ∀ json : Json, Proper json.tokens →
      Begins before (json.write indent depth) (json.tokens.reverse ++ before)
  | .null, _ => ⟨_, rfl, Lexer.holds_word rfl⟩
  | .bool true, _ => ⟨_, rfl, Lexer.holds_word rfl⟩
  | .bool false, _ => ⟨_, rfl, Lexer.holds_word rfl⟩
  | .number token, proper => by
      rw [write]
      exact Lexer.run?_number (proper token List.mem_cons_self) before
  | .string text, _ => by
      rw [write]
      exact ⟨_, Lexer.run?_writtenText before text, Lexer.holds_between _⟩
  | .array [], _ => ⟨_, rfl, Lexer.holds_between _⟩
  | .array (item :: items), proper => by
      rw [tokens] at proper ⊢
      obtain ⟨inside, -⟩ := proper_append.mp proper.tail
      obtain ⟨first, rest⟩ := proper_append.mp inside
      have started := (Lexer.passes_lineBreak (.openArray :: before) indent (depth + 1)).begins
        (begins_write indent (depth + 1) _ item first)
      have listed := started.append (leads_writeItems indent (depth + 1) _ items rest)
      have broken := listed.append (Lexer.leads_lineBreak _ indent depth)
      have whole := begins_array (broken.append (leads_closeArray _))
      simpa [write] using whole
  | .object [], _ => ⟨_, rfl, Lexer.holds_between _⟩
  | .object ((name, value) :: fields), proper => by
      rw [tokens] at proper ⊢
      obtain ⟨inside, -⟩ := proper_append.mp proper.tail.tail.tail
      obtain ⟨first, rest⟩ := proper_append.mp inside
      have started := (passes_name (.openObject :: before) indent (depth + 1) name).begins
        (begins_write indent (depth + 1) _ value first)
      have listed := started.append (leads_writeFields indent (depth + 1) _ fields rest)
      have broken := listed.append (Lexer.leads_lineBreak _ indent depth)
      have whole := begins_object (broken.append (leads_closeObject _))
      simpa [write] using whole

theorem leads_writeItems (indent : Option Nat) (depth : Nat) (before : List Token) :
    ∀ items : List Json, Proper (itemTokens items) →
      Leads before (writeItems indent depth items) ((itemTokens items).reverse ++ before)
  | [], _ => fun lexer held => ⟨lexer, rfl, held⟩
  | item :: items, proper => by
      rw [itemTokens] at proper ⊢
      obtain ⟨first, rest⟩ := proper_append.mp proper.tail
      have started := (Lexer.passes_lineBreak (.comma :: before) indent depth).begins
        (begins_write indent depth _ item first)
      have listed := started.append (leads_writeItems indent depth _ items rest)
      have whole := leads_comma listed
      simpa [writeItems] using whole

theorem leads_writeFields (indent : Option Nat) (depth : Nat) (before : List Token) :
    ∀ fields : List (String × Json), Proper (fieldTokens fields) →
      Leads before (writeFields indent depth fields) ((fieldTokens fields).reverse ++ before)
  | [], _ => fun lexer held => ⟨lexer, rfl, held⟩
  | (name, value) :: fields, proper => by
      rw [fieldTokens] at proper ⊢
      obtain ⟨first, rest⟩ := proper_append.mp proper.tail.tail.tail
      have started := (passes_name (.comma :: before) indent depth name).begins
        (begins_write indent depth _ value first)
      have listed := started.append (leads_writeFields indent depth _ fields rest)
      have whole := leads_comma listed
      simpa [writeFields] using whole

end

/-- However a value is written, its text splits into its tokens. -/
theorem tokens?_write (json : Json) (proper : Proper json.tokens) (indent : Option Nat) :
    tokens? (json.write indent 0) = some json.tokens := by
  obtain ⟨lexer, ran, held⟩ := begins_write indent 0 [] json proper
  have ran : ({} : Lexer).run? (json.write indent 0) = some lexer := ran
  rw [tokens?, ran, Option.bind_some, held.settles]
  simp

end CursorLift.Json
