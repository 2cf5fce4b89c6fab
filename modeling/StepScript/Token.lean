/-
# Tokens of a tag

A tag is a line of tokens: words, and string literals between single quotes.  A machine with four
modes reads the tag one character at a time; what it does with a character depends on the class of
the character and on the mode only.  Tokens are cut out of the text as they stand: a literal keeps
its quotes and its backslashes.
-/
import StepScript.Error
import StepScript.Text.Blank

namespace StepScript

/-! ## Character classes -/

/-- The classes of characters a tag is made of. -/
inductive CharClass where
  | blank
  | escape
  | word
  | colon
  | quote
  | openBrace
  | closeBrace
  | operator
  | other
  deriving DecidableEq, Repr

/-- The class of a character. -/
def classify (c : Char) : CharClass :=
  if Text.isBlank c then .blank
  else if c = '\\' then .escape
  else if c.isAlphanum || c = '_' then .word
  else if c = ':' then .colon
  else if c = '\'' then .quote
  else if c = '{' then .openBrace
  else if c = '}' then .closeBrace
  else if c = '=' || c = '>' || c = '<' || c = '!' then .operator
  else .other

/-! ## The machine -/

/-- Where in a tag the machine is. -/
inductive TokenMode where
  | outside
  | inWord
  | inLiteral
  | inEscape
  deriving DecidableEq, Repr

/-- The name of a mode in messages. -/
def TokenMode.name : TokenMode → String
  | .outside => "OutsideWord"
  | .inWord => "InWord"
  | .inLiteral => "InStringLiteral"
  | .inEscape => "InStringLiteralEscape"

/-- One thing the machine does with a character. -/
inductive TokenAction where
  | pass
  | newToken
  | append
  | reject
  | enter (mode : TokenMode)
  deriving DecidableEq, Repr

/-- What the machine does, in order, with a character of a class in a mode. -/
def tokenActions : CharClass → TokenMode → List TokenAction
  | .blank, .outside => [.pass]
  | .blank, .inWord => [.enter .outside]
  | .escape, .outside => [.reject]
  | .escape, .inWord => [.reject]
  | .escape, .inLiteral => [.append, .enter .inEscape]
  | .quote, .outside => [.newToken, .append, .enter .inLiteral]
  | .quote, .inWord => [.reject]
  | .quote, .inLiteral => [.append, .enter .outside]
  | .openBrace, .inWord => [.reject]
  | .closeBrace, .outside => [.reject]
  | _, .outside => [.newToken, .append, .enter .inWord]
  | _, .inWord => [.append]
  | _, .inLiteral => [.append]
  | _, .inEscape => [.append, .enter .inLiteral]

/-- The machine between two characters: its mode, the tokens already complete, and the characters
of the token at hand. -/
structure Tokenizer where
  mode : TokenMode
  complete : List (List Char)
  current : List Char
  deriving DecidableEq, Repr

namespace Tokenizer

/-- The machine at the start of a tag. -/
def start : Tokenizer := ⟨.outside, [], []⟩

/-- All tokens read, the one at hand included. -/
def tokens (t : Tokenizer) : List (List Char) :=
  if t.current.isEmpty then t.complete else t.complete ++ [t.current]

/-- Does one thing with a character; none when the character is rejected. -/
def perform (c : Char) (t : Tokenizer) : TokenAction → Option Tokenizer
  | .pass => some t
  | .newToken => some { t with complete := t.tokens, current := [] }
  | .append => some { t with current := t.current ++ [c] }
  | .reject => none
  | .enter mode => some { t with mode := mode }

/-- Reads one character; none when it is rejected. -/
def step (t : Tokenizer) (c : Char) : Option Tokenizer :=
  (tokenActions (classify c) t.mode).foldlM (perform c) t

/-- Reads a text whose first character stands at a position of the tag. -/
def read (t : Tokenizer) (position : Nat) : List Char → Except Error Tokenizer
  | [] => .ok t
  | c :: rest =>
    match t.step c with
    | some next => next.read (position + 1) rest
    | none =>
      .error (.tokenization position
        ("unexpected character '" ++ String.singleton c ++ "' in " ++ t.mode.name))

end Tokenizer

/-- The tokens of a tag, left to right. -/
def tokenizeChars (tag : List Char) : Except Error (List (List Char)) := do
  let t ← Tokenizer.start.read 0 tag
  if t.mode = .inLiteral ∨ t.mode = .inEscape then
    .error (.tokenization tag.length "unterminated string literal")
  else .ok t.tokens

/-- The tokens of a tag, as strings. -/
def tokenize (tag : String) : Except Error (List String) :=
  (tokenizeChars tag.toList).map (·.map String.ofList)

end StepScript
