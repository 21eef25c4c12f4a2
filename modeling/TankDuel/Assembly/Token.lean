import TankDuel.Assembly.Lexeme
import TankDuel.Machine.Opcode
import TankDuel.Text.Decimal
import TankDuel.Text.Lines

/-!
# Tokens

`tokenize` turns source text into tokens and never fails: a lexeme that is none of the known kinds
becomes an unknown token, which the reader of programs reports.

A word is taken for an opcode only at the **head** of an instruction, that is at the start of a
line or right after a label. Elsewhere it is a plain word, so `CMP` can be an opcode and a register
in one instruction.
-/

namespace TankDuel.Assembly

/-- What a token is. -/
inductive Token.Kind where
  /-- An opcode at the head of an instruction. -/
  | opcode (op : Opcode)
  /-- A bare word: a register, a label that is referred to, or a keyword. -/
  | word (text : String)
  /-- A number that fits a register. -/
  | number (value : Int32)
  /-- The definition of a label, written `name:`. -/
  | label (name : String)
  /-- Anything else. -/
  | unknown (text : String)
deriving DecidableEq

/-- A token and the source line it stands on, counted from 1. -/
structure Token where
  kind : Token.Kind
  line : Nat
deriving DecidableEq

/-- The text of a token as an author would write it. -/
def Token.Kind.text : Token.Kind → String
  | opcode op => op.mnemonic
  | word text => text
  | number value => toString value.toInt
  | label name => name ++ ":"
  | unknown text => text

/-- The text of a token as an author would write it. -/
def Token.text (t : Token) : String := t.kind.text

/-- Whether a token defines a label. -/
def Token.Kind.isLabel : Token.Kind → Bool
  | label _ => true
  | _ => false

/-- Whether a word begins with a letter or an underscore and goes on with letters, digits and
underscores, ASCII only. -/
def isIdentifier : List Char → Bool
  | [] => false
  | c :: rest => (c.isAlpha || c = '_') && rest.all fun d => d.isAlphanum || d = '_'

/-- Whether a word begins with a digit after one optional sign. Such a word is a number or
nothing. -/
def looksNumeric : List Char → Bool
  | [] => false
  | c :: rest => if c = '-' || c = '+' then rest.head?.any Char.isDigit else c.isDigit

/-- The name that a lexeme of the form `name:` defines. -/
def labelName? (lexeme : List Char) : Option String :=
  if lexeme.getLast? = some ':' && isIdentifier lexeme.dropLast then
    some (String.ofList lexeme.dropLast)
  else none

/-- Classify a lexeme that defines no label. -/
def Token.Kind.ofWord (atHead : Bool) (lexeme : List Char) : Token.Kind :=
  let text := String.ofList lexeme
  if looksNumeric lexeme then
    match Text.word? lexeme with
    | some value => .number (Int32.ofInt value)
    | none => .unknown text
  else if !isIdentifier lexeme then .unknown text
  else
    match atHead, Opcode.ofMnemonic? text with
    | true, some op => .opcode op
    | _, _ => .word text

/-- Classify a lexeme. -/
def Token.Kind.ofLexeme (atHead : Bool) (lexeme : List Char) : Token.Kind :=
  match labelName? lexeme with
  | some name => .label name
  | none => .ofWord atHead lexeme

/-- Classify the lexemes of a line. After a label the head of an instruction follows. -/
def kindsOf (atHead : Bool) : List (List Char) → List Token.Kind
  | [] => []
  | lexeme :: rest =>
    let kind := Token.Kind.ofLexeme atHead lexeme
    kind :: kindsOf kind.isLabel rest

/-- The tokens of a source line. -/
def lineTokens (line : Nat) (text : List Char) : List Token :=
  (kindsOf true (lexemes (code text))).map fun kind => ⟨kind, line⟩

/-- The tokens of consecutive lines, the first of which has the given number. -/
def linesTokens (line : Nat) : List (List Char) → List Token
  | [] => []
  | text :: rest => lineTokens line text ++ linesTokens (line + 1) rest

/-- The tokens of a source text. -/
def tokenize (source : String) : List Token := linesTokens 1 (Text.lines source.toList)

end TankDuel.Assembly
