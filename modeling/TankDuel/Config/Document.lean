import TankDuel.Text.Lines

/-!
# Settings documents

A settings document is a TOML document that assigns whole numbers to keys. A line holds nothing, a
comment, or a key, an equals sign and a number, each with spaces and tabs around it and perhaps a
comment behind.

* A comment begins with `#` and holds no control characters but tabs.
* A key is bare (ASCII letters, digits, `_` and `-`) or quoted; between double quotes a backslash
  begins an escape.
* A number is decimal, with a sign or without and without leading zeros, or it has one of the bases
  16, 8 and 2, marked by `0x`, `0o` and `0b`, and no sign. Single underscores may stand between
  digits. Numbers have 64 bits.

Everything else in TOML assigns something that is not a whole number and is refused here. A byte
order mark may stand at the start.
-/

namespace TankDuel.Document

/-- Whether a character separates the parts of a line. -/
def isSpace (c : Char) : Bool := c = ' ' || c = '\t'

/-- Whether a character can stand in a comment or between quotes. -/
def isPrintable (c : Char) : Bool := c = '\t' || (0x20 ≤ c.toNat && c.toNat ≠ 0x7F)

/-- Drop spaces and tabs at the front. -/
def skipSpace (cs : List Char) : List Char := cs.dropWhile isSpace

/-- Whether nothing but spaces and a comment is left of a line. -/
def isTrailer (cs : List Char) : Bool :=
  match skipSpace cs with
  | [] => true
  | c :: comment => c = '#' && comment.all isPrintable

/-! ### Numbers -/

/-- The value of a digit in a base of at most sixteen. -/
def digit? (base : Nat) (c : Char) : Option Nat :=
  let value :=
    if c.isDigit then c.toNat - '0'.toNat
    else if 'a' ≤ c ∧ c ≤ 'f' then 10 + (c.toNat - 'a'.toNat)
    else if 'A' ≤ c ∧ c ≤ 'F' then 10 + (c.toNat - 'A'.toNat)
    else base
  if value < base then some value else none

/-- Read on behind a digit, `value` being the number so far. -/
def digitsFrom? (base value : Nat) : List Char → Option Nat
  | [] => some value
  | '_' :: c :: rest => do
    let d ← digit? base c
    digitsFrom? base (base * value + d) rest
  | c :: rest => do
    let d ← digit? base c
    digitsFrom? base (base * value + d) rest

/-- Read digits with single underscores between them. -/
def digits? (base : Nat) : List Char → Option Nat
  | [] => none
  | c :: rest => do
    let d ← digit? base c
    digitsFrom? base d rest

/-- Read a decimal number without sign. -/
def decimal? : List Char → Option Nat
  | ['0'] => some 0
  | '0' :: _ => none
  | cs => digits? 10 cs

/-- Read a number of any form. -/
def number? : List Char → Option Int
  | '0' :: 'x' :: cs => (digits? 16 cs).map Int.ofNat
  | '0' :: 'o' :: cs => (digits? 8 cs).map Int.ofNat
  | '0' :: 'b' :: cs => (digits? 2 cs).map Int.ofNat
  | '-' :: cs => (decimal? cs).map fun n => -(n : Int)
  | '+' :: cs => (decimal? cs).map Int.ofNat
  | cs => (decimal? cs).map Int.ofNat

/-- Whether a number has 64 bits. -/
def fits (n : Int) : Bool := -9223372036854775808 ≤ n && n ≤ 9223372036854775807

/-- Read a number of 64 bits. -/
def integer? (cs : List Char) : Option Int := (number? cs).filter fits

/-! ### Keys -/

/-- Whether a character can stand in a bare key. -/
def isBare (c : Char) : Bool := c.isAlphanum || c = '_' || c = '-'

/-- The character with a code in hexadecimal digits. -/
def coded? (digits : List Char) : Option Char := do
  let code ← digits.foldlM (fun code c => (digit? 16 c).map (16 * code + ·)) 0
  if code.isValidChar then some (Char.ofNat code) else none

/-- The character that an escape of one letter stands for. -/
def escaped? : Char → Option Char
  | '"' => some '"'
  | '\\' => some '\\'
  | 'b' => some '\x08'
  | 't' => some '\t'
  | 'n' => some '\n'
  | 'f' => some '\x0c'
  | 'r' => some '\r'
  | _ => none

/-- Put a character in front of what has been read. -/
def prepend (c : Option Char) (read : Option (List Char × List Char)) :
    Option (List Char × List Char) := do
  let c ← c
  let (key, rest) ← read
  return (c :: key, rest)

/-- Read a key up to its closing double quote; also gives what follows. -/
def doubleQuoted? : List Char → Option (List Char × List Char)
  | '"' :: rest => some ([], rest)
  | '\\' :: 'u' :: a :: b :: c :: d :: rest =>
    prepend (coded? [a, b, c, d]) (doubleQuoted? rest)
  | '\\' :: 'U' :: a :: b :: c :: d :: e :: f :: g :: h :: rest =>
    prepend (coded? [a, b, c, d, e, f, g, h]) (doubleQuoted? rest)
  | '\\' :: c :: rest => prepend (escaped? c) (doubleQuoted? rest)
  | c :: rest => if isPrintable c then prepend (some c) (doubleQuoted? rest) else none
  | [] => none

/-- Read a key up to its closing single quote; also gives what follows. -/
def singleQuoted? : List Char → Option (List Char × List Char)
  | [] => none
  | c :: rest =>
    if c = '\'' then some ([], rest)
    else if isPrintable c then prepend (some c) (singleQuoted? rest)
    else none

/-- Read a key; also gives what follows. -/
def key? : List Char → Option (List Char × List Char)
  | '"' :: rest => doubleQuoted? rest
  | '\'' :: rest => singleQuoted? rest
  | cs =>
    if (cs.takeWhile isBare).isEmpty then none
    else some (cs.takeWhile isBare, cs.dropWhile isBare)

/-! ### Documents -/

/-- Whether a character belongs to the value of an assignment. -/
def isValueChar (c : Char) : Bool := !isSpace c && c ≠ '#'

/-- Read an assignment. -/
def assignment? (line : List Char) : Option (String × Int) := do
  let (key, rest) ← key? (skipSpace line)
  match skipSpace rest with
  | '=' :: rest =>
    let value := skipSpace rest
    let n ← integer? (value.takeWhile isValueChar)
    if isTrailer (value.dropWhile isValueChar) then some (String.ofList key, n) else none
  | _ => none

/-- Read a line, which holds one assignment at most. -/
def line? (line : List Char) : Option (List (String × Int)) :=
  if isTrailer line then some [] else (assignment? line).map ([·])

/-- The text without a byte order mark. -/
def withoutMark : List Char → List Char
  | '\uFEFF' :: rest => rest
  | cs => cs

/-- Read a document: the assignments in their order. -/
def read? (text : String) : Option (List (String × Int)) := do
  let assignments ← (Text.lines (withoutMark text.toList)).mapM line?
  return assignments.flatten

end TankDuel.Document
