/-!
# JSON texts

A JSON value with whole numbers only, and its text with one member or element on each line,
indented by two spaces for each level. Empty arrays and objects are written in one piece. In
strings, the quote, the backslash and control characters are escaped; everything else stands for
itself.
-/

namespace TankDuel.Text

/-- A JSON value. Members of an object keep their order. -/
inductive Json where
  | null
  | bool (b : Bool)
  | number (n : Int)
  | string (s : String)
  | array (items : List Json)
  | object (members : List (String × Json))

namespace Json

/-- A natural number. -/
def nat (n : Nat) : Json := number n

/-- A value that may be missing. -/
def ofOption {α : Type} (f : α → Json) : Option α → Json
  | some a => f a
  | none => null

/-- A control character in the form of four hexadecimal digits. -/
def hexEscape (c : Char) : List Char :=
  let digits := Nat.toDigits 16 c.toNat
  ['\\', 'u'] ++ List.replicate (4 - digits.length) '0' ++ digits

/-- A character inside a string. -/
def escape (c : Char) : List Char :=
  if c = '"' then ['\\', '"']
  else if c = '\\' then ['\\', '\\']
  else if c = '\n' then ['\\', 'n']
  else if c = '\r' then ['\\', 'r']
  else if c = '\t' then ['\\', 't']
  else if c.toNat = 0x08 then ['\\', 'b']
  else if c.toNat = 0x0C then ['\\', 'f']
  else if c.toNat < 0x20 then hexEscape c
  else [c]

/-- A string between its quotes. -/
def quote (s : String) : String := "\"" ++ String.ofList (s.toList.flatMap escape) ++ "\""

/-- Start a line at a level. -/
def newline (level : Nat) : String := String.ofList ('\n' :: List.replicate (2 * level) ' ')

/-- Put parts on lines of their own between brackets. -/
def enclose (level : Nat) (left right : String) (parts : List String) : String :=
  if parts.isEmpty then left ++ right
  else
    let start := newline (level + 1)
    left ++ start ++ String.intercalate ("," ++ start) parts ++ newline level ++ right

mutual

/-- The text of a value at a level. -/
def render (level : Nat) : Json → String
  | null => "null"
  | bool b => if b then "true" else "false"
  | number n => toString n
  | string s => quote s
  | array items => enclose level "[" "]" (renderItems (level + 1) items)
  | object members => enclose level "\x7b" "\x7d" (renderMembers (level + 1) members)

/-- The texts of the elements of an array. -/
def renderItems (level : Nat) : List Json → List String
  | [] => []
  | item :: rest => item.render level :: renderItems level rest

/-- The texts of the members of an object. -/
def renderMembers (level : Nat) : List (String × Json) → List String
  | [] => []
  | (name, value) :: rest =>
    (quote name ++ ": " ++ value.render level) :: renderMembers level rest

end

/-- The text of a value. -/
def text (j : Json) : String := j.render 0

end Json

end TankDuel.Text
