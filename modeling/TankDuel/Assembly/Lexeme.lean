import TankDuel.Text.Blank

/-!
# Lexemes of a source line

A comment runs from the first `;`, `#` or `//` to the end of the line. What stands before it is cut
into **lexemes**: blanks and commas separate them, and a colon ends the lexeme it belongs to, so
that `loop:FIRE` is the label `loop:` and the word `FIRE`. No lexeme is empty.
-/

namespace TankDuel.Assembly

/-- The part of a line before its comment. -/
def code : List Char → List Char
  | [] => []
  | c :: rest =>
    if c = ';' || c = '#' then []
    else if c = '/' && rest.head? = some '/' then []
    else c :: code rest

/-- Whether a character separates lexemes. -/
def isSeparator (c : Char) : Bool := Text.isBlank c || c = ','

/-- The lexeme whose characters have been held back in reverse order, if there are any. -/
def release (held : List Char) : List (List Char) :=
  if held.isEmpty then [] else [held.reverse]

/-- Cut into lexemes, `held` being the characters of the current lexeme in reverse order. -/
def lexemesFrom (held : List Char) : List Char → List (List Char)
  | [] => release held
  | c :: rest =>
    if isSeparator c then release held ++ lexemesFrom [] rest
    else if c = ':' then (c :: held).reverse :: lexemesFrom [] rest
    else lexemesFrom (c :: held) rest

/-- The lexemes of a line without its comment. -/
def lexemes (line : List Char) : List (List Char) := lexemesFrom [] line

end TankDuel.Assembly
