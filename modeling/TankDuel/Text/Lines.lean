/-!
# Lines of a text

A text is cut after each line feed. A line that ends with a line feed also loses one carriage
return before it. What follows the last line feed is a line of its own unless it is empty.
-/

namespace TankDuel.Text

/-- The text of a line ended by a line feed, from its characters in reverse order. -/
def endedLine : List Char → List Char
  | '\r' :: rest => rest.reverse
  | rest => rest.reverse

/-- Cut a text into lines, `held` being the characters of the current line in reverse order. -/
def linesFrom (held : List Char) : List Char → List (List Char)
  | [] => if held.isEmpty then [] else [held.reverse]
  | c :: rest =>
    if c = '\n' then endedLine held :: linesFrom [] rest else linesFrom (c :: held) rest

/-- The lines of a text. -/
def lines (text : List Char) : List (List Char) := linesFrom [] text

/-- An empty text has no lines. -/
@[simp] theorem lines_nil : lines [] = [] := rfl

end TankDuel.Text
