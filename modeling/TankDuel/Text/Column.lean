/-!
# Columns of a table

A cell is filled up with spaces to the width of its column, counted in characters. A text that is
wider than its column is not cut.
-/

namespace TankDuel.Text

/-- Fill up on the right: the text stands at the left edge of its column. -/
def padRight (width : Nat) (text : String) : String :=
  text ++ String.ofList (List.replicate (width - text.length) ' ')

/-- Fill up on the left: the text stands at the right edge of its column. -/
def padLeft (width : Nat) (text : String) : String :=
  String.ofList (List.replicate (width - text.length) ' ') ++ text

end TankDuel.Text
