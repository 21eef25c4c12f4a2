/-!
# Comparison without regard to letter case

Keywords may be written in capital or small letters. Only the ASCII letters have a case here, so
two words agree exactly when they agree after every ASCII capital is made small.
-/

namespace TankDuel.Text

/-- A word with its ASCII capitals made small. -/
def folded (word : String) : List Char := word.toList.map Char.toLower

/-- Whether two words differ at most in the case of ASCII letters. -/
def sameWord (a b : String) : Bool := folded a == folded b

/-- The first of `values` whose name is `word`, letter case ignored. -/
def findNamed? {α : Type} (name : α → String) (values : List α) (word : String) : Option α :=
  values.find? fun v => sameWord (name v) word

/-- A word is the same as itself. -/
@[simp] theorem sameWord_self (a : String) : sameWord a a = true := by simp [sameWord]

end TankDuel.Text
