import WordSieve.Condition.Basic
import WordSieve.Text.Quoted

/-!
# Conditions as text

A condition is shown as an expression over `word`. A negated test has a form of its own, `and` and
`or` are joined by signs, and an `and` or `or` below another one stands in parentheses.
-/

set_option autoImplicit false

namespace WordSieve

open Text

namespace Condition

/-- A test of one place, with its sign of comparison and a letter that is written already. -/
def placeTest (index : Nat) (sign : String) (letter : List Char) : List Char :=
  "word[".toList ++ (toString index).toList ++ "] ".toList ++ sign.toList ++ ' ' :: letter

/-- A test of the whole word. -/
def containsTest (letter : List Char) : List Char :=
  "word.contains(".toList ++ letter ++ [')']

/-- A text in parentheses. -/
def parenthesized (s : List Char) : List Char :=
  '(' :: s ++ [')']

mutual

/-- The condition as text, its letters written by `write`. -/
def renderWith (write : Char → List Char) : Condition → List Char
  | .always => "true".toList
  | .all terms => renderJoined write " && ".toList terms
  | .any terms => renderJoined write " || ".toList terms
  | .not inner => renderNegated write inner
  | .letterAt index letter => placeTest index "==" (write letter)
  | .contains letter => containsTest (write letter)

/-- The negation of a condition as text. -/
def renderNegated (write : Char → List Char) : Condition → List Char
  | .letterAt index letter => placeTest index "!=" (write letter)
  | .contains letter => '!' :: containsTest (write letter)
  | .always => '!' :: parenthesized "true".toList
  | .all terms => '!' :: parenthesized (renderJoined write " && ".toList terms)
  | .any terms => '!' :: parenthesized (renderJoined write " || ".toList terms)
  | .not inner => '!' :: parenthesized (renderNegated write inner)

/-- The terms of a join as text, with the sign between them. -/
def renderJoined (write : Char → List Char) (sign : List Char) : List Condition → List Char
  | [] => []
  | [t] => renderTerm write t
  | t :: rest => renderTerm write t ++ sign ++ renderJoined write sign rest

/-- A term of a join as text. -/
def renderTerm (write : Char → List Char) : Condition → List Char
  | .always => "true".toList
  | .all terms => parenthesized (renderJoined write " && ".toList terms)
  | .any terms => parenthesized (renderJoined write " || ".toList terms)
  | .not inner => renderNegated write inner
  | .letterAt index letter => placeTest index "==" (write letter)
  | .contains letter => containsTest (write letter)

end

/-- The condition as text, its letters quoted. -/
def render (p : Condition) : List Char :=
  p.renderWith quote

/-- The condition as text. -/
def text (p : Condition) : String :=
  String.ofList p.render

end Condition

end WordSieve
