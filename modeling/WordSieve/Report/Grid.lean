import WordSieve.Word

/-!
# Words in rows
-/

set_option autoImplicit false

namespace WordSieve

/-- The list in pieces of `n` items, or of one where `n` is 0. The last piece holds what is left,
and no piece is empty. -/
def chunks {α : Type} (n : Nat) : List α → List (List α)
  | [] => []
  | x :: rest => (x :: rest.take (n - 1)) :: chunks n (rest.drop (n - 1))
termination_by xs => xs.length
decreasing_by simp only [List.length_cons, List.length_drop]; omega

/-- The words as rows of text, with two spaces between the words of a row. -/
def gridRows (columns : Nat) (words : List Word) : List String :=
  (chunks columns words).map fun row => "  ".intercalate (row.map Word.text)

/-- How many words stand in a row of a report. -/
def reportColumns : Nat := 10

end WordSieve
