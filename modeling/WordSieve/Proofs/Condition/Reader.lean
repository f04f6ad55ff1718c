import WordSieve.Condition.Text
import WordSieve.Proofs.Text.Quoted

/-!
# Reading conditions back

The text of a condition is a row of tokens, and a token is known by how it begins: a letter stands
only inside a token that began before it, so no letter can be taken for a sign, a parenthesis or the
end of a test. The reader takes one token after the other and keeps the groups that are still open
on a stack, so it needs no look ahead and no bound on how deep conditions are nested.

It is there to recover a condition from its text, and need not refuse every other text.
-/

set_option autoImplicit false

namespace WordSieve.Condition

open Text

/-! ## Tokens -/

/-- How the terms of a group are joined. -/
inductive Join where
  | and
  | or
  deriving DecidableEq, Repr

/-- The sign between two terms. -/
def Join.mark : Join → List Char
  | .and => " && ".toList
  | .or => " || ".toList

/-- The condition that joins the terms. -/
def Join.of : Join → List Condition → Condition
  | .and => .all
  | .or => .any

/-- The condition or its negation. -/
def signed (negated : Bool) (p : Condition) : Condition :=
  if negated then .not p else p

/-- A part of a text that is read at once. -/
inductive Token where
  | always
  | place (negated : Bool) (index : Nat) (letter : Char)
  | contains (negated : Bool) (letter : Char)
  | opening (negated : Bool)
  | closing
  | sign (join : Join)

/-- What the mark of a negation puts before a text. -/
def negation (negated : Bool) : List Char :=
  if negated then ['!'] else []

/-- The token as text, its letter written by `write`. -/
def Token.write (write : Char → List Char) : Token → List Char
  | .always => "true".toList
  | .place negated index letter => placeTest index (if negated then "!=" else "==") (write letter)
  | .contains negated letter => negation negated ++ containsTest (write letter)
  | .opening negated => negation negated ++ ['(']
  | .closing => [')']
  | .sign join => join.mark

/-- Reads the sign of a comparison with the blanks around it: whether it is negated. -/
def readComparison? : List Char → Option (Bool × List Char)
  | ' ' :: '=' :: '=' :: ' ' :: rest => some (false, rest)
  | ' ' :: '!' :: '=' :: ' ' :: rest => some (true, rest)
  | _ => none

/-- Reads a test of one place behind its opening bracket. -/
def readPlace? (s : List Char) : Option (Token × List Char) :=
  match cut ']' s with
  | (numeral, some s) => do
    let index ← valueFrom 10 0 numeral
    let (negated, s) ← readComparison? s
    let (letter, rest) ← readQuoted? s
    return (.place negated index letter, rest)
  | (_, none) => none

/-- Reads a test of the whole word behind its opening parenthesis. -/
def readContains? (negated : Bool) (s : List Char) : Option (Token × List Char) :=
  match readQuoted? s with
  | some (letter, ')' :: rest) => some (.contains negated letter, rest)
  | _ => none

/-- Reads one token, and gives the text behind it. -/
def nextToken? : List Char → Option (Token × List Char)
  | 't' :: 'r' :: 'u' :: 'e' :: s => some (.always, s)
  | '(' :: s => some (.opening false, s)
  | '!' :: '(' :: s => some (.opening true, s)
  | ')' :: s => some (.closing, s)
  | ' ' :: '&' :: '&' :: ' ' :: s => some (.sign .and, s)
  | ' ' :: '|' :: '|' :: ' ' :: s => some (.sign .or, s)
  | 'w' :: 'o' :: 'r' :: 'd' :: '[' :: s => readPlace? s
  | 'w' :: 'o' :: 'r' :: 'd' :: '.' :: 'c' :: 'o' :: 'n' :: 't' :: 'a' :: 'i' :: 'n' :: 's' :: '('
      :: s => readContains? false s
  | '!' :: 'w' :: 'o' :: 'r' :: 'd' :: '.' :: 'c' :: 'o' :: 'n' :: 't' :: 'a' :: 'i' :: 'n' :: 's'
      :: '(' :: s => readContains? true s
  | _ => none

/-! ## Groups -/

/-- A group that is being read: the sign seen between its terms, if any, and the terms so far. -/
structure Group where
  sign : Option Join
  terms : List Condition

/-- The condition of a group that was read to its end. -/
def Group.condition? : Group → Option Condition
  | { sign := some join, terms } => some (join.of terms)
  | { sign := none, terms := [p] } => some p
  | { sign := none, terms := _ } => none

/-- The group that is being read and the groups around it, each with whether the group inside it is
negated. -/
structure Reading where
  group : Group
  outer : List (Bool × Group)

namespace Reading

/-- Before the first token. -/
def start : Reading :=
  { group := { sign := none, terms := [] }, outer := [] }

/-- The reading with one more term in its group. -/
def push (r : Reading) (p : Condition) : Reading :=
  { r with group := { r.group with terms := r.group.terms ++ [p] } }

/-- The reading after a token. A group has one sign only. -/
def feed? (r : Reading) : Token → Option Reading
  | .always => some (r.push .always)
  | .place negated index letter => some (r.push (signed negated (.letterAt index letter)))
  | .contains negated letter => some (r.push (signed negated (.contains letter)))
  | .opening negated => some { start with outer := (negated, r.group) :: r.outer }
  | .closing =>
    match r.outer with
    | (negated, group) :: outer =>
      r.group.condition?.map fun p => { group, outer : Reading }.push (signed negated p)
    | [] => none
  | .sign join =>
    if r.group.sign.getD join = join then some { r with group := { r.group with sign := some join } }
    else none

/-- The reading after all tokens of a text. -/
def feedText? (r : Reading) (s : List Char) : Option Reading :=
  if s = [] then some r
  else
    match nextToken? s with
    | some (t, rest) =>
      -- A token is never without text, so this asks nothing; it says that the reading ends.
      if rest.length < s.length then (r.feed? t).bind fun r => r.feedText? rest else none
    | none => none
termination_by s.length

/-- The condition that was read, if no group is left open. -/
def finish? (r : Reading) : Option Condition :=
  if r.outer.isEmpty then r.group.condition? else none

end Reading

/-- The condition with this text. -/
def read? (s : List Char) : Option Condition :=
  (Reading.start.feedText? s).bind (·.finish?)

/-! ## Tokens are read back -/

variable (byNumber : Char → Bool)

theorem readPlace?_written (negated : Bool) (index : Nat) (letter : Char) (rest : List Char) :
    readPlace? (Nat.toDigits 10 index ++ ']' :: ' ' :: (if negated then '!' else '=') :: '=' :: ' ' ::
      (quoteWith byNumber letter ++ rest)) = some (.place negated index letter, rest) := by
  have hdigits : ']' ∉ Nat.toDigits 10 index :=
    bracket_not_mem_toDigits (.inl rfl) (by decide) (by decide) index
  have hvalue : valueFrom 10 0 (Nat.toDigits 10 index) = some index :=
    valueFrom_toDigits (by decide) (by decide) index
  have hcomparison (s : List Char) :
      readComparison? (' ' :: (if negated then '!' else '=') :: '=' :: ' ' :: s) =
        some (negated, s) := by
    cases negated <;> rfl
  rw [readPlace?, cut_append hdigits]
  simp only [hvalue, hcomparison, readQuoted?_quoteWith, Option.bind_eq_bind, Option.bind_some]
  rfl

theorem readContains?_written (negated : Bool) (letter : Char) (rest : List Char) :
    readContains? negated (quoteWith byNumber letter ++ ')' :: rest) =
      some (.contains negated letter, rest) := by
  rw [readContains?, readQuoted?_quoteWith]
  rfl

theorem placeTest_append (index : Nat) (sign : String) (letter rest : List Char) :
    placeTest index sign letter ++ rest =
      "word[".toList ++ (Nat.toDigits 10 index ++ ']' :: ' ' :: (sign.toList ++
        ' ' :: (letter ++ rest))) := by
  have hindex : (toString index).toList = Nat.toDigits 10 index := by
    rw [Nat.toString_eq_repr, Nat.toList_repr]
  have hbracket : "] ".toList = [']', ' '] := rfl
  unfold placeTest
  simp only [hindex, hbracket, List.append_assoc, List.cons_append, List.nil_append]

theorem containsTest_append (letter rest : List Char) :
    containsTest letter ++ rest = "word.contains(".toList ++ (letter ++ ')' :: rest) := by
  unfold containsTest
  rw [List.append_assoc, List.append_assoc, List.singleton_append]

/-- **A token is read back from its text**, whatever stands behind it. -/
theorem nextToken?_write (t : Token) (rest : List Char) :
    nextToken? (t.write (quoteWith byNumber) ++ rest) = some (t, rest) := by
  cases t with
  | always => rfl
  | place negated index letter =>
    have hread := readPlace?_written byNumber negated index letter rest
    rw [Token.write, placeTest_append]
    cases negated with
    | true => exact hread
    | false => exact hread
  | contains negated letter =>
    -- The mark of the negation is read together with the word behind it.
    have hread := readContains?_written byNumber negated letter rest
    cases negated with
    | true => exact (congrArg (fun s => nextToken? ('!' :: s)) (containsTest_append _ rest)).trans hread
    | false => exact (congrArg nextToken? (containsTest_append _ rest)).trans hread
  | opening negated => cases negated <;> rfl
  | closing => rfl
  | sign join => cases join <;> rfl

end WordSieve.Condition
