import WordSieve.Proofs.Condition.Reader
import WordSieve.Proofs.Condition.Shape

/-!
# Texts of conditions are unambiguous

A join of one term shows as that term, so a text can tell two conditions apart only where every join
has two terms or more (`Condition.Joined`). Conditions of criteria are of that kind, whatever the
letters, and for them the reader undoes the rendering. It does so term by term: reading the text of
a term, wherever it stands, puts that term into the group that is being read and does nothing else.

Letters take no part in this. They were dealt with when a token was read, once and for every choice
of characters that are written as their code point.
-/

set_option autoImplicit false

namespace WordSieve.Condition

open Text

/-- Conditions whose joins have two terms at least. -/
inductive Joined : Condition → Prop where
  | always : Joined .always
  | all {terms : List Condition} : 2 ≤ terms.length → (∀ t ∈ terms, Joined t) → Joined (.all terms)
  | any {terms : List Condition} : 2 ≤ terms.length → (∀ t ∈ terms, Joined t) → Joined (.any terms)
  | not {inner : Condition} : Joined inner → Joined (.not inner)
  | letterAt (index : Nat) (letter : Char) : Joined (.letterAt index letter)
  | contains (letter : Char) : Joined (.contains letter)

/-- The condition of any criteria is of this kind. -/
theorem joined_ofCriteria (criteria : List Criterion) : (ofCriteria criteria).Joined := by
  have hclosed : Closed Joined :=
    { always := .always
      letterAt := fun p letter => .letterAt p.place letter
      contains := .contains
      not := .not
      all := .all
      any := .any }
  exact hclosed.ofCriteria criteria

/-! ## Reading one token -/

variable (byNumber : Char → Bool)

theorem Token.write_ne_nil (t : Token) : t.write (quoteWith byNumber) ≠ [] := by
  intro hnil
  have hread := nextToken?_write byNumber t []
  have hnone : nextToken? [] = none := rfl
  rw [hnil, List.nil_append, hnone] at hread
  exact Option.some_ne_none _ hread.symm

theorem feedText?_nil (r : Reading) : r.feedText? [] = some r := by
  rw [Reading.feedText?, if_pos rfl]

/-- What a reading does with a token does not depend on what stands behind it. -/
theorem feedText?_write (r : Reading) (t : Token) (rest : List Char) :
    r.feedText? (t.write (quoteWith byNumber) ++ rest) =
      (r.feed? t).bind fun r => r.feedText? rest := by
  have hne : t.write (quoteWith byNumber) ≠ [] := t.write_ne_nil byNumber
  have hlen : rest.length < (t.write (quoteWith byNumber) ++ rest).length := by
    rw [List.length_append]
    exact Nat.lt_add_of_pos_left (List.length_pos_iff.mpr hne)
  rw [Reading.feedText?, if_neg (List.append_ne_nil_of_left_ne_nil hne rest), nextToken?_write]
  exact if_pos hlen

/-! ## Reading one term -/

/-- Reading the text puts the term into the group that is being read, and does nothing else. -/
def Reads (s : List Char) (p : Condition) : Prop :=
  ∀ (r : Reading) (rest : List Char), r.feedText? (s ++ rest) = (r.push p).feedText? rest

/-- Reading the text from the start of a group makes it a group with that condition. -/
def Fills (s : List Char) (p : Condition) : Prop :=
  ∃ group : Group, group.condition? = some p ∧
    ∀ (outer : List (Bool × Group)) (rest : List Char),
      { Reading.start with outer }.feedText? (s ++ rest) =
        { group, outer : Reading }.feedText? rest

variable {byNumber} {s : List Char} {p : Condition}

/-- A token that is a test reads as that test. -/
theorem reads_write (t : Token) (h : ∀ r : Reading, r.feed? t = some (r.push p)) :
    Reads (t.write (quoteWith byNumber)) p := by
  intro r rest
  rw [feedText?_write, h r, Option.bind_some]

/-- One term alone is a whole group. -/
theorem Reads.fills (h : Reads s p) : Fills s p :=
  ⟨{ sign := none, terms := [p] }, rfl, fun _ rest => h _ rest⟩

/-- A group in parentheses is one term of the group around it. -/
theorem Fills.reads_parenthesized (h : Fills s p) (negated : Bool) :
    Reads (negation negated ++ parenthesized s) (signed negated p) := by
  obtain ⟨group, hcondition, hfills⟩ := h
  intro r rest
  have htext : negation negated ++ parenthesized s ++ rest =
      (Token.opening negated).write (quoteWith fun _ => false) ++
        (s ++ (Token.closing.write (quoteWith fun _ => false) ++ rest)) := by
    simp [parenthesized, Token.write]
  rw [htext, feedText?_write]
  refine (hfills _ _).trans ?_
  rw [feedText?_write, Reading.feed?, hcondition]
  rfl

/-! ## Reading a join -/

/-- A sign joins what stands before it to a group that has no sign yet or this one. -/
theorem feedText?_mark (join : Join) (sign : Option Join) (hsign : sign.getD join = join)
    (terms : List Condition) (outer : List (Bool × Group)) (rest : List Char) :
    { group := { sign, terms }, outer : Reading }.feedText? (join.mark ++ rest) =
      { group := { sign := some join, terms }, outer : Reading }.feedText? rest := by
  have hread := feedText?_write (fun _ => false) { group := { sign, terms }, outer }
    (.sign join) rest
  rw [Reading.feed?, if_pos hsign] at hread
  exact hread

theorem renderJoined_cons_cons (write : Char → List Char) (sign : List Char) (t t' : Condition)
    (rest : List Condition) :
    renderJoined write sign (t :: t' :: rest) =
      renderTerm write t ++ sign ++ renderJoined write sign (t' :: rest) :=
  rfl

/-- In a group that has no sign yet or the one of the join, its terms are read in turn. With no sign
behind it the last term leaves the group's sign as it is. -/
theorem feedText?_renderJoined (join : Join) {write : Char → List Char} {t : Condition}
    {rest : List Condition} (h : ∀ t' ∈ t :: rest, Reads (renderTerm write t') t')
    (sign : Option Join) (hsign : sign.getD join = join) (done : List Condition)
    (outer : List (Bool × Group)) (text : List Char) :
    { group := { sign, terms := done }, outer : Reading }.feedText?
        (renderJoined write join.mark (t :: rest) ++ text) =
      { group := { sign := if rest.isEmpty then sign else some join, terms := done ++ t :: rest },
        outer : Reading }.feedText? text := by
  induction rest generalizing t sign done with
  | nil => exact h t List.mem_cons_self _ text
  | cons t' rest ih =>
    have hfirst := h t List.mem_cons_self
    have hrest := ih (fun t'' ht'' => h t'' (List.mem_cons_of_mem t ht'')) (some join) rfl
      (done ++ [t])
    have hterms : done ++ [t] ++ t' :: rest = done ++ t :: t' :: rest :=
      List.append_assoc done [t] (t' :: rest)
    rw [renderJoined_cons_cons, List.append_assoc, List.append_assoc, hfirst]
    -- The first term is in the group now, and the sign behind it fixes how the group is joined.
    refine (feedText?_mark join sign hsign (done ++ [t]) outer _).trans (hrest.trans ?_)
    rw [hterms, ite_self]
    rfl

theorem fills_renderJoined (join : Join) {write : Char → List Char} {terms : List Condition}
    (hlen : 2 ≤ terms.length) (h : ∀ t ∈ terms, Reads (renderTerm write t) t) :
    Fills (renderJoined write join.mark terms) (join.of terms) := by
  cases terms with
  | nil => exact absurd hlen (by decide)
  | cons t rest =>
    cases rest with
    | nil => exact absurd hlen (Nat.not_succ_le_self 1)
    | cons t' rest =>
      exact ⟨{ sign := some join, terms := t :: t' :: rest }, rfl, fun outer text =>
        feedText?_renderJoined join h none rfl [] outer text⟩

/-! ## Reading a condition -/

/-- The text of a term reads as that term, and its negated text as its negation. Both are needed at
once: which of the two a negation shows as depends on what it negates. -/
theorem Joined.reads (h : p.Joined) :
    Reads (renderTerm (quoteWith byNumber) p) p ∧
      Reads (renderNegated (quoteWith byNumber) p) (.not p) := by
  induction h with
  | always =>
    have halways : Reads (Token.always.write (quoteWith byNumber)) .always :=
      reads_write .always fun _ => rfl
    exact ⟨halways, halways.fills.reads_parenthesized true⟩
  | @all terms hlen _ ih =>
    have hfills : Fills _ (.all terms) := fills_renderJoined .and hlen fun t ht => (ih t ht).1
    exact ⟨hfills.reads_parenthesized false, hfills.reads_parenthesized true⟩
  | @any terms hlen _ ih =>
    have hfills : Fills _ (.any terms) := fills_renderJoined .or hlen fun t ht => (ih t ht).1
    exact ⟨hfills.reads_parenthesized false, hfills.reads_parenthesized true⟩
  -- A negation is one term already, and stands in parentheses only when it is negated again.
  | not _ ih => exact ⟨ih.2, ih.2.fills.reads_parenthesized true⟩
  | letterAt index letter =>
    exact ⟨reads_write (.place false index letter) fun _ => rfl,
      reads_write (.place true index letter) fun _ => rfl⟩
  | contains letter =>
    exact ⟨reads_write (.contains false letter) fun _ => rfl,
      reads_write (.contains true letter) fun _ => rfl⟩

/-- A condition that stands alone shows its join without parentheses. -/
theorem Joined.fills (h : p.Joined) : Fills (p.renderWith (quoteWith byNumber)) p := by
  have hreads : Reads (renderTerm (quoteWith byNumber) p) p := h.reads.1
  -- Alone and as a term, only a join shows differently.
  cases h with
  | all hlen hterms => exact fills_renderJoined .and hlen fun t ht => (hterms t ht).reads.1
  | any hlen hterms => exact fills_renderJoined .or hlen fun t ht => (hterms t ht).reads.1
  | always => exact hreads.fills
  | not hinner => exact hreads.fills
  | letterAt index letter => exact hreads.fills
  | contains letter => exact hreads.fills

theorem Fills.read?_eq (h : Fills s p) : read? s = some p := by
  obtain ⟨group, hcondition, hfills⟩ := h
  have htext := hfills [] []
  rw [List.append_nil, feedText?_nil] at htext
  rw [read?]
  exact (congrArg (Option.bind · _) htext).trans hcondition

/-- **A condition is recovered from its text**, whatever its letters and whichever characters are
written as their code point. So two conditions whose joins have two terms or more have the same text
only if they are the same, and conditions of criteria are always of that kind. -/
theorem render_unambiguous (byNumber : Char → Bool) :
    (∀ p : Condition, p.Joined → read? (p.renderWith (quoteWith byNumber)) = some p) ∧
    (∀ p q : Condition, p.Joined → q.Joined →
      p.renderWith (quoteWith byNumber) = q.renderWith (quoteWith byNumber) → p = q) ∧
    (∀ p q : Condition, p.Joined → q.Joined → p.text = q.text → p = q) ∧
    ∀ criteria : List Criterion, (ofCriteria criteria).Joined := by
  have hread (byNumber : Char → Bool) {p : Condition} (h : p.Joined) :
      read? (p.renderWith (quoteWith byNumber)) = some p := h.fills.read?_eq
  have hinj (byNumber : Char → Bool) {p q : Condition} (hp : p.Joined) (hq : q.Joined)
      (heq : p.renderWith (quoteWith byNumber) = q.renderWith (quoteWith byNumber)) : p = q := by
    have hsome := hread byNumber hp
    rw [heq, hread byNumber hq] at hsome
    exact (Option.some.inj hsome).symm
  refine ⟨fun p => hread byNumber, fun p q => hinj byNumber, fun p q hp hq htext => ?_,
    joined_ofCriteria⟩
  exact hinj isShownByNumber hp hq (String.ofList_injective htext)

/-- A condition with letters that look like a part of its text. -/
def imitations : Condition :=
  .all [.any [.contains '\'', .contains ')'],
    .not (.all [.letterAt 12 '&', .not (.contains '\x1b'), .not (.letterAt 0 '\\')])]

/-- Letters that look like quotes, parentheses and signs are told from the real ones. -/
theorem render_unambiguous_imitations :
    imitations.Joined ∧ read? imitations.render = some imitations ∧
      imitations.render = ("(word.contains('\\'') || word.contains(')')) && " ++
        "!(word[12] == '&' && !word.contains('\\u\x7b1b\x7d') && word[0] != '\\\\')").toList ∧
      ∀ q : Condition, q.Joined → q.text = imitations.text → q = imitations := by
  have hjoined : imitations.Joined := by
    refine .all (Nat.le_refl 2) (List.forall_mem_cons.mpr ⟨.any (Nat.le_refl 2) ?_,
      List.forall_mem_singleton.mpr (.not (.all (Nat.le_succ 2) ?_))⟩)
    · exact List.forall_mem_cons.mpr ⟨.contains _, List.forall_mem_singleton.mpr (.contains _)⟩
    · exact List.forall_mem_cons.mpr ⟨.letterAt _ _, List.forall_mem_cons.mpr
        ⟨.not (.contains _), List.forall_mem_singleton.mpr (.not (.letterAt _ _))⟩⟩
  obtain ⟨hread, -, htext, -⟩ := render_unambiguous isShownByNumber
  exact ⟨hjoined, hread _ hjoined, by decide +kernel, fun q hq => htext q imitations hq hjoined⟩

end WordSieve.Condition
