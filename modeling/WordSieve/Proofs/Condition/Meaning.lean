import WordSieve.Proofs.Condition.Shape
import WordSieve.Proofs.Criterion.Rules

/-!
# What a list of criteria asks

`Criterion.MetBy` says what one criterion asks of a word, in terms of the word's letters and
without any condition. A list of criteria asks that every one of them with letters is met. The main
statement is that running the condition of the list gives just that, and never faults.

The asymmetry is in the meaning itself: letters included at a position are a choice, letters
included in the whole word must all be there.
-/

set_option autoImplicit false

namespace WordSieve

/-! ## The meaning of one criterion -/

/-- The letter at a position. -/
def Word.letter (w : Word) (p : Position) : Char :=
  w.letters.get (p.place.cast w.length_letters.symm)

/-- What a criterion asks of a word. No word meets a kind of one letter in the whole word. -/
def Criterion.MetBy (c : Criterion) (w : Word) : Prop :=
  match c.kind, c.scope with
  | .equals, .position p => ∃ l, c.letters = [l] ∧ w.letter p = l
  | .differs, .position p => ∃ l, c.letters = [l] ∧ w.letter p ≠ l
  | .excludes, .position p => w.letter p ∉ c.letters
  | .includes, .position p => w.letter p ∈ c.letters
  | .excludes, .whole => ∀ l ∈ c.letters, l ∉ w.letters
  | .includes, .whole => ∀ l ∈ c.letters, l ∈ w.letters
  | .equals, .whole => False
  | .differs, .whole => False

namespace Condition

variable {w : Word} {terms : List Condition} {p : Position} {l : Char}

/-! ## Truth of the pieces a condition is put together from -/

theorem getElem?_place (w : Word) (p : Position) :
    w.letters[p.place.val]? = some (w.letter p) := by
  have hlt : p.place.val < w.letters.length := by rw [w.length_letters]; exact p.place.isLt
  rw [List.getElem?_eq_getElem hlt]
  rfl

@[simp] theorem holds_letterAt : (letterAt p.place l).holds w = true ↔ w.letter p = l := by
  rw [holds, getElem?_place]
  simp

@[simp] theorem holds_letterNotAt : (letterNotAt p.place l).holds w = true ↔ w.letter p ≠ l := by
  rw [letterNotAt, holds, holds, getElem?_place]
  simp

@[simp] theorem holds_contains : (contains l).holds w = true ↔ l ∈ w.letters := by
  simp [holds]

@[simp] theorem holds_lacks : (lacks l).holds w = true ↔ l ∉ w.letters := by
  rw [lacks, holds, holds, Bool.not_eq_true', ← Bool.not_eq_true, Word.has_iff]

@[simp] theorem holds_allOf : (allOf terms).holds w = true ↔ ∀ t ∈ terms, t.holds w = true := by
  unfold allOf
  split
  · simp
  · rw [holds, allHold_iff]

@[simp] theorem holds_anyOf : (anyOf terms).holds w = true ↔ ∃ t ∈ terms, t.holds w = true := by
  unfold anyOf
  split
  · simp
  · rw [holds, anyHolds_iff]

end Condition

open Condition

namespace Criterion

/-! ## One criterion -/

/-- A kind of one letter that has letters has a single one. -/
theorem Regular.letters_eq_singleton {c : Criterion} (h : c.Regular)
    (hs : c.kind.isSingle = true) (hne : c.letters ≠ []) : ∃ l, c.letters = [l] := by
  cases hl : c.letters with
  | nil => exact absurd hl hne
  | cons l rest =>
    have hlen := h.single hs
    rw [hl, List.length_cons] at hlen
    have hrest : rest = [] := List.eq_nil_of_length_eq_zero (by omega)
    exact ⟨l, by rw [hrest]⟩

/-- The terms of a criterion that keeps the rules say what it asks. -/
theorem holds_terms_iff {c : Criterion} (h : c.Regular) (hne : c.letters ≠ []) (w : Word) :
    (∀ t ∈ c.terms, t.holds w = true) ↔ c.MetBy w := by
  have hfits := h.fits
  have hone := h.letters_eq_singleton
  obtain ⟨kind, letters, scope⟩ := c
  cases kind <;> cases scope
  -- The rules leave a kind of one letter just that one, so its terms are a single test.
  case equals.position p =>
    obtain ⟨l, hl⟩ := hone rfl hne
    simp only at hl
    subst hl
    simp only [terms, MetBy, List.map_cons, List.map_nil, List.mem_singleton, forall_eq,
      holds_letterAt, List.cons.injEq, and_true, exists_eq_left']
  case differs.position p =>
    obtain ⟨l, hl⟩ := hone rfl hne
    simp only at hl
    subst hl
    simp only [terms, MetBy, List.map_cons, List.map_nil, List.mem_singleton, forall_eq,
      holds_letterNotAt, List.cons.injEq, and_true, exists_eq_left']
  case excludes.position p =>
    simp only [terms, MetBy, List.mem_singleton, forall_eq, holds_allOf, List.forall_mem_map,
      holds_letterNotAt]
    exact ⟨fun hall hmem => hall _ hmem rfl, fun hnot l hl heq => hnot (heq ▸ hl)⟩
  case includes.position p =>
    simp only [terms, MetBy, List.mem_singleton, forall_eq, holds_anyOf]
    constructor
    · rintro ⟨t, ht, hholds⟩
      obtain ⟨l, hl, rfl⟩ := List.mem_map.mp ht
      rw [holds_letterAt] at hholds
      exact hholds ▸ hl
    · intro hmem
      exact ⟨_, List.mem_map_of_mem hmem, holds_letterAt.mpr rfl⟩
  case excludes.whole => simp only [terms, MetBy, List.forall_mem_map, holds_lacks]
  case includes.whole => simp only [terms, MetBy, List.forall_mem_map, holds_contains]
  -- The rules keep the kinds of one letter out of the whole word.
  case equals.whole => exact absurd hfits Bool.false_ne_true
  case differs.whole => exact absurd hfits Bool.false_ne_true

end Criterion

namespace Condition

/-! ## A list of criteria -/

/-- The condition of a list is the conjunction of the terms of its criteria. -/
theorem holds_ofCriteria_iff (criteria : List Criterion) (w : Word) :
    (ofCriteria criteria).holds w = true ↔
      ∀ c ∈ criteria, c.letters ≠ [] → ∀ t ∈ c.terms, t.holds w = true := by
  have hterms : (ofCriteria criteria).holds w = true ↔
      ∀ t ∈ (criteria.filter (!·.isEmpty)).flatMap Criterion.terms, t.holds w = true := by
    unfold ofCriteria
    split
    · rename_i heq
      rw [heq]
      simp [holds]
    · rw [holds_allOf]
  rw [hterms]
  simp only [List.mem_flatMap, List.mem_filter, Criterion.isEmpty, Bool.not_eq_true',
    List.isEmpty_eq_false_iff]
  constructor
  · intro hall c hc hne t ht
    exact hall t ⟨c, ⟨hc, hne⟩, ht⟩
  · rintro hall t ⟨c, ⟨hc, hne⟩, ht⟩
    exact hall c hc hne t ht

/-- **The condition of a list of criteria means the list.** Running it on a word never faults, and
tells whether the word meets every criterion that has letters. Criteria without letters play no
part, and neither do the order of the list and its repetitions. -/
theorem ofCriteria_meaning (criteria : List Criterion) (h : ∀ c ∈ criteria, c.Reachable) :
    (∀ w, ∃ b, (ofCriteria criteria).eval w = .ok b ∧
      (b = true ↔ ∀ c ∈ criteria, c.letters ≠ [] → c.MetBy w)) ∧
    ((∀ c ∈ criteria, c.letters = []) → ∀ w, (ofCriteria criteria).eval w = .ok true) ∧
    (∀ other : List Criterion, (∀ c, c ∈ other ↔ c ∈ criteria) →
      ∀ w, (ofCriteria other).eval w = (ofCriteria criteria).eval w) := by
  refine ⟨fun w => ⟨_, (within_ofCriteria criteria).eval_eq w, ?_⟩, fun hempty w => ?_,
    fun other hsame w => ?_⟩
  · rw [holds_ofCriteria_iff]
    exact forall₂_congr fun c hc => forall_congr' fun hne =>
      Criterion.holds_terms_iff (h c hc).regular hne w
  · rw [(within_ofCriteria criteria).eval_eq w]
    have hholds : (ofCriteria criteria).holds w = true :=
      (holds_ofCriteria_iff criteria w).mpr fun c hc hne => absurd (hempty c hc) hne
    rw [hholds]
  · rw [(within_ofCriteria other).eval_eq w, (within_ofCriteria criteria).eval_eq w]
    have hiff : (ofCriteria other).holds w = true ↔ (ofCriteria criteria).holds w = true := by
      rw [holds_ofCriteria_iff, holds_ofCriteria_iff]
      exact forall_congr' fun c => by rw [hsame c]
    rw [Bool.eq_iff_iff.mpr hiff]

/-- One criterion of each kind, obtained by every route: `is` with two letters typed at the third
position, `include` read from text, `not` made with a capital, and two without letters. -/
def assortedCriteria : List Criterion :=
  [((Criterion.blank.edit (.scope (.position ⟨⟨2, by decide⟩⟩))).edit (.kind .equals)).edit
      (.letters ['b', 'c']),
   .make .includes ['l', 'E'] (.position ⟨⟨4, by decide⟩⟩),
   .make .differs ['É'] (.position ⟨⟨0, by decide⟩⟩),
   .blank,
   .make .excludes ['x', 'y'] .whole,
   .make .equals [] (.position ⟨⟨1, by decide⟩⟩)]

theorem assortedCriteria_reachable : ∀ c ∈ assortedCriteria, c.Reachable := by
  intro c hc
  simp only [assortedCriteria, List.mem_cons, List.not_mem_nil, or_false] at hc
  rcases hc with rfl | rfl | rfl | rfl | rfl | rfl
  · exact ((Criterion.Reachable.blank.edit _).edit _).edit _
  · exact .read (s := "Include: 5 :lE".toList) rfl
  · exact .make _ _ _
  · exact .blank
  · exact .make _ _ _
  · exact .make _ _ _

/-- The word `macle`. -/
def macle : Word :=
  { letters := ['m', 'a', 'c', 'l', 'e']
    cells := #v['m', 'a', 'c', 'l', 'e']
    index := .ofList ['m', 'a', 'c', 'l', 'e']
    toList_cells := rfl
    index_eq := rfl
    not_blank := fun c hc => Bool.eq_false_iff.mpr (List.any_eq_false.mp rfl c hc) }

/-- The word passes, so it meets all of the criteria that have letters. -/
theorem ofCriteria_meaning_macle :
    (∀ c ∈ assortedCriteria, c.Reachable) ∧
      (ofCriteria assortedCriteria).eval macle = .ok true ∧
      ∀ c ∈ assortedCriteria, c.letters ≠ [] → c.MetBy macle := by
  refine ⟨assortedCriteria_reachable, rfl, ?_⟩
  obtain ⟨b, heval, hmet⟩ := (ofCriteria_meaning _ assortedCriteria_reachable).1 macle
  exact hmet.mp (Except.ok.inj heval).symm

end Condition

end WordSieve
