import WordSieve.Proofs.Criterion.Normal
import WordSieve.Proofs.Text.AsciiCase
import WordSieve.Proofs.Text.Cut
import WordSieve.Proofs.Text.Numeral

/-!
# The grammar of specs

What comes of reading a spec, told from the text alone: how it falls into parts at its colons, which
spellings name a kind, and which are scopes. Every text is of one of the forms told here, and the
reader does what is told of that form (`Criterion.read_eq_iff`).

Names of kinds are compared in full lowercase and `all` in that of ASCII. That is no difference, for
no letter of the four names is the lowercase form of one outside ASCII.
-/

set_option autoImplicit false

namespace WordSieve

open Text

/-! ## Kinds -/

namespace Kind

/-- The text is the kind's name, in small letters or capitals. -/
def Names (k : Kind) (s : List Char) : Prop :=
  s.map Char.toLower = k.name.toList

theorem lowercase_eq_name_iff {k : Kind} {s : List Char} :
    lowercase s = k.name.toList ↔ k.Names s := by
  have hown : k.name.toList.all (ownLetters.has ·) = true := by cases k <;> rfl
  exact lowercase_eq_iff (List.all_eq_true.mp hown)

theorem read_of_names {k : Kind} {s : List Char} (h : k.Names (trim s)) : read s = .ok k := by
  have hname : lowercase (trim s) = k.name.toList := lowercase_eq_name_iff.mpr h
  simp only [read, hname]
  cases k <;> rfl

theorem read_of_not_names {s : List Char} (h : ∀ k : Kind, ¬ k.Names (trim s)) :
    read s = .error (.invalidKind (String.ofList s)) := by
  have hname (k : Kind) : lowercase (trim s) ≠ k.name.toList := fun heq =>
    h k (lowercase_eq_name_iff.mp heq)
  have hread : read s = if lowercase (trim s) = Kind.excludes.name.toList then .ok .excludes
      else if lowercase (trim s) = Kind.includes.name.toList then .ok .includes
      else if lowercase (trim s) = Kind.equals.name.toList then .ok .equals
      else if lowercase (trim s) = Kind.differs.name.toList then .ok .differs
      else .error (.invalidKind (String.ofList s)) := rfl
  rw [hread, if_neg (hname .excludes), if_neg (hname .includes), if_neg (hname .equals),
    if_neg (hname .differs)]

end Kind

/-! ## Scopes -/

/-- What a text without blanks around it is read as where a scope should stand. -/
inductive ScopeReads (s : List Char) : Except CriterionError Scope → Prop
  | whole (h : s.map Char.toLower = "all".toList) : ScopeReads s (.ok .whole)
  | position (p : Position) (h : IsNumeral s p.number) : ScopeReads s (.ok (.position p))
  | outside {value : Nat} (h : IsNumeral s value) (houtside : value = 0 ∨ 6 ≤ value)
      (hfits : value < wordLimit) : ScopeReads s (.error (.positionOutOfRange value))
  | other (hall : s.map Char.toLower ≠ "all".toList)
      (h : ∀ value, IsNumeral s value → wordLimit ≤ value) :
      ScopeReads s (.error (.invalidScope (String.ofList s)))

namespace Scope

variable {s : List Char}

theorem equals_all_iff :
    equalsIgnoringAsciiCase s "all".toList = true ↔ s.map Char.toLower = "all".toList := by
  have hall : "all".toList.map Char.toLower = "all".toList := by decide
  rw [equalsIgnoringAsciiCase, hall, beq_iff_eq]

theorem not_all_of_numeral {value : Nat} (h : IsNumeral s value) :
    s.map Char.toLower ≠ "all".toList := by
  intro hall
  have hdigit : ∀ d < 10, d.digitChar.toLower ≠ 'l' := by decide
  have hmem : 'l' ∈ s.map Char.toLower := by rw [hall]; decide
  obtain ⟨c, hc, hl⟩ := List.mem_map.mp hmem
  rcases h.eq_of_mem hc with rfl | ⟨d, hd, rfl⟩
  · exact absurd hl (by decide)
  · exact hdigit d hd hl

theorem read_of_numeral {value : Nat} (h : IsNumeral (trim s) value) (hfits : value < wordLimit) :
    read s = ofNumber value := by
  have hall : ¬ equalsIgnoringAsciiCase (trim s) "all".toList = true := fun heq =>
    not_all_of_numeral h (equals_all_iff.mp heq)
  have hvalue : numeral? (trim s) = some value := numeral?_eq_some_iff.mpr ⟨h, hfits⟩
  simp only [read, if_neg hall, hvalue]

theorem outside_iff {value : Nat} :
    ¬ (1 ≤ value ∧ value ≤ wordLength) ↔ value = 0 ∨ 6 ≤ value := by
  unfold wordLength
  omega

theorem read_of_reads {r : Except CriterionError Scope} (h : ScopeReads (trim s) r) :
    read s = r := by
  cases h with
  | whole h => exact if_pos (equals_all_iff.mpr h)
  | position p h =>
    have hfits : p.number < wordLimit :=
      Nat.lt_trans (Nat.lt_succ_of_le (show p.number ≤ 5 from p.place.isLt)) (by decide)
    rw [read_of_numeral h hfits, ofNumber_number]
  | outside h houtside hfits =>
    rw [read_of_numeral h hfits, ofNumber, Position.ofNumber, dif_neg (outside_iff.mpr houtside)]
    rfl
  | other hall h =>
    have hall : ¬ equalsIgnoringAsciiCase (trim s) "all".toList = true := fun heq =>
      hall (equals_all_iff.mp heq)
    have hvalue : numeral? (trim s) = none := numeral?_eq_none_iff.mpr h
    simp only [read, if_neg hall, hvalue]

/-- Every text is of one of the forms. -/
theorem reads_total (s : List Char) : ∃ r, ScopeReads s r := by
  by_cases hall : s.map Char.toLower = "all".toList
  · exact ⟨_, .whole hall⟩
  cases hvalue : numeral? s with
  | none => exact ⟨_, .other hall (numeral?_eq_none_iff.mp hvalue)⟩
  | some value =>
    obtain ⟨h, hfits⟩ := numeral?_eq_some_iff.mp hvalue
    cases hp : Position.ofNumber value with
    | ok p =>
      obtain ⟨rfl, -⟩ := Position.ofNumber_eq_ok_iff.mp hp
      exact ⟨_, .position p h⟩
    | error e =>
      have houtside : ¬ (1 ≤ value ∧ value ≤ wordLength) := by
        intro hinside
        rw [Position.ofNumber, dif_pos hinside] at hp
        exact nomatch hp
      exact ⟨_, .outside h (outside_iff.mp houtside) hfits⟩

end Scope

/-! ## Specs -/

/-- The spec has a colon, and these are its parts: the text before the first colon, the text from
there to the second one or to the end, and all that follows. -/
structure SpecParts (s kind scope letters : List Char) : Prop where
  before_first : ':' ∉ kind
  before_second : ':' ∉ scope
  eq : s = kind ++ ':' :: (scope ++ ':' :: letters) ∨ s = kind ++ ':' :: scope ∧ letters = []

theorem exists_specParts {s : List Char} (h : ':' ∈ s) :
    ∃ kind scope letters, SpecParts s kind scope letters := by
  obtain ⟨kind, rest, rfl, hkind⟩ := List.eq_append_cons_of_mem h
  by_cases hrest : ':' ∈ rest
  · obtain ⟨scope, letters, rfl, hscope⟩ := List.eq_append_cons_of_mem hrest
    exact ⟨kind, scope, letters, hkind, hscope, .inl rfl⟩
  · exact ⟨kind, rest, [], hkind, hrest, .inr ⟨rfl, rfl⟩⟩

/-- What a text is read as where a criterion should stand. -/
inductive SpecReads (s : List Char) : Except CriterionError Criterion → Prop
  | malformed (h : ':' ∉ s) : SpecReads s (.error (.malformedSpec (String.ofList s)))
  | noKind {kind scope letters : List Char} (parts : SpecParts s kind scope letters)
      (h : ∀ k : Kind, ¬ k.Names (trim kind)) :
      SpecReads s (.error (.invalidKind (String.ofList kind)))
  | noScope {kind scope letters : List Char} (parts : SpecParts s kind scope letters) {k : Kind}
      (hkind : k.Names (trim kind)) {e : CriterionError}
      (hscope : ScopeReads (trim scope) (.error e)) : SpecReads s (.error e)
  | criterion {kind scope letters : List Char} (parts : SpecParts s kind scope letters) {k : Kind}
      (hkind : k.Names (trim kind)) {place : Scope} (hscope : ScopeReads (trim scope) (.ok place)) :
      SpecReads s (.ok (.make k letters place))

namespace Criterion

variable {s : List Char}

theorem read_of_parts {kind scope letters : List Char} (h : SpecParts s kind scope letters) :
    read s = (do
      let k ← Kind.read kind
      let place ← Scope.read scope
      return make k letters place) := by
  rcases h.eq with rfl | ⟨rfl, rfl⟩
  · simp only [read, cut_append h.before_first, cut_append h.before_second]
    rfl
  · simp only [read, cut_append h.before_first, cut_of_not_mem h.before_second]
    rfl

theorem read_of_reads {r : Except CriterionError Criterion} (h : SpecReads s r) : read s = r := by
  cases h with
  | malformed h => simp only [read, cut_of_not_mem h]
  | noKind parts h =>
    rw [read_of_parts parts, Kind.read_of_not_names h]
    rfl
  | noScope parts hkind hscope =>
    rw [read_of_parts parts, Kind.read_of_names hkind, Scope.read_of_reads hscope]
    rfl
  | criterion parts hkind hscope =>
    rw [read_of_parts parts, Kind.read_of_names hkind, Scope.read_of_reads hscope]
    rfl

theorem reads_total (s : List Char) : ∃ r, SpecReads s r := by
  by_cases hs : ':' ∈ s
  case neg => exact ⟨_, .malformed hs⟩
  obtain ⟨kind, scope, letters, parts⟩ := exists_specParts hs
  by_cases hkind : ∃ k : Kind, k.Names (trim kind)
  case neg => exact ⟨_, .noKind parts (not_exists.mp hkind)⟩
  obtain ⟨k, hk⟩ := hkind
  obtain ⟨r, hscope⟩ := Scope.reads_total (trim scope)
  cases r with
  | error e => exact ⟨_, .noScope parts hk hscope⟩
  | ok place => exact ⟨_, .criterion parts hk hscope⟩

/-- **The reader follows the grammar.** It is a function and every text is of one of the forms, so
the result that is told of a text's form is the only one there is. -/
theorem read_eq_iff (s : List Char) (r : Except CriterionError Criterion) :
    read s = r ↔ SpecReads s r := by
  constructor
  · rintro rfl
    obtain ⟨r, hr⟩ := reads_total s
    rwa [read_of_reads hr]
  · exact read_of_reads

end Criterion

end WordSieve
