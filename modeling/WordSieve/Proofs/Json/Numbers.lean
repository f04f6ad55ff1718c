import WordSieve.WordList.Json.Token

/-!
# Numbers as they may be written

A number is written as a sign, digits, a fraction and an exponent, all but the digits optional.
`Number` gives these forms without a reader, together with the one thing the reader keeps of a
number, whether a double holds it.

A number does not say itself where it ends: it goes on as long as there are digits, and a point or
an exponent may follow. So a number is read back only before a text that cannot carry it on.
-/

set_option autoImplicit false

namespace WordSieve.Json

/-! ## Writing -/

/-- Digits, at least one of them. -/
structure Digits (s : List Char) : Prop where
  ne_nil : s ≠ []
  all : ∀ c ∈ s, isDigit c = true

/-- The digits before the point. No zero stands before others. -/
inductive Whole : List Char → Prop where
  | zero : Whole ['0']
  | digits {first : Char} {rest : List Char} : first ≠ '0' → Digits (first :: rest) →
      Whole (first :: rest)

/-- The ways to write a fraction with these digits. -/
inductive Fraction : List Char → List Char → Prop where
  | absent : Fraction [] []
  | point {digits : List Char} : Digits digits → Fraction digits ('.' :: digits)

/-- The ways to write an exponent. -/
inductive Exponent : Int → List Char → Prop where
  | absent : Exponent 0 []
  | unsigned {e : Char} {digits : List Char} : e = 'e' ∨ e = 'E' → Digits digits →
      Exponent (digitsValue digits) (e :: digits)
  | plus {e : Char} {digits : List Char} : e = 'e' ∨ e = 'E' → Digits digits →
      Exponent (digitsValue digits) (e :: '+' :: digits)
  | minus {e : Char} {digits : List Char} : e = 'e' ∨ e = 'E' → Digits digits →
      Exponent (-digitsValue digits) (e :: '-' :: digits)

/-- The ways to write a number without a sign that is, or is not, within the range of a double. -/
inductive Unsigned : Bool → List Char → Prop where
  | parts {whole digits fraction exponent : List Char} {size : Int} : Whole whole →
      Fraction digits fraction → Exponent size exponent →
      Unsigned (fitsDouble whole digits size) (whole ++ (fraction ++ exponent))

/-- The ways to write a number. -/
inductive Number : Bool → List Char → Prop where
  | unsigned {inRange : Bool} {s : List Char} : Unsigned inRange s → Number inRange s
  | minus {inRange : Bool} {s : List Char} : Unsigned inRange s → Number inRange ('-' :: s)

/-- The text does not start with a digit. -/
def NoDigit (s : List Char) : Prop :=
  ∀ c ∈ s.head?, isDigit c = false

/-- The text carries no number on that stands before it. -/
def Ends (s : List Char) : Prop :=
  ∀ c ∈ s.head?, isDigit c = false ∧ c ≠ '.' ∧ c ≠ 'e' ∧ c ≠ 'E'

variable {behind : List Char}

theorem Ends.noDigit (h : Ends behind) : NoDigit behind := by
  intro c hc
  exact (h c hc).1

/-! ## Digits -/

/-- Digits before something else are all the digits there are. -/
theorem span_digits {digits : List Char} (h : ∀ c ∈ digits, isDigit c = true)
    (hbehind : NoDigit behind) :
    (digits ++ behind).takeWhile isDigit = digits ∧
      (digits ++ behind).dropWhile isDigit = behind := by
  have hnone : behind.takeWhile isDigit = [] ∧ behind.dropWhile isDigit = behind := by
    cases behind with
    | nil => exact ⟨rfl, rfl⟩
    | cons c rest =>
      have hc : isDigit c = false := hbehind c rfl
      simp [hc]
  rw [List.takeWhile_append_of_pos h, List.dropWhile_append_of_pos h, hnone.1, hnone.2,
    List.append_nil]
  exact ⟨rfl, rfl⟩

theorem isDigit_of_mem_takeWhile {s : List Char} {c : Char} (h : c ∈ s.takeWhile isDigit) :
    isDigit c = true :=
  List.all_eq_true.mp List.all_takeWhile c h

theorem noDigit_dropWhile (s : List Char) : NoDigit (s.dropWhile isDigit) := by
  intro c hc
  have h := List.head?_dropWhile_not isDigit s
  rw [Option.mem_def.mp hc] at h
  exact h

/-! ## What is written is cut off -/

theorem cutExponentDigits_written (whole fraction : List Char) (negative : Bool)
    {digits : List Char} (h : Digits digits) (hbehind : NoDigit behind) :
    cutExponentDigits whole fraction negative (digits ++ behind) =
      { ending := .whole (fitsDouble whole fraction
          (if negative then -(digitsValue digits : Int) else digitsValue digits))
        rest := behind } := by
  obtain ⟨htake, hdrop⟩ := span_digits h.all hbehind
  have hsome : digits.isEmpty = false := List.isEmpty_eq_false_iff.mpr h.ne_nil
  simp only [cutExponentDigits, htake, hdrop, hsome, Bool.false_eq_true, if_false]

theorem cutExponent_written (whole fraction : List Char) {size : Int} {exponent : List Char}
    (h : Exponent size exponent) (hbehind : Ends behind) :
    cutExponent whole fraction (exponent ++ behind) =
      { ending := .whole (fitsDouble whole fraction size), rest := behind } := by
  cases h with
  | absent =>
    cases behind with
    | nil => rfl
    | cons c rest =>
      obtain ⟨-, -, he, hE⟩ := hbehind c rfl
      simp [cutExponent, he, hE]
  | plus he hdigits =>
    simp only [List.cons_append, cutExponent, he, if_true]
    exact cutExponentDigits_written _ _ false hdigits hbehind.noDigit
  | minus he hdigits =>
    simp only [List.cons_append, cutExponent, he, if_true]
    exact cutExponentDigits_written _ _ true hdigits hbehind.noDigit
  | unsigned he hdigits =>
    obtain ⟨d, rest, rfl⟩ := List.exists_cons_of_ne_nil hdigits.ne_nil
    have hd : isDigit d = true := hdigits.all d List.mem_cons_self
    have hplus : d ≠ '+' := by
      rintro rfl
      exact absurd hd (by decide)
    have hminus : d ≠ '-' := by
      rintro rfl
      exact absurd hd (by decide)
    have hcut := cutExponentDigits_written whole fraction false hdigits hbehind.noDigit
    simp only [List.cons_append, cutExponent, he, if_true] at hcut ⊢
    split
    · next heq => exact absurd (List.cons.inj heq).1 hplus
    · next heq => exact absurd (List.cons.inj heq).1 hminus
    · exact hcut

/-- Neither an exponent nor what may stand behind a number is taken for more digits or for a
fraction. -/
theorem head_exponent {size : Int} {exponent : List Char} (h : Exponent size exponent)
    (hbehind : Ends behind) : ∀ c ∈ (exponent ++ behind).head?, isDigit c = false ∧ c ≠ '.' := by
  intro c hc
  cases h with
  | absent =>
    obtain ⟨hdigit, hpoint, -⟩ := hbehind c hc
    exact ⟨hdigit, hpoint⟩
  | unsigned he _ | plus he _ | minus he _ =>
    obtain rfl := Option.some.inj hc
    rcases he with rfl | rfl <;> decide

theorem noDigit_fraction {digits fraction exponent : List Char} {size : Int}
    (hfraction : Fraction digits fraction) (hexponent : Exponent size exponent)
    (hbehind : Ends behind) : NoDigit (fraction ++ (exponent ++ behind)) := by
  intro c hc
  cases hfraction with
  | absent => exact (head_exponent hexponent hbehind c hc).1
  | point _ =>
    obtain rfl := Option.some.inj hc
    decide

theorem cutFraction_written (whole : List Char) {digits fraction exponent : List Char} {size : Int}
    (hfraction : Fraction digits fraction) (hexponent : Exponent size exponent)
    (hbehind : Ends behind) :
    cutFraction whole (fraction ++ (exponent ++ behind)) =
      { ending := .whole (fitsDouble whole digits size), rest := behind } := by
  have hhead := head_exponent hexponent hbehind
  cases hfraction with
  | absent =>
    rw [← cutExponent_written whole [] hexponent hbehind, List.nil_append]
    unfold cutFraction
    split
    · next rest heq =>
      rw [heq] at hhead
      exact absurd rfl (hhead '.' rfl).2
    · rfl
  | point hdigits =>
    have hnone : NoDigit (exponent ++ behind) := fun c hc => (hhead c hc).1
    obtain ⟨htake, hdrop⟩ := span_digits hdigits.all hnone
    have hsome : digits.isEmpty = false := List.isEmpty_eq_false_iff.mpr hdigits.ne_nil
    rw [← cutExponent_written whole digits hexponent hbehind]
    simp only [List.cons_append, cutFraction, htake, hdrop, hsome, Bool.false_eq_true, if_false]

theorem any_head?_eq_false_iff {s : List Char} : s.head?.any isDigit = false ↔ NoDigit s := by
  cases s with
  | nil => simp [NoDigit]
  | cons c rest => simp [NoDigit]

theorem cutUnsigned_written {inRange : Bool} {s : List Char} (h : Unsigned inRange s)
    (hbehind : Ends behind) :
    ∃ first rest, s = first :: rest ∧ isDigit first = true ∧
      cutUnsigned first (rest ++ behind) = { ending := .whole inRange, rest := behind } := by
  cases h with
  | @parts whole digits fraction exponent size hwhole hfraction hexponent =>
    have hcut := cutFraction_written whole hfraction hexponent hbehind
    have hnone := noDigit_fraction hfraction hexponent hbehind
    cases hwhole with
    | zero =>
      refine ⟨'0', fraction ++ exponent, rfl, by decide, ?_⟩
      rw [List.append_assoc, cutUnsigned, if_pos rfl, any_head?_eq_false_iff.mpr hnone]
      exact hcut
    | @digits first rest hzero hdigits =>
      have hfirst : isDigit first = true := hdigits.all first List.mem_cons_self
      have hrest : ∀ c ∈ rest, isDigit c = true := fun c hc =>
        hdigits.all c (List.mem_cons_of_mem first hc)
      obtain ⟨htake, hdrop⟩ := span_digits hrest hnone
      refine ⟨first, rest ++ (fraction ++ exponent), rfl, hfirst, ?_⟩
      rw [List.append_assoc, List.append_assoc, cutUnsigned, if_neg hzero, if_pos hfirst, htake,
        hdrop]
      exact hcut

/-- **A number is cut off as it was written**, whatever stands behind it, as long as that does not
carry it on. -/
theorem cutNumber_written {inRange : Bool} {s : List Char} (h : Number inRange s)
    (hbehind : Ends behind) :
    ∃ first rest, s = first :: rest ∧ (first = '-' ∨ isDigit first = true) ∧
      cutNumber first (rest ++ behind) = { ending := .whole inRange, rest := behind } := by
  cases h with
  | unsigned h =>
    obtain ⟨first, rest, rfl, hdigit, hcut⟩ := cutUnsigned_written h hbehind
    have hminus : first ≠ '-' := by
      rintro rfl
      exact absurd hdigit (by decide)
    refine ⟨first, rest, rfl, .inr hdigit, ?_⟩
    rw [cutNumber.eq_def, if_neg hminus, hcut]
  | minus h =>
    obtain ⟨first, rest, rfl, -, hcut⟩ := cutUnsigned_written h hbehind
    refine ⟨'-', first :: rest, rfl, .inl rfl, ?_⟩
    rw [← hcut]
    rfl

/-! ## What is cut off was written -/

variable {inRange : Bool} {s : List Char}

/-- A number that breaks off is not whole. -/
theorem missingDigit_ne (s : List Char) : (NumberCut.missingDigit s).ending ≠ .whole inRange := by
  unfold NumberCut.missingDigit
  dsimp only
  split <;> exact NumberEnd.noConfusion

theorem digits_takeWhile {s : List Char} (h : (s.takeWhile isDigit).isEmpty = false) :
    Digits (s.takeWhile isDigit) :=
  ⟨List.isEmpty_eq_false_iff.mp h, fun _ hc => isDigit_of_mem_takeWhile hc⟩

theorem cutExponentDigits_sound {whole fraction : List Char} {negative : Bool}
    (h : (cutExponentDigits whole fraction negative s).ending = .whole inRange) :
    ∃ digits, Digits digits ∧
      s = digits ++ (cutExponentDigits whole fraction negative s).rest ∧
      NoDigit (cutExponentDigits whole fraction negative s).rest ∧
      inRange = fitsDouble whole fraction
        (if negative then -(digitsValue digits : Int) else digitsValue digits) := by
  unfold cutExponentDigits at h ⊢
  dsimp only at h ⊢
  cases hempty : (s.takeWhile isDigit).isEmpty with
  | true =>
    rw [hempty, if_pos rfl] at h
    exact absurd h (missingDigit_ne s)
  | false =>
    rw [hempty, if_neg Bool.false_ne_true] at h
    rw [if_neg Bool.false_ne_true]
    exact ⟨_, digits_takeWhile hempty, List.takeWhile_append_dropWhile.symm,
      noDigit_dropWhile s, (NumberEnd.whole.inj h).symm⟩

theorem cutExponent_sound {whole fraction : List Char} (hs : NoDigit s)
    (h : (cutExponent whole fraction s).ending = .whole inRange) :
    ∃ size exponent, Exponent size exponent ∧
      s = exponent ++ (cutExponent whole fraction s).rest ∧
      NoDigit (cutExponent whole fraction s).rest ∧ inRange = fitsDouble whole fraction size := by
  cases s with
  | nil => exact ⟨0, [], .absent, rfl, hs, (NumberEnd.whole.inj h).symm⟩
  | cons e rest =>
    unfold cutExponent at h ⊢
    dsimp only at h ⊢
    by_cases he : e = 'e' ∨ e = 'E'
    · rw [if_pos he] at h ⊢
      revert h
      split
      · next rest =>
        intro h
        obtain ⟨digits, hdigits, htext, hnone, hfits⟩ := cutExponentDigits_sound h
        exact ⟨_, _, .plus he hdigits, congrArg (e :: '+' :: ·) htext, hnone, hfits⟩
      · next rest =>
        intro h
        obtain ⟨digits, hdigits, htext, hnone, hfits⟩ := cutExponentDigits_sound h
        exact ⟨_, _, .minus he hdigits, congrArg (e :: '-' :: ·) htext, hnone, hfits⟩
      · intro h
        obtain ⟨digits, hdigits, htext, hnone, hfits⟩ := cutExponentDigits_sound h
        exact ⟨_, _, .unsigned he hdigits, congrArg (e :: ·) htext, hnone, hfits⟩
    · rw [if_neg he] at h ⊢
      exact ⟨0, [], .absent, rfl, hs, (NumberEnd.whole.inj h).symm⟩

theorem cutFraction_sound {whole : List Char} (hs : NoDigit s)
    (h : (cutFraction whole s).ending = .whole inRange) :
    ∃ digits fraction size exponent, Fraction digits fraction ∧ Exponent size exponent ∧
      s = fraction ++ (exponent ++ (cutFraction whole s).rest) ∧
      NoDigit (cutFraction whole s).rest ∧ inRange = fitsDouble whole digits size := by
  unfold cutFraction at h ⊢
  revert h
  split
  · next rest =>
    intro h
    dsimp only at h ⊢
    cases hempty : (rest.takeWhile isDigit).isEmpty with
    | true =>
      rw [hempty, if_pos rfl] at h
      exact absurd h (missingDigit_ne rest)
    | false =>
      rw [hempty, if_neg Bool.false_ne_true] at h
      rw [if_neg Bool.false_ne_true]
      obtain ⟨size, exponent, hexponent, htext, hnone, hfits⟩ :=
        cutExponent_sound (noDigit_dropWhile rest) h
      refine ⟨_, _, size, exponent, .point (digits_takeWhile hempty), hexponent, ?_, hnone, hfits⟩
      rw [List.cons_append, ← htext, List.takeWhile_append_dropWhile]
  · intro h
    obtain ⟨size, exponent, hexponent, htext, hnone, hfits⟩ := cutExponent_sound hs h
    exact ⟨[], [], size, exponent, .absent, hexponent, htext, hnone, hfits⟩

theorem cutUnsigned_sound {first : Char} {rest : List Char}
    (h : (cutUnsigned first rest).ending = .whole inRange) :
    ∃ written, Unsigned inRange written ∧
      first :: rest = written ++ (cutUnsigned first rest).rest ∧
      NoDigit (cutUnsigned first rest).rest := by
  unfold cutUnsigned at h ⊢
  by_cases hzero : first = '0'
  · rw [if_pos hzero] at h ⊢
    cases hdigit : rest.head?.any isDigit with
    | true =>
      rw [hdigit, if_pos rfl] at h
      cases h
    | false =>
      rw [hdigit, if_neg Bool.false_ne_true] at h
      rw [if_neg Bool.false_ne_true]
      obtain ⟨digits, fraction, size, exponent, hfraction, hexponent, htext, hnone, rfl⟩ :=
        cutFraction_sound (any_head?_eq_false_iff.mp hdigit) h
      refine ⟨_, .parts .zero hfraction hexponent, ?_, hnone⟩
      rw [hzero, List.append_assoc, List.append_assoc, ← htext]
      rfl
  · rw [if_neg hzero] at h ⊢
    by_cases hdigit : isDigit first = true
    · rw [if_pos hdigit] at h ⊢
      obtain ⟨digits, fraction, size, exponent, hfraction, hexponent, htext, hnone, rfl⟩ :=
        cutFraction_sound (noDigit_dropWhile rest) h
      have hdigits : Digits (first :: rest.takeWhile isDigit) :=
        ⟨List.cons_ne_nil _ _, List.forall_mem_cons.mpr
          ⟨hdigit, fun _ hc => isDigit_of_mem_takeWhile hc⟩⟩
      refine ⟨_, .parts (.digits hzero hdigits) hfraction hexponent, ?_, hnone⟩
      rw [List.append_assoc, List.append_assoc, ← htext, List.cons_append,
        List.takeWhile_append_dropWhile]
    · rw [if_neg hdigit] at h
      cases h

/-- **What is cut off as a number was written as one**, and no digit is left behind it. -/
theorem cutNumber_sound {first : Char} {rest : List Char}
    (h : (cutNumber first rest).ending = .whole inRange) :
    ∃ written, Number inRange written ∧
      first :: rest = written ++ (cutNumber first rest).rest ∧
      NoDigit (cutNumber first rest).rest := by
  unfold cutNumber at h ⊢
  by_cases hminus : first = '-'
  · rw [if_pos hminus] at h ⊢
    cases rest with
    | nil => exact absurd h (missingDigit_ne [])
    | cons digit rest =>
      obtain ⟨written, hwritten, htext, hnone⟩ := cutUnsigned_sound h
      exact ⟨_, .minus hwritten, hminus ▸ congrArg ('-' :: ·) htext, hnone⟩
  · rw [if_neg hminus] at h ⊢
    obtain ⟨written, hwritten, htext, hnone⟩ := cutUnsigned_sound h
    exact ⟨written, .unsigned hwritten, htext, hnone⟩

end WordSieve.Json
