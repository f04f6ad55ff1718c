import WordSieve.Text.Case

/-!
# What lowercasing leaves alone

A text is its own lowercase form just when each of its characters is: what a sigma stands between
matters only where there is a capital sigma, and that one is never its own lowercase form. All of
this rests on two facts about the case tables, which are checked run against run: what the mapping
gives lies in none of its runs, so lowercase forms are their own; and the characters it changes are
capitals or titlecase letters.

The titlecase letters are the gap between the two tables: lowercasing changes them, and they are
not capitals.
-/

set_option autoImplicit false

namespace WordSieve.Text

/-! ## Runs against runs

The tables have some hundred runs and some thousand code points. A run says enough about all of its
code points at once, so the checks below need not visit them. -/

namespace CodeRange

/-- The code points that the run goes through. -/
def points (r : CodeRange) : List Nat :=
  List.range' r.first ((r.last - r.first) / r.step + 1) r.step

/-- Whether one run is seen to have no code point in common with the other: it ends before the
other one starts, or they go through every second code point and do not start alike. -/
def isApart (a b : CodeRange) : Bool :=
  Nat.blt a.last b.first || Nat.blt b.last a.first ||
    ((a.step == 2 || a.first == a.last) && b.step == 2 && (a.first + b.first) % 2 == 1)

/-- Whether one run is seen to go through all code points of the other. -/
def covers (a b : CodeRange) : Bool :=
  Nat.ble a.first b.first && Nat.ble b.last a.last && (b.first - a.first) % a.step == 0 &&
    (b.first == b.last || b.step % a.step == 0)

variable {a b : CodeRange} {n : Nat}

theorem holds_iff : a.holds n = true ↔ (a.first ≤ n ∧ n ≤ a.last) ∧ (n - a.first) % a.step = 0 := by
  simp [holds]

theorem mem_points (h : a.holds n = true) : n ∈ a.points := by
  obtain ⟨⟨hfirst, hlast⟩, hstep⟩ := holds_iff.mp h
  rw [points, List.mem_range']
  refine ⟨(n - a.first) / a.step, ?_, ?_⟩
  · exact Nat.lt_succ_of_le (Nat.div_le_div_right (Nat.sub_le_sub_right hlast a.first))
  · rw [Nat.mul_div_cancel' (Nat.dvd_of_mod_eq_zero hstep)]
    omega

theorem holds_of_isApart (h : a.isApart b = true) (ha : a.holds n = true) : b.holds n = false := by
  obtain ⟨⟨hfirst, hlast⟩, hstep⟩ := holds_iff.mp ha
  rw [Bool.eq_false_iff, Ne, holds_iff]
  rintro ⟨⟨hfirst', hlast'⟩, hstep'⟩
  simp only [isApart, Bool.or_eq_true, Bool.and_eq_true, Nat.blt_eq, beq_iff_eq] at h
  rcases h with (hbefore | hafter) | ⟨⟨hsecond | hone, hsecond'⟩, hodd⟩
  · omega
  · omega
  · rw [hsecond] at hstep
    rw [hsecond'] at hstep'
    omega
  · rw [hsecond'] at hstep'
    omega

theorem holds_of_covers (h : a.covers b = true) (hb : b.holds n = true) : a.holds n = true := by
  obtain ⟨⟨hfirst, hlast⟩, hstep⟩ := holds_iff.mp hb
  simp only [covers, Bool.and_eq_true, Bool.or_eq_true, Nat.ble_eq, beq_iff_eq] at h
  obtain ⟨⟨⟨hfrom, hto⟩, hphase⟩, hsteps⟩ := h
  have hwithin : a.step ∣ n - b.first := by
    rcases hsteps with hone | hmultiple
    · have hn : n - b.first = 0 := by omega
      rw [hn]
      exact Nat.dvd_zero a.step
    · exact Nat.dvd_trans (Nat.dvd_of_mod_eq_zero hmultiple) (Nat.dvd_of_mod_eq_zero hstep)
  have hsum : n - a.first = (n - b.first) + (b.first - a.first) := by omega
  refine holds_iff.mpr ⟨⟨by omega, by omega⟩, ?_⟩
  rw [hsum]
  exact Nat.mod_eq_zero_of_dvd (Nat.dvd_add hwithin (Nat.dvd_of_mod_eq_zero hphase))

end CodeRange

/-- The lowercase forms of a run. -/
def CaseRun.images (r : CaseRun) : CodeRange :=
  { first := r.lowered, last := r.image r.range.last, step := r.range.step }

theorem CaseRun.holds_images {r : CaseRun} {n : Nat} (h : r.range.holds n = true) :
    r.images.holds (r.image n) = true := by
  obtain ⟨⟨hfirst, hlast⟩, hstep⟩ := CodeRange.holds_iff.mp h
  have hback : r.lowered + (n - r.range.first) - r.lowered = n - r.range.first := by omega
  refine CodeRange.holds_iff.mpr ⟨⟨Nat.le_add_right _ _, ?_⟩, ?_⟩
  · exact Nat.add_le_add_left (Nat.sub_le_sub_right hlast _) _
  · rw [image, images, hback]
    exact hstep

/-! ## The tables -/

/-- The letters that are titlecase: two letters written as one character, the first of them a
capital. -/
def titlecase : CodeSet :=
  [⟨0x1C5, 0x1CB, 3⟩, ⟨0x1F2, 0x1F2, 1⟩, ⟨0x1F88, 0x1F8F, 1⟩, ⟨0x1F98, 0x1F9F, 1⟩,
   ⟨0x1FA8, 0x1FAF, 1⟩, ⟨0x1FBC, 0x1FBC, 1⟩, ⟨0x1FCC, 0x1FCC, 1⟩, ⟨0x1FFC, 0x1FFC, 1⟩]

/-- What no lowercase form may be: a code point that is changed again, or one that is no
character. -/
def notLowered : CodeSet :=
  ⟨0x130, 0x130, 1⟩ :: ⟨0xD800, 0xDFFF, 1⟩ :: loweringRuns.map (·.range)

theorem images_apart : (loweringRuns.all fun r =>
    Nat.blt r.images.last 0x110000 && notLowered.all (r.images.isApart ·)) = true := by
  decide +kernel

/-- Where no run of one table covers a run of the mapping, the code points are looked up one by
one. -/
theorem changed_covered : (loweringRuns.all fun r =>
    uppercase.any (·.covers r.range) || titlecase.any (·.covers r.range) ||
      r.range.points.all fun n => uppercase.any (·.holds n) || titlecase.any (·.holds n)) = true := by
  decide +kernel

theorem titlecase_apart : (titlecase.all fun r => r.points.all fun n =>
    (loweredCode n != n && n != 0x130) && !uppercase.any (·.holds n)) = true := by
  decide +kernel

/-! ## One character -/

/-- The character is its own lowercase form. -/
def IsLowered (c : Char) : Prop :=
  lower c = [c]

instance (c : Char) : Decidable (IsLowered c) :=
  inferInstanceAs (Decidable (lower c = [c]))

/-- Whether the character is titlecase. -/
def isTitle (c : Char) : Bool :=
  titlecase.has c

/-- A code point is kept by the mapping, or a run holds it and has an image for it. -/
theorem loweredCode_cases (n : Nat) :
    loweredCode n = n ∨
      ∃ r ∈ loweringRuns, r.range.holds n = true ∧ loweredCode n = r.image n := by
  unfold loweredCode
  cases hfind : loweringRuns.find? (·.range.holds n) with
  | none => exact .inl rfl
  | some r =>
    have hholds := List.find?_some hfind
    exact .inr ⟨r, List.mem_of_find?_eq_some hfind, hholds, rfl⟩

theorem loweredCode_of_not_holds {n : Nat} (h : ∀ r ∈ loweringRuns, r.range.holds n = false) :
    loweredCode n = n := by
  have hfind : loweringRuns.find? (·.range.holds n) = none :=
    List.find?_eq_none.mpr fun r hr => by rw [h r hr]; exact Bool.false_ne_true
  rw [loweredCode, hfind]

/-- What the mapping gives is a character that it keeps. -/
theorem image_kept {r : CaseRun} (hr : r ∈ loweringRuns) {n : Nat} (hn : r.range.holds n = true) :
    (r.image n).isValidChar ∧ r.image n ≠ 0x130 ∧ loweredCode (r.image n) = r.image n := by
  have himage : r.images.holds (r.image n) = true := r.holds_images hn
  have hrun := List.all_eq_true.mp images_apart r hr
  rw [Bool.and_eq_true, Nat.blt_eq, List.all_eq_true] at hrun
  obtain ⟨hlast, hapart⟩ := hrun
  have hout : ∀ b ∈ notLowered, b.holds (r.image n) = false := fun b hb =>
    CodeRange.holds_of_isApart (hapart b hb) himage
  refine ⟨?_, ?_, loweredCode_of_not_holds fun r' hr' => hout r'.range ?_⟩
  · have hle := (CodeRange.holds_iff.mp himage).1.2
    have hsurrogate : ¬ (CodeRange.mk 0xD800 0xDFFF 1).holds (r.image n) = true := by
      rw [hout _ (by simp [notLowered])]
      exact Bool.false_ne_true
    rw [CodeRange.holds_iff] at hsurrogate
    simp only [Nat.isValidChar] at hsurrogate ⊢
    omega
  · intro heq
    have hdot := hout ⟨0x130, 0x130, 1⟩ List.mem_cons_self
    rw [heq] at hdot
    exact absurd hdot (by decide)
  · exact List.mem_cons_of_mem _ (List.mem_cons_of_mem _ (List.mem_map_of_mem hr'))

theorem toNat_ofNat {n : Nat} (h : n.isValidChar) : (Char.ofNat n).toNat = n := by
  rw [Char.ofNat, dif_pos h]
  rfl

theorem lower_of_ne {c : Char} (h : c ≠ '\u0130') : lower c = [Char.ofNat (loweredCode c.toNat)] :=
  if_neg h

theorem isLowered_iff {c : Char} (h : c ≠ '\u0130') :
    IsLowered c ↔ loweredCode c.toNat = c.toNat := by
  rw [IsLowered, lower_of_ne h, List.cons.injEq, and_iff_left rfl]
  constructor
  · intro heq
    rcases loweredCode_cases c.toNat with hsame | ⟨r, hr, hn, himage⟩
    · exact hsame
    · have hcode := congrArg Char.toNat heq
      rw [himage, toNat_ofNat (image_kept hr hn).1] at hcode
      exact himage.trans hcode
  · intro heq
    rw [heq, Char.ofNat_toNat]

/-- Every character of a lowercase form is its own. -/
theorem isLowered_of_mem_lower {c d : Char} (h : d ∈ lower c) : IsLowered d := by
  by_cases hdot : c = '\u0130'
  · have hforms : IsLowered 'i' ∧ IsLowered '\u0307' := by decide +kernel
    rw [hdot, lower, if_pos rfl, List.mem_cons, List.mem_singleton] at h
    rcases h with rfl | rfl
    · exact hforms.1
    · exact hforms.2
  · rw [lower_of_ne hdot, List.mem_singleton] at h
    rcases loweredCode_cases c.toNat with hsame | ⟨r, hr, hn, himage⟩
    · rw [hsame, Char.ofNat_toNat] at h
      rw [h]
      exact (isLowered_iff hdot).mpr hsame
    · obtain ⟨hvalid, hne, hkept⟩ := image_kept hr hn
      have hcode : d.toNat = r.image c.toNat := by rw [h, himage, toNat_ofNat hvalid]
      have hd : d ≠ '\u0130' := by
        rintro rfl
        exact hne hcode.symm
      rw [isLowered_iff hd, hcode]
      exact hkept

/-- A titlecase letter is what lowercasing changes although it is no capital. -/
theorem isTitle_iff {c : Char} : isTitle c = true ↔ ¬ IsLowered c ∧ isUpper c = false := by
  constructor
  · intro h
    obtain ⟨r, hr, hn⟩ := List.any_eq_true.mp h
    have hpoint := List.all_eq_true.mp (List.all_eq_true.mp titlecase_apart r hr) _
      (CodeRange.mem_points hn)
    simp only [Bool.and_eq_true, bne_iff_ne, Bool.not_eq_true'] at hpoint
    obtain ⟨⟨hchanged, hdot⟩, hupper⟩ := hpoint
    have hc : c ≠ '\u0130' := by
      rintro rfl
      exact hdot rfl
    exact ⟨mt (isLowered_iff hc).mp hchanged, hupper⟩
  · rintro ⟨hchanged, hupper⟩
    have hc : c ≠ '\u0130' := by
      rintro rfl
      exact absurd hupper (by decide +kernel)
    rcases loweredCode_cases c.toNat with hsame | ⟨r, hr, hn, -⟩
    · exact absurd ((isLowered_iff hc).mpr hsame) hchanged
    · have hnotUpper : uppercase.any (·.holds c.toNat) = false := hupper
      have hrun := List.all_eq_true.mp changed_covered r hr
      rw [Bool.or_eq_true, Bool.or_eq_true, List.any_eq_true, List.any_eq_true] at hrun
      rcases hrun with (⟨u, hu, hcovers⟩ | ⟨t, ht, hcovers⟩) | hpoints
      · have hholds : uppercase.any (·.holds c.toNat) = true :=
          List.any_eq_true.mpr ⟨u, hu, CodeRange.holds_of_covers hcovers hn⟩
        exact absurd (hholds.symm.trans hnotUpper) Bool.noConfusion
      · exact List.any_eq_true.mpr ⟨t, ht, CodeRange.holds_of_covers hcovers hn⟩
      · have hpoint := List.all_eq_true.mp hpoints _ (CodeRange.mem_points hn)
        rwa [hnotUpper, Bool.false_or] at hpoint

/-! ## Texts -/

theorem isLowered_of_mem_lowerBetween {before after : List Char} {c d : Char}
    (h : d ∈ lowerBetween before c after) : IsLowered d := by
  unfold lowerBetween at h
  split at h
  · have hforms : IsLowered 'ς' ∧ IsLowered 'σ' := by decide +kernel
    rw [List.mem_singleton] at h
    rw [h]
    split
    · exact hforms.1
    · exact hforms.2
  · exact isLowered_of_mem_lower h

theorem isLowered_of_mem_lowercaseAfter {s : List Char} :
    ∀ {before : List Char} {d : Char}, d ∈ lowercaseAfter before s → IsLowered d := by
  induction s with
  | nil => intro before d h; exact absurd h List.not_mem_nil
  | cons c rest ih =>
    intro before d h
    rcases List.mem_append.mp h with hhead | hrest
    · exact isLowered_of_mem_lowerBetween hhead
    · exact ih hrest

/-- A lowercase text has lowercase characters only. -/
theorem isLowered_of_mem_lowercase {s : List Char} {d : Char} (h : d ∈ lowercase s) :
    IsLowered d :=
  isLowered_of_mem_lowercaseAfter h

/-- The capital sigma is not its own lowercase form, so what stands around a character that is does
not matter. -/
theorem IsLowered.lowerBetween_eq {c : Char} (h : IsLowered c) (before after : List Char) :
    lowerBetween before c after = [c] := by
  have hsigma : ¬ IsLowered 'Σ' := by decide +kernel
  have hc : c ≠ 'Σ' := by
    rintro rfl
    exact hsigma h
  rw [lowerBetween, if_neg hc]
  exact h

theorem lowercaseAfter_eq_self {s : List Char} (h : ∀ c ∈ s, IsLowered c) :
    ∀ before, lowercaseAfter before s = s := by
  induction s with
  | nil => intro before; rfl
  | cons c rest ih =>
    intro before
    have hrest := ih (fun d hd => h d (List.mem_cons_of_mem c hd)) (c :: before)
    rw [lowercaseAfter, (h c List.mem_cons_self).lowerBetween_eq, hrest]
    rfl

/-- **A text is its own lowercase form when each of its characters is.** -/
theorem lowercase_eq_self_iff {s : List Char} : lowercase s = s ↔ ∀ c ∈ s, IsLowered c := by
  constructor
  · intro h c hc
    rw [← h] at hc
    exact isLowered_of_mem_lowercase hc
  · intro h
    exact lowercaseAfter_eq_self h []

theorem lowercaseAfter_eq_flatMap {s : List Char} (h : 'Σ' ∉ s) :
    ∀ before, lowercaseAfter before s = s.flatMap lower := by
  induction s with
  | nil => intro before; rfl
  | cons c rest ih =>
    intro before
    obtain ⟨hc, hrest⟩ := List.ne_and_not_mem_of_not_mem_cons h
    rw [lowercaseAfter, lowerBetween, if_neg (Ne.symm hc), ih hrest]
    rfl

/-- Without a capital sigma no character matters to another. -/
theorem lowercase_eq_flatMap {s : List Char} (h : 'Σ' ∉ s) : lowercase s = s.flatMap lower :=
  lowercaseAfter_eq_flatMap h []

end WordSieve.Text
