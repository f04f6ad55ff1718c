import WordSieve.WordList.Json.Token

/-!
# Strings as they may be written

A character of a string may be written in more than one way, and a reader has to take all of them.
Here the ways to write a string are given without a reader (`PartsWritten`), and so is what the
string then says (`Means`), and `cutString` and `stringText` are held to the two.

They are kept apart because a reader may stop between them. A string that nobody asks for has to be
written as a string, but it may hold half of a surrogate pair and then says nothing.
-/

set_option autoImplicit false

namespace WordSieve.Json

/-! ## Writing -/

/-- The escapes of one letter, each with the character that it stands for. -/
def shortEscapes : List (Char × Char) :=
  [('"', '"'), ('\\', '\\'), ('/', '/'), ('b', '\x08'), ('f', '\x0c'), ('n', '\n'), ('r', '\r'),
   ('t', '\t')]

/-- The character is the hexadecimal digit of the value, in either case. -/
def HexDigit (c : Char) (n : Nat) : Prop :=
  n < 16 ∧ (c = n.digitChar ∨ c = n.digitChar.toUpper)

instance (c : Char) (n : Nat) : Decidable (HexDigit c n) :=
  inferInstanceAs (Decidable (_ ∧ _))

/-- Four hexadecimal digits and their value. -/
inductive HexUnit : List Char → Nat → Prop where
  | digits {a b c d : Char} {w x y z : Nat} : HexDigit a w → HexDigit b x → HexDigit c y →
      HexDigit d z → HexUnit [a, b, c, d] (w * 0x1000 + x * 0x100 + y * 0x10 + z)

/-- The ways to write a part of a string. -/
inductive StringPart.Written : StringPart → List Char → Prop where
  | plain {c : Char} : c ≠ '"' → c ≠ '\\' → ¬c < ' ' → Written (.char c) [c]
  | short {e c : Char} : (e, c) ∈ shortEscapes → Written (.char c) ['\\', e]
  | unit {digits : List Char} {n : Nat} : HexUnit digits n →
      Written (.unit n) ('\\' :: 'u' :: digits)

/-- The ways to write the parts of a string one behind the other. -/
inductive PartsWritten : List StringPart → List Char → Prop where
  | nil : PartsWritten [] []
  | cons {p : StringPart} {parts : List StringPart} {written rest : List Char} :
      p.Written written → PartsWritten parts rest → PartsWritten (p :: parts) (written ++ rest)

theorem hexDigit?_eq_some_iff {c : Char} {n : Nat} : hexDigit? c = some n ↔ HexDigit c n := by
  constructor
  · intro h
    have hall : ∀ k < 103, (hexDigit? (Char.ofNat k)).all (HexDigit (Char.ofNat k) ·) = true := by
      decide +kernel
    have hbound : c ≤ 'f' := by
      unfold hexDigit? at h
      split at h
      · next hdigit => exact Char.le_trans hdigit.2 (by decide)
      · split at h
        · next hlower => exact hlower.2
        · split at h
          · next hupper => exact Char.le_trans hupper.2 (by decide)
          · cases h
    have hc := hall c.toNat (Nat.lt_succ_of_le (UInt32.le_iff_toNat_le.mp hbound))
    rw [Char.ofNat_toNat, h] at hc
    exact of_decide_eq_true hc
  · have hall : ∀ n < 16, hexDigit? n.digitChar = some n ∧ hexDigit? n.digitChar.toUpper = some n := by
      decide
    rintro ⟨hn, rfl | rfl⟩
    · exact (hall n hn).1
    · exact (hall n hn).2

theorem hexUnit?_eq_some_iff {a b c d : Char} {n : Nat} :
    hexUnit? a b c d = some n ↔ HexUnit [a, b, c, d] n := by
  constructor
  · intro h
    simp only [hexUnit?, Option.bind_eq_bind, Option.bind_eq_some_iff, Option.some.injEq,
      Option.pure_def, hexDigit?_eq_some_iff] at h
    obtain ⟨w, hw, x, hx, y, hy, z, hz, rfl⟩ := h
    have hvalue : (w * 16 + x) * 256 + (y * 16 + z) = w * 0x1000 + x * 0x100 + y * 0x10 + z := by
      omega
    rw [hvalue]
    exact .digits hw hx hy hz
  · rintro ⟨hw, hx, hy, hz⟩
    rw [← hexDigit?_eq_some_iff] at hw hx hy hz
    simp only [hexUnit?, hw, hx, hy, hz, Option.bind_eq_bind, Option.bind_some, Option.pure_def,
      Option.some.injEq]
    omega

theorem shortEscape?_eq_some_iff {e c : Char} :
    shortEscape? e = some c ↔ (e, c) ∈ shortEscapes := by
  constructor
  · intro h
    unfold shortEscape? at h
    split at h <;> cases h <;> simp [shortEscapes]
  · intro h
    have hall : shortEscapes.all (fun p => shortEscape? p.1 = some p.2) = true := by
      decide
    exact of_decide_eq_true (List.all_eq_true.mp hall (e, c) h)

theorem cutString_short {e c : Char} (h : (e, c) ∈ shortEscapes) (s : List Char) :
    cutString ('\\' :: e :: s) = (cutString s).push (.char c) := by
  simp only [shortEscapes, List.mem_cons, Prod.mk.injEq, List.not_mem_nil, or_false] at h
  rcases h with ⟨rfl, rfl⟩ | ⟨rfl, rfl⟩ | ⟨rfl, rfl⟩ | ⟨rfl, rfl⟩ | ⟨rfl, rfl⟩ | ⟨rfl, rfl⟩ |
    ⟨rfl, rfl⟩ | ⟨rfl, rfl⟩ <;> rfl

theorem cutString_unit {digits : List Char} {n : Nat} (h : HexUnit digits n) (s : List Char) :
    cutString ('\\' :: 'u' :: (digits ++ s)) = (cutString s).push (.unit n) := by
  cases h with
  | digits hw hx hy hz =>
    have hunit := hexUnit?_eq_some_iff.mpr (.digits hw hx hy hz)
    simp only [List.cons_append, List.nil_append, cutString, hunit]

theorem cutString_plain {c : Char} (hquote : c ≠ '"') (hbackslash : c ≠ '\\') (hcontrol : ¬c < ' ')
    (s : List Char) : cutString (c :: s) = (cutString s).push (.char c) := by
  rw [cutString, if_neg hcontrol]
  · exact hquote
  · intro a b c d rest hescape
    exact absurd hescape hbackslash
  · intro rest hescape
    exact absurd hescape hbackslash
  · intro e rest hescape
    exact absurd hescape hbackslash
  · intro hescape
    exact absurd hescape hbackslash

/-- Text that is written as a string is cut off as that string, whatever stands behind it. -/
theorem cutString_written {parts : List StringPart} {body : List Char}
    (h : PartsWritten parts body) (rest : List Char) :
    cutString (body ++ '"' :: rest) = { parts, fault := none, rest } := by
  induction h with
  | nil => rfl
  | cons hpart _ ih =>
    rw [List.append_assoc]
    cases hpart with
    | plain hquote hbackslash hcontrol =>
      rw [List.singleton_append, cutString_plain hquote hbackslash hcontrol, ih]
      rfl
    | short hshort =>
      rw [List.cons_append, List.singleton_append, cutString_short hshort, ih]
      rfl
    | unit hunit =>
      rw [List.cons_append, List.cons_append, cutString_unit hunit, ih]
      rfl

/-- What is cut off without a fault was written as a string. -/
theorem partsWritten_cutString {s : List Char} (h : (cutString s).fault = none) :
    ∃ body, PartsWritten (cutString s).parts body ∧ s = body ++ '"' :: (cutString s).rest := by
  fun_induction cutString s with
  | case2 rest => exact ⟨[], .nil, rfl⟩
  | case3 a b c d rest n hunit ih =>
    obtain ⟨body, hbody, htext⟩ := ih h
    refine ⟨_, .cons (.unit (hexUnit?_eq_some_iff.mp hunit)) hbody, ?_⟩
    exact congrArg (fun s => '\\' :: 'u' :: a :: b :: c :: d :: s) htext
  | case6 e rest _ _ c hshort ih =>
    obtain ⟨body, hbody, htext⟩ := ih h
    exact ⟨_, .cons (.short (shortEscape?_eq_some_iff.mp hshort)) hbody,
      congrArg (fun s => '\\' :: e :: s) htext⟩
  | case10 c rest hquote _ _ hescape hend hcontrol ih =>
    have hbackslash : c ≠ '\\' := by
      intro hc
      cases rest with
      | nil => exact hend hc rfl
      | cons e rest => exact hescape e rest hc rfl
    obtain ⟨body, hbody, htext⟩ := ih h
    exact ⟨_, .cons (.plain hquote hbackslash hcontrol) hbody, congrArg (c :: ·) htext⟩
  | case1 | case4 | case5 | case7 | case8 | case9 => cases h

/-! ## What a string says -/

/-- What the parts of a string say. A code unit says a character by itself, or together with the
other half of its surrogate pair; a half that stands alone says nothing. -/
inductive Means : List StringPart → List Char → Prop where
  | nil : Means [] []
  | char {c : Char} {parts : List StringPart} {text : List Char} : Means parts text →
      Means (.char c :: parts) (c :: text)
  | unit {n : Nat} {parts : List StringPart} {text : List Char} : n < 0xD800 ∨ 0xDFFF < n →
      Means parts text → Means (.unit n :: parts) (Char.ofNat n :: text)
  | pair {n m : Nat} {parts : List StringPart} {text : List Char} : 0xD800 ≤ n ∧ n ≤ 0xDBFF →
      0xDC00 ≤ m ∧ m ≤ 0xDFFF → Means parts text →
      Means (.unit n :: .unit m :: parts)
        (Char.ofNat (0x10000 + (n - 0xD800) * 0x400 + (m - 0xDC00)) :: text)

theorem isLead_iff {n : Nat} : isLead n = true ↔ 0xD800 ≤ n ∧ n ≤ 0xDBFF := by
  simp only [isLead, Bool.and_eq_true, decide_eq_true_eq]

theorem isTrail_iff {n : Nat} : isTrail n = true ↔ 0xDC00 ≤ n ∧ n ≤ 0xDFFF := by
  simp only [isTrail, Bool.and_eq_true, decide_eq_true_eq]

/-- The two halves of a pair lie in ranges side by side, and all else outside both. -/
theorem not_half_iff {n : Nat} : isLead n = false ∧ isTrail n = false ↔ n < 0xD800 ∨ 0xDFFF < n := by
  rw [Bool.eq_false_iff, Bool.eq_false_iff, Ne, Ne, isLead_iff, isTrail_iff]
  omega

theorem isTrail_of_isLead {n : Nat} (h : isLead n = true) : isTrail n = false := by
  rw [Bool.eq_false_iff, Ne, isTrail_iff]
  rw [isLead_iff] at h
  omega

theorem map_eq_ok_iff {ε α β : Type} {f : α → β} {r : Except ε α} {b : β} :
    r.map f = .ok b ↔ ∃ a, r = .ok a ∧ f a = b := by
  cases r <;> simp [Except.map]

theorem Means.stringText_eq {parts : List StringPart} {text : List Char} (h : Means parts text) :
    stringText none parts = .ok text := by
  induction h with
  | nil => rfl
  | char _ ih =>
    rw [stringText, ih]
    rfl
  | unit hrange _ ih =>
    obtain ⟨hlead, htrail⟩ := not_half_iff.mpr hrange
    rw [stringText.eq_def]
    simp only [htrail, hlead, ih]
    rfl
  | pair hn hm _ ih =>
    have hlead := isLead_iff.mpr hn
    have htrail := isTrail_iff.mpr hm
    have hnot := isTrail_of_isLead hlead
    simp only [stringText, hnot, hlead, htrail, ih, Bool.false_eq_true, if_true, if_false]
    rfl

theorem means_of_stringText {fault : Option Cause} {parts : List StringPart} {text : List Char}
    (h : stringText fault parts = .ok text) : fault = none ∧ Means parts text := by
  fun_induction stringText fault parts generalizing text with
  | case2 hfault => exact ⟨hfault, Except.ok.inj h ▸ .nil⟩
  | case3 c rest ih =>
    obtain ⟨behind, hbehind, rfl⟩ := map_eq_ok_iff.mp h
    obtain ⟨hfault, hmeans⟩ := ih hbehind
    exact ⟨hfault, .char hmeans⟩
  | case5 n _ hlead m rest htrail ih =>
    obtain ⟨behind, hbehind, rfl⟩ := map_eq_ok_iff.mp h
    obtain ⟨hfault, hmeans⟩ := ih hbehind
    exact ⟨hfault, .pair (isLead_iff.mp hlead) (isTrail_iff.mp htrail) hmeans⟩
  | case9 n rest htrail hlead ih =>
    obtain ⟨behind, hbehind, rfl⟩ := map_eq_ok_iff.mp h
    obtain ⟨hfault, hmeans⟩ := ih hbehind
    have hrange := not_half_iff.mp ⟨Bool.eq_false_iff.mpr hlead, Bool.eq_false_iff.mpr htrail⟩
    exact ⟨hfault, .unit hrange hmeans⟩
  | case1 | case4 | case6 | case7 | case8 => cases h

/-- **The text of a string is what its parts say**, and a string that breaks off has none. -/
theorem stringText_eq_ok_iff {fault : Option Cause} {parts : List StringPart} {text : List Char} :
    stringText fault parts = .ok text ↔ fault = none ∧ Means parts text := by
  constructor
  · exact means_of_stringText
  · rintro ⟨rfl, h⟩
    exact h.stringText_eq

/-! ## Characters -/

/-- The ways to write a character: as it stands, as an escape of one letter, as its code unit, or as
the two halves of its surrogate pair. -/
inductive CharWritten : Char → List Char → Prop where
  | plain {c : Char} : c ≠ '"' → c ≠ '\\' → ¬c < ' ' → CharWritten c [c]
  | short {e c : Char} : (e, c) ∈ shortEscapes → CharWritten c ['\\', e]
  | unit {c : Char} {digits : List Char} : HexUnit digits c.toNat →
      CharWritten c ('\\' :: 'u' :: digits)
  | pair {c : Char} {high low : List Char} : 0x10000 ≤ c.toNat →
      HexUnit high (0xD800 + (c.toNat - 0x10000) / 0x400) →
      HexUnit low (0xDC00 + (c.toNat - 0x10000) % 0x400) →
      CharWritten c ('\\' :: 'u' :: high ++ '\\' :: 'u' :: low)

/-- The ways to write a text in a string, character by character. -/
inductive TextWritten : List Char → List Char → Prop where
  | nil : TextWritten [] []
  | cons {c : Char} {text written body : List Char} : CharWritten c written →
      TextWritten text body → TextWritten (c :: text) (written ++ body)

/-- Whether the character may be written as it stands. -/
def isPlain (c : Char) : Bool :=
  c ≠ '"' && c ≠ '\\' && !decide (c < ' ')

theorem textWritten_plain {s : List Char} (h : s.all isPlain = true) : TextWritten s s := by
  induction s with
  | nil => exact .nil
  | cons c s ih =>
    simp only [List.all_cons, isPlain, Bool.and_eq_true, decide_eq_true_eq, Bool.not_eq_true',
      decide_eq_false_iff_not] at h
    obtain ⟨⟨⟨hquote, hbackslash⟩, hcontrol⟩, hs⟩ := h
    exact .cons (.plain hquote hbackslash hcontrol) (ih hs)

theorem toNat_ranges (c : Char) :
    c.toNat < 0xD800 ∨ 0xDFFF < c.toNat ∧ c.toNat < 0x110000 :=
  c.valid

/-- A character is no half of a pair, so it may be its own code unit. -/
theorem means_unit {c : Char} {parts : List StringPart} {text : List Char} (h : Means parts text) :
    Means (.unit c.toNat :: parts) (c :: text) := by
  have hranges := toNat_ranges c
  have hunit := Means.unit (n := c.toNat) (by omega) h
  rwa [Char.ofNat_toNat] at hunit

/-- The halves of a character's pair join to that character. -/
theorem means_pair {c : Char} {parts : List StringPart} {text : List Char}
    (hc : 0x10000 ≤ c.toNat) (h : Means parts text) :
    Means (.unit (0xD800 + (c.toNat - 0x10000) / 0x400) ::
      .unit (0xDC00 + (c.toNat - 0x10000) % 0x400) :: parts) (c :: text) := by
  have hranges := toNat_ranges c
  have hpair := Means.pair (n := 0xD800 + (c.toNat - 0x10000) / 0x400)
    (m := 0xDC00 + (c.toNat - 0x10000) % 0x400) (by omega) (by omega) h
  have hvalue : 0x10000 + (0xD800 + (c.toNat - 0x10000) / 0x400 - 0xD800) * 0x400 +
      (0xDC00 + (c.toNat - 0x10000) % 0x400 - 0xDC00) = c.toNat := by
    omega
  rwa [hvalue, Char.ofNat_toNat] at hpair

/-- **A text that is written character by character is a string that says the text.** -/
theorem TextWritten.parts {text body : List Char} (h : TextWritten text body) :
    ∃ parts, PartsWritten parts body ∧ Means parts text := by
  induction h with
  | nil => exact ⟨[], .nil, .nil⟩
  | @cons c text written body hchar _ ih =>
    obtain ⟨parts, hwritten, hmeans⟩ := ih
    cases hchar with
    | plain hquote hbackslash hcontrol =>
      exact ⟨_, .cons (.plain hquote hbackslash hcontrol) hwritten, .char hmeans⟩
    | short hshort => exact ⟨_, .cons (.short hshort) hwritten, .char hmeans⟩
    | unit hunit => exact ⟨_, .cons (.unit hunit) hwritten, means_unit hmeans⟩
    | pair hc hhigh hlow =>
      rw [List.append_assoc]
      exact ⟨_, .cons (.unit hhigh) (.cons (.unit hlow) hwritten), means_pair hc hmeans⟩

end WordSieve.Json
