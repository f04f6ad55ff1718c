import WordSieve.Proofs.Json.Numbers
import WordSieve.Proofs.Json.Strings

/-!
# Texts made of tokens

`Spelling` says which texts are made of given tokens: each token written in one of its ways, with
spaces anywhere between them. The tokens that `lex` finds spell the text, as long as none of them is
broken, and no other tokens do. So what is read from the tokens is read from the text, and nothing
of the text is passed over but spaces.
-/

set_option autoImplicit false

namespace WordSieve.Json

/-! ## Spelling -/

/-- The ways to write a token. -/
inductive Token.Written : Token → List Char → Prop where
  | openBrace : Written .openBrace ['{']
  | closeBrace : Written .closeBrace ['}']
  | openBracket : Written .openBracket ['[']
  | closeBracket : Written .closeBracket [']']
  | comma : Written .comma [',']
  | colon : Written .colon [':']
  | string {parts : List StringPart} {body : List Char} : PartsWritten parts body →
      Written (.string parts none) ('"' :: (body ++ ['"']))
  | number {inRange : Bool} {s : List Char} : Number inRange s → Written (.number (.whole inRange)) s
  | null : Written (.word none) ['n', 'u', 'l', 'l']
  | true : Written (.word none) ['t', 'r', 'u', 'e']
  | false : Written (.word none) ['f', 'a', 'l', 's', 'e']

/-- Whether the token is a number. -/
def Token.isNumber : Token → Bool
  | .number _ => true
  | .openBrace | .closeBrace | .openBracket | .closeBracket | .comma | .colon | .string _ _
  | .word _ | .stray => false

/-- The text is made of the tokens, with nothing but spaces around them. A digit behind a number
would belong to it. -/
inductive Spelling : List Token → List Char → Prop where
  | nil : Spelling [] []
  | space {c : Char} {tokens : List Token} {s : List Char} : isSpace c = true →
      Spelling tokens s → Spelling tokens (c :: s)
  | token {t : Token} {tokens : List Token} {written s : List Char} : t.Written written →
      (t.isNumber = true → NoDigit s) → Spelling tokens s → Spelling (t :: tokens) (written ++ s)

/-- Whether the token does not break off. -/
def Token.isWhole : Token → Bool
  | .string _ fault => fault.isNone
  | .number (.whole _) => true
  | .number .cutOff | .number .malformed => false
  | .word fault => fault.isNone
  | .openBrace | .closeBrace | .openBracket | .closeBracket | .comma | .colon => true
  | .stray => false

/-! ## One token -/

variable {c : Char} {rest behind written : List Char} {t : Token}

/-- A digit starts no other token than a number. -/
theorem starts_number (h : c = '-' ∨ isDigit c = true) :
    isSpace c = false ∧ punctuation? c = none ∧ wordTail? c = none ∧ c ≠ '"' := by
  have hne : ∀ d, d ≠ '-' → isDigit d = false → c ≠ d := by
    intro d hminus hdigit heq
    subst heq
    rcases h with h | h
    · exact hminus h
    · exact absurd (h.symm.trans hdigit) Bool.noConfusion
  refine ⟨?_, ?_, ?_, hne _ (by decide) (by decide)⟩
  · simp [isSpace, hne ' ' (by decide) (by decide), hne '\n' (by decide) (by decide),
      hne '\t' (by decide) (by decide), hne '\r' (by decide) (by decide)]
  · unfold punctuation?
    split
    · exact absurd rfl (hne '{' (by decide) (by decide))
    · exact absurd rfl (hne '}' (by decide) (by decide))
    · exact absurd rfl (hne '[' (by decide) (by decide))
    · exact absurd rfl (hne ']' (by decide) (by decide))
    · exact absurd rfl (hne ',' (by decide) (by decide))
    · exact absurd rfl (hne ':' (by decide) (by decide))
    · rfl
  · unfold wordTail?
    split
    · exact absurd rfl (hne 'n' (by decide) (by decide))
    · exact absurd rfl (hne 't' (by decide) (by decide))
    · exact absurd rfl (hne 'f' (by decide) (by decide))
    · rfl

theorem firstToken_number {inRange : Bool} (hc : c = '-' ∨ isDigit c = true)
    (h : cutNumber c rest = { ending := .whole inRange, rest := behind }) :
    firstToken c rest = (.number (.whole inRange), some behind) := by
  obtain ⟨-, hpunctuation, hword, hquote⟩ := starts_number hc
  rw [firstToken, hpunctuation]
  simp only [hword, if_neg hquote, if_pos hc, h]

/-- A token is cut off as it was written. -/
theorem firstToken_written (h : t.Written written) (hnumber : t.isNumber = true → Ends behind) :
    ∃ c rest, written = c :: rest ∧ isSpace c = false ∧
      firstToken c (rest ++ behind) = (t, some behind) := by
  cases h with
  | openBrace => exact ⟨_, _, rfl, rfl, rfl⟩
  | closeBrace => exact ⟨_, _, rfl, rfl, rfl⟩
  | openBracket => exact ⟨_, _, rfl, rfl, rfl⟩
  | closeBracket => exact ⟨_, _, rfl, rfl, rfl⟩
  | comma => exact ⟨_, _, rfl, rfl, rfl⟩
  | colon => exact ⟨_, _, rfl, rfl, rfl⟩
  | null => exact ⟨_, _, rfl, rfl, rfl⟩
  | true => exact ⟨_, _, rfl, rfl, rfl⟩
  | false => exact ⟨_, _, rfl, rfl, rfl⟩
  | @string parts body hparts =>
    have hcut := cutString_written hparts behind
    refine ⟨'"', body ++ ['"'], rfl, rfl, ?_⟩
    rw [List.append_assoc, List.singleton_append]
    show (Token.string (cutString (body ++ '"' :: behind)).parts _, _) = _
    rw [hcut]
    rfl
  | number h =>
    obtain ⟨first, rest, rfl, hfirst, hcut⟩ := cutNumber_written h (hnumber rfl)
    exact ⟨first, rest, rfl, (starts_number hfirst).1, firstToken_number hfirst hcut⟩

theorem wordFault_eq_none {letters s : List Char} (h : wordFault letters s = none) :
    s = letters ++ s.drop letters.length := by
  fun_induction wordFault letters s with
  | case1 s => rfl
  | case2 => cases h
  | case3 letters c s ih => exact congrArg (c :: ·) (ih h)
  | case4 => cases h

/-- What is cut off as a word is one of the three words. -/
theorem written_word {letters : List Char} (hletters : wordTail? c = some letters)
    (h : wordFault letters rest = none) :
    ∃ written, (Token.word none).Written written ∧
      c :: rest = written ++ rest.drop letters.length := by
  have hrest := congrArg (c :: ·) (wordFault_eq_none h)
  unfold wordTail? at hletters
  split at hletters
  · obtain rfl := Option.some.inj hletters
    exact ⟨_, .null, hrest⟩
  · obtain rfl := Option.some.inj hletters
    exact ⟨_, .true, hrest⟩
  · obtain rfl := Option.some.inj hletters
    exact ⟨_, .false, hrest⟩
  · cases hletters

theorem written_punctuation (h : punctuation? c = some t) :
    t.Written [c] ∧ t.isNumber = false := by
  unfold punctuation? at h
  split at h
  · obtain rfl := Option.some.inj h
    exact ⟨.openBrace, rfl⟩
  · obtain rfl := Option.some.inj h
    exact ⟨.closeBrace, rfl⟩
  · obtain rfl := Option.some.inj h
    exact ⟨.openBracket, rfl⟩
  · obtain rfl := Option.some.inj h
    exact ⟨.closeBracket, rfl⟩
  · obtain rfl := Option.some.inj h
    exact ⟨.comma, rfl⟩
  · obtain rfl := Option.some.inj h
    exact ⟨.colon, rfl⟩
  · cases h

/-- All that the cut of a token can come to: the token as it was written and what stands behind it,
or a token that breaks off. -/
theorem firstToken_cases (c : Char) (rest : List Char) :
    (∃ written behind, (firstToken c rest).1.Written written ∧
      ((firstToken c rest).1.isNumber = true → NoDigit behind) ∧
      (firstToken c rest).2 = some behind ∧ c :: rest = written ++ behind) ∨
    (firstToken c rest).1.isWhole = false ∧ (firstToken c rest).2 = none := by
  unfold firstToken
  cases hpunctuation : punctuation? c with
  | some t =>
    obtain ⟨hwritten, hnumber⟩ := written_punctuation hpunctuation
    refine .inl ⟨[c], rest, hwritten, fun h => ?_, rfl, rfl⟩
    exact absurd (h.symm.trans hnumber) Bool.noConfusion
  | none =>
    dsimp only
    cases hword : wordTail? c with
    | some letters =>
      dsimp only
      cases hfault : wordFault letters rest with
      | none =>
        obtain ⟨written, hwritten, htext⟩ := written_word hword hfault
        exact .inl ⟨written, _, hwritten, fun h => absurd h Bool.false_ne_true, rfl, htext⟩
      | some fault => exact .inr ⟨rfl, rfl⟩
    | none =>
      dsimp only
      by_cases hquote : c = '"'
      · rw [if_pos hquote]
        dsimp only
        cases hfault : (cutString rest).fault with
        | none =>
          obtain ⟨body, hbody, htext⟩ := partsWritten_cutString hfault
          refine .inl ⟨_, (cutString rest).rest, .string hbody,
            fun h => absurd h Bool.false_ne_true, rfl, ?_⟩
          rw [List.cons_append, List.append_assoc, List.singleton_append, ← htext, hquote]
        | some fault => exact .inr ⟨rfl, rfl⟩
      · rw [if_neg hquote]
        by_cases hnumber : c = '-' ∨ isDigit c = true
        · rw [if_pos hnumber]
          cases hending : (cutNumber c rest).ending with
          | whole inRange =>
            obtain ⟨written, hwritten, htext, hnone⟩ := cutNumber_sound hending
            exact .inl ⟨written, _, .number hwritten, fun _ => hnone, rfl, htext⟩
          | cutOff => exact .inr ⟨rfl, rfl⟩
          | malformed => exact .inr ⟨rfl, rfl⟩
        · rw [if_neg hnumber]
          exact .inr ⟨rfl, rfl⟩

/-! ## All tokens -/

variable {tokens : List Token} {s : List Char}

theorem lex_space (h : isSpace c = true) (rest : List Char) : lex (c :: rest) = lex rest := by
  rw [lex, if_pos h]

theorem lex_token (hspace : isSpace c = false) (h : firstToken c rest = (t, some behind)) :
    lex (c :: rest) = { token := t, rest } :: lex behind := by
  rw [lex, if_neg (Bool.eq_false_iff.mp hspace)]
  split
  · next behind' hbehind =>
    rw [h] at hbehind ⊢
    obtain rfl := Option.some.inj hbehind
    rfl
  · next hnone =>
    rw [h] at hnone
    cases hnone

/-- A token starts with no character that carries a number on, unless it is a digit. -/
theorem head_written (h : t.Written written) (hc : c ∈ (written ++ s).head?) :
    c ≠ '.' ∧ c ≠ 'e' ∧ c ≠ 'E' := by
  have hends : t.isNumber = true → Ends [] := fun _ c hc => absurd hc (by simp)
  obtain ⟨first, rest, rfl, -, hfirst⟩ := firstToken_written h hends
  obtain rfl := Option.some.inj hc
  refine ⟨?_, ?_, ?_⟩ <;>
    · rintro rfl
      have hstray : none = some [] := congrArg Prod.snd hfirst
      cases hstray

/-- A text made of tokens carries no number on unless it starts with a digit. -/
theorem Spelling.ends (h : Spelling tokens s) (hnone : NoDigit s) : Ends s := by
  intro c hc
  refine ⟨hnone c hc, ?_⟩
  cases h with
  | nil => cases hc
  | space hspace _ =>
    obtain rfl := Option.some.inj hc
    refine ⟨?_, ?_, ?_⟩ <;>
      · rintro rfl
        exact absurd hspace (by decide)
  | token hwritten _ _ => exact head_written hwritten hc

/-- **The tokens of a text are those that spell it.** -/
theorem lex_spelling (h : Spelling tokens s) : (lex s).map (·.token) = tokens := by
  induction h with
  | nil => rw [lex, List.map_nil]
  | space hspace _ ih => rwa [lex_space hspace]
  | token hwritten hnumber hrest ih =>
    have hends := fun h => hrest.ends (hnumber h)
    obtain ⟨c, rest, rfl, hspace, hfirst⟩ := firstToken_written hwritten hends
    rw [List.cons_append, lex_token hspace hfirst, List.map_cons, ih]

/-- Tokens that do not break off spell the text that they were found in. -/
theorem spelling_lex (h : ∀ l ∈ lex s, l.token.isWhole = true) :
    Spelling ((lex s).map (·.token)) s := by
  fun_induction lex s with
  | case1 => exact .nil
  | case2 c rest hspace ih => exact .space hspace (ih h)
  | case3 c rest _ behind hbehind ih =>
    have hrest := ih fun l hl => h l (List.mem_cons_of_mem _ hl)
    rcases firstToken_cases c rest with ⟨written, behind', hwritten, hnumber, hsome, htext⟩ | ⟨-, hnone⟩
    · obtain rfl := Option.some.inj (hbehind.symm.trans hsome)
      rw [htext]
      exact .token hwritten hnumber hrest
    · rw [hbehind] at hnone
      cases hnone
  | case4 c rest _ hnone =>
    rcases firstToken_cases c rest with ⟨written, behind, -, -, hsome, -⟩ | ⟨hbroken, -⟩
    · rw [hnone] at hsome
      cases hsome
    · have hwhole := h _ List.mem_cons_self
      exact absurd (hwhole.symm.trans hbroken) Bool.noConfusion

end WordSieve.Json
