import WordSieve.Proofs.Json.Tokens
import WordSieve.WordList.Json.Document

/-!
# Values that are skipped

A value that nobody asks for is skipped by an automaton with a stack, and any depth of nesting is
the same to it. `IsValue` says what a value is without a stack. The two meet in `IsValue.skips` and
`value_of_skip`: in front of a value the automaton comes out behind it, and it never comes out
anywhere else.

Lists and objects are both items with commas between them, here and in a word list itself, so what a
comma does is settled once, for whatever the items are and whatever is gathered from them
(`Gather`).
-/

set_option autoImplicit false

namespace WordSieve.Json

/-! ## Runs over tokens -/

/-- The tokens lead from the state to the end of a document with these entries. -/
def State.Leads (s : State) (entries : Entries) : List Token → Prop
  | [] => s = .done entries
  | t :: rest => ∃ s', s.step t = .ok s' ∧ s'.Leads entries rest

variable {s : State} {entries : Entries} {tokens : List Token}

theorem leads_cons_iff {s' : State} {t : Token} (h : s.step t = .ok s') :
    s.Leads entries (t :: tokens) ↔ s'.Leads entries tokens := by
  constructor
  · rintro ⟨s'', hstep, hrest⟩
    obtain rfl := Except.ok.inj (h.symm.trans hstep)
    exact hrest
  · intro hrest
    exact ⟨s', h, hrest⟩

/-- A state that goes on at one token only. -/
theorem leads_only_iff {s' : State} {t : Token} (hdone : s ≠ .done entries)
    (h : s.step t = .ok s') (honly : ∀ t' s'', s.step t' = .ok s'' → t' = t) :
    s.Leads entries tokens ↔ ∃ rest, tokens = t :: rest ∧ s'.Leads entries rest := by
  constructor
  · intro hleads
    cases tokens with
    | nil => exact absurd hleads hdone
    | cons t' rest =>
      obtain ⟨s'', hstep, hrest⟩ := hleads
      obtain rfl := honly t' s'' hstep
      obtain rfl := Except.ok.inj (h.symm.trans hstep)
      exact ⟨rest, rfl, hrest⟩
  · rintro ⟨rest, rfl, hrest⟩
    exact ⟨s', h, hrest⟩

theorem finish_eq_ok_iff : s.finish = .ok entries ↔ s = .done entries := by
  cases s <;> simp [State.finish]

theorem run_eq_ok_iff {ls : List Lexeme} :
    s.run ls = .ok entries ↔ s.Leads entries (ls.map (·.token)) := by
  induction ls generalizing s with
  | nil =>
    refine Iff.trans ?_ finish_eq_ok_iff
    unfold State.run
    cases s.finish with
    | ok found =>
      show (Except.ok found : Except Fault Entries) = _ ↔ _
      rw [Except.ok.injEq, Except.ok.injEq]
    | error cause =>
      constructor
      · intro h
        cases h
      · intro h
        cases h
  | cons l rest ih =>
    unfold State.run
    show _ ↔ ∃ s', s.step l.token = .ok s' ∧ s'.Leads entries (rest.map (·.token))
    cases hstep : s.step l.token with
    | error cause => simp
    | ok s' => simp [ih]

theorem isWhole_of_readKey {found : Option Entries} {parts : List StringPart}
    {fault : Option Cause} (h : readKey found parts fault = .ok s) :
    (Token.string parts fault).isWhole = true := by
  unfold readKey at h
  cases htext : stringText fault parts with
  | error cause =>
    rw [htext] at h
    cases h
  | ok text =>
    obtain ⟨rfl, -⟩ := stringText_eq_ok_iff.mp htext
    rfl

theorem isWhole_of_readEntry {inner : Open} {read : Entries} {t : Token}
    (h : readEntry inner read t = .ok s) : t.isWhole = true := by
  unfold readEntry at h
  split at h
  · next parts fault =>
    cases htext : stringText fault parts with
    | error cause =>
      rw [htext] at h
      cases h
    | ok text =>
      obtain ⟨rfl, -⟩ := stringText_eq_ok_iff.mp htext
      rfl
  · cases h

theorem isWhole_of_skipValue {found : Option Entries} {stack : List Open} {t : Token}
    (h : skipValue found stack t = .ok s) : t.isWhole = true := by
  cases t with
  | string parts fault =>
    cases fault with
    | none => rfl
    | some cause => cases h
  | number ending =>
    cases ending with
    | whole inRange => rfl
    | cutOff | malformed => cases h
  | word fault =>
    cases fault with
    | none => rfl
    | some cause => cases h
  | stray => cases h
  | openBrace | closeBrace | openBracket | closeBracket | comma | colon => rfl

theorem isWhole_of_skipKey {found : Option Entries} {stack : List Open} {t : Token}
    (h : skipKey found stack t = .ok s) : t.isWhole = true := by
  cases t with
  | string parts fault =>
    cases fault with
    | none => rfl
    | some cause => cases h
  | number _ | word _ | stray => cases h
  | openBrace | closeBrace | openBracket | closeBracket | comma | colon => rfl

theorem isWhole_of_ite {t c : Token} {r r' : Except Cause State} (hc : c.isWhole = true)
    (hother : r' = .ok s → t.isWhole = true) (h : (if t = c then r else r') = .ok s) :
    t.isWhole = true := by
  by_cases ht : t = c
  · rw [ht]
    exact hc
  · exact hother ((if_neg ht).symm.trans h)

theorem isWhole_of_skipToken {found : Option Entries} {stack : List Open} {want : Want}
    {t : Token} (h : skipToken found stack want t = .ok s) : t.isWhole = true := by
  have hrefused {cause : Cause} (h : .error cause = Except.ok s) : t.isWhole = true := by
    cases h
  cases want with
  | value => exact isWhole_of_skipValue h
  | valueOrEnd => exact isWhole_of_ite rfl isWhole_of_skipValue h
  | key => exact isWhole_of_skipKey h
  | keyOrEnd => exact isWhole_of_ite rfl isWhole_of_skipKey h
  | colon => exact isWhole_of_ite rfl hrefused h
  | next =>
    unfold skipToken at h
    dsimp only at h
    split at h
    · exact isWhole_of_ite rfl (isWhole_of_ite rfl hrefused) h
    · exact isWhole_of_ite rfl (isWhole_of_ite rfl hrefused) h

/-- A token that breaks off is taken nowhere. -/
theorem isWhole_of_step {s s' : State} {t : Token} (h : s.step t = .ok s') : t.isWhole = true := by
  revert h
  -- A state names the tokens that it takes, or hands the token on, or refuses it.
  fun_cases State.step s t <;> intro h <;>
    first
      | rfl
      | cases h
      | exact isWhole_of_readKey h
      | exact isWhole_of_readEntry h
      | exact isWhole_of_skipToken h

theorem isWhole_of_leads (h : s.Leads entries tokens) : ∀ t ∈ tokens, t.isWhole = true := by
  induction tokens generalizing s with
  | nil => exact fun t ht => absurd ht List.not_mem_nil
  | cons t rest ih =>
    obtain ⟨s', hstep, hrest⟩ := h
    exact List.forall_mem_cons.mpr ⟨isWhole_of_step hstep, ih hrest⟩

/-- **Reading a text is reading the tokens that it is made of.** -/
theorem readEntries_eq_ok_iff {content : List Char} :
    readEntries content = .ok entries ↔
      ∃ tokens, Spelling tokens content ∧ State.start.Leads entries tokens := by
  rw [readEntries, run_eq_ok_iff]
  constructor
  · intro h
    refine ⟨_, spelling_lex fun l hl => ?_, h⟩
    exact isWhole_of_leads h _ (List.mem_map_of_mem hl)
  · rintro ⟨tokens, hspelling, h⟩
    rwa [lex_spelling hspelling]

/-! ## Items with commas between them -/

/-- The items with a comma between each two. -/
def commas (items : List (List Token)) : List Token :=
  [Token.comma].intercalate items

/-- Items one behind the other, at least one: `P x item y` says that what was `x` before the item is
`y` behind it. -/
inductive Gather {α : Type} (P : α → List Token → α → Prop) : α → List (List Token) → α → Prop where
  | last {x y : α} {item : List Token} : P x item y → Gather P x [item] y
  | more {x y z : α} {item : List Token} {items : List (List Token)} : P x item y →
      Gather P y items z → Gather P x (item :: items) z

section

variable {α : Type} {P : α → List Token → α → Prop} {x y : α} {items : List (List Token)}

theorem Gather.ne_nil (h : Gather P x items y) : items ≠ [] := by
  cases h with
  | last _ => exact List.cons_ne_nil _ _
  | more _ _ => exact List.cons_ne_nil _ _

theorem commas_singleton (item : List Token) : commas [item] = item :=
  List.intercalate_singleton

theorem commas_cons (item : List Token) (h : items ≠ []) :
    commas (item :: items) = item ++ .comma :: commas items := by
  obtain ⟨first, rest, rfl⟩ := List.exists_cons_of_ne_nil h
  rw [commas, List.intercalate_cons_cons, List.append_assoc]
  rfl

theorem Gather.forall_item {Q : List Token → Prop} (hQ : ∀ x item y, P x item y → Q item)
    (h : Gather P x items y) : ∀ item ∈ items, Q item := by
  induction h with
  | last hitem => exact List.forall_mem_singleton.mpr (hQ _ _ _ hitem)
  | more hitem _ ih => exact List.forall_mem_cons.mpr ⟨hQ _ _ _ hitem, ih⟩

/-- Items that change nothing. -/
theorem gather_of_forall {Q : List Token → Prop} (hQ : ∀ item, Q item → P x item x)
    (hne : items ≠ []) (hall : ∀ item ∈ items, Q item) : Gather P x items x := by
  induction items with
  | nil => exact absurd rfl hne
  | cons item rest ih =>
    obtain ⟨hitem, hrest⟩ := List.forall_mem_cons.mp hall
    by_cases hnil : rest = []
    · rw [hnil]
      exact .last (hQ item hitem)
    · exact .more (hQ item hitem) (ih hnil hrest)

/-- Behind an item, in a state `next y`, either `close` ends the items and leaves `E`, or a comma
leads to the next item, in a state `item y`. -/
def Separated (entries : Entries) (item next : α → State) (close : Token)
    (E : α → List Token → Prop) : Prop :=
  ∀ y tokens, (next y).Leads entries tokens ↔
    (∃ rest, tokens = close :: rest ∧ E y rest) ∨
      ∃ rest, tokens = .comma :: rest ∧ (item y).Leads entries rest

variable {item next : α → State} {close : Token} {E : α → List Token → Prop}

theorem separated_of_step (hdone : ∀ y, next y ≠ .done entries)
    (hclose : ∀ y rest, (next y).Leads entries (close :: rest) ↔ E y rest)
    (hcomma : ∀ y, (next y).step .comma = .ok (item y))
    (hother : ∀ y t s', (next y).step t = .ok s' → t = close ∨ t = .comma) :
    Separated entries item next close E := by
  intro y tokens
  constructor
  · intro h
    cases tokens with
    | nil => exact absurd h (hdone y)
    | cons t rest =>
      obtain ⟨s', ht, -⟩ := id h
      rcases hother y t s' ht with rfl | rfl
      · exact .inl ⟨rest, rfl, (hclose y rest).mp h⟩
      · exact .inr ⟨rest, rfl, (leads_cons_iff (hcomma y)).mp h⟩
  · rintro (⟨rest, rfl, h⟩ | ⟨rest, rfl, h⟩)
    · exact (hclose y rest).mpr h
    · exact (leads_cons_iff (hcomma y)).mpr h

/-- Just behind the opening of a list or an object it may end at once, or go on as it does in front
of any item. -/
theorem first_or_end {first one behind : State} (hfirst : first ≠ .done entries)
    (hone : one ≠ .done entries) (hclose : first.step close = .ok behind)
    (hopen : ∀ s', one.step close ≠ .ok s') (hsame : ∀ t, t ≠ close → first.step t = one.step t) :
    first.Leads entries tokens ↔
      (∃ rest, tokens = close :: rest ∧ behind.Leads entries rest) ∨ one.Leads entries tokens := by
  cases tokens with
  | nil =>
    constructor
    · intro h
      exact absurd h hfirst
    · rintro (⟨rest, hnil, -⟩ | h)
      · cases hnil
      · exact absurd h hone
  | cons t rest =>
    by_cases ht : t = close
    · subst ht
      constructor
      · rintro ⟨s', hs', h⟩
        obtain rfl := Except.ok.inj (hclose.symm.trans hs')
        exact .inl ⟨rest, rfl, h⟩
      · rintro (⟨rest', heq, h⟩ | ⟨s', hs', -⟩)
        · obtain ⟨-, rfl⟩ := List.cons.inj heq
          exact ⟨_, hclose, h⟩
        · exact absurd hs' (hopen s')
    · show (∃ s', first.step t = .ok s' ∧ _) ↔ _ ∨ ∃ s', one.step t = .ok s' ∧ _
      rw [hsame t ht]
      constructor
      · exact .inr
      · rintro (⟨rest', heq, -⟩ | h)
        · exact absurd (List.cons.inj heq).1 ht
        · exact h

theorem leads_of_gather (hnext : Separated entries item next close E)
    (hitem : ∀ x i y rest, P x i y → (next y).Leads entries rest → (item x).Leads entries (i ++ rest))
    (h : Gather P x items y) {rest : List Token} (hrest : E y rest) :
    (item x).Leads entries (commas items ++ close :: rest) := by
  induction h with
  | last hP =>
    rw [commas_singleton]
    exact hitem _ _ _ _ hP ((hnext _ _).mpr (.inl ⟨rest, rfl, hrest⟩))
  | more hP hmore ih =>
    rw [commas_cons _ hmore.ne_nil, List.append_assoc]
    exact hitem _ _ _ _ hP ((hnext _ _).mpr (.inr ⟨_, rfl, ih hrest⟩))

theorem gather_of_leads (hnext : Separated entries item next close E) (x : α) (tokens : List Token)
    (hitem : ∀ x us, us.length ≤ tokens.length → (item x).Leads entries us →
      ∃ i y rest, P x i y ∧ us = i ++ rest ∧ (next y).Leads entries rest)
    (h : (item x).Leads entries tokens) :
    ∃ items y rest, Gather P x items y ∧ tokens = commas items ++ close :: rest ∧ E y rest := by
  obtain ⟨i, y, behind, hP, htokens, hbehind⟩ := hitem x tokens (Nat.le_refl _) h
  rcases (hnext y behind).mp hbehind with ⟨rest, hclose, hE⟩ | ⟨rest, hcomma, hleads⟩
  · refine ⟨[i], y, rest, .last hP, ?_, hE⟩
    rw [commas_singleton, htokens, hclose]
  · have hshorter : rest.length < tokens.length := by
      rw [htokens, hcomma, List.length_append, List.length_cons]
      omega
    obtain ⟨items, z, last, hitems, hrest, hE⟩ := gather_of_leads hnext y rest
      (fun x us hus => hitem x us (Nat.le_trans hus (Nat.le_of_lt hshorter))) hleads
    refine ⟨i :: items, z, last, .more hP hitems, ?_, hE⟩
    rw [commas_cons _ hitems.ne_nil, htokens, hcomma, hrest, List.append_assoc]
    rfl
termination_by tokens.length

end

/-! ## Values -/

/-- The tokens of a list of values. -/
def listOf (items : List (List Token)) : List Token :=
  .openBracket :: (commas items ++ [.closeBracket])

/-- A member of an object. -/
structure Member where
  key : List StringPart
  value : List Token

def Member.toTokens (m : Member) : List Token :=
  .string m.key none :: .colon :: m.value

/-- The tokens of an object. -/
def objectOf (members : List Member) : List Token :=
  .openBrace :: (commas (members.map Member.toTokens) ++ [.closeBrace])

theorem listOf_append (items : List (List Token)) (rest : List Token) :
    listOf items ++ rest = .openBracket :: (commas items ++ .closeBracket :: rest) := by
  simp [listOf]

theorem objectOf_append (members : List Member) (rest : List Token) :
    objectOf members ++ rest =
      .openBrace :: (commas (members.map Member.toTokens) ++ .closeBrace :: rest) := by
  simp [objectOf]

theorem gather_members {α : Type} {P : α → List Token → α → Prop} {x : α} {Q : Member → Prop}
    {members : List Member} (hQ : ∀ m, Q m → P x m.toTokens x) (hne : members ≠ [])
    (hall : ∀ m ∈ members, Q m) : Gather P x (members.map Member.toTokens) x := by
  refine gather_of_forall (Q := fun item => ∃ m : Member, item = m.toTokens ∧ Q m) ?_ ?_ ?_
  · rintro _ ⟨m, rfl, hm⟩
    exact hQ m hm
  · exact fun hmap => hne (List.map_eq_nil_iff.mp hmap)
  · intro item hitem
    obtain ⟨m, hm, rfl⟩ := List.mem_map.mp hitem
    exact ⟨m, rfl, hall m hm⟩

/-- The tokens are those of a value. -/
inductive IsValue : List Token → Prop where
  | word : IsValue [.word none]
  | number (inRange : Bool) : IsValue [.number (.whole inRange)]
  | string (parts : List StringPart) : IsValue [.string parts none]
  | list {items : List (List Token)} : (∀ item ∈ items, IsValue item) → IsValue (listOf items)
  | object {members : List Member} : (∀ m ∈ members, IsValue m.value) → IsValue (objectOf members)

/-! ## Skipping -/

variable {found : Option Entries} {stack : List Open}

/-- What the first token of a skipped value does. -/
theorem skipValue_cases {t : Token} (h : skipValue found stack t = .ok s) :
    t = .openBracket ∧ s = .skip found (.list :: stack) .valueOrEnd ∨
      t = .openBrace ∧ s = .skip found (.object :: stack) .keyOrEnd ∨
      IsValue [t] ∧ s = .afterSkipped found stack := by
  unfold skipValue at h
  split at h
  · exact .inl ⟨rfl, (Except.ok.inj h).symm⟩
  · exact .inr (.inl ⟨rfl, (Except.ok.inj h).symm⟩)
  · exact .inr (.inr ⟨.string _, (Except.ok.inj h).symm⟩)
  · cases h
  · exact .inr (.inr ⟨.number _, (Except.ok.inj h).symm⟩)
  · cases h
  · exact .inr (.inr ⟨.word, (Except.ok.inj h).symm⟩)
  all_goals cases h

theorem valueOrEnd_iff :
    (State.skip found (.list :: stack) .valueOrEnd).Leads entries tokens ↔
      (∃ rest, tokens = .closeBracket :: rest ∧
        (State.afterSkipped found stack).Leads entries rest) ∨
      (State.skip found (.list :: stack) .value).Leads entries tokens :=
  first_or_end State.noConfusion State.noConfusion rfl nofun
    fun _ ht => if_neg ht

theorem keyOrEnd_iff :
    (State.skip found (.object :: stack) .keyOrEnd).Leads entries tokens ↔
      (∃ rest, tokens = .closeBrace :: rest ∧
        (State.afterSkipped found stack).Leads entries rest) ∨
      (State.skip found (.object :: stack) .key).Leads entries tokens :=
  first_or_end State.noConfusion State.noConfusion rfl nofun
    fun _ ht => if_neg ht

theorem separated_list : Separated entries (fun _ : Unit => .skip found (.list :: stack) .value)
    (fun _ => .skip found (.list :: stack) .next) .closeBracket
    fun _ rest => (State.afterSkipped found stack).Leads entries rest := by
  apply separated_of_step
  · exact fun _ => State.noConfusion
  · exact fun _ _ => leads_cons_iff rfl
  · exact fun _ => rfl
  · intro _ t s' h
    cases t <;> simp [State.step, skipToken] at h ⊢

theorem separated_object : Separated entries (fun _ : Unit => .skip found (.object :: stack) .key)
    (fun _ => .skip found (.object :: stack) .next) .closeBrace
    fun _ rest => (State.afterSkipped found stack).Leads entries rest := by
  apply separated_of_step
  · exact fun _ => State.noConfusion
  · exact fun _ _ => leads_cons_iff rfl
  · exact fun _ => rfl
  · intro _ t s' h
    cases t <;> simp [State.step, skipToken] at h ⊢

theorem key_iff :
    (State.skip found stack .key).Leads entries tokens ↔
      ∃ parts rest, tokens = .string parts none :: .colon :: rest ∧
        (State.skip found stack .value).Leads entries rest := by
  have hcolon : ∀ us, (State.skip found stack .colon).Leads entries us ↔
      ∃ rest, us = .colon :: rest ∧ (State.skip found stack .value).Leads entries rest := by
    intro us
    apply leads_only_iff State.noConfusion rfl
    intro t s' hstep
    cases t <;> simp [State.step, skipToken] at hstep ⊢
  constructor
  · intro h
    cases tokens with
    | nil => cases h
    | cons t us =>
      obtain ⟨s', hkey, h⟩ := h
      unfold State.step skipToken skipKey at hkey
      dsimp only at hkey
      split at hkey
      · next parts =>
        obtain rfl := Except.ok.inj hkey
        obtain ⟨rest, rfl, hrest⟩ := (hcolon us).mp h
        exact ⟨parts, rest, rfl, hrest⟩
      · cases hkey
      · cases hkey
  · rintro ⟨parts, rest, rfl, h⟩
    exact ⟨_, rfl, (hcolon _).mpr ⟨rest, rfl, h⟩⟩

/-- The automaton goes past the value, whatever is open around it. -/
def Skips (v : List Token) : Prop :=
  ∀ found stack entries rest, (State.afterSkipped found stack).Leads entries rest →
    (State.skip found stack .value).Leads entries (v ++ rest)

theorem skips_list {items : List (List Token)} (h : ∀ item ∈ items, Skips item) :
    Skips (listOf items) := by
  intro found stack entries rest hrest
  rw [listOf_append]
  refine ⟨_, rfl, valueOrEnd_iff.mpr ?_⟩
  by_cases hnil : items = []
  · subst hnil
    exact .inl ⟨rest, rfl, hrest⟩
  · have hitems : Gather (fun _ item _ => Skips item) () items () :=
      gather_of_forall (fun _ => id) hnil h
    refine .inr (leads_of_gather separated_list ?_ hitems hrest)
    intro _ item _ behind hitem hbehind
    exact hitem _ _ _ _ hbehind

theorem skips_object {members : List Member} (h : ∀ m ∈ members, Skips m.value) :
    Skips (objectOf members) := by
  intro found stack entries rest hrest
  rw [objectOf_append]
  refine ⟨_, rfl, keyOrEnd_iff.mpr ?_⟩
  by_cases hnil : members = []
  · subst hnil
    exact .inl ⟨rest, rfl, hrest⟩
  · have hmembers : Gather (fun _ item _ => ∃ m : Member, item = m.toTokens ∧ Skips m.value) ()
        (members.map Member.toTokens) () :=
      gather_members (fun m hm => ⟨m, rfl, hm⟩) hnil h
    refine .inr (leads_of_gather separated_object ?_ hmembers hrest)
    rintro _ _ _ behind ⟨m, rfl, hm⟩ hbehind
    exact key_iff.mpr ⟨m.key, m.value ++ behind, rfl, hm _ _ _ _ hbehind⟩

/-- Every value is skipped. -/
theorem IsValue.skips {v : List Token} (h : IsValue v) : Skips v := by
  induction h with
  | word => exact fun found stack entries rest hrest => ⟨_, rfl, hrest⟩
  | number inRange => exact fun found stack entries rest hrest => ⟨_, rfl, hrest⟩
  | string parts => exact fun found stack entries rest hrest => ⟨_, rfl, hrest⟩
  | list _ ih => exact skips_list ih
  | object _ ih => exact skips_object ih

/-- Tokens of members are the tokens of some members. -/
theorem exists_members {Q : List Token → Prop} {items : List (List Token)}
    (h : ∀ item ∈ items, ∃ m : Member, item = m.toTokens ∧ Q m.value) :
    ∃ members : List Member, items = members.map Member.toTokens ∧ ∀ m ∈ members, Q m.value := by
  induction items with
  | nil => exact ⟨[], rfl, fun m hm => absurd hm List.not_mem_nil⟩
  | cons item rest ih =>
    obtain ⟨⟨m, rfl, hm⟩, hrest⟩ := List.forall_mem_cons.mp h
    obtain ⟨members, rfl, hmembers⟩ := ih hrest
    exact ⟨m :: members, rfl, List.forall_mem_cons.mpr ⟨hm, hmembers⟩⟩

/-- Under this stack, what is skipped of at most so many tokens begins with a value. -/
def SkipsValue (found : Option Entries) (stack : List Open) (entries : Entries) (bound : Nat) : Prop :=
  ∀ us : List Token, us.length ≤ bound → (State.skip found stack .value).Leads entries us →
    ∃ v rest, IsValue v ∧ us = v ++ rest ∧ (State.afterSkipped found stack).Leads entries rest

theorem list_of_skip (hinner : SkipsValue found (.list :: stack) entries tokens.length)
    (h : (State.skip found (.list :: stack) .valueOrEnd).Leads entries tokens) :
    ∃ v rest, IsValue v ∧ .openBracket :: tokens = v ++ rest ∧
      (State.afterSkipped found stack).Leads entries rest := by
  rcases valueOrEnd_iff.mp h with ⟨rest, rfl, hrest⟩ | h
  · exact ⟨listOf [], rest, .list fun item hitem => absurd hitem List.not_mem_nil, rfl, hrest⟩
  · have hitem : ∀ (_ : Unit) (us : List Token), us.length ≤ tokens.length →
        (State.skip found (.list :: stack) .value).Leads entries us →
        ∃ v, ∃ _ : Unit, ∃ rest, IsValue v ∧ us = v ++ rest ∧
          (State.afterSkipped found (.list :: stack)).Leads entries rest := by
      intro _ us hus hleads
      obtain ⟨v, behind, hv, heq, hbehind⟩ := hinner us hus hleads
      exact ⟨v, (), behind, hv, heq, hbehind⟩
    obtain ⟨items, _, rest, hitems, rfl, hrest⟩ :=
      gather_of_leads (P := fun _ item _ => IsValue item) separated_list () tokens hitem h
    exact ⟨listOf items, rest, .list (hitems.forall_item fun _ _ _ => id),
      (listOf_append items rest).symm, hrest⟩

theorem object_of_skip (hinner : SkipsValue found (.object :: stack) entries tokens.length)
    (h : (State.skip found (.object :: stack) .keyOrEnd).Leads entries tokens) :
    ∃ v rest, IsValue v ∧ .openBrace :: tokens = v ++ rest ∧
      (State.afterSkipped found stack).Leads entries rest := by
  rcases keyOrEnd_iff.mp h with ⟨rest, rfl, hrest⟩ | h
  · exact ⟨objectOf [], rest, .object fun m hm => absurd hm List.not_mem_nil, rfl, hrest⟩
  · have hmember : ∀ (_ : Unit) (us : List Token), us.length ≤ tokens.length →
        (State.skip found (.object :: stack) .key).Leads entries us →
        ∃ item, ∃ _ : Unit, ∃ rest, (∃ m : Member, item = m.toTokens ∧ IsValue m.value) ∧
          us = item ++ rest ∧ (State.afterSkipped found (.object :: stack)).Leads entries rest := by
      intro _ us hus hleads
      obtain ⟨parts, behind, rfl, hvalue⟩ := key_iff.mp hleads
      have hbehind : behind.length ≤ tokens.length := by
        simp only [List.length_cons] at hus
        omega
      obtain ⟨v, rest, hv, rfl, hrest⟩ := hinner behind hbehind hvalue
      exact ⟨_, (), rest, ⟨⟨parts, v⟩, rfl, hv⟩, rfl, hrest⟩
    obtain ⟨items, _, rest, hitems, rfl, hrest⟩ :=
      gather_of_leads (P := fun _ item _ => ∃ m : Member, item = m.toTokens ∧ IsValue m.value)
        separated_object () tokens hmember h
    obtain ⟨members, rfl, hmembers⟩ := exists_members (hitems.forall_item fun _ _ _ => id)
    exact ⟨objectOf members, rest, .object hmembers, (objectOf_append members rest).symm, hrest⟩

/-- What is skipped is a value. -/
theorem value_of_skip (found : Option Entries) (stack : List Open) (tokens : List Token)
    (h : (State.skip found stack .value).Leads entries tokens) :
    ∃ v rest, IsValue v ∧ tokens = v ++ rest ∧
      (State.afterSkipped found stack).Leads entries rest := by
  induction hn : tokens.length using Nat.strongRecOn generalizing stack tokens with
  | _ n ih =>
  cases tokens with
  | nil => cases h
  | cons t tokens =>
    -- Every item of a list or an object is shorter than what the list or the object opens.
    have hinner : ∀ stack, SkipsValue found stack entries tokens.length := by
      intro stack us hus hleads
      refine ih us.length ?_ stack us hleads rfl
      rw [← hn, List.length_cons]
      omega
    obtain ⟨s', hstep, h⟩ := h
    rcases skipValue_cases hstep with ⟨rfl, rfl⟩ | ⟨rfl, rfl⟩ | ⟨hvalue, rfl⟩
    · exact list_of_skip (hinner _) h
    · exact object_of_skip (hinner _) h
    · exact ⟨[t], tokens, hvalue, rfl, h⟩

end WordSieve.Json
