import Mathlib.Data.List.Forall2
import WordSieve.Proofs.Json.Values

/-!
# The shape of a word list

A word list is an object with one member that is called `data`, a list of strings. It may have other
members, and what these hold is not looked at. The names are compared after their escapes are read,
so `data` may be written in many ways, and a name that says nothing is no name.

That is one of two shapes that are read. A list of nothing but the list of strings is read as well,
although it is no object and names nothing.
-/

set_option autoImplicit false

namespace WordSieve.Json

/-! ## The shape -/

/-- The tokens of a list of strings that say the entries. -/
def ListsEntries (v : List Token) (entries : Entries) : Prop :=
  ∃ strings, v = listOf (strings.map fun parts => [.string parts none]) ∧
    List.Forall₂ Means strings entries

/-- The name of the member that holds the entries. -/
def dataName : List Char := "data".toList

/-- The member is called `data` and lists the entries. -/
def Member.IsData (m : Member) (entries : Entries) : Prop :=
  Means m.key dataName ∧ ListsEntries m.value entries

/-- The member has another name and any value. -/
def Member.IsOther (m : Member) : Prop :=
  (∃ name, Means m.key name ∧ name ≠ dataName) ∧ IsValue m.value

/-- The tokens of an object in which one member is called `data`, and that one lists the entries. -/
def IsWordList (tokens : List Token) (entries : Entries) : Prop :=
  ∃ before m after, tokens = objectOf (before ++ m :: after) ∧ m.IsData entries ∧
    ∀ other ∈ before ++ after, other.IsOther

/-- The tokens of a list of nothing but a list of strings that say the entries. -/
def IsBareList (tokens : List Token) (entries : Entries) : Prop :=
  ∃ v, tokens = listOf [v] ∧ ListsEntries v entries

/-! ## Entries -/

variable {entries texts : Entries} {tokens : List Token} {inner : Open}

theorem leads_done_iff : (State.done texts).Leads entries tokens ↔ texts = entries ∧ tokens = [] := by
  cases tokens with
  | nil => simp [State.Leads]
  | cons t rest =>
    constructor
    · rintro ⟨s', hstep, -⟩
      cases hstep
    · rintro ⟨-, hnil⟩
      cases hnil

/-- One more entry is read. -/
def EntryRead (read : Entries) (item : List Token) (read' : Entries) : Prop :=
  ∃ parts text, item = [.string parts none] ∧ Means parts text ∧ read' = text :: read

theorem entry_iff {read : Entries} :
    (State.entry inner read).Leads entries tokens ↔
      ∃ item read' rest, EntryRead read item read' ∧ tokens = item ++ rest ∧
        (State.entryNext inner read').Leads entries rest := by
  constructor
  · intro h
    cases tokens with
    | nil => cases h
    | cons t rest =>
      obtain ⟨s', hstep, h⟩ := h
      unfold State.step readEntry at hstep
      cases t with
      | string parts fault =>
        obtain ⟨text, htext, rfl⟩ := map_eq_ok_iff.mp hstep
        obtain ⟨rfl, hmeans⟩ := stringText_eq_ok_iff.mp htext
        exact ⟨_, _, rest, ⟨parts, text, rfl, hmeans, rfl⟩, rfl, h⟩
      | _ => cases hstep
  · rintro ⟨_, _, rest, ⟨parts, text, rfl, hmeans, rfl⟩, rfl, h⟩
    refine ⟨_, ?_, h⟩
    show (stringText none parts).map _ = _
    rw [hmeans.stringText_eq]
    rfl

theorem separated_entries :
    Separated entries (State.entry inner) (State.entryNext inner) .closeBracket
      fun read rest => (State.afterEntries read.reverse inner).Leads entries rest := by
  apply separated_of_step
  · exact fun _ => State.noConfusion
  · exact fun _ _ => leads_cons_iff rfl
  · exact fun _ => rfl
  · intro _ t s' h
    cases t <;> simp [State.step] at h ⊢

theorem strings_of_gather {read read' : Entries} {items : List (List Token)}
    (h : Gather EntryRead read items read') :
    ∃ strings texts, items = strings.map (fun parts => [Token.string parts none]) ∧
      List.Forall₂ Means strings texts ∧ read' = texts.reverse ++ read := by
  induction h with
  | last hitem =>
    obtain ⟨parts, text, rfl, hmeans, rfl⟩ := hitem
    exact ⟨[parts], [text], rfl, .cons hmeans .nil, rfl⟩
  | more hitem _ ih =>
    obtain ⟨parts, text, rfl, hmeans, rfl⟩ := hitem
    obtain ⟨strings, texts, rfl, hall, rfl⟩ := ih
    refine ⟨parts :: strings, text :: texts, rfl, .cons hmeans hall, ?_⟩
    rw [List.reverse_cons, List.append_assoc, List.singleton_append]

theorem gather_of_strings {strings : List (List StringPart)} {texts : Entries}
    (h : List.Forall₂ Means strings texts) (hne : strings ≠ []) (read : Entries) :
    Gather EntryRead read (strings.map fun parts => [Token.string parts none])
      (texts.reverse ++ read) := by
  induction h generalizing read with
  | nil => exact absurd rfl hne
  | @cons parts text strings texts hmeans hall ih =>
    rw [List.map_cons, List.reverse_cons, List.append_assoc, List.singleton_append]
    have hitem : EntryRead read [.string parts none] (text :: read) := ⟨parts, text, rfl, hmeans, rfl⟩
    cases hall with
    | nil => exact .last hitem
    | cons hnext hrest => exact .more hitem (ih (List.cons_ne_nil _ _) _)

/-- **Behind its opening a list of entries is read to its end**, and only a list of entries is. -/
theorem entryOrEnd_iff :
    (State.entryOrEnd inner).Leads entries tokens ↔
      ∃ v texts rest, ListsEntries v texts ∧ .openBracket :: tokens = v ++ rest ∧
        (State.afterEntries texts inner).Leads entries rest := by
  have hfirst : (State.entryOrEnd inner).Leads entries tokens ↔
      (∃ rest, tokens = .closeBracket :: rest ∧
        (State.afterEntries [] inner).Leads entries rest) ∨
      (State.entry inner []).Leads entries tokens := by
    apply first_or_end State.noConfusion State.noConfusion rfl
    · exact fun _ => nofun
    · intro t ht
      cases t with
      | closeBracket => exact absurd rfl ht
      | _ => rfl
  rw [hfirst]
  constructor
  · rintro (⟨rest, rfl, h⟩ | h)
    · exact ⟨_, [], rest, ⟨[], rfl, .nil⟩, rfl, h⟩
    · obtain ⟨items, read, rest, hitems, rfl, h⟩ :=
        gather_of_leads separated_entries [] tokens (fun _ _ _ => entry_iff.mp) h
      obtain ⟨strings, texts, rfl, hall, rfl⟩ := strings_of_gather hitems
      rw [List.append_nil, List.reverse_reverse] at h
      exact ⟨_, texts, rest, ⟨strings, rfl, hall⟩, (listOf_append _ _).symm, h⟩
  · rintro ⟨_, texts, rest, ⟨strings, rfl, hall⟩, htokens, h⟩
    obtain ⟨-, rfl⟩ := List.cons.inj (htokens.trans (listOf_append _ _))
    by_cases hnil : strings = []
    · subst hnil
      cases hall
      exact .inl ⟨rest, rfl, h⟩
    · right
      refine leads_of_gather separated_entries ?_ (gather_of_strings hall hnil []) ?_
      · exact fun read item read' rest hitem hrest => entry_iff.mpr ⟨item, read', rest, hitem, rfl, hrest⟩
      · rw [List.append_nil, List.reverse_reverse]
        exact h

/-! ## Members -/

theorem readKey_eq_ok_iff {found : Option Entries} {parts : List StringPart} {fault : Option Cause}
    {s : State} :
    readKey found parts fault = .ok s ↔
      fault = none ∧ ∃ name, Means parts name ∧
        (name ≠ dataName ∧ s = .colon found false ∨
          name = dataName ∧ found = none ∧ s = .colon none true) := by
  constructor
  · intro h
    unfold readKey at h
    cases htext : stringText fault parts with
    | error cause =>
      rw [htext] at h
      cases h
    | ok name =>
      obtain ⟨hfault, hmeans⟩ := stringText_eq_ok_iff.mp htext
      refine ⟨hfault, name, hmeans, ?_⟩
      rw [htext] at h
      by_cases hname : name = dataName
      · subst hname
        cases found with
        | none => exact .inr ⟨rfl, rfl, (Except.ok.inj h).symm⟩
        | some _ => cases h
      · have hother : (name == "data".toList) = false := beq_eq_false_iff_ne.mpr hname
        simp only [bind, Except.bind, hother, Bool.false_and] at h
        exact .inl ⟨hname, (Except.ok.inj h).symm⟩
  · rintro ⟨rfl, name, hmeans, ⟨hname, rfl⟩ | ⟨rfl, rfl, rfl⟩⟩
    · have hother : (name == "data".toList) = false := beq_eq_false_iff_ne.mpr hname
      simp only [readKey, hmeans.stringText_eq, bind, Except.bind, hother, Bool.false_and]
      rfl
    · rw [readKey, hmeans.stringText_eq]
      rfl

theorem name_iff {found : Option Entries} :
    (State.key found).Leads entries tokens ↔
      ∃ parts name rest, tokens = .string parts none :: .colon :: rest ∧ Means parts name ∧
        (name ≠ dataName ∧ (State.skip found [] .value).Leads entries rest ∨
          name = dataName ∧ found = none ∧ State.data.Leads entries rest) := by
  have hcolon : ∀ {isData} {us : List Token}, (State.colon found isData).Leads entries us ↔
      ∃ rest, us = .colon :: rest ∧
        (if isData then State.data else .skip found [] .value).Leads entries rest := by
    intro isData us
    apply leads_only_iff State.noConfusion rfl
    intro t s' hstep
    cases t <;> simp [State.step] at hstep ⊢
  constructor
  · intro h
    cases tokens with
    | nil => cases h
    | cons t us =>
      obtain ⟨s', hstep, h⟩ := h
      cases t with
      | string parts fault =>
        obtain ⟨rfl, name, hmeans, hcase⟩ := readKey_eq_ok_iff.mp hstep
        rcases hcase with ⟨hname, rfl⟩ | ⟨hname, rfl, rfl⟩
        · obtain ⟨rest, rfl, hvalue⟩ := hcolon.mp h
          exact ⟨parts, name, rest, rfl, hmeans, .inl ⟨hname, hvalue⟩⟩
        · obtain ⟨rest, rfl, hvalue⟩ := hcolon.mp h
          exact ⟨parts, name, rest, rfl, hmeans, .inr ⟨hname, rfl, hvalue⟩⟩
      | _ => cases hstep
  · rintro ⟨parts, name, rest, rfl, hmeans, hcase⟩
    rcases hcase with ⟨hname, h⟩ | ⟨hname, rfl, h⟩
    · exact ⟨_, readKey_eq_ok_iff.mpr ⟨rfl, name, hmeans, .inl ⟨hname, rfl⟩⟩,
        hcolon.mpr ⟨rest, rfl, h⟩⟩
    · exact ⟨_, readKey_eq_ok_iff.mpr ⟨rfl, name, hmeans, .inr ⟨hname, rfl, rfl⟩⟩,
        hcolon.mpr ⟨rest, rfl, h⟩⟩

theorem data_iff :
    State.data.Leads entries tokens ↔
      ∃ v texts rest, ListsEntries v texts ∧ tokens = v ++ rest ∧
        (State.next (some texts)).Leads entries rest := by
  have hopen : State.data.Leads entries tokens ↔
      ∃ rest, tokens = .openBracket :: rest ∧ (State.entryOrEnd .object).Leads entries rest := by
    apply leads_only_iff State.noConfusion rfl
    intro t s' hstep
    cases t <;> simp [State.step] at hstep ⊢
  rw [hopen]
  constructor
  · rintro ⟨us, rfl, h⟩
    exact entryOrEnd_iff.mp h
  · rintro ⟨_, texts, rest, ⟨strings, rfl, hall⟩, rfl, h⟩
    refine ⟨_, listOf_append _ _, entryOrEnd_iff.mpr ?_⟩
    exact ⟨_, texts, rest, ⟨strings, rfl, hall⟩, (listOf_append _ _).symm, h⟩

/-- One more member is read. -/
def MemberRead (found : Option Entries) (item : List Token) (found' : Option Entries) : Prop :=
  ∃ m : Member, item = m.toTokens ∧
    (m.IsOther ∧ found' = found ∨ found = none ∧ ∃ texts, m.IsData texts ∧ found' = some texts)

theorem member_iff {found : Option Entries} :
    (State.key found).Leads entries tokens ↔
      ∃ item found' rest, MemberRead found item found' ∧ tokens = item ++ rest ∧
        (State.next found').Leads entries rest := by
  rw [name_iff]
  constructor
  · rintro ⟨parts, name, us, rfl, hmeans, ⟨hname, h⟩ | ⟨rfl, rfl, h⟩⟩
    · obtain ⟨v, rest, hv, rfl, hrest⟩ := value_of_skip found [] us h
      exact ⟨_, found, rest, ⟨⟨parts, v⟩, rfl, .inl ⟨⟨⟨name, hmeans, hname⟩, hv⟩, rfl⟩⟩, rfl, hrest⟩
    · obtain ⟨v, texts, rest, hv, rfl, hrest⟩ := data_iff.mp h
      exact ⟨_, some texts, rest, ⟨⟨parts, v⟩, rfl, .inr ⟨rfl, texts, ⟨hmeans, hv⟩, rfl⟩⟩, rfl,
        hrest⟩
  · rintro ⟨_, found', rest, ⟨m, rfl, hm⟩, rfl, h⟩
    rcases hm with ⟨⟨⟨name, hmeans, hname⟩, hv⟩, rfl⟩ | ⟨rfl, texts, ⟨hmeans, hv⟩, rfl⟩
    · exact ⟨m.key, name, m.value ++ rest, rfl, hmeans, .inl ⟨hname, hv.skips _ _ _ _ h⟩⟩
    · exact ⟨m.key, dataName, m.value ++ rest, rfl, hmeans,
        .inr ⟨rfl, rfl, data_iff.mpr ⟨m.value, texts, rest, hv, rfl, h⟩⟩⟩

theorem separated_members :
    Separated entries State.key State.next .closeBrace
      fun found rest => found = some entries ∧ rest = [] := by
  apply separated_of_step
  · exact fun _ => State.noConfusion
  · intro found rest
    cases found with
    | none =>
      constructor
      · rintro ⟨s', hstep, -⟩
        cases hstep
      · rintro ⟨hfound, -⟩
        cases hfound
    | some texts =>
      rw [leads_cons_iff rfl, leads_done_iff, Option.some.injEq]
  · exact fun _ => rfl
  · intro found t s' h
    cases t <;> simp [State.step] at h ⊢

theorem members_of_gather {found found' : Option Entries} {items : List (List Token)}
    (h : Gather MemberRead found items found') :
    ∃ members : List Member, items = members.map Member.toTokens ∧
      (found' = found ∧ (∀ m ∈ members, m.IsOther) ∨
        found = none ∧ ∃ texts, found' = some texts ∧ ∃ before m after,
          members = before ++ m :: after ∧ m.IsData texts ∧
            ∀ other ∈ before ++ after, other.IsOther) := by
  induction h with
  | last hitem =>
    obtain ⟨m, rfl, ⟨hother, rfl⟩ | ⟨rfl, texts, hdata, rfl⟩⟩ := hitem
    · exact ⟨[m], rfl, .inl ⟨rfl, List.forall_mem_singleton.mpr hother⟩⟩
    · exact ⟨[m], rfl, .inr ⟨rfl, texts, rfl, [], m, [], rfl, hdata, List.forall_mem_nil _⟩⟩
  | more hitem _ ih =>
    obtain ⟨m, rfl, hm⟩ := hitem
    obtain ⟨members, rfl, hmembers⟩ := ih
    refine ⟨m :: members, rfl, ?_⟩
    rcases hm with ⟨hother, rfl⟩ | ⟨rfl, texts, hdata, rfl⟩
    · rcases hmembers with ⟨rfl, hothers⟩ | ⟨rfl, texts, rfl, before, d, after, rfl, hdata, hothers⟩
      · exact .inl ⟨rfl, List.forall_mem_cons.mpr ⟨hother, hothers⟩⟩
      · exact .inr ⟨rfl, texts, rfl, m :: before, d, after, rfl, hdata,
          List.forall_mem_cons.mpr ⟨hother, hothers⟩⟩
    · rcases hmembers with ⟨rfl, hothers⟩ | ⟨hnone, -⟩
      · exact .inr ⟨rfl, texts, rfl, [], m, members, rfl, hdata, hothers⟩
      · cases hnone

theorem gather_of_members {before after : List Member} {m : Member} (hdata : m.IsData entries)
    (hothers : ∀ other ∈ before ++ after, other.IsOther) :
    Gather MemberRead none ((before ++ m :: after).map Member.toTokens) (some entries) := by
  induction before with
  | nil =>
    have hitem : MemberRead none m.toTokens (some entries) :=
      ⟨m, rfl, .inr ⟨rfl, entries, hdata, rfl⟩⟩
    by_cases hnil : after = []
    · subst hnil
      exact .last hitem
    · exact .more hitem (gather_members (fun m hm => ⟨m, rfl, .inl ⟨hm, rfl⟩⟩) hnil hothers)
  | cons b before ih =>
    obtain ⟨hb, hothers⟩ := List.forall_mem_cons.mp hothers
    exact .more ⟨b, rfl, .inl ⟨hb, rfl⟩⟩ (ih hothers)

/-! ## Documents -/

theorem leads_keyOrEnd_iff :
    State.keyOrEnd.Leads entries tokens ↔ (State.key none).Leads entries tokens := by
  cases tokens with
  | nil => constructor <;> exact nofun
  | cons t rest =>
    cases t with
    | closeBrace =>
      constructor
      · rintro ⟨s', hstep, -⟩
        cases hstep
      · rintro ⟨s', hstep, -⟩
        cases hstep
    | _ => exact Iff.rfl

theorem object_iff :
    State.keyOrEnd.Leads entries tokens ↔ IsWordList (.openBrace :: tokens) entries := by
  rw [leads_keyOrEnd_iff]
  constructor
  · intro h
    obtain ⟨items, found, _, hitems, rfl, rfl, rfl⟩ :=
      gather_of_leads separated_members none tokens (fun _ _ _ => member_iff.mp) h
    obtain ⟨members, rfl, ⟨hnone, -⟩ | ⟨-, texts, htexts, before, m, after, rfl, hdata, hothers⟩⟩ :=
      members_of_gather hitems
    · cases hnone
    · obtain rfl := Option.some.inj htexts
      exact ⟨before, m, after, rfl, hdata, hothers⟩
  · rintro ⟨before, m, after, htokens, hdata, hothers⟩
    obtain ⟨-, rfl⟩ := List.cons.inj htokens
    refine leads_of_gather separated_members ?_ (gather_of_members hdata hothers) ⟨rfl, rfl⟩
    exact fun found item found' rest hitem hrest =>
      member_iff.mpr ⟨item, found', rest, hitem, rfl, hrest⟩

theorem not_leads_wrappedComma : ¬ State.wrappedComma.Leads entries tokens := by
  intro h
  cases tokens with
  | nil => cases h
  | cons t rest =>
    obtain ⟨s', hstep, -⟩ := h
    cases t <;> cases hstep

/-- Behind the list of entries only the end of the list around it leads anywhere. -/
theorem leads_wrappedNext_iff {texts : Entries} :
    (State.wrappedNext texts).Leads entries tokens ↔ texts = entries ∧ tokens = [.closeBracket] := by
  constructor
  · intro h
    cases tokens with
    | nil => cases h
    | cons t rest =>
      obtain ⟨s', hstep, h⟩ := h
      cases t with
      | closeBracket =>
        obtain rfl := Except.ok.inj hstep
        obtain ⟨rfl, rfl⟩ := leads_done_iff.mp h
        exact ⟨rfl, rfl⟩
      | comma =>
        obtain rfl := Except.ok.inj hstep
        exact absurd h not_leads_wrappedComma
      | _ => cases hstep
  · rintro ⟨rfl, rfl⟩
    exact ⟨_, rfl, rfl⟩

theorem bare_iff :
    State.wrapped.Leads entries tokens ↔ IsBareList (.openBracket :: tokens) entries := by
  have hopen : State.wrapped.Leads entries tokens ↔
      ∃ rest, tokens = .openBracket :: rest ∧ (State.entryOrEnd .list).Leads entries rest := by
    apply leads_only_iff State.noConfusion rfl
    intro t s' hstep
    cases t <;> simp [State.step] at hstep ⊢
  rw [hopen]
  constructor
  · rintro ⟨us, rfl, h⟩
    obtain ⟨v, texts, rest, hv, htokens, h⟩ := entryOrEnd_iff.mp h
    obtain ⟨rfl, rfl⟩ := leads_wrappedNext_iff.mp h
    refine ⟨v, ?_, hv⟩
    rw [htokens, listOf, commas_singleton]
  · rintro ⟨v, htokens, hv⟩
    obtain ⟨strings, rfl, hall⟩ := id hv
    rw [listOf, commas_singleton] at htokens
    obtain ⟨-, rfl⟩ := List.cons.inj htokens
    refine ⟨_, listOf_append _ _, entryOrEnd_iff.mpr ?_⟩
    exact ⟨_, entries, [.closeBracket], hv, (listOf_append _ _).symm,
      leads_wrappedNext_iff.mpr ⟨rfl, rfl⟩⟩

/-- **What is read as a word list**: an object of the shape, or the bare list of strings. -/
theorem leads_start_iff :
    State.start.Leads entries tokens ↔ IsWordList tokens entries ∨ IsBareList tokens entries := by
  constructor
  · intro h
    cases tokens with
    | nil => cases h
    | cons t us =>
      obtain ⟨s', hstep, h⟩ := h
      cases t with
      | openBrace =>
        obtain rfl := Except.ok.inj hstep
        exact .inl (object_iff.mp h)
      | openBracket =>
        obtain rfl := Except.ok.inj hstep
        exact .inr (bare_iff.mp h)
      | _ => cases hstep
  · rintro (h | h)
    · obtain ⟨before, m, after, rfl, -⟩ := id h
      exact ⟨_, rfl, object_iff.mpr h⟩
    · obtain ⟨v, rfl, -⟩ := id h
      exact ⟨_, rfl, bare_iff.mpr h⟩

/-- **The entries of a text** are those of the one shape or the other that its tokens have. -/
theorem readEntries_shape {content : List Char} :
    readEntries content = .ok entries ↔
      ∃ tokens, Spelling tokens content ∧ (IsWordList tokens entries ∨ IsBareList tokens entries) := by
  rw [readEntries_eq_ok_iff]
  constructor
  · rintro ⟨tokens, hspelling, h⟩
    exact ⟨tokens, hspelling, leads_start_iff.mp h⟩
  · rintro ⟨tokens, hspelling, h⟩
    exact ⟨tokens, hspelling, leads_start_iff.mpr h⟩

/-- No text has the shape of an object of members and begins with a bracket. -/
theorem not_isWordList_of_bracket {content : List Char} {ts : List Token}
    (h : Spelling (.openBracket :: ts) content) :
    ¬∃ tokens entries, Spelling tokens content ∧ IsWordList tokens entries := by
  rintro ⟨tokens, entries, hspelling, before, m, after, rfl, -⟩
  have hsame := (lex_spelling h).symm.trans (lex_spelling hspelling)
  cases (List.cons.inj hsame).1

end WordSieve.Json

namespace WordSieve

open Json

theorem readJson_eq_ok_iff {content : List Char} {words : List Word} :
    readJson content = .ok words ↔ ∃ entries, readEntries content = .ok entries ∧ words = wordsOf entries := by
  unfold readJson
  cases readEntries content with
  | ok entries =>
    constructor
    · intro h
      exact ⟨entries, rfl, (Except.ok.inj h).symm⟩
    · rintro ⟨_, h, rfl⟩
      obtain rfl := Except.ok.inj h
      rfl
  | error fault =>
    constructor
    · exact nofun
    · rintro ⟨_, h, -⟩
      cases h

/-- **Exactly two shapes of document are word lists.** The text is one value with nothing but spaces
around it: an object of whose members exactly one is called `data` and lists the entries, whatever
values the others have, or else a list of nothing but that list of strings. Every other text is
answered with an error. -/
theorem readJson_shape {content : List Char} {words : List Word} :
    readJson content = .ok words ↔
      ∃ tokens entries, Spelling tokens content ∧
        (IsWordList tokens entries ∨ IsBareList tokens entries) ∧ words = wordsOf entries := by
  rw [readJson_eq_ok_iff]
  constructor
  · rintro ⟨entries, h, hwords⟩
    obtain ⟨tokens, hspelling, hshape⟩ := readEntries_shape.mp h
    exact ⟨tokens, entries, hspelling, hshape, hwords⟩
  · rintro ⟨tokens, entries, hspelling, hshape, hwords⟩
    exact ⟨entries, readEntries_shape.mpr ⟨tokens, hspelling, hshape⟩, hwords⟩

/-- A list of one word in a list is read, and it is no object. -/
theorem bare_list_read :
    readJson "[[\"apple\"]]".toList = .ok (wordsOf ["apple".toList]) ∧
      (wordsOf ["apple".toList]).map (·.letters) = ["apple".toList] ∧
      ¬∃ tokens entries, Spelling tokens "[[\"apple\"]]".toList ∧ IsWordList tokens entries := by
  have happle : TextWritten "apple".toList "apple".toList := textWritten_plain (by decide)
  obtain ⟨parts, hparts, hmeans⟩ := happle.parts
  have hspelling : Spelling (listOf [listOf [[.string parts none]]]) "[[\"apple\"]]".toList :=
    .token .openBracket nofun (.token .openBracket nofun (.token (.string hparts) nofun
      (.token .closeBracket nofun (.token .closeBracket nofun .nil))))
  have hshape : IsBareList (listOf [listOf [[.string parts none]]]) ["apple".toList] :=
    ⟨_, rfl, [parts], rfl, .cons hmeans .nil⟩
  have hread := readEntries_shape.mpr ⟨_, hspelling, .inr hshape⟩
  exact ⟨readJson_eq_ok_iff.mpr ⟨_, hread, rfl⟩, by decide, not_isWordList_of_bracket hspelling⟩

end WordSieve
