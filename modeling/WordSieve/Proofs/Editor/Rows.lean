import WordSieve.Editor.Screen
import WordSieve.Proofs.Editor.Cursor

/-!
# The rows of criteria on the screen

The panel of the criteria may have fewer rows than there are criteria. What it shows is then a block of
them that ends with the criterion under the cursor, or the first ones if that is among them. The block
never starts so late that a row of the panel stays free while criteria are hidden: the cursor is on a
criterion, so what is left from the start of the block on fills the panel.
-/

set_option autoImplicit false

namespace WordSieve

open Screen Text

/-! ## Lists of items -/

/-- What an item shows, one row after the other. -/
def Screen.Item.text (i : Item) : List Char :=
  i.rows.flatten.flatMap (·.text)

/-- Items of one row each are all there if there are no more of them than rows. -/
theorem fitting_of_single {items : List Item} (hsingle : ∀ i ∈ items, i.rows.length = 1) {room : Nat}
    (h : items.length ≤ room) : fitting room items = items := by
  induction items generalizing room with
  | nil => rfl
  | cons i rest ih =>
    rw [List.forall_mem_cons] at hsingle
    rw [List.length_cons] at h
    have hrest : fitting (room - 1) rest = rest := ih hsingle.2 (by omega)
    have hroom : ¬room < 1 := by omega
    simp [fitting, hsingle.1, hroom, hrest]

theorem drawList_of_single {items : List Item} (hsingle : ∀ i ∈ items, i.rows.length = 1) {a : Area}
    (harea : a.isEmpty = false) (h : items.length ≤ a.height) (k : Canvas) :
    drawList k a items = drawItems k a items := by
  simp [drawList, harea, fitting_of_single hsingle h]

namespace Editor

/-! ## The block that is shown -/

section Block

variable {items : List Criterion} {selected visible : Nat}

theorem length_shownCriteria (hselected : selected < items.length) (hvisible : 0 < visible) :
    (shownCriteria items selected visible).length = min visible items.length := by
  simp [shownCriteria, firstVisible]
  omega

/-- The block holds the criteria in their order, from its first one on. -/
theorem getElem?_shownCriteria {i : Nat} (h : i < visible) :
    (shownCriteria items selected visible)[i]? =
      items[firstVisible selected visible + i]?.map fun c =>
        { index := firstVisible selected visible + i, criterion := c } := by
  have hi : i < max visible 1 := by omega
  simp [shownCriteria, hi]

theorem firstVisible_le : firstVisible selected visible ≤ selected := by
  simp [firstVisible]

theorem lt_firstVisible_add (hselected : selected < items.length) (hvisible : 0 < visible) :
    selected < firstVisible selected visible + min visible items.length := by
  simp [firstVisible]
  omega

end Block

/-! ## The row of a criterion -/

variable {e : Editor}

/-- What the row of a criterion starts with: the mark of the cursor or the room for it, and the number
in a column of two. -/
def rowStart (marked : Bool) (number : Nat) : List Char :=
  (if marked then "▶ " else "  ").toList ++ padLeft 2 (Nat.toDigits 10 number) ++ ". ".toList

/-- The row of a criterion, with its letters as they are shown. -/
def rowText (marked : Bool) (number : Nat) (c : Criterion) (letters : List Char) : List Char :=
  rowStart marked number ++ ("Position  " ++ c.scope.name ++ "   Value ").toList ++ letters ++
    "  Filter  ".toList ++ padRight 7 c.kind.name.toList ++ [' ']

/-- The item carries the mark of the cursor. -/
def Marked (i : Item) : Prop :=
  "▶ ".toList <+: i.text

/-- The item of a criterion that is shown. -/
def criterionItem (e : Editor) (s : ShownCriterion) : Item :=
  { rows := [e.criterionRow s], look := .unchanged }

/-- With the cursor on a criterion the panel has criteria to show. -/
theorem criteriaItems_eq (hselected : e.selected < e.session.criteria.items.length) (visible : Nat) :
    e.criteriaItems visible =
      (shownCriteria e.session.criteria.items e.selected visible).map e.criterionItem := by
  have hsome : e.session.criteria.items ≠ [] := List.ne_nil_of_length_pos (by omega)
  simp [criteriaItems, criterionItem, hsome]

theorem text_criterionItem (e : Editor) (s : ShownCriterion) :
    (e.criterionItem s).text =
      rowText (decide (s.index = e.selected)) (s.index + 1) s.criterion (e.lettersSpan s).text := by
  have hmark : (e.cursorMark s.index).toList =
      (if decide (s.index = e.selected) then "▶ " else "  ").toList := by
    simp [cursorMark]
  simp [Item.text, criterionItem, criterionRow, rowText, rowStart, Span.raw, Span.styled, hmark]

theorem rowStart_isPrefix (marked : Bool) (number : Nat) (c : Criterion) (letters : List Char) :
    rowStart marked number <+: rowText marked number c letters := by
  simp only [rowText, List.append_assoc]
  exact List.prefix_append _ _

theorem marked_iff (e : Editor) (s : ShownCriterion) :
    Marked (e.criterionItem s) ↔ s.index = e.selected := by
  have hstart := rowStart_isPrefix (decide (s.index = e.selected)) (s.index + 1) s.criterion
    (e.lettersSpan s).text
  rw [← text_criterionItem] at hstart
  by_cases hcurrent : s.index = e.selected
  · simp only [hcurrent, iff_true]
    rw [decide_eq_true hcurrent] at hstart
    apply List.IsPrefix.trans _ hstart
    simp [rowStart]
  · simp only [hcurrent, iff_false]
    intro hmarked
    rw [decide_eq_false hcurrent] at hstart
    have hroom : "  ".toList <+: (e.criterionItem s).text := by
      apply List.IsPrefix.trans _ hstart
      simp [rowStart]
    -- Mark and room are equally long, so only one of the two can be there.
    have hsame : "▶ ".toList = "  ".toList :=
      (List.prefix_of_prefix_length_le hmarked hroom (by decide)).eq_of_length (by decide)
    revert hsame
    decide

/-! ## The rows of the panel -/

section Rows

variable {visible : Nat}

theorem length_criteriaItems (hselected : e.selected < e.session.criteria.items.length)
    (hvisible : 0 < visible) :
    (e.criteriaItems visible).length = min visible e.session.criteria.items.length := by
  rw [criteriaItems_eq hselected, List.length_map, length_shownCriteria hselected hvisible]

theorem exists_criteriaItem (hselected : e.selected < e.session.criteria.items.length)
    (hvisible : 0 < visible) {i : Nat} (hi : i < (e.criteriaItems visible).length) :
    ∃ c, e.session.criteria.items[firstVisible e.selected visible + i]? = some c ∧
      (e.criteriaItems visible)[i]? =
        some (e.criterionItem
          { index := firstVisible e.selected visible + i, criterion := c }) := by
  have hlength := length_criteriaItems hselected hvisible
  have hlt : i < visible := by omega
  have hget : (e.criteriaItems visible)[i]? =
      e.session.criteria.items[firstVisible e.selected visible + i]?.map fun c =>
        e.criterionItem { index := firstVisible e.selected visible + i, criterion := c } := by
    rw [criteriaItems_eq hselected, List.getElem?_map, getElem?_shownCriteria hlt, Option.map_map]
    rfl
  rw [List.getElem?_eq_getElem hi] at hget ⊢
  obtain ⟨c, hc, hrow⟩ := Option.map_eq_some_iff.mp hget.symm
  exact ⟨c, hc, congrArg some hrow.symm⟩

/-- A row is that of one criterion, so the mark tells where the cursor is. -/
theorem marked_criteriaItem_iff (hselected : e.selected < e.session.criteria.items.length)
    (hvisible : 0 < visible) {i : Nat} {row : Item}
    (h : (e.criteriaItems visible)[i]? = some row) :
    Marked row ↔ firstVisible e.selected visible + i = e.selected := by
  obtain ⟨hi, -⟩ := List.getElem?_eq_some_iff.mp h
  obtain ⟨c, -, hrow⟩ := exists_criteriaItem hselected hvisible hi
  rw [h] at hrow
  rw [Option.some.inj hrow]
  exact e.marked_iff _

theorem existsUnique_marked (hselected : e.selected < e.session.criteria.items.length)
    (hvisible : 0 < visible) :
    ∃! i : Nat, ∃ row, (e.criteriaItems visible)[i]? = some row ∧ Marked row := by
  have hfirst : firstVisible e.selected visible ≤ e.selected := firstVisible_le
  have hlast := lt_firstVisible_add hselected hvisible
  rw [← length_criteriaItems hselected hvisible] at hlast
  have hplace : e.selected - firstVisible e.selected visible < (e.criteriaItems visible).length := by
    omega
  refine ⟨e.selected - firstVisible e.selected visible, ?_, ?_⟩
  · obtain ⟨c, -, hrow⟩ := exists_criteriaItem hselected hvisible hplace
    exact ⟨_, hrow, (marked_criteriaItem_iff hselected hvisible hrow).mpr (by omega)⟩
  · rintro i ⟨row, hrow, hmarked⟩
    have hcurrent := (marked_criteriaItem_iff hselected hvisible hrow).mp hmarked
    omega

theorem drawCriteria_eq (hselected : e.selected < e.session.criteria.items.length) {a : Area}
    (hheight : 3 ≤ a.height) (hinside : a.inside.isEmpty = false) (k : Canvas) :
    e.drawCriteria k a =
      drawItems (drawFrame k a { corners := .round, title := " Filters ", look := .unchanged })
        a.inside (e.criteriaItems (a.height - 2)) := by
  apply drawList_of_single _ hinside
  · rw [length_criteriaItems hselected (by omega)]
    exact Nat.min_le_left _ _
  · intro i hi
    rw [criteriaItems_eq hselected] at hi
    obtain ⟨s, -, rfl⟩ := List.mem_map.mp hi
    rfl

end Rows

/-- **The criterion under the cursor is on the screen**, after any keys and ticks in any order, in a
panel of any height with room for a criterion within its frame. The rows are those of the criteria from
a first one on, in their order and each with its number, and there are as many as the panel holds or
all of them. The criterion under the cursor is among them, its row alone carries the mark, and all of
the rows are drawn. -/
theorem run_shows_current {e : Editor} (he : e.Fresh) (events : List Event) (a : Area)
    (hheight : 3 ≤ a.height) (hsome : (e.run events).session.criteria.items ≠ []) :
    let t := e.run events
    let items := t.session.criteria.items
    let visible := a.height - 2
    let rows := t.criteriaItems visible
    let first := firstVisible t.selected visible
    rows.length = min visible items.length ∧
      (∀ i : Nat, i < rows.length → ∃ row c, rows[i]? = some row ∧ items[first + i]? = some c ∧
        row.text = rowText (decide (first + i = t.selected)) (first + i + 1) c
          (t.lettersSpan { index := first + i, criterion := c }).text) ∧
      first ≤ t.selected ∧ t.selected < first + rows.length ∧
      (∃! i : Nat, ∃ row, rows[i]? = some row ∧ Marked row) ∧
      (∀ row, rows[t.selected - first]? = some row → Marked row) ∧
      ∀ k : Canvas, a.inside.isEmpty = false →
        t.drawCriteria k a =
          drawItems (drawFrame k a { corners := .round, title := " Filters ", look := .unchanged })
            a.inside rows := by
  intro t items visible rows first
  have hvisible : 0 < visible := Nat.sub_pos_of_lt hheight
  have hselected : t.selected < t.session.criteria.items.length := by
    rcases (he.placed.run events).cursor with hlt | ⟨hnone, -⟩
    · exact hlt
    · exact absurd (List.length_eq_zero_iff.mp hnone) hsome
  have hlength : rows.length = min visible items.length := length_criteriaItems hselected hvisible
  have hfirst : first ≤ t.selected := firstVisible_le
  refine ⟨hlength, ?_, hfirst, ?_, existsUnique_marked hselected hvisible, ?_,
    fun k hinside => drawCriteria_eq hselected hheight hinside k⟩
  · intro i hi
    obtain ⟨c, hc, hrow⟩ := exists_criteriaItem hselected hvisible hi
    exact ⟨_, c, hrow, hc, t.text_criterionItem { index := first + i, criterion := c }⟩
  · rw [hlength]
    exact lt_firstVisible_add hselected hvisible
  · intro row hrow
    apply (marked_criteriaItem_iff hselected hvisible hrow).mpr
    omega

/-- Eleven criteria are added to the first, and the cursor goes back by two. -/
def addingKeys : List Event :=
  (List.replicate 11 (Key.char 'a') ++ [Key.up, .up]).map fun key =>
    .press 0 key { control := false, alt := false, shift := false }

/-- Twelve criteria in a panel of three rows: the eighth to the tenth are shown. -/
theorem run_shows_current_scrolled :
    let e := ofSession (Session.start .standard)
    let a : Area := { left := 0, top := 3, width := 80, height := 5 }
    let rows := (e.run addingKeys).criteriaItems (a.height - 2)
    e.Fresh ∧ (e.run addingKeys).session.criteria.items ≠ [] ∧ rows.length = 3 ∧
      (∃ row, rows[0]? = some row ∧
        row.text = "   8. Position  all   Value ABC     Filter  exclude ".toList) ∧
      (∃ row, rows[2]? = some row ∧ Marked row ∧
        row.text = "▶ 10. Position  all   Value ABC     Filter  exclude ".toList) ∧
      (∃! i : Nat, ∃ row, rows[i]? = some row ∧ Marked row) ∧
      ∀ k : Canvas, (e.run addingKeys).drawCriteria k a =
        drawItems (drawFrame k a { corners := .round, title := " Filters ", look := .unchanged })
          a.inside rows := by
  intro e a rows
  have he : e.Fresh := .ofSession _
  have hitems : (e.run addingKeys).session.criteria.items = List.replicate 12 .blank := by
    decide +kernel
  have hsome : (e.run addingKeys).session.criteria.items ≠ [] := by simp [hitems]
  have hselected : (e.run addingKeys).selected = 9 := by decide +kernel
  obtain ⟨hlength, hrows, -, -, hunique, hmarked, hdrawn⟩ :=
    run_shows_current he addingKeys a (by decide) hsome
  have hthree : rows.length = 3 := hlength.trans (by rw [hitems]; rfl)
  have hzero : 0 < rows.length := by omega
  have htwo : 2 < rows.length := by omega
  obtain ⟨row, c, hrow, hc, htext⟩ := hrows 0 hzero
  obtain ⟨last, d, hlast, hd, hlastText⟩ := hrows 2 htwo
  rw [hitems, hselected] at hc hd
  obtain rfl : .blank = c := Option.some.inj hc
  obtain rfl : .blank = d := Option.some.inj hd
  have hmark : Marked last := by
    apply hmarked
    rw [hselected]
    exact hlast
  refine ⟨he, hsome, hthree, ⟨row, hrow, htext.trans ?_⟩, ⟨last, hlast, hmark, hlastText.trans ?_⟩,
    hunique, fun k => hdrawn k rfl⟩
  · decide +kernel
  · decide +kernel

end Editor

end WordSieve
