import MemoryTimeline.Text.Numeral
import MemoryTimeline.Viewer.TimelinePane

/-!
# The window of the timeline pane

Drawing the timeline moves the scroll offset twice: to the current event, and back to the end of
the timeline if rows would be left empty. The second move does not undo the first, since the
current event is one of the timeline, and an offset that has been moved so is not moved again.
The offset is a 64-bit count; `checkedScrollAt?` carries out the same computation and gives
nothing as soon as a sum or a difference of counts is no such count.
-/

namespace MemoryTimeline.Viewer.TimelinePane

/-- The sum of two counts, if it is a 64-bit count. -/
def sum? (first second : Nat) : Option Nat :=
  if first + second ≤ Text.maxCounter then some (first + second) else none

/-- The difference of two counts, if it is a count. -/
def difference? (first second : Nat) : Option Nat :=
  if second ≤ first then some (first - second) else none

/-- The offset nearest to the given one at which a row is in view, with each sum and each
difference checked. -/
def checkedFollowing? (visible current scroll : Nat) : Option Nat :=
  if current < scroll then some current
  else
    (sum? scroll visible).bind fun past =>
      if past ≤ current then (sum? current 1).bind fun next => difference? next visible
      else some scroll

/-- The offset that is used at a step, with each sum and each difference checked. -/
def checkedScrollAt? (visible length step scroll : Nat) : Option Nat :=
  let followed :=
    match step with
    | 0 => some scroll
    | current + 1 => checkedFollowing? visible current scroll
  followed.map fun scroll => min scroll (length - visible)

section Offsets

variable {visible length : Nat}

/-- The offset follows the current row into view from either side. -/
theorem following_window (positive : 1 ≤ visible) (current scroll : Nat) :
    following visible current scroll ≤ current ∧
      current < following visible current scroll + visible := by
  unfold following
  split
  · omega
  · split <;> omega

/-- An offset at which the current row is in view stays. -/
theorem following_of_window {current scroll : Nat} (notBefore : scroll ≤ current)
    (inside : current < scroll + visible) : following visible current scroll = scroll := by
  rw [following, if_neg (Nat.not_lt.mpr notBefore), if_neg (Nat.not_le.mpr inside)]

/-- Going back to the end of the timeline leaves a row of the timeline in view. -/
theorem scrollAt_window (positive : 1 ≤ visible) {current : Nat} (inside : current < length)
    (scroll : Nat) :
    scrollAt visible length (current + 1) scroll ≤ current ∧
      current < scrollAt visible length (current + 1) scroll + visible := by
  have followed := following_window positive current scroll
  -- At the last offset the window ends with the timeline, which is beyond the current row.
  simp only [scrollAt]
  omega

/-- The window does not reach beyond the last event. -/
theorem scrollAt_le (visible length step scroll : Nat) :
    scrollAt visible length step scroll ≤ length - visible :=
  Nat.min_le_right _ _

/-- An offset that was used at a step is used there again. -/
theorem scrollAt_scrollAt (positive : 1 ≤ visible) {step : Nat} (reached : step ≤ length)
    (scroll : Nat) :
    scrollAt visible length step (scrollAt visible length step scroll) =
      scrollAt visible length step scroll := by
  have notBeyond := scrollAt_le visible length step scroll
  cases step with
  | zero => exact Nat.min_eq_left notBeyond
  | succ current =>
      obtain ⟨notBefore, inside⟩ := scrollAt_window positive reached scroll
      calc scrollAt visible length (current + 1) (scrollAt visible length (current + 1) scroll)
          = min (scrollAt visible length (current + 1) scroll) (length - visible) :=
            congrArg (min · (length - visible)) (following_of_window notBefore inside)
        _ = scrollAt visible length (current + 1) scroll := Nat.min_eq_left notBeyond

/-- Following a row of a timeline that 64-bit integers can count, in a window of a 16-bit
height, stays within counts. The offset is added to only when it is not beyond the row, and the
height is taken away only from more than it. -/
theorem checkedFollowing?_eq {current : Nat} (counted : current < Text.maxInteger)
    (narrow : visible < 65536) (scroll : Nat) :
    checkedFollowing? visible current scroll = some (following visible current scroll) := by
  have integers : Text.maxInteger = 9223372036854775807 := rfl
  have counts : Text.maxCounter = 18446744073709551615 := rfl
  unfold checkedFollowing? following
  by_cases before : current < scroll
  · rw [if_pos before, if_pos before]
  · have past : sum? scroll visible = some (scroll + visible) := if_pos (by omega)
    rw [if_neg before, if_neg before, past, Option.bind_some]
    by_cases below : scroll + visible ≤ current
    · have next : sum? current 1 = some (current + 1) := if_pos (by omega)
      rw [if_pos below, if_pos below, next, Option.bind_some]
      exact if_pos (by omega)
    · rw [if_neg below, if_neg below]

/-- The offset at a step of a timeline is computed within counts. -/
theorem checkedScrollAt?_eq {step : Nat} (reached : step ≤ length)
    (counted : length ≤ Text.maxInteger) (narrow : visible < 65536) (scroll : Nat) :
    checkedScrollAt? visible length step scroll = some (scrollAt visible length step scroll) := by
  cases step with
  | zero => rfl
  | succ current =>
      have followed := checkedFollowing?_eq (Nat.lt_of_lt_of_le reached counted) narrow scroll
      simp only [checkedScrollAt?, followed, Option.map_some]
      rfl

end Offsets

section Drawing

variable {timeline : Timeline} {step : Nat}

/-- There is at least one row in view, also where the edges leave no room for it. -/
theorem visibleRows_eq (area : Area) : visibleRows area = max 1 (area.height - 2) :=
  Nat.max_comm _ _

/-- Drawing a timeline with content gives the offset of the step. -/
theorem draw_offset (content : timeline.hasContent = true) (focused : Bool) (scroll : Nat)
    (area : Area) (screen : Screen) :
    (draw timeline step focused scroll area screen).2 =
      scrollAt (max 1 (area.height - 2)) timeline.length step scroll := by
  simp [draw, content, visibleRows_eq]

/-- The rows in view are those of the events from the offset on. -/
theorem getElem?_items (timeline : Timeline) (step : Nat) {visible row : Nat}
    (inView : row < visible) (scroll : Nat) :
    (items timeline step visible scroll)[row]? =
      timeline.events[scroll + row]?.map fun event =>
        item (Nat.repr timeline.length).length step event (scroll + row) := by
  simp [items, List.getElem?_take_of_lt inView, Function.comp_def]

/-- The timeline pane keeps the current event in its window. The timeline has content and the
step is one of its steps; the height of the pane and the offset before are arbitrary. The window
then begins at or before the current event and reaches beyond it, so that the row of the event is
among the rows in view; it does not begin later than it must to end with the timeline; no sum or
difference in the computation leaves the range of counts; and drawing again, at the same height,
leaves the offset alone. -/
theorem current_event_in_window (content : timeline.hasContent = true)
    (reached : step ≤ timeline.length) (focused : Bool) (scroll : Nat) (area : Area)
    (screen : Screen) :
    let visible := max 1 (area.height - 2)
    let offset := (draw timeline step focused scroll area screen).2
    (1 ≤ step → offset ≤ step - 1 ∧ step - 1 < offset + visible ∧
      ∃ event, timeline.events[step - 1]? = some event ∧
        (items timeline step visible offset)[step - 1 - offset]? =
          some (item (Nat.repr timeline.length).length step event (step - 1))) ∧
      offset ≤ timeline.length - visible ∧
      (timeline.length ≤ Text.maxInteger → area.height < 65536 →
        checkedScrollAt? visible timeline.length step scroll = some offset) ∧
      ∀ (focused : Bool) (area' : Area) (screen : Screen), area'.height = area.height →
        (draw timeline step focused offset area' screen).2 = offset := by
  intro visible offset
  have positive : 1 ≤ visible := Nat.le_max_left _ _
  have isOffset : offset = scrollAt visible timeline.length step scroll :=
    draw_offset content focused scroll area screen
  refine ⟨?_, isOffset ▸ scrollAt_le _ _ _ _, ?_, ?_⟩
  · intro started
    obtain ⟨current, rfl⟩ := Nat.exists_eq_add_of_le' started
    obtain ⟨notBefore, inside⟩ := scrollAt_window positive reached scroll
    rw [← isOffset] at notBefore inside
    have isEvent := List.getElem?_eq_getElem (l := timeline.events) reached
    refine ⟨notBefore, inside, _, isEvent, ?_⟩
    have inView : current - offset < visible := by omega
    rw [Nat.add_sub_cancel, getElem?_items _ _ inView, Nat.add_sub_cancel' notBefore, isEvent]
    rfl
  · intro counted short
    have narrow : visible < 65536 := by omega
    rw [isOffset]
    exact checkedScrollAt?_eq reached counted narrow scroll
  · intro focused area' screen sameHeight
    rw [draw_offset content, sameHeight, isOffset]
    exact scrollAt_scrollAt positive reached scroll

/-- A pane of three rows shows one event. From the largest offset the window goes back to the
second of three events, and stays there. -/
theorem current_event_in_window_largest_offset :
    let timeline : Timeline := ⟨[.push globalScope none, .push "f" none, .pop "f" none]⟩
    let area : Area := ⟨0, 0, 20, 3⟩
    let screen := Screen.blank 20 3
    let offset := (draw timeline 2 true Text.maxCounter area screen).2
    timeline.hasContent = true ∧ 2 ≤ timeline.length ∧ timeline.length ≤ Text.maxInteger ∧
      offset = 1 ∧
      checkedScrollAt? 1 timeline.length 2 Text.maxCounter = some offset ∧
      (draw timeline 2 false offset area screen).2 = offset := by
  intro timeline area screen offset
  have content : timeline.hasContent = true := by decide
  have reached : 2 ≤ timeline.length := by decide
  have counted : timeline.length ≤ Text.maxInteger := by decide
  obtain ⟨inWindow, _, checked, again⟩ := current_event_in_window content reached true
    Text.maxCounter area screen
  obtain ⟨notBefore, inside, _⟩ := inWindow (by decide)
  have isOne : offset = 1 := by
    have oneRow : max 1 (area.height - 2) = 1 := by decide
    omega
  exact ⟨content, reached, counted, isOne, checked counted (by decide),
    again false area screen rfl⟩

end Drawing

end MemoryTimeline.Viewer.TimelinePane
