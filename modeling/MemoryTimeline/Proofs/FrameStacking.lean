import MemoryTimeline.Viewer.FramesPane

/-!
# The blocks of the frames pane

The pane stacks one block for each frame from the top of its inside down to the bottom. What it
stacks is said by position (`Stacked`): each block begins where those before it end, is as high
as its frame wants to be or as the rows that are left, and no row is left free while there is a
frame. Rows are 16-bit numbers and so is the wanted height, which is therefore short of the full
height of a frame (`fullHeight`) by a multiple of 65536 when the frame has that many lines.
-/

namespace MemoryTimeline.Viewer.FramesPane

open Snapshot (Frame)

/-- The height at which all lines of a frame are seen: a row for each line, at least one, and
two edges. -/
def fullHeight (frame : Frame) : Nat := max 1 frame.lines.length + 2

/-- The rows that blocks take together. -/
def heightOf : List (Frame × Area) → Nat
  | [] => 0
  | block :: rest => block.2.height + heightOf rest

/-- Blocks of frames that are stacked inside an area from a row on, where each frame asks for a
height. -/
structure Stacked (height : Frame → Nat) (inside : Area) (top : Nat) (frames : List Frame)
    (blocks : List (Frame × Area)) : Prop where
  /-- The blocks are those of the first frames, one for each. -/
  inOrder : blocks.map Prod.fst <+: frames
  /-- Each block begins where those before it end, above the bottom. -/
  placed : ∀ index frame place, blocks[index]? = some (frame, place) →
    place.x = inside.x ∧ place.width = inside.width ∧
      place.y = top + heightOf (blocks.take index) ∧ place.y < inside.bottom ∧
      place.height = min (height frame) (inside.bottom - place.y)
  /-- All frames have a block, or no row is left. -/
  complete : blocks.map Prod.fst = frames ∨ top + heightOf blocks = inside.bottom

namespace Stacked

variable {height : Frame → Nat} {inside : Area} {top : Nat} {frames : List Frame}
  {blocks : List (Frame × Area)}

/-- Nothing is stacked where no frame is left. -/
theorem nil : Stacked height inside top [] [] where
  inOrder := List.prefix_rfl
  placed := by simp
  complete := .inl rfl

/-- Nothing is stacked where no row is left. -/
theorem full (noRow : top = inside.bottom) : Stacked height inside top frames [] where
  inOrder := List.nil_prefix
  placed := by simp
  complete := .inr noRow

/-- A block goes on top of those that are stacked from its end on. -/
theorem cons (room : top < inside.bottom) {frame : Frame} {place : Area}
    (isPlace : place =
      { inside with y := top, height := min (height frame) (inside.bottom - top) })
    (rest : Stacked height inside place.bottom frames blocks) :
    Stacked height inside top (frame :: frames) ((frame, place) :: blocks) where
  inOrder := List.cons_prefix_cons.mpr ⟨rfl, rest.inOrder⟩
  placed := by
    intro index other otherPlace found
    cases index with
    | zero =>
        obtain ⟨rfl, rfl⟩ : frame = other ∧ place = otherPlace := by simpa using found
        rw [isPlace]
        exact ⟨rfl, rfl, rfl, room, rfl⟩
    | succ index =>
        obtain ⟨sameX, sameWidth, begins, above, high⟩ := rest.placed index other otherPlace found
        refine ⟨sameX, sameWidth, ?_, above, high⟩
        rw [begins, isPlace]
        simp [heightOf, Area.bottom, Nat.add_assoc]
  complete := by
    refine rest.complete.imp (fun all => congrArg (frame :: ·) all) ?_
    intro filled
    rw [← filled, isPlace]
    simp [heightOf, Area.bottom, Nat.add_assoc]

/-- No block reaches beyond the bottom. -/
theorem bottom_le (stacked : Stacked height inside top frames blocks) {block : Frame × Area}
    (member : block ∈ blocks) : block.2.bottom ≤ inside.bottom := by
  obtain ⟨index, found⟩ := List.mem_iff_getElem?.mp member
  obtain ⟨_, _, _, above, high⟩ := stacked.placed index block.1 block.2 found
  rw [Area.bottom, high]
  omega

/-- Blocks that are stacked for some heights are stacked for others exactly when each is as high
as these ask for. -/
theorem iff_heights (stacked : Stacked height inside top frames blocks) (other : Frame → Nat) :
    Stacked other inside top frames blocks ↔
      ∀ block ∈ blocks, min (other block.1) (inside.bottom - block.2.y) =
        min (height block.1) (inside.bottom - block.2.y) := by
  constructor
  · intro otherStacked block member
    obtain ⟨index, found⟩ := List.mem_iff_getElem?.mp member
    obtain ⟨_, _, _, _, high⟩ := stacked.placed index block.1 block.2 found
    obtain ⟨_, _, _, _, otherHigh⟩ := otherStacked.placed index block.1 block.2 found
    rw [← high, ← otherHigh]
  · intro sameHeights
    refine ⟨stacked.inOrder, ?_, stacked.complete⟩
    intro index frame place found
    obtain ⟨sameX, sameWidth, begins, above, high⟩ := stacked.placed index frame place found
    have same := sameHeights (frame, place) (List.mem_of_getElem? found)
    exact ⟨sameX, sameWidth, begins, above, high.trans same.symm⟩

end Stacked

/-- The blocks of frames from a row on are stacked there. -/
theorem stackBlocks_stacked (inside : Area) {top : Nat} (within : top ≤ inside.bottom)
    (frames : List Frame) :
    Stacked wantedHeight inside top frames (stackBlocks inside top frames) := by
  induction frames generalizing top with
  | nil => exact .nil
  | cons frame rest inductionHypothesis =>
      by_cases noRow : inside.bottom ≤ top
      · rw [stackBlocks, if_pos noRow]
        exact .full (Nat.le_antisymm within noRow)
      · rw [stackBlocks, if_neg noRow]
        refine .cons (Nat.lt_of_not_le noRow) rfl (inductionHypothesis ?_)
        have cut := Nat.min_le_right (wantedHeight frame) (inside.bottom - top)
        simp only [Area.bottom] at *
        omega

/-- The wanted height is the full height as a 16-bit number. -/
theorem wantedHeight_eq (frame : Frame) : wantedHeight frame = fullHeight frame % 65536 := by
  simp [wantedHeight, fullHeight, Nat.max_comm]

/-- The inside of an area does not reach beyond it. -/
theorem inside_bottom_le (area : Area) : area.inside.bottom ≤ area.bottom := by
  simp only [Area.inside, Area.bottom]
  omega

/-- What the pane draws for frames, from any offset and on any area of a screen with 16-bit rows
and columns. The offset is brought back to the last frame, and the blocks of the frames from
there on are drawn stacked, at the heights that the frames want. All rows are 16-bit numbers; a
wanted height is the full one exactly when this is a 16-bit number too. So the blocks are stacked
at full heights exactly when each block of a frame with more lines is cut at the bottom before
the height that it wants. -/
theorem frames_stacked_iff {frames : List Frame} (nonempty : frames ≠ []) {area : Area}
    (fits : area.right < 65536 ∧ area.bottom < 65536) (focused : Bool) (scroll : Nat)
    (screen : Screen) :
    let inside := area.inside
    let offset := min scroll (frames.length - 1)
    ∃ blocks : List (Frame × Area),
      draw frames focused scroll area screen =
        (blocks.foldl
          (fun screen block =>
            screen.drawParagraph block.2 (frameBlock block.1) .plain (frameLines block.1))
          (screen.drawBlock area (Palette.paneBlock " Call Stack " focused)), offset) ∧
      Stacked wantedHeight inside inside.y (frames.drop offset) blocks ∧
      inside.right < 65536 ∧ inside.bottom < 65536 ∧
      (∀ block ∈ blocks, block.2.bottom ≤ inside.bottom) ∧
      (∀ frame, wantedHeight frame = fullHeight frame ↔ fullHeight frame < 65536) ∧
      (Stacked fullHeight inside inside.y (frames.drop offset) blocks ↔
        ∀ block ∈ blocks, fullHeight block.1 < 65536 ∨
          inside.bottom - block.2.y ≤ wantedHeight block.1) := by
  intro inside offset
  have stacked : Stacked wantedHeight inside inside.y (frames.drop offset)
      (blocks inside frames offset) :=
    stackBlocks_stacked inside (Nat.le_add_right _ _) _
  have drawn : frames.isEmpty = false := by simpa using nonempty
  refine ⟨blocks inside frames offset, ?_, stacked, ?_, ?_, fun _ => stacked.bottom_le, ?_, ?_⟩
  · simp only [draw, drawn]
    rfl
  · simp only [inside, Area.inside, Area.right] at *
    omega
  · exact Nat.lt_of_le_of_lt (inside_bottom_le area) fits.2
  · intro frame
    rw [wantedHeight_eq]
    omega
  · -- A wanted height that is not full is less than it, so it shows unless the bottom comes first.
    rw [stacked.iff_heights fullHeight]
    refine forall₂_congr fun block _ => ?_
    rw [wantedHeight_eq]
    omega

/-- Two frames in six rows: the first block shows its two lines, and the second, of a frame
without lines, is cut by one row. -/
theorem frames_stacked_two_frames :
    let frames : List Frame := [⟨globalScope, ["variable a = 1", "variable b = 2"]⟩, ⟨"f", []⟩]
    let area : Area := ⟨0, 0, 20, 8⟩
    let screen := Screen.blank 20 8
    frames ≠ [] ∧ (area.right < 65536 ∧ area.bottom < 65536) ∧
      ∃ blocks : List (Frame × Area),
        draw frames true 0 area screen =
          (blocks.foldl
            (fun screen block =>
              screen.drawParagraph block.2 (frameBlock block.1) .plain (frameLines block.1))
            (screen.drawBlock area (Palette.paneBlock " Call Stack " true)), 0) ∧
        Stacked fullHeight area.inside 1 frames blocks := by
  intro frames area screen
  have nonempty : frames ≠ [] := List.cons_ne_nil _ _
  have fits : area.right < 65536 ∧ area.bottom < 65536 := by decide
  obtain ⟨blocks, drawn, stacked, _, _, _, _, atFullHeight⟩ :=
    frames_stacked_iff nonempty fits true 0 screen
  refine ⟨nonempty, fits, blocks, drawn, atFullHeight.mpr fun block member => .inl ?_⟩
  have short : ∀ frame ∈ frames, fullHeight frame < 65536 := by decide
  exact short _ (stacked.inOrder.subset (List.mem_map_of_mem member))

/-- A frame of 65536 lines alone in five rows. It wants a height of two, so that none of its
lines is seen, where its full height would fill the rows. -/
theorem frames_stacked_wrong_height :
    let frame : Frame := ⟨globalScope, List.replicate 65536 "variable a = 1"⟩
    let inside := (Area.mk 0 0 20 7).inside
    fullHeight frame = 65538 ∧ inside.height = 5 ∧
      blocks inside [frame] 0 = [(frame, { inside with height := 2 })] ∧
      ¬ Stacked fullHeight inside inside.y [frame] (blocks inside [frame] 0) := by
  intro frame inside
  have full : fullHeight frame = 65538 := by
    rw [fullHeight, List.length_replicate]
    decide
  have wanted : wantedHeight frame = 2 := by rw [wantedHeight_eq, full]
  have drawn : blocks inside [frame] 0 = [(frame, { inside with height := 2 })] := by
    simp [blocks, stackBlocks, wanted, inside, Area.inside, Area.bottom]
  refine ⟨full, rfl, drawn, ?_⟩
  intro stacked
  rw [drawn] at stacked
  obtain ⟨_, _, _, _, high⟩ := stacked.placed 0 frame _ rfl
  rw [full] at high
  exact absurd high (by decide)

end MemoryTimeline.Viewer.FramesPane
