import MemoryTimeline.Viewer.Display

/-!
# The step that a session shows

A session keeps the view of a step, and computes it again on some keys only. It
is followed here by a number: whatever is pressed or drawn, the session stands at
the step that the keys lead to, and its view is the one that a fresh computation
at that step gives.
-/

namespace MemoryTimeline.Viewer

/-- The steps that a character moves forward: its value, if it is a digit. -/
def stepsOf (symbol : Char) : Nat := if symbol.isDigit then symbol.toNat - '0'.toNat else 0

/-- The step that a key leads to, in a timeline of the given length. -/
def Key.destination (length index : Nat) : Key → Nat
  | .left => index - 1
  | .right => min (index + 1) length
  | .enter => length
  | .backspace => 0
  | .character symbol => min (index + stepsOf symbol) length
  | .up | .down | .tab | .space _ | .other => index

/-- What a session reacts to. -/
inductive Stimulus where
  | press (key : Key)
  | draw (width height : Nat)

/-- The step that a stimulus leads to, in a timeline of the given length. -/
def Stimulus.destination (length index : Nat) : Stimulus → Nat
  | .press key => key.destination length index
  | .draw _ _ => index

namespace Session

/-- The session after a stimulus. -/
def react (session : Session) : Stimulus → Session
  | .press key => session.press key
  | .draw width height => (session.render width height).1

/-- The session stands at a step of the timeline, and its view is the one of that step. -/
structure ShowsStep (timeline : Timeline) (metrics : Scene.Metrics) (index : Nat)
    (session : Session) : Prop where
  timeline_eq : session.timeline = timeline
  metrics_eq : session.metrics = metrics
  cursor_eq : session.cursor = ⟨index⟩
  view_eq : session.view = .at timeline metrics ⟨index⟩
  index_le : index ≤ timeline.length

/-- Stepping forward several times stops at the end. -/
theorem advance_index (timeline : Timeline) (count : Nat) (cursor : Cursor)
    (within : cursor.index ≤ timeline.length) :
    (advance timeline count cursor).1.index = min (cursor.index + count) timeline.length := by
  induction count generalizing cursor with
  | zero => exact (Nat.min_eq_left within).symm
  | succ count inductionHypothesis =>
    by_cases more : cursor.index < timeline.length
    · have next : cursor.next? timeline = some ⟨cursor.index + 1⟩ := if_pos more
      simp only [advance, next]
      rw [inductionHypothesis ⟨cursor.index + 1⟩ more, Nat.add_assoc, Nat.add_comm 1 count]
    · have next : cursor.next? timeline = none := if_neg more
      simp only [advance, next]
      omega

/-- The digit zero and the characters that are no digit do not move. -/
theorem stepsOf_eq (symbol : Char) : stepsOf symbol = (jumpCount? symbol).getD 0 := by
  have digit : symbol.isDigit ↔ 48 ≤ symbol.toNat ∧ symbol.toNat ≤ 57 := by
    rw [Char.isDigit, Bool.and_eq_true, decide_eq_true_iff, decide_eq_true_iff]
    exact Iff.rfl
  have jumps : ('1' ≤ symbol && symbol ≤ '9') = true
      ↔ 49 ≤ symbol.toNat ∧ symbol.toNat ≤ 57 := by
    rw [Bool.and_eq_true, decide_eq_true_iff, decide_eq_true_iff]
    exact Iff.rfl
  by_cases between : 49 ≤ symbol.toNat ∧ symbol.toNat ≤ 57
  · rw [jumpCount?, if_pos (jumps.mpr between), stepsOf, if_pos (digit.mpr (by omega))]
    rfl
  · rw [jumpCount?, if_neg (mt jumps.mp between), stepsOf]
    by_cases isDigit : symbol.isDigit
    · have bounds := digit.mp isDigit
      rw [if_pos isDigit]
      change symbol.toNat - 48 = 0
      omega
    · rw [if_neg isDigit]
      rfl

namespace ShowsStep

variable {timeline : Timeline} {metrics : Scene.Metrics} {index : Nat} {session : Session}

/-- A session starts at the first step. -/
theorem new (timeline : Timeline) (metrics : Scene.Metrics) :
    (Session.new timeline metrics).ShowsStep timeline metrics 0 :=
  ⟨rfl, rfl, rfl, rfl, Nat.zero_le _⟩

/-- Only the timeline, the metrics, the cursor and the view matter. -/
theorem of_eq (shown : session.ShowsStep timeline metrics index) {other : Session}
    (sameTimeline : other.timeline = session.timeline)
    (sameMetrics : other.metrics = session.metrics) (sameCursor : other.cursor = session.cursor)
    (sameView : other.view = session.view) : other.ShowsStep timeline metrics index where
  timeline_eq := sameTimeline.trans shown.timeline_eq
  metrics_eq := sameMetrics.trans shown.metrics_eq
  cursor_eq := sameCursor.trans shown.cursor_eq
  view_eq := sameView.trans shown.view_eq
  index_le := shown.index_le

/-- A moved session shows the step that it moved to. -/
theorem moveTo (shown : session.ShowsStep timeline metrics index) {cursor : Cursor}
    {destination : Nat} (there : cursor.index = destination)
    (within : destination ≤ timeline.length) :
    (session.moveTo cursor).ShowsStep timeline metrics destination where
  timeline_eq := shown.timeline_eq
  metrics_eq := shown.metrics_eq
  cursor_eq := congrArg Cursor.mk there
  view_eq := by rw [← there, ← shown.timeline_eq, ← shown.metrics_eq]; rfl
  index_le := within

/-- Ending the session changes nothing that is shown. -/
theorem stop (shown : session.ShowsStep timeline metrics index) :
    session.stop.ShowsStep timeline metrics index :=
  shown.of_eq rfl rfl rfl rfl

/-- A message changes nothing else that is shown. -/
theorem say (shown : session.ShowsStep timeline metrics index) (message : String) :
    (session.say message).ShowsStep timeline metrics index :=
  shown.of_eq rfl rfl rfl rfl

/-- Scrolling a pane keeps the step. -/
theorem scroll (shown : session.ShowsStep timeline metrics index) (downwards : Bool) :
    (session.scroll downwards).ShowsStep timeline metrics index := by
  unfold Session.scroll
  cases session.focus <;> exact shown.of_eq rfl rfl rfl rfl

/-- Several steps forward end at the last one at the latest. -/
theorem jump (shown : session.ShowsStep timeline metrics index) (count : Nat) :
    (session.jump count).ShowsStep timeline metrics (min (index + count) timeline.length) := by
  have there : (advance session.timeline count session.cursor).1.index
      = min (index + count) timeline.length := by
    rw [shown.timeline_eq, shown.cursor_eq]
    exact advance_index timeline count ⟨index⟩ shown.index_le
  exact (shown.stop.moveTo there (Nat.min_le_right _ _)).say _

/-- Going back from the first step stays there. -/
theorem stepBack (shown : session.ShowsStep timeline metrics index) (moved stayed : String) :
    (session.stepTo session.cursor.previous? moved stayed).ShowsStep timeline metrics
      (index - 1) := by
  rw [shown.cursor_eq]
  by_cases later : 0 < index
  · have previous : (⟨index⟩ : Cursor).previous? = some ⟨index - 1⟩ := if_pos later
    have within : index - 1 ≤ timeline.length := Nat.le_trans (Nat.sub_le _ _) shown.index_le
    rw [previous]
    exact (shown.stop.moveTo rfl within).say moved
  · have previous : (⟨index⟩ : Cursor).previous? = none := if_neg later
    have stays : index - 1 = index := by omega
    rw [previous, stays]
    exact shown.stop.say stayed

/-- Going forward from the last step stays there. -/
theorem stepForward (shown : session.ShowsStep timeline metrics index) (moved stayed : String) :
    (session.stepTo (session.cursor.next? session.timeline) moved stayed).ShowsStep timeline
      metrics (min (index + 1) timeline.length) := by
  rw [shown.cursor_eq, shown.timeline_eq]
  by_cases more : index < timeline.length
  · have next : (⟨index⟩ : Cursor).next? timeline = some ⟨index + 1⟩ := if_pos more
    rw [next, Nat.min_eq_left more]
    exact (shown.stop.moveTo rfl more).say moved
  · have next : (⟨index⟩ : Cursor).next? timeline = none := if_neg more
    have stays : min (index + 1) timeline.length = index := by
      have bounded := shown.index_le
      omega
    rw [next, stays]
    exact shown.stop.say stayed

/-- A character moves by its digit, so the characters that quit do not move. -/
theorem character (shown : session.ShowsStep timeline metrics index) (symbol : Char) :
    (session.press (.character symbol)).ShowsStep timeline metrics
      (min (index + stepsOf symbol) timeline.length) := by
  have stays : min (index + 0) timeline.length = index := Nat.min_eq_left shown.index_le
  rw [stepsOf_eq, Session.press]
  split
  · next quits =>
    have noCount : jumpCount? symbol = none := by
      rw [Bool.or_eq_true, decide_eq_true_iff, decide_eq_true_iff] at quits
      rcases quits with rfl | rfl <;> decide
    rw [noCount, Option.getD_none, stays]
    exact shown.of_eq rfl rfl rfl rfl
  · cases counted : jumpCount? symbol with
    | none =>
      rw [Option.getD_none, stays]
      exact shown
    | some count => exact shown.jump count

/-- A key leads to its destination. -/
theorem press (shown : session.ShowsStep timeline metrics index) (key : Key) :
    (session.press key).ShowsStep timeline metrics (key.destination timeline.length index) := by
  cases key with
  | left => exact shown.stepBack _ _
  | right => exact shown.stepForward _ _
  | up => exact shown.scroll false
  | down => exact shown.scroll true
  | tab => exact shown.of_eq rfl rfl rfl rfl
  | enter =>
    have there : (Cursor.atEnd session.timeline).index = timeline.length := by
      rw [shown.timeline_eq]
      rfl
    exact (shown.stop.moveTo there (Nat.le_refl _)).say _
  | backspace => exact (shown.stop.moveTo rfl (Nat.zero_le _)).say _
  | space elapsed =>
    rw [Session.press]
    split
    · exact shown.of_eq rfl rfl rfl rfl
    · exact shown
  | character symbol => exact shown.character symbol
  | other => exact shown

/-- A stimulus leads to its destination; drawing moves scroll offsets only. -/
theorem react (shown : session.ShowsStep timeline metrics index) (stimulus : Stimulus) :
    (session.react stimulus).ShowsStep timeline metrics
      (stimulus.destination timeline.length index) := by
  cases stimulus with
  | press key => exact shown.press key
  | draw width height => exact shown.of_eq rfl rfl rfl rfl

/-- Any number of stimuli lead from destination to destination. -/
theorem foldl_react (shown : session.ShowsStep timeline metrics index)
    (stimuli : List Stimulus) :
    (stimuli.foldl Session.react session).ShowsStep timeline metrics
      (stimuli.foldl (fun index stimulus => stimulus.destination timeline.length index)
        index) := by
  induction stimuli generalizing session index with
  | nil => exact shown
  | cons stimulus rest inductionHypothesis => exact inductionHypothesis (shown.react stimulus)

end ShowsStep

/-- A session never shows a stale step. Opened at a step, it stands there or at the end,
whichever comes first, for every timeline that 64-bit integers can count. After any keys
and drawings it stands where the keys lead to, within the timeline, and the snapshot, the
scene, the drawing and the frames that it keeps are those of that step. Drawing keeps both
the step and the view. -/
theorem view_never_stale (timeline : Timeline) (metrics : Scene.Metrics) (step : Nat)
    (stimuli : List Stimulus) :
    let opened := (Session.new timeline metrics).withStep step
    let session := stimuli.foldl Session.react opened
    let index := session.cursor.index
    let snapshot := timeline.snapshot index
    opened.cursor.index = min (min step Text.maxInteger) timeline.length
      ∧ (timeline.length ≤ Text.maxInteger → opened.cursor.index = min step timeline.length)
      ∧ session.timeline = timeline
      ∧ session.metrics = metrics
      ∧ index = stimuli.foldl (fun index stimulus => stimulus.destination timeline.length index)
          opened.cursor.index
      ∧ index ≤ timeline.length
      ∧ session.view.snapshot = snapshot
      ∧ session.view.scene = snapshot.scene metrics
      ∧ session.view.drawing = (snapshot.scene metrics).drawing
      ∧ session.view.frames = snapshot.frames
      ∧ ∀ width height, (session.render width height).1.cursor = session.cursor
          ∧ (session.render width height).1.view = session.view := by
  intro opened session index snapshot
  have openedIndex : opened.cursor.index = min (min step Text.maxInteger) timeline.length := rfl
  have openedShown : opened.ShowsStep timeline metrics opened.cursor.index :=
    (ShowsStep.new timeline metrics).moveTo rfl (openedIndex ▸ Nat.min_le_right _ _)
  have shown := openedShown.foldl_react stimuli
  have arrived : index = _ := congrArg Cursor.index shown.cursor_eq
  have view : session.view = .at timeline metrics ⟨index⟩ := arrived ▸ shown.view_eq
  refine ⟨openedIndex, fun counted => ?_, shown.timeline_eq, shown.metrics_eq, arrived,
    arrived ▸ shown.index_le, ?_⟩
  · rw [openedIndex]
    omega
  · rw [view]
    exact ⟨rfl, rfl, rfl, rfl, fun _ _ => ⟨rfl, view⟩⟩

/-- Opened at the largest count, a timeline of two events is at its end. One step back and
three forward, it is at its end again. -/
theorem view_never_stale_largest_count :
    let timeline : Timeline := ⟨[.push "main" none, .pop "main" none]⟩
    let opened := (Session.new timeline .default).withStep Text.maxCounter
    let stimuli : List Stimulus := [.press .left, .draw 80 24, .press (.character '3')]
    timeline.length ≤ Text.maxInteger
      ∧ opened.cursor.index = 2
      ∧ (stimuli.foldl react opened).cursor.index = 2 := by
  intro timeline opened stimuli
  have counted : timeline.length ≤ Text.maxInteger := by decide
  obtain ⟨-, openedIndex, -, -, arrived, -⟩ :=
    view_never_stale timeline .default Text.maxCounter stimuli
  have atEnd : opened.cursor.index = 2 := openedIndex counted
  refine ⟨counted, atEnd, arrived.trans ?_⟩
  rw [atEnd]
  decide

end Session

end MemoryTimeline.Viewer
