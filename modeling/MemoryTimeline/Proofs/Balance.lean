import MemoryTimeline.Proofs.Recording

/-!
# Balanced timelines

Strict replay closes only the innermost open scope. A walk leaves the open scopes as
it found them, whatever they are, since every scope that it opens it closes again
(`Recording.openScopes?_eq`). So the timeline of a program replays strictly and leaves
exactly the global scope open, and pushes and pops can be counted along it.
-/

namespace MemoryTimeline

namespace Event

/-- A replay of two parts is a replay of the first, continued by the second. -/
theorem replay_append_eq_some_iff {first second : List Event} {start final : List String} :
    (first ++ second).foldlM applyStrict start = some final ↔
      ∃ middle, first.foldlM applyStrict start = some middle ∧
        second.foldlM applyStrict middle = some final := by
  rw [List.foldlM_append]
  exact Option.bind_eq_some_iff

/-- One event opens one scope, closes one, or leaves them alone. -/
theorem applyStrict_length {event : Event} {start final : List String}
    (applied : applyStrict start event = some final) :
    final.length + (if event.isPop then 1 else 0) =
      start.length + (if event.isPush then 1 else 0) := by
  cases event with
  | push scope line =>
      cases applied
      rfl
  | pop scope line =>
      cases start with
      | nil => contradiction
      | cons innermost outer =>
          simp only [applyStrict] at applied
          split at applied
          · cases applied
            rfl
          · contradiction
  | var record =>
      cases applied
      rfl
  | memberWrite write =>
      cases applied
      rfl

/-- A replay ends with as many more scopes as the events open more than they close. -/
theorem replay_length {events : List Event} {start final : List String}
    (replayed : events.foldlM applyStrict start = some final) :
    final.length + events.countP isPop = start.length + events.countP isPush := by
  induction events generalizing start with
  | nil =>
      cases replayed
      rfl
  | cons event rest inductionHypothesis =>
      rw [List.foldlM_cons] at replayed
      obtain ⟨middle, applied, continued⟩ := Option.bind_eq_some_iff.mp replayed
      have counted := applyStrict_length applied
      have restCounted := inductionHypothesis continued
      rw [List.countP_cons, List.countP_cons]
      omega

/-- The innermost scope can be closed. -/
theorem applyStrict_pop (scope : String) (line : Option Nat) (outer : List String) :
    applyStrict (scope :: outer) (.pop scope line) = some outer := if_pos rfl

/-- A replay that gets past a closing event closes the innermost scope there. -/
theorem applyStrict_pop_eq_some {scope : String} {line : Option Nat}
    {start final : List String} (applied : applyStrict start (.pop scope line) = some final) :
    start = scope :: final := by
  cases start with
  | nil => contradiction
  | cons innermost outer =>
      simp only [applyStrict] at applied
      split at applied
      next same =>
        cases applied
        rw [same]
      · contradiction

end Event

namespace Timeline

/-- The timeline up to a step. -/
def upTo (timeline : Timeline) (step : Nat) : Timeline := ⟨timeline.events.take step⟩

/-- A timeline that replays strictly does so up to every step. -/
theorem openScopes?_upTo {timeline : Timeline} {final : List String}
    (replayed : timeline.openScopes? = some final) (step : Nat) :
    ∃ openScopes, (timeline.upTo step).openScopes? = some openScopes := by
  unfold openScopes? at replayed
  rw [← List.take_append_drop step timeline.events] at replayed
  obtain ⟨middle, first, _⟩ := Event.replay_append_eq_some_iff.mp replayed
  exact ⟨middle, first⟩

/-- A timeline that replays strictly closes each scope as the innermost one. -/
theorem openScopes?_before_pop {timeline : Timeline} {final : List String}
    (replayed : timeline.openScopes? = some final) {before after : List Event} {scope : String}
    {line : Option Nat} (split : timeline.events = before ++ .pop scope line :: after) :
    ∃ outer, openScopes? ⟨before⟩ = some (scope :: outer) := by
  unfold openScopes? at replayed
  rw [split] at replayed
  obtain ⟨middle, first, second⟩ := Event.replay_append_eq_some_iff.mp replayed
  rw [List.foldlM_cons] at second
  obtain ⟨outer, closed, _⟩ := Option.bind_eq_some_iff.mp second
  rw [Event.applyStrict_pop_eq_some closed] at first
  exact ⟨outer, first⟩

/-- The open scopes of a strict replay are the pushes less the pops. -/
theorem length_openScopes {timeline : Timeline} {openScopes : List String}
    (replayed : timeline.openScopes? = some openScopes) :
    openScopes.length + timeline.popCount = timeline.pushCount := by
  have counted := Event.replay_length replayed
  rw [List.length_nil, Nat.zero_add] at counted
  exact counted

end Timeline

namespace Recorder

/-- An event is added at the end of the timeline. -/
@[simp] theorem timeline_emit (event : Event) (recorder : Recorder) :
    (recorder.emit event).timeline.events = recorder.timeline.events ++ [event] := by
  simp [timeline, emit]

/-- Records are added to the history latest first. -/
theorem history_recordAll (entries : List Record) (recorder : Recorder) :
    (recorder.recordAll entries).history = (entries.map Event.var).reverse ++ recorder.history := by
  induction entries generalizing recorder with
  | nil => rfl
  | cons entry rest inductionHypothesis =>
      rw [recordAll, List.foldl_cons]
      refine (inductionHypothesis (recorder.record entry)).trans ?_
      simp [record, emit]

/-- Records are added at the end of the timeline. -/
@[simp] theorem timeline_recordAll (entries : List Record) (recorder : Recorder) :
    (recorder.recordAll entries).timeline.events =
      recorder.timeline.events ++ entries.map Event.var := by
  simp [timeline, history_recordAll]

/-- Emitting an event replays it on the open scopes. -/
theorem openScopes?_emit {event : Event} {recorder : Recorder} {openScopes next : List String}
    (replayed : recorder.timeline.openScopes? = some openScopes)
    (applied : event.applyStrict openScopes = some next) :
    (recorder.emit event).timeline.openScopes? = some next := by
  unfold Timeline.openScopes?
  rw [timeline_emit, Event.replay_append_eq_some_iff]
  refine ⟨openScopes, replayed, ?_⟩
  rw [List.foldlM_cons, applied]
  rfl

namespace Recording

/-- A walk leaves the open scopes as it found them. The scope of an action is open
while its body records, so the induction is over all lists of open scopes. -/
theorem openScopes?_eq {before after : Recorder} (recording : Recording before after)
    {openScopes : List String} (replayed : before.timeline.openScopes? = some openScopes) :
    after.timeline.openScopes? = some openScopes := by
  induction recording generalizing openScopes with
  | refl => exact replayed
  | trans _ _ firstHypothesis secondHypothesis => exact secondHypothesis (firstHypothesis replayed)
  | ordinary => exact openScopes?_emit replayed rfl
  | parameter => exact openScopes?_emit replayed rfl
  | allocation => exact openScopes?_emit (openScopes?_emit replayed rfl) rfl
  | memberWrite => exact openScopes?_emit replayed rfl
  | countBlock => exact replayed
  | @scope before _ scope line _ bodyHypothesis =>
      have opened : (before.emit (.push scope line)).timeline.openScopes? =
          some (scope :: openScopes) := openScopes?_emit replayed rfl
      have closed := Event.applyStrict_pop scope none openScopes
      exact openScopes?_emit (bodyHypothesis opened) closed

/-- A walk only adds events at the end of the timeline. -/
theorem timeline_extends {before after : Recorder} (recording : Recording before after) :
    before.timeline.events <+: after.timeline.events := by
  have emitted (event : Event) (recorder : Recorder) :
      recorder.timeline.events <+: (recorder.emit event).timeline.events := by
    rw [timeline_emit]
    exact List.prefix_append _ _
  induction recording with
  | refl => exact List.prefix_rfl
  | trans _ _ firstHypothesis secondHypothesis => exact firstHypothesis.trans secondHypothesis
  | ordinary => exact emitted _ _
  | parameter => exact emitted _ _
  | allocation => exact (emitted _ _).trans (emitted _ _)
  | memberWrite => exact emitted _ _
  | countBlock => exact List.prefix_rfl
  | scope _ _ _ bodyHypothesis =>
      exact (emitted _ _).trans (bodyHypothesis.trans (emitted _ _))

end Recording

end Recorder

namespace Program

/-- The timeline of a program opens with the global scope. -/
theorem timeline_events_eq_cons (program : Program) (naming : ScopeNaming) :
    ∃ events, (program.timeline naming).events = .push globalScope none :: events := by
  obtain ⟨events, split⟩ := (Recorder.Recording.run { program, naming }).timeline_extends
  exact ⟨events, split.symm⟩

/-- The timeline of a program replays strictly and leaves the global scope open. -/
theorem timeline_openScopes? (program : Program) (naming : ScopeNaming) :
    (program.timeline naming).openScopes? = some [globalScope] :=
  (Recorder.Recording.run { program, naming }).openScopes?_eq rfl

/-- The timeline of every program is balanced, under either naming of blocks. It opens
with the global scope, every scope is closed as the innermost one, and the global scope
alone is left open. So it has one push more than pops, and up to no step more pops than
pushes. -/
theorem timeline_balanced (program : Program) (naming : ScopeNaming) :
    let timeline := program.timeline naming
    timeline.events.head? = some (.push globalScope none) ∧
      timeline.isBalanced = true ∧
      (∀ before scope line after, timeline.events = before ++ .pop scope line :: after →
        ∃ outer, Timeline.openScopes? ⟨before⟩ = some (scope :: outer)) ∧
      timeline.openScopes? = some [globalScope] ∧
      timeline.pushCount = timeline.popCount + 1 ∧
      ∀ step, (timeline.upTo step).popCount ≤ (timeline.upTo step).pushCount := by
  intro timeline
  have replayed : timeline.openScopes? = some [globalScope] := program.timeline_openScopes? naming
  refine ⟨?_, ?_, ?_, replayed, ?_, ?_⟩
  · obtain ⟨events, split⟩ := program.timeline_events_eq_cons naming
    rw [split]
    rfl
  · rw [Timeline.isBalanced, replayed]
    rfl
  · intro before scope line after split
    exact Timeline.openScopes?_before_pop replayed split
  · have counted := Timeline.length_openScopes replayed
    rw [← counted, List.length_singleton, Nat.add_comm]
  · intro step
    obtain ⟨openScopes, replayedUpTo⟩ := Timeline.openScopes?_upTo replayed step
    have counted := Timeline.length_openScopes replayedUpTo
    omega

end Program

end MemoryTimeline
