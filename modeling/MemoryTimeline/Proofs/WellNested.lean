import MemoryTimeline.Proofs.Balance

/-!
# Well-nested timelines

Strict replay checks the nesting of scopes with a stack. Beside it stands a grammar: a word of
opening and closing events is well nested if it is empty, or opens a scope, goes on with a
well-nested word, closes the same scope and ends with a well-nested word (`WellNested`). A word
that replays strictly consists of well-nested words with the openings of the scopes still open
between them (`LeavesOpen`), and every such word replays strictly.
-/

namespace MemoryTimeline

namespace Event

/-- Whether an event opens or closes a scope. -/
def changesScopes (event : Event) : Bool := event.isPush || event.isPop

/-- An event that opens and closes nothing leaves the open scopes alone. -/
theorem applyStrict_of_not_changesScopes {event : Event} (silent : event.changesScopes = false)
    (openScopes : List String) : event.applyStrict openScopes = some openScopes := by
  cases event with
  | push => contradiction
  | pop => contradiction
  | var => rfl
  | memberWrite => rfl

/-- Only the events that open or close a scope count for a replay. -/
theorem replay_filter_changesScopes (events : List Event) (start : List String) :
    (events.filter changesScopes).foldlM applyStrict start =
      events.foldlM applyStrict start := by
  induction events generalizing start with
  | nil => rfl
  | cons event rest inductionHypothesis =>
      cases changes : event.changesScopes with
      | true =>
          rw [List.filter_cons_of_pos changes, List.foldlM_cons, List.foldlM_cons]
          simp only [inductionHypothesis]
      | false =>
          rw [List.filter_cons_of_neg (by simp [changes]), List.foldlM_cons,
            applyStrict_of_not_changesScopes changes, inductionHypothesis]
          rfl

end Event

/-- Words of opening and closing events in which every scope that is opened is closed, and in
which a scope is closed only when all scopes opened inside it are. Lines do not matter. -/
inductive WellNested : List Event → Prop where
  | nil : WellNested []
  | enclose {scope : String} {opening closing : Option Nat} {inner rest : List Event}
      (inside : WellNested inner) (after : WellNested rest) :
      WellNested (.push scope opening :: inner ++ .pop scope closing :: rest)

namespace WellNested

variable {first second : List Event}

theorem append (nested : WellNested first) (more : WellNested second) :
    WellNested (first ++ second) := by
  induction nested with
  | nil => exact more
  | enclose inside _ _ afterHypothesis =>
      rw [List.append_assoc, List.cons_append]
      exact .enclose inside afterHypothesis

/-- A well-nested word leaves the open scopes as it found them, whatever they are. -/
theorem replay_eq (nested : WellNested first) (openScopes : List String) :
    first.foldlM Event.applyStrict openScopes = some openScopes := by
  induction nested generalizing openScopes with
  | nil => rfl
  | @enclose scope opening closing inner rest _ _ insideHypothesis afterHypothesis =>
      rw [Event.replay_append_eq_some_iff]
      refine ⟨scope :: openScopes, insideHypothesis (scope :: openScopes), ?_⟩
      rw [List.foldlM_cons, Event.applyStrict_pop]
      exact afterHypothesis openScopes

end WellNested

/-- Words that leave the given scopes open, innermost first: well-nested words, and between
them the opening events of these scopes. -/
inductive LeavesOpen : List Event → List String → Prop where
  | closed {word : List Event} (nested : WellNested word) : LeavesOpen word []
  | opened {outer inner : List Event} {scope : String} {line : Option Nat}
      {openScopes : List String} (around : LeavesOpen outer openScopes)
      (nested : WellNested inner) :
      LeavesOpen (outer ++ .push scope line :: inner) (scope :: openScopes)

namespace LeavesOpen

variable {word : List Event} {openScopes : List String}

/-- The open scopes are those of a strict replay. -/
theorem replay_eq (leaves : LeavesOpen word openScopes) :
    word.foldlM Event.applyStrict [] = some openScopes := by
  induction leaves with
  | closed nested => exact nested.replay_eq []
  | opened _ nested aroundHypothesis =>
      rw [Event.replay_append_eq_some_iff]
      exact ⟨_, aroundHypothesis, nested.replay_eq _⟩

/-- A well-nested word at the end joins the innermost one. -/
theorem append (leaves : LeavesOpen word openScopes) {more : List Event}
    (nested : WellNested more) : LeavesOpen (word ++ more) openScopes := by
  cases leaves with
  | closed whole => exact .closed (whole.append nested)
  | opened around innermost =>
      rw [List.append_assoc, List.cons_append]
      exact .opened around (innermost.append nested)

/-- Closing the innermost scope makes a well-nested word of its opening and all since, which
joins the one before. -/
theorem close {scope : String} (leaves : LeavesOpen word (scope :: openScopes))
    (line : Option Nat) : LeavesOpen (word ++ [.pop scope line]) openScopes := by
  cases leaves with
  | opened around nested =>
      rw [List.append_assoc]
      exact around.append (.enclose nested .nil)

/-- One event leads from the open scopes before it to those after it. -/
theorem step (leaves : LeavesOpen word openScopes) {event : Event} {next : List String}
    (applied : event.applyStrict openScopes = some next) :
    LeavesOpen (word ++ [event].filter Event.changesScopes) next := by
  cases event with
  | push scope line =>
      cases applied
      exact .opened leaves .nil
  | pop scope line =>
      rw [Event.applyStrict_pop_eq_some applied] at leaves
      exact leaves.close line
  | var record =>
      cases applied
      exact leaves.append .nil
  | memberWrite write =>
      cases applied
      exact leaves.append .nil

/-- A whole replay, from any word. -/
theorem replay (leaves : LeavesOpen word openScopes) {events : List Event} {final : List String}
    (replayed : events.foldlM Event.applyStrict openScopes = some final) :
    LeavesOpen (word ++ events.filter Event.changesScopes) final := by
  induction events generalizing word openScopes with
  | nil =>
      cases replayed
      exact leaves.append .nil
  | cons event rest inductionHypothesis =>
      rw [List.foldlM_cons] at replayed
      obtain ⟨next, applied, continued⟩ := Option.bind_eq_some_iff.mp replayed
      have whole := inductionHypothesis (leaves.step applied) continued
      rwa [List.append_assoc, ← List.filter_append, List.singleton_append] at whole

end LeavesOpen

namespace Timeline

/-- The events that open and close scopes, in order. -/
def scopeEvents (timeline : Timeline) : List Event := timeline.events.filter Event.changesScopes

/-- A timeline replays strictly exactly when it consists of well-nested words and the openings
of the scopes that it leaves open. -/
theorem openScopes?_eq_some_iff {timeline : Timeline} {openScopes : List String} :
    timeline.openScopes? = some openScopes ↔ LeavesOpen timeline.scopeEvents openScopes := by
  constructor
  · intro replayed
    exact (LeavesOpen.closed .nil).replay replayed
  · intro leaves
    rw [openScopes?, ← Event.replay_filter_changesScopes]
    exact leaves.replay_eq

/-- The timelines that pass for balanced, among all lists of events, are those in which one
opening of the global scope stands between two well-nested words. The global scope may be
opened and closed inside these words like any other. -/
theorem isBalanced_iff_wellNested (timeline : Timeline) :
    timeline.isBalanced = true ↔
      ∃ before line after, WellNested before ∧ WellNested after ∧
        timeline.scopeEvents = before ++ .push globalScope line :: after := by
  rw [isBalanced, beq_iff_eq, openScopes?_eq_some_iff]
  constructor
  · intro leaves
    generalize timeline.scopeEvents = word at leaves ⊢
    cases leaves with
    | opened around nested =>
        cases around with
        | closed outer => exact ⟨_, _, _, outer, nested, rfl⟩
  · rintro ⟨before, line, after, outer, nested, split⟩
    rw [split]
    exact .opened (.closed outer) nested

end Timeline

end MemoryTimeline
