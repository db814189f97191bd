import MemoryTimeline.Proofs.Balance
import MemoryTimeline.Snapshot.Basic

/-!
# The stack of a snapshot and the scopes of the walk

A snapshot replays scopes tolerantly: it never closes the global scope. Beside a strict
replay of the same events, it keeps the same local scopes in the same order, and one
more global entry for every global scope that was closed (`Agrees`). A call or a main
function opens such a scope if its name is `global` or missing. So the stack of a
snapshot shows the open scopes exactly as long as no scope named `global` has been closed.
-/

namespace MemoryTimeline

/-- Whether an event closes a scope of the given name. -/
def Event.closes (scope : String) : Event → Bool
  | .pop closed _ => closed = scope
  | _ => false

namespace Snapshot

/-- The scopes other than the global one. -/
def localScopes (scopes : List String) : List String := scopes.filter (· ≠ globalScope)

@[simp] theorem localScopes_cons_global (scopes : List String) :
    localScopes (globalScope :: scopes) = localScopes scopes := by
  simp [localScopes]

@[simp] theorem localScopes_cons_of_ne {scope : String} (scopes : List String)
    (isLocal : scope ≠ globalScope) :
    localScopes (scope :: scopes) = scope :: localScopes scopes := by
  simp [localScopes, isLocal]

/-- Closing a scope closes it among the local ones. -/
theorem localScopes_erase (scope : String) (scopes : List String) :
    localScopes (scopes.erase scope) = (localScopes scopes).erase scope :=
  List.erase_filter.symm

theorem localScopes_append (first second : List String) :
    localScopes (first ++ second) = localScopes first ++ localScopes second :=
  List.filter_append ..

theorem localScopes_reverse (scopes : List String) :
    localScopes scopes.reverse = (localScopes scopes).reverse :=
  List.filter_reverse ..

/-- How a tolerant replay stands to a strict one after some global scopes were closed. -/
structure Agrees (strict tolerant : List String) (closed : Nat) : Prop where
  locals : localScopes tolerant = localScopes strict
  globals : tolerant.count globalScope = strict.count globalScope + closed

/-- One event keeps the agreement, and counts if it closes a global scope. -/
theorem Agrees.step {strict tolerant next : List String} {closed : Nat} {event : Event}
    (agrees : Agrees strict tolerant closed) (applied : event.applyStrict strict = some next) :
    Agrees next (applyScope tolerant event)
      (closed + if event.closes globalScope then 1 else 0) := by
  cases event with
  | push scope line =>
      cases applied
      by_cases isGlobal : scope = globalScope
      · subst isGlobal
        refine ⟨?_, ?_⟩
        · simpa [applyScope] using agrees.locals
        · have globals := agrees.globals
          simp [applyScope, Event.closes]
          omega
      · refine ⟨?_, ?_⟩
        · simpa [applyScope, isGlobal] using agrees.locals
        · simpa [applyScope, Event.closes, isGlobal] using agrees.globals
  | pop scope line =>
      obtain rfl := Event.applyStrict_pop_eq_some applied
      by_cases isGlobal : scope = globalScope
      · subst isGlobal
        refine ⟨?_, ?_⟩
        · simpa [applyScope] using agrees.locals
        · have globals := agrees.globals
          simp [applyScope, Event.closes] at globals ⊢
          omega
      · refine ⟨?_, ?_⟩
        · have locals := agrees.locals
          rw [applyScope, if_neg isGlobal, localScopes_erase, locals,
            localScopes_cons_of_ne _ isGlobal, List.erase_cons_head]
        · have globals := agrees.globals
          rw [List.count_cons_of_ne isGlobal] at globals
          rw [applyScope, if_neg isGlobal, List.count_erase_of_ne (Ne.symm isGlobal), globals]
          simp [Event.closes, isGlobal]
  | var record =>
      cases applied
      exact agrees
  | memberWrite write =>
      cases applied
      exact agrees

/-- A whole replay keeps the agreement. -/
theorem Agrees.replay {events : List Event} {strict tolerant final : List String} {closed : Nat}
    (agrees : Agrees strict tolerant closed)
    (replayed : events.foldlM Event.applyStrict strict = some final) :
    Agrees final (events.foldl applyScope tolerant)
      (closed + events.countP (Event.closes globalScope)) := by
  induction events generalizing strict tolerant closed with
  | nil =>
      cases replayed
      exact agrees
  | cons event rest inductionHypothesis =>
      rw [List.foldlM_cons] at replayed
      obtain ⟨middle, applied, continued⟩ := Option.bind_eq_some_iff.mp replayed
      have continuedAgrees := inductionHypothesis (agrees.step applied) continued
      rw [List.countP_cons, Nat.add_comm (List.countP _ rest), ← Nat.add_assoc]
      exact continuedAgrees

/-- Without a closed global scope, the two replays do the same. -/
theorem replay_eq_of_forall_not_closes {events : List Event} {start final : List String}
    (replayed : events.foldlM Event.applyStrict start = some final)
    (kept : ∀ event ∈ events, event.closes globalScope = false) :
    events.foldl applyScope start = final := by
  induction events generalizing start with
  | nil =>
      cases replayed
      rfl
  | cons event rest inductionHypothesis =>
      rw [List.foldlM_cons] at replayed
      obtain ⟨middle, applied, continued⟩ := Option.bind_eq_some_iff.mp replayed
      have restKept := fun later (member : later ∈ rest) => kept later (by simp [member])
      have same : applyScope start event = middle := by
        cases event with
        | pop scope line =>
            obtain rfl := Event.applyStrict_pop_eq_some applied
            have isLocal : scope ≠ globalScope := by
              simpa [Event.closes] using kept (.pop scope line) (by simp)
            rw [applyScope, if_neg isLocal, List.erase_cons_head]
        | push => exact Option.some.inj applied
        | var => exact Option.some.inj applied
        | memberWrite => exact Option.some.inj applied
      rw [List.foldl_cons, same]
      exact inductionHypothesis continued restKept

/-- The outermost global scope stays where it is, below whatever one event does. -/
theorem applyScope_append_global (inner : List String) (event : Event) :
    applyScope (inner ++ [globalScope]) event = applyScope inner event ++ [globalScope] := by
  cases event with
  | push => rfl
  | pop scope line =>
      by_cases isGlobal : scope = globalScope
      · simp [applyScope, isGlobal]
      · rw [applyScope, applyScope, if_neg isGlobal, if_neg isGlobal, List.erase_append]
        split
        · rfl
        next absent =>
          rw [List.erase_of_not_mem absent, List.erase_of_not_mem]
          simpa using isGlobal
  | var => rfl
  | memberWrite => rfl

/-- A global scope at the bottom stays there, whatever is opened and closed above it. -/
theorem replay_append_global (inner : List String) (events : List Event) :
    events.foldl applyScope (inner ++ [globalScope]) =
      events.foldl applyScope inner ++ [globalScope] := by
  induction events generalizing inner with
  | nil => rfl
  | cons event rest inductionHypothesis =>
      rw [List.foldl_cons, List.foldl_cons, applyScope_append_global]
      exact inductionHypothesis (applyScope inner event)

/-- Events that begin by opening the global scope need no other scope put first. -/
theorem stackAfter_push_global (line : Option Nat) (events : List Event) :
    stackAfter (.push globalScope line :: events) =
      (openScopes (.push globalScope line :: events)).reverse := by
  have rooted : openScopes (.push globalScope line :: events) =
      events.foldl applyScope [] ++ [globalScope] := replay_append_global [] events
  rw [stackAfter, rooted, List.reverse_append, List.reverse_singleton, List.singleton_append]
  exact if_pos rfl

end Snapshot

namespace Timeline

variable {timeline : Timeline} {events : List Event} {line : Option Nat}

/-- The stack at a step, in a timeline that opens with the global scope. -/
theorem snapshot_stack_eq (opened : timeline.events = .push globalScope line :: events)
    (step : Nat) :
    (timeline.snapshot (step + 1)).stack =
      (Snapshot.openScopes (timeline.upTo (step + 1)).events).reverse := by
  have applied : timeline.events.take (step + 1) = .push globalScope line :: events.take step := by
    rw [opened, List.take_succ_cons]
  rw [snapshot, upTo, applied]
  exact Snapshot.stackAfter_push_global line _

/-- A strict replay up to a step agrees with the tolerant one. -/
theorem agrees_upTo {openScopes : List String} {step : Nat}
    (replayed : (timeline.upTo step).openScopes? = some openScopes) :
    Snapshot.Agrees openScopes (Snapshot.openScopes (timeline.upTo step).events)
      ((timeline.upTo step).events.countP (Event.closes globalScope)) := by
  have start : Snapshot.Agrees [] [] 0 := ⟨rfl, rfl⟩
  have agrees := start.replay replayed
  rw [Nat.zero_add] at agrees
  exact agrees

/-- The stack shows exactly the open scopes while no global scope has been closed. -/
theorem snapshot_stack_eq_iff (opened : timeline.events = .push globalScope line :: events)
    {step : Nat} {openScopes : List String}
    (replayed : (timeline.upTo (step + 1)).openScopes? = some openScopes) :
    (timeline.snapshot (step + 1)).stack = openScopes.reverse ↔
      ∀ event ∈ (timeline.upTo (step + 1)).events, event.closes globalScope = false := by
  rw [snapshot_stack_eq opened]
  constructor
  · intro same
    have globals := (agrees_upTo replayed).globals
    rw [List.reverse_inj.mp same] at globals
    have noneClosed : (timeline.upTo (step + 1)).events.countP (Event.closes globalScope) = 0 := by
      omega
    simpa using List.countP_eq_zero.mp noneClosed
  · intro kept
    rw [← Snapshot.replay_eq_of_forall_not_closes replayed kept]
    rfl

/-- At the end of a balanced timeline, every closed global scope is still on the stack. -/
theorem snapshot_stack_length (opened : timeline.events = .push globalScope line :: events)
    (replayed : timeline.openScopes? = some [globalScope]) :
    (timeline.snapshot timeline.length).stack =
      List.replicate (timeline.events.countP (Event.closes globalScope) + 1) globalScope := by
  have complete : timeline.upTo timeline.length = timeline := by
    rw [upTo, length, List.take_length]
  have agrees := agrees_upTo (complete.symm ▸ replayed)
  have allGlobal : ∀ scope ∈ Snapshot.openScopes timeline.events, globalScope = scope := by
    intro scope member
    have noLocals := agrees.locals
    rw [complete, Snapshot.localScopes_cons_global] at noLocals
    have notLocal := List.filter_eq_nil_iff.mp noLocals scope member
    have isGlobal : scope = globalScope := by simpa using notLocal
    exact isGlobal.symm
  have count : (Snapshot.openScopes timeline.events).length =
      timeline.events.countP (Event.closes globalScope) + 1 := by
    have globals := agrees.globals
    rw [complete, List.count_eq_length.mpr allGlobal, List.count_singleton_self] at globals
    omega
  have lengthEq : timeline.length = events.length + 1 := by
    rw [length, opened, List.length_cons]
  rw [lengthEq, snapshot_stack_eq opened, ← lengthEq, complete, List.reverse_eq_iff,
    List.reverse_replicate, List.eq_replicate_iff]
  exact ⟨count, fun scope member => (allGlobal scope member).symm⟩

end Timeline

namespace Program

/-- The stack of a snapshot against the scopes that the walk has open, after the first
event and at every later step. The local scopes always agree. The whole stack agrees
exactly when no scope named `global` has been closed so far, and at the end every such
scope has left one entry more behind. -/
theorem snapshot_stack_openScopes (program : Program) (naming : ScopeNaming) (step : Nat) :
    let timeline := program.timeline naming
    (∃ openScopes, (timeline.upTo (step + 1)).openScopes? = some openScopes ∧
      Snapshot.localScopes (timeline.snapshot (step + 1)).stack =
        Snapshot.localScopes openScopes.reverse ∧
      ((timeline.snapshot (step + 1)).stack = openScopes.reverse ↔
        ∀ event ∈ (timeline.upTo (step + 1)).events, event.closes globalScope = false)) ∧
      (timeline.snapshot timeline.length).stack =
        List.replicate (timeline.events.countP (Event.closes globalScope) + 1) globalScope := by
  intro timeline
  obtain ⟨events, opened⟩ := program.timeline_events_eq_cons naming
  have replayed : timeline.openScopes? = some [globalScope] := program.timeline_openScopes? naming
  refine ⟨?_, ?_⟩
  · obtain ⟨openScopes, replayedUpTo⟩ := Timeline.openScopes?_upTo replayed (step + 1)
    refine ⟨openScopes, replayedUpTo, ?_, Timeline.snapshot_stack_eq_iff opened replayedUpTo⟩
    have locals := (Timeline.agrees_upTo replayedUpTo).locals
    rw [Timeline.snapshot_stack_eq opened]
    simpa [Snapshot.localScopes] using locals
  · exact Timeline.snapshot_stack_length opened replayed

/-- A call without a name opens a second global scope, which stays on the stack after
the call has returned. -/
theorem snapshot_stack_nameless_call :
    let call : FunctionCall Node :=
      { name := "", args := [], body := [], scope := none, line := none }
    let timeline := Program.timeline ⟨[.functionCall call]⟩ .shared
    timeline.length = 3 ∧ (timeline.upTo 3).openScopes? = some ["global"] ∧
      (timeline.snapshot 3).stack = ["global", "global"] := by
  decide

end Program

end MemoryTimeline
