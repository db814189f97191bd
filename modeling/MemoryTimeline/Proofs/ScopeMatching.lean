import Mathlib.Data.List.Basic
import MemoryTimeline.Proofs.StackAgreement

/-!
# The stack as matched scopes

The stack of a snapshot is replayed from any events, balanced or not. Beside the replay stands
a matching of positions: each closing event belongs to the latest earlier event that opens its
scope and that no earlier closing event belongs to, and to none if there is no such event
(`openingOf?`). The local scopes on the stack are those opened by the events that nothing
closes. So each scope is matched by itself, however its events lie between those of others.
-/

namespace MemoryTimeline

namespace Event

/-- The scope that an event opens. -/
def opened? : Event → Option String
  | .push scope _ => some scope
  | _ => none

/-- The scope that an event closes. -/
def closed? : Event → Option String
  | .pop scope _ => some scope
  | _ => none

/-- What an event does to a scope: `true` if it opens it, and `false` if it closes it. -/
def bracket? (scope : String) (event : Event) : Option Bool :=
  if event.opened? = some scope then some true
  else if event.closed? = some scope then some false
  else none

end Event

namespace Snapshot

section Matching

variable (events : List Event)

/-- The scope that is opened at a position. -/
def openedAt? (position : Nat) : Option String := events[position]?.bind Event.opened?

/-- The scope that is closed at a position. -/
def closedAt? (position : Nat) : Option String := events[position]?.bind Event.closed?

/-- The position of the opening event that the closing event at a position belongs to: the
latest one before it of the same scope that no earlier closing event belongs to. -/
def openingOf? (closing : Nat) : Option Nat :=
  (closedAt? events closing).bind fun scope =>
    (List.range closing).reverse.find? fun opening =>
      openedAt? events opening = some scope ∧
        ∀ earlier : Fin closing, openingOf? earlier ≠ some opening
termination_by closing

/-- The scope that is opened at a position, unless one of the first events closes it. -/
def leftOpenAt? (count : Nat) (opening : Nat) : Option String :=
  if ∀ closing, closing < count → openingOf? events closing ≠ some opening then
    openedAt? events opening
  else none

/-- The scopes that the first events open and do not close, in the order of opening. -/
def leftOpen (count : Nat) : List String :=
  (List.range count).filterMap (leftOpenAt? events count)

end Matching

/-- A search from the end of a range finds the last position of its kind. -/
theorem find?_reverse_range_eq_some_iff {count position : Nat} {wanted : Nat → Bool} :
    (List.range count).reverse.find? wanted = some position ↔
      position < count ∧ wanted position ∧
        ∀ later, position < later → later < count → wanted later = false := by
  induction count with
  | zero => simp
  | succ count inductionHypothesis =>
      rw [List.range_succ, List.reverse_append, List.reverse_singleton, List.singleton_append,
        List.find?_cons]
      cases isWanted : wanted count with
      | true =>
          simp only [Option.some.injEq]
          constructor
          · rintro rfl
            exact ⟨Nat.lt_succ_self _, isWanted, by omega⟩
          · rintro ⟨inside, _, last⟩
            by_cases before : position < count
            · have notWanted := last count before (Nat.lt_succ_self _)
              simp [isWanted] at notWanted
            · omega
      | false =>
          rw [inductionHypothesis]
          constructor
          · rintro ⟨inside, found, last⟩
            refine ⟨by omega, found, ?_⟩
            intro later after before
            by_cases isLast : later = count
            · rw [isLast, isWanted]
            · exact last later after (by omega)
          · rintro ⟨inside, found, last⟩
            have notLast : position ≠ count := by
              rintro rfl
              simp [isWanted] at found
            exact ⟨by omega, found, fun later after before => last later after (by omega)⟩

variable {events : List Event} {opening closing count : Nat} {scope : String}

/-- The closing event at a position belongs to the opening event at an earlier one when this is
the latest of its scope that is still free. -/
theorem openingOf?_eq_some_iff (closes : closedAt? events closing = some scope) :
    openingOf? events closing = some opening ↔
      opening < closing ∧ openedAt? events opening = some scope ∧
        (∀ earlier, earlier < closing → openingOf? events earlier ≠ some opening) ∧
        ∀ later, opening < later → later < closing → openedAt? events later = some scope →
          ∃ earlier, earlier < closing ∧ openingOf? events earlier = some later := by
  rw [openingOf?, closes, Option.bind_some, find?_reverse_range_eq_some_iff]
  simp [Fin.forall_iff, and_assoc]

/-- A closing event belongs to none when no opening event of its scope is free. -/
theorem openingOf?_eq_none_iff (closes : closedAt? events closing = some scope) :
    openingOf? events closing = none ↔
      ∀ opening, opening < closing → openedAt? events opening = some scope →
        ∃ earlier, earlier < closing ∧ openingOf? events earlier = some opening := by
  rw [openingOf?, closes, Option.bind_some, List.find?_eq_none]
  simp [Fin.forall_iff]

/-- An event that closes nothing has no opening. -/
theorem openingOf?_eq_none_of_not_closing (silent : closedAt? events closing = none) :
    openingOf? events closing = none := by
  rw [openingOf?, silent]
  rfl

/-- A scope is opened before it is closed. -/
theorem lt_of_openingOf? (found : openingOf? events closing = some opening) :
    opening < closing := by
  cases closes : closedAt? events closing with
  | none =>
      rw [openingOf?_eq_none_of_not_closing closes] at found
      contradiction
  | some scope => exact ((openingOf?_eq_some_iff closes).mp found).1

/-- An event does not open and close at once. -/
theorem openedAt?_eq_none_of_closing (closes : closedAt? events closing = some scope) :
    openedAt? events closing = none := by
  obtain ⟨event, atClosing, isPop⟩ := Option.bind_eq_some_iff.mp closes
  rw [openedAt?, atClosing]
  cases event with
  | pop => rfl
  | push => contradiction
  | var => contradiction
  | memberWrite => contradiction

/-- An event is not closed before it comes. -/
theorem leftOpenAt?_self (events : List Event) (position : Nat) :
    leftOpenAt? events (position + 1) position = openedAt? events position := by
  refine if_pos ?_
  intro closing inside found
  have before := lt_of_openingOf? found
  omega

/-- What is left open after one more event, at the positions before it. -/
theorem leftOpenAt?_succ (events : List Event) (count opening : Nat) :
    leftOpenAt? events (count + 1) opening =
      if openingOf? events count = some opening then none
      else leftOpenAt? events count opening := by
  unfold leftOpenAt?
  by_cases closedNow : openingOf? events count = some opening
  · rw [if_pos closedNow, if_neg]
    intro free
    exact free count (Nat.lt_succ_self _) closedNow
  · rw [if_neg closedNow]
    congr 1
    rw [eq_iff_iff]
    constructor
    · intro free closing inside
      exact free closing (by omega)
    · intro free closing inside
      by_cases isLast : closing = count
      · rw [isLast]
        exact closedNow
      · exact free closing (by omega)

/-- An event that closes no earlier opening leaves all of them open. -/
theorem leftOpenAt?_succ_of_unmatched (unmatched : openingOf? events count = none) :
    leftOpenAt? events (count + 1) = leftOpenAt? events count := by
  funext opening
  rw [leftOpenAt?_succ, unmatched]
  rfl

/-- The scopes left open, latest first. -/
theorem reverse_leftOpen (events : List Event) (count : Nat) :
    (leftOpen events count).reverse =
      (List.range count).reverse.filterMap (leftOpenAt? events count) := by
  rw [leftOpen, List.filterMap_reverse]

/-- One more event comes before the others, which it may have closed. -/
theorem reverse_leftOpen_succ (events : List Event) (count : Nat) :
    (leftOpen events (count + 1)).reverse =
      (openedAt? events count).toList ++
        (List.range count).reverse.filterMap (leftOpenAt? events (count + 1)) := by
  rw [reverse_leftOpen, List.range_succ, List.reverse_append, List.reverse_singleton,
    List.singleton_append, List.filterMap_cons, leftOpenAt?_self]
  cases openedAt? events count with
  | none => rfl
  | some scope => rfl

/-- An event that closes nothing leaves open what was open before it, and what it opens. -/
theorem reverse_leftOpen_of_not_closing (silent : closedAt? events count = none) :
    (leftOpen events (count + 1)).reverse =
      (openedAt? events count).toList ++ (leftOpen events count).reverse := by
  rw [reverse_leftOpen_succ, reverse_leftOpen,
    leftOpenAt?_succ_of_unmatched (openingOf?_eq_none_of_not_closing silent)]

/-- Taking the last position of its kind out of a search takes the first hit away. -/
theorem filterMap_eq_erase {positions : List Nat} {position : Nat}
    {before after : Nat → Option String}
    (descending : positions.Pairwise (· > ·)) (member : position ∈ positions)
    (hit : before position = some scope)
    (latest : ∀ later ∈ positions, position < later → before later ≠ some scope)
    (same : ∀ other, after other = if position = other then none else before other) :
    positions.filterMap after = (positions.filterMap before).erase scope := by
  obtain ⟨later, earlier, rfl⟩ := List.append_of_mem member
  obtain ⟨_, earlierDescending, apart⟩ := List.pairwise_append.mp descending
  have laterSame : later.filterMap after = later.filterMap before := by
    refine List.filterMap_congr fun other isLater => ?_
    have above := apart other isLater position List.mem_cons_self
    rw [same, if_neg (by omega)]
  have earlierSame : earlier.filterMap after = earlier.filterMap before := by
    refine List.filterMap_congr fun other isEarlier => ?_
    have below := (List.pairwise_cons.mp earlierDescending).1 other isEarlier
    rw [same, if_neg (by omega)]
  have notLater : scope ∉ later.filterMap before := by
    intro found
    obtain ⟨other, isLater, hitLater⟩ := List.mem_filterMap.mp found
    have above := apart other isLater position List.mem_cons_self
    exact latest other (List.mem_append_left _ isLater) above hitLater
  rw [List.filterMap_append, List.filterMap_append, List.filterMap_cons, List.filterMap_cons, hit,
    same position, if_pos rfl, laterSame, earlierSame, List.erase_append_right _ notLater,
    List.erase_cons_head]

/-- A closing event takes the innermost open scope of its name away, if there is one. -/
theorem reverse_leftOpen_of_closing (closes : closedAt? events count = some scope) :
    (leftOpen events (count + 1)).reverse = (leftOpen events count).reverse.erase scope := by
  have free (position : Nat) :
      leftOpenAt? events count position = some scope ↔
        openedAt? events position = some scope ∧
          ∀ earlier, earlier < count → openingOf? events earlier ≠ some position := by
    rw [leftOpenAt?, Option.ite_none_right_eq_some, and_comm]
  rw [reverse_leftOpen_succ, reverse_leftOpen, openedAt?_eq_none_of_closing closes,
    Option.toList_none, List.nil_append]
  cases found : openingOf? events count with
  | none =>
      rw [leftOpenAt?_succ_of_unmatched found, List.erase_of_not_mem]
      intro member
      obtain ⟨position, inside, isOpen⟩ := List.mem_filterMap.mp member
      obtain ⟨opens, unmatched⟩ := (free position).mp isOpen
      obtain ⟨earlier, early, taken⟩ := (openingOf?_eq_none_iff closes).mp found position
        (by simpa using inside) opens
      exact unmatched earlier early taken
  | some opening =>
      obtain ⟨before, opens, unmatched, latest⟩ := (openingOf?_eq_some_iff closes).mp found
      have descending : (List.range count).reverse.Pairwise (· > ·) := by
        simpa [List.pairwise_reverse] using List.pairwise_lt_range
      refine filterMap_eq_erase descending (by simpa using before)
        ((free opening).mpr ⟨opens, unmatched⟩) ?_ ?_
      · intro later inside after isOpen
        obtain ⟨opensLater, unmatchedLater⟩ := (free later).mp isOpen
        obtain ⟨earlier, early, taken⟩ := latest later after (by simpa using inside) opensLater
        exact unmatchedLater earlier early taken
      · intro other
        simp only [leftOpenAt?_succ, found, Option.some.injEq]

/-- An event that closes nothing puts what it opens on the open scopes. -/
theorem openScopes_of_not_closing (silent : closedAt? events count = none) :
    openScopes (events.take (count + 1)) =
      (openedAt? events count).toList ++ openScopes (events.take count) := by
  unfold closedAt? at silent
  rw [openScopes, List.take_add_one, List.foldl_append, openedAt?]
  cases atCount : events[count]? with
  | none => rfl
  | some event =>
      rw [atCount] at silent
      cases event with
      | push scope line => rfl
      | pop scope line => contradiction
      | var record => rfl
      | memberWrite write => rfl

/-- Closing a scope takes its innermost entry out of the local scopes; the global scope has
none there. -/
theorem localScopes_openScopes_of_closing (closes : closedAt? events count = some scope) :
    localScopes (openScopes (events.take (count + 1))) =
      (localScopes (openScopes (events.take count))).erase scope := by
  obtain ⟨event, atCount, isPop⟩ := Option.bind_eq_some_iff.mp closes
  rw [openScopes, List.take_add_one, List.foldl_append, atCount]
  cases event with
  | pop closed line =>
      obtain rfl : closed = scope := Option.some.inj isPop
      by_cases isGlobal : closed = globalScope
      · rw [List.erase_of_not_mem]
        · simp [applyScope, isGlobal, openScopes]
        · simp [localScopes, isGlobal]
      · rw [← localScopes_erase]
        simp [applyScope, isGlobal, openScopes]
  | push => contradiction
  | var => contradiction
  | memberWrite => contradiction

/-- The local scopes of a replay are those that the events so far have opened and not closed. -/
theorem localScopes_openScopes (events : List Event) (count : Nat) :
    localScopes (openScopes (events.take count)) =
      localScopes (leftOpen events count).reverse := by
  induction count with
  | zero => rfl
  | succ count inductionHypothesis =>
      cases closes : closedAt? events count with
      | none =>
          rw [openScopes_of_not_closing closes, reverse_leftOpen_of_not_closing closes,
            localScopes_append, localScopes_append, inductionHypothesis]
      | some scope =>
          rw [localScopes_openScopes_of_closing closes, reverse_leftOpen_of_closing closes,
            localScopes_erase, inductionHypothesis]

/-- The stack has the global scope first. -/
theorem head?_rootedAtGlobal (stack : List String) :
    (rootedAtGlobal stack).head? = some globalScope := by
  unfold rootedAtGlobal
  split
  next outermost => exact outermost
  · rfl

/-- Putting the global scope first leaves the local scopes as they are. -/
theorem localScopes_rootedAtGlobal (stack : List String) :
    localScopes (rootedAtGlobal stack) = localScopes stack := by
  unfold rootedAtGlobal
  split
  · rfl
  · simp [localScopes]

/-- The events of one scope, as brackets. -/
def brackets (scope : String) (events : List Event) : List Bool :=
  events.filterMap (Event.bracket? scope)

/-- How often a scope is open after its brackets. Closing a scope that is not open does
nothing. -/
def depthAfter (start : Nat) (brackets : List Bool) : Nat :=
  brackets.foldl (fun depth opens => if opens then depth + 1 else depth - 1) start

/-- One event counts for its own scope alone. -/
theorem count_applyScope (isLocal : scope ≠ globalScope) (openNow : List String) (event : Event) :
    (applyScope openNow event).count scope =
      depthAfter (openNow.count scope) (event.bracket? scope).toList := by
  cases event with
  | push opened line =>
      by_cases same : opened = scope
      · simp [applyScope, Event.bracket?, Event.opened?, same, depthAfter]
      · simp [applyScope, Event.bracket?, Event.opened?, Event.closed?, same, depthAfter]
  | pop closed line =>
      by_cases same : closed = scope
      · subst same
        simp [applyScope, Event.bracket?, Event.opened?, Event.closed?, isLocal, depthAfter]
      · have kept : (applyScope openNow (.pop closed line)).count scope = openNow.count scope := by
          rw [applyScope]
          split
          · rfl
          · exact List.count_erase_of_ne (Ne.symm same)
        simp [kept, Event.bracket?, Event.opened?, Event.closed?, same, depthAfter]
  | var record => rfl
  | memberWrite write => rfl

/-- How often a local scope is open depends on its own events alone. -/
theorem count_openScopes (isLocal : scope ≠ globalScope) (events : List Event) :
    (openScopes events).count scope = depthAfter 0 (brackets scope events) := by
  have continued (start : List String) :
      (events.foldl applyScope start).count scope =
        depthAfter (start.count scope) (brackets scope events) := by
    induction events generalizing start with
    | nil => rfl
    | cons event rest inductionHypothesis =>
        rw [List.foldl_cons, inductionHypothesis, count_applyScope isLocal, brackets, brackets,
          List.filterMap_cons]
        cases event.bracket? scope <;> rfl
  exact continued []

theorem count_localScopes (isLocal : scope ≠ globalScope) (scopes : List String) :
    (localScopes scopes).count scope = scopes.count scope :=
  List.count_filter (by simpa using isLocal)

/-- How often a local scope is on the stack depends on its own events alone. -/
theorem count_stackAfter (isLocal : scope ≠ globalScope) (events : List Event) :
    (stackAfter events).count scope = depthAfter 0 (brackets scope events) := by
  rw [← count_localScopes isLocal, stackAfter, localScopes_rootedAtGlobal,
    count_localScopes isLocal, List.count_reverse, count_openScopes isLocal]

end Snapshot

namespace Timeline

open Snapshot

/-- The stack at every step of every timeline, balanced or not. The global scope comes first.
The other entries are, in order, the scopes of the opening events that are left when each
closing event takes the latest earlier opening event of its scope that is still there. So two
replays that open and close a local scope in the same turns have it on the stack equally
often, whatever else happens in between. -/
theorem snapshot_stack_matched (timeline : Timeline) (step : Nat) :
    let applied := timeline.events.take step
    let stack := (timeline.snapshot step).stack
    stack.head? = some globalScope ∧
      localScopes stack = localScopes (leftOpen applied applied.length) ∧
      ∀ scope, scope ≠ globalScope → ∀ (other : Timeline) (otherStep : Nat),
        brackets scope (other.events.take otherStep) = brackets scope applied →
          (other.snapshot otherStep).stack.count scope = stack.count scope ∧
            (scope ∈ (other.snapshot otherStep).stack ↔ scope ∈ stack) := by
  intro applied stack
  refine ⟨head?_rootedAtGlobal _, ?_, ?_⟩
  · have matched := localScopes_openScopes applied applied.length
    rw [List.take_length, localScopes_reverse] at matched
    calc localScopes stack = localScopes (openScopes applied).reverse :=
          localScopes_rootedAtGlobal _
      _ = (localScopes (openScopes applied)).reverse := localScopes_reverse _
      _ = localScopes (leftOpen applied applied.length) := by rw [matched, List.reverse_reverse]
  · intro scope isLocal other otherStep sameBrackets
    have sameCount : (other.snapshot otherStep).stack.count scope = stack.count scope := by
      refine (count_stackAfter isLocal _).trans ?_
      rw [sameBrackets]
      exact (count_stackAfter isLocal _).symm
    refine ⟨sameCount, ?_⟩
    rw [← List.count_pos_iff, sameCount, List.count_pos_iff]

end Timeline

end MemoryTimeline
