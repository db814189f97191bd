import Mathlib.Data.List.Forall2
import Mathlib.Data.List.Nodup
import MemoryTimeline.Proofs.SideBySide

/-!
# Naming blocks

The two namings of blocks give timelines that differ in scopes alone. A walk under one
naming is followed step by step by a walk under the other (`Walks.relabels`), and what
has been recorded so far is related by `Relabelled`: only the event that opens a block is
a push with another scope, and its number counts the blocks of its kind.
-/

namespace MemoryTimeline

/-- The shared scope of a block tells its kind. -/
theorem BlockKind.label_injective {kind other : BlockKind} (same : kind.label = other.label) :
    kind = other := by
  revert same
  cases kind <;> cases other <;> decide

namespace BlockCounts

/-- Counting a block of one kind leaves the counts of the other kinds. -/
theorem get_bump (counts : BlockCounts) (kind other : BlockKind) :
    (counts.bump kind).get other = counts.get other + if kind = other then 1 else 0 := by
  cases kind <;> cases other <;> rfl

theorem get_bump_self (counts : BlockCounts) (kind : BlockKind) :
    (counts.bump kind).get kind = counts.get kind + 1 := by
  rw [get_bump, if_pos rfl]

end BlockCounts

namespace ScopeNaming

/-- The scope of a block of its own is not the shared one. -/
theorem label_ne_blockScope (kind : BlockKind) (number : Nat) :
    kind.label ≠ unique.blockScope kind number := by
  intro same
  have lengths := congrArg String.length same
  simp only [blockScope, String.length_append] at lengths
  have mark : "#".length = 1 := by decide
  omega

/-- The scope of a block of its own tells its kind and its number. -/
theorem blockScope_injective {kind other : BlockKind} {number otherNumber : Nat}
    (same : unique.blockScope kind number = unique.blockScope other otherNumber) :
    kind = other ∧ number = otherNumber := by
  have sameKind : kind = other := by
    have initials := congrArg (fun scope => scope.toList.head?) same
    revert initials
    cases kind <;> cases other <;> simp [blockScope, BlockKind.label]
  subst sameKind
  have sameNumeral : Nat.repr number = Nat.repr otherNumber := (String.append_right_inj _).mp same
  have readBack (number : Nat) : Nat.ofDigitChars 10 (Nat.repr number).toList 0 = number := by
    simp [Nat.repr]
  exact ⟨rfl, by rw [← readBack number, sameNumeral, readBack]⟩

end ScopeNaming

/-- A push whose scope depends on the naming of blocks. -/
structure RelabelledPush where
  position : Nat
  shared : String
  unique : String

/-- Two events at one position, if they are pushes of different scopes. -/
def RelabelledPush.of? : (Event × Event) × Nat → Option RelabelledPush
  | ((.push shared _, .push unique _), position) =>
    if shared = unique then none else some { position, shared, unique }
  | _ => none

namespace Timeline

/-- The pushes whose scopes differ between two timelines, in order. -/
def relabelledPushes (shared unique : Timeline) : List RelabelledPush :=
  (shared.events.zip unique.events).zipIdx.filterMap RelabelledPush.of?

/-- The latest two events add a push at the end if their scopes differ. -/
theorem relabelledPushes_reverse_cons {shared unique : List Event}
    (sameLength : shared.length = unique.length) (first second : Event) :
    relabelledPushes ⟨(first :: shared).reverse⟩ ⟨(second :: unique).reverse⟩ =
      relabelledPushes ⟨shared.reverse⟩ ⟨unique.reverse⟩ ++
        (RelabelledPush.of? ((first, second), shared.length)).toList := by
  have sameReverseLength : shared.reverse.length = unique.reverse.length := by
    rw [List.length_reverse, List.length_reverse, sameLength]
  unfold relabelledPushes
  rw [List.reverse_cons, List.reverse_cons, List.zip_append sameReverseLength,
    List.zipIdx_append, List.filterMap_append, List.length_zip, ← sameReverseLength,
    Nat.min_self, Nat.zero_add, List.length_reverse]
  cases selected : RelabelledPush.of? ((first, second), shared.length) <;> simp [selected]

end Timeline

namespace Recorder

/-- Scopes that are the same, or that of a block under both namings. -/
def ScopeRelabels (shared unique : String) : Prop :=
  unique = shared ∨ ∃ kind number, 1 ≤ number ∧ shared = BlockKind.label kind ∧
    unique = ScopeNaming.unique.blockScope kind number

theorem ScopeRelabels.refl (scope : String) : ScopeRelabels scope scope := .inl rfl

/-- The two scopes of a block, as they are written. -/
theorem ScopeRelabels.eq_or_numbered {shared unique : String}
    (relabels : ScopeRelabels shared unique) :
    unique = shared ∨ shared ∈ ["if_body", "else_body", "while_loop"] ∧
      ∃ number, 1 ≤ number ∧ unique = shared ++ "#" ++ Nat.repr number := by
  rcases relabels with same | ⟨kind, number, positive, rfl, rfl⟩
  · exact .inl same
  · refine .inr ⟨?_, number, positive, rfl⟩
    cases kind <;> decide

/-- Histories under both namings, with the blocks that were opened. -/
inductive Relabelled : List (Nat × BlockKind) → List Event → List Event → Prop where
  | nil : Relabelled [] [] []
  | event {openings shared unique} (earlier : Relabelled openings shared unique) (event : Event)
      {scope : String} (scopes : ScopeRelabels event.scope scope)
      (pushed : event.isPush → scope = event.scope) :
      Relabelled openings (event :: shared) (event.withScope scope :: unique)
  | opening {openings shared unique} (earlier : Relabelled openings shared unique)
      (kind : BlockKind) (line : Option Nat) :
      Relabelled ((shared.length, kind) :: openings) (.push kind.label line :: shared)
        (.push (ScopeNaming.unique.blockScope kind (openings.countP (·.2 = kind) + 1)) line ::
          unique)

/-- The pushes that open the given blocks, numbered by kind. -/
def numberedPushes : List (Nat × BlockKind) → List RelabelledPush
  | [] => []
  | (position, kind) :: earlier =>
    numberedPushes earlier ++
      [⟨position, kind.label,
        ScopeNaming.unique.blockScope kind (earlier.countP (·.2 = kind) + 1)⟩]

/-- Each opening of a block has one push, with the shared scope of its kind. -/
theorem map_numberedPushes (openings : List (Nat × BlockKind)) :
    (numberedPushes openings).map (fun push => (push.position, push.shared)) =
      openings.reverse.map fun (position, kind) => (position, kind.label) := by
  induction openings with
  | nil => rfl
  | cons opening earlier inductionHypothesis => simp [numberedPushes, inductionHypothesis]

/-- There are as many pushes of a shared scope as blocks of its kind. -/
theorem countP_numberedPushes (openings : List (Nat × BlockKind)) (kind : BlockKind) :
    (numberedPushes openings).countP (·.shared = kind.label) = openings.countP (·.2 = kind) := by
  have sameLabel (other : BlockKind) : other.label = kind.label ↔ other = kind :=
    ⟨BlockKind.label_injective, congrArg BlockKind.label⟩
  induction openings with
  | nil => rfl
  | cons opening earlier inductionHypothesis =>
      simp [numberedPushes, inductionHypothesis, List.countP_cons, sameLabel]

/-- The pushes of one shared scope have the numbers from one on. -/
theorem filter_numberedPushes (openings : List (Nat × BlockKind)) (label : String) :
    ((numberedPushes openings).filter (·.shared = label)).map (·.unique) =
      (List.range' 1 ((numberedPushes openings).countP (·.shared = label))).map
        fun number => label ++ "#" ++ Nat.repr number := by
  induction openings with
  | nil => rfl
  | cons opening earlier inductionHypothesis =>
      obtain ⟨position, kind⟩ := opening
      simp only [numberedPushes, List.filter_append, List.map_append, List.countP_append,
        inductionHypothesis]
      by_cases same : kind.label = label
      · subst same
        rw [List.countP_singleton, countP_numberedPushes]
        simp [List.range'_1_concat, ScopeNaming.blockScope, Nat.add_comm 1]
      · simp [same]

/-- No number is larger than the count of blocks of its kind. -/
theorem exists_number_of_mem {openings : List (Nat × BlockKind)} {push : RelabelledPush}
    (member : push ∈ numberedPushes openings) :
    ∃ kind number, number ≤ openings.countP (·.2 = kind) ∧
      push.unique = ScopeNaming.unique.blockScope kind number := by
  induction openings with
  | nil => contradiction
  | cons opening earlier inductionHypothesis =>
      obtain ⟨position, openedKind⟩ := opening
      rcases List.mem_append.mp member with before | last
      · obtain ⟨kind, number, bounded, scope⟩ := inductionHypothesis before
        refine ⟨kind, number, Nat.le_trans bounded ?_, scope⟩
        exact (List.sublist_cons_self _ _).countP_le
      · obtain rfl := List.mem_singleton.mp last
        exact ⟨openedKind, _, by simp, rfl⟩

/-- No two blocks have the same scope where each has one of its own. -/
theorem nodup_numberedPushes (openings : List (Nat × BlockKind)) :
    ((numberedPushes openings).map (·.unique)).Nodup := by
  induction openings with
  | nil => exact List.nodup_nil
  | cons opening earlier inductionHypothesis =>
      obtain ⟨position, kind⟩ := opening
      simp only [numberedPushes, List.map_append, List.map_singleton]
      refine List.nodup_append.mpr ⟨inductionHypothesis, List.nodup_singleton _, ?_⟩
      rintro _ before _ last rfl
      obtain ⟨push, isPush, scope⟩ := List.mem_map.mp before
      obtain ⟨otherKind, number, bounded, numbered⟩ := exists_number_of_mem isPush
      -- The number of the new block is beyond those of all blocks of its kind.
      have sameScope := (numbered.symm.trans scope).trans (List.mem_singleton.mp last)
      obtain ⟨rfl, rfl⟩ := ScopeNaming.blockScope_injective sameScope
      omega

namespace Relabelled

variable {openings : List (Nat × BlockKind)} {shared unique : List Event}

/-- Position by position, the events are the same but for related scopes. -/
theorem forall₂ (relabelled : Relabelled openings shared unique) :
    List.Forall₂ (fun first second => second = first.withScope second.scope ∧
      ScopeRelabels first.scope second.scope) shared unique := by
  induction relabelled with
  | nil => exact .nil
  | event _ event scopes _ inductionHypothesis =>
      refine .cons ⟨?_, ?_⟩ inductionHypothesis
      · rw [Event.scope_withScope]
      · rw [Event.scope_withScope]
        exact scopes
  | opening _ kind line inductionHypothesis =>
      exact .cons ⟨rfl, .inr ⟨kind, _, Nat.le_add_left 1 _, rfl, rfl⟩⟩ inductionHypothesis

theorem length_eq (relabelled : Relabelled openings shared unique) :
    shared.length = unique.length := relabelled.forall₂.length_eq

/-- The pushes whose scopes differ are those that open blocks. -/
theorem relabelledPushes_eq (relabelled : Relabelled openings shared unique) :
    Timeline.relabelledPushes ⟨shared.reverse⟩ ⟨unique.reverse⟩ = numberedPushes openings := by
  induction relabelled with
  | nil => rfl
  | event earlier event _ pushed inductionHypothesis =>
      rw [Timeline.relabelledPushes_reverse_cons earlier.length_eq, inductionHypothesis]
      cases event with
      | push scope line =>
          obtain rfl := pushed rfl
          simp [Event.withScope, RelabelledPush.of?]
      | _ => exact List.append_nil _
  | opening earlier kind line inductionHypothesis =>
      have differs := ScopeNaming.label_ne_blockScope kind
      rw [Timeline.relabelledPushes_reverse_cons earlier.length_eq, inductionHypothesis]
      simp [RelabelledPush.of?, numberedPushes, differs]

end Relabelled

/-- Walks under both namings that have come to the same point. -/
structure Walker.Relabels (shared unique : Walker) : Prop where
  history : Relabelled shared.openings shared.recorder.history unique.recorder.history
  alike : Alike shared.recorder unique.recorder
  counted : ∀ kind, unique.recorder.blocks.get kind = shared.openings.countP (·.2 = kind)
  openings : unique.openings = shared.openings
  depth : unique.depth = shared.depth

namespace Walker.Relabels

variable {shared unique : Walker}

/-- An event other than the opening of a block may change its scope, but not if it is a push. -/
theorem emit (relabels : Relabels shared unique) (event : Event) {scope : String}
    (scopes : ScopeRelabels event.scope scope) (pushed : event.isPush → scope = event.scope) :
    Relabels (shared.note (Recorder.emit event))
      (unique.note (Recorder.emit (event.withScope scope))) where
  history := relabels.history.event event scopes pushed
  alike := relabels.alike.emit event scope
  counted := relabels.counted
  openings := relabels.openings
  depth := relabels.depth

/-- What two recorders do side by side keeps their histories relabelled. -/
theorem sideBySide (relabels : Relabels shared unique) {sharedNow uniqueNow : Recorder}
    (sideBySide : SideBySide ScopeRelabels shared.recorder unique.recorder sharedNow uniqueNow) :
    Relabels { shared with recorder := sharedNow } { unique with recorder := uniqueNow } := by
  induction sideBySide with
  | refl => exact relabels
  | record _ entry scopes inductionHypothesis =>
      exact inductionHypothesis.emit (.var entry) scopes nofun
  | memberWrite _ write scopes inductionHypothesis =>
      exact inductionHypothesis.emit (.memberWrite write) scopes nofun
  | allocate _ pointer inductionHypothesis =>
      exact { inductionHypothesis with alike := inductionHypothesis.alike.allocate pointer }

/-- The next block has the number that follows those of its kind. -/
theorem blockScope_eq (relabels : Relabels shared unique) (kind : BlockKind) :
    unique.blockScope .unique kind =
      ScopeNaming.unique.blockScope kind (shared.openings.countP (·.2 = kind) + 1) := by
  rw [Walker.blockScope, BlockCounts.get_bump_self, relabels.counted]

/-- The next block of a kind has related scopes under the two namings. -/
theorem blockScope (relabels : Relabels shared unique) (kind : BlockKind) :
    ScopeRelabels (shared.blockScope .shared kind) (unique.blockScope .unique kind) :=
  .inr ⟨kind, _, Nat.le_add_left 1 _, rfl, relabels.blockScope_eq kind⟩

/-- Opening a block counts it in both walks, and adds the push that is relabelled. -/
theorem openBlock (relabels : Relabels shared unique) (kind : BlockKind) (line : Option Nat) :
    Relabels (shared.openBlock .shared kind line) (unique.openBlock .unique kind line) where
  history := by
    simp only [Walker.openBlock, relabels.blockScope_eq]
    exact relabels.history.opening kind line
  alike := by
    have counted : Alike { shared.recorder with blocks := shared.recorder.blocks.bump kind }
        { unique.recorder with blocks := unique.recorder.blocks.bump kind } :=
      ⟨relabels.alike.history, relabels.alike.nextHeap, relabels.alike.allocations⟩
    exact counted.emit (.push _ line) _
  counted := by
    intro other
    simp [Walker.openBlock, Recorder.emit, BlockCounts.get_bump, relabels.counted,
      List.countP_cons]
  openings := by
    simp only [Walker.openBlock, relabels.openings, relabels.history.length_eq]
  depth := relabels.depth

/-- Entering a body records nothing. -/
theorem enter (relabels : Relabels shared unique) : Relabels shared.enter unique.enter :=
  { relabels with depth := congrArg (· + 1) relabels.depth }

/-- Leaving a body records nothing. -/
theorem leave (relabels : Relabels shared unique) : Relabels shared.leave unique.leave :=
  { relabels with depth := congrArg (· - 1) relabels.depth }

/-- The two walks begin alike, with the global scope. -/
theorem start : Relabels .start .start where
  history := Relabelled.nil.event (.push globalScope none) (.refl globalScope) fun _ => rfl
  alike := .refl _
  counted := fun kind => by cases kind <;> rfl
  openings := rfl
  depth := rfl

end Walker.Relabels

/-- A walk under the shared naming is followed by one under the other. -/
theorem Walks.relabels {program : Program} {part : Part} {scope otherScope : String}
    {before after other : Walker}
    (walks : Walks { program, naming := .shared } part scope before after)
    (scopes : ScopeRelabels scope otherScope) (relabels : before.Relabels other) :
    ∃ otherAfter, Walks { program, naming := .unique } part otherScope other otherAfter ∧
      after.Relabels otherAfter := by
  induction walks generalizing otherScope other with
  | plain isPlain =>
      have recorded := SideBySide.visit (fun scope _ => .refl scope) isPlain relabels.alike scopes
        program .shared .unique (bodyWalk { program, naming := .shared } 0)
        (bodyWalk { program, naming := .unique } 0)
      exact ⟨_, .plain isPlain, relabels.sideBySide recorded⟩
  | @call node scope before after frame opens _ bodyHypothesis =>
      -- A frame depends on no scope around it, so both walks open the same one.
      have otherOpens : frame? program other.recorder node = some frame := by
        rw [← relabels.alike.frame?_eq]
        exact opens
      have opened := relabels.emit (.push frame.scope frame.line) (.refl frame.scope) fun _ => rfl
      have bound := opened.sideBySide (SideBySide.bind (.refl _) opens opened.alike)
      obtain ⟨_, otherBody, walked⟩ := bodyHypothesis (.refl frame.scope) bound
      exact ⟨_, .call otherOpens otherBody,
        walked.emit (.pop frame.scope none) (.refl frame.scope) nofun⟩
  | ifStatement _ _ thenHypothesis elseHypothesis =>
      obtain ⟨_, otherThen, afterThen⟩ := thenHypothesis scopes relabels
      obtain ⟨otherAfter, otherElse, afterElse⟩ := elseHypothesis scopes afterThen
      exact ⟨otherAfter, .ifStatement otherThen otherElse, afterElse⟩
  | whileStatement _ loopHypothesis =>
      obtain ⟨otherAfter, otherLoop, walked⟩ := loopHypothesis scopes relabels
      exact ⟨otherAfter, .whileStatement otherLoop, walked⟩
  | unknown _ childrenHypothesis =>
      obtain ⟨otherAfter, otherChildren, walked⟩ := childrenHypothesis scopes relabels
      exact ⟨otherAfter, .unknown otherChildren, walked⟩
  | noBlock => exact ⟨other, .noBlock, relabels⟩
  | @block kind line _ _ _ _ _ statementsHypothesis =>
      -- Only here do the scopes around the statements become different.
      have blockScopes := relabels.blockScope kind
      obtain ⟨_, otherStatements, walked⟩ :=
        statementsHypothesis blockScopes (relabels.openBlock kind line)
      exact ⟨_, .block otherStatements, walked.emit (.pop _ none) blockScopes nofun⟩
  | noBody => exact ⟨other, .noBody, relabels⟩
  | tooDeep deep => exact ⟨other, .tooDeep (relabels.depth ▸ deep), relabels⟩
  | body shallow _ statementsHypothesis =>
      obtain ⟨_, otherStatements, walked⟩ := statementsHypothesis scopes relabels.enter
      exact ⟨_, .body (relabels.depth ▸ shallow) otherStatements, walked.leave⟩
  | nil => exact ⟨other, .nil, relabels⟩
  | cons _ _ firstHypothesis restHypothesis =>
      obtain ⟨_, otherFirst, afterFirst⟩ := firstHypothesis scopes relabels
      obtain ⟨otherAfter, otherRest, afterRest⟩ := restHypothesis scopes afterFirst
      exact ⟨otherAfter, .cons otherFirst otherRest, afterRest⟩

end Recorder

namespace Program

open Recorder (Walker Walks)

/-- The naming of blocks changes nothing but their scopes. The two timelines of a program
agree event by event in all but scopes, and where the scopes differ, the shared one is that
of a kind of block and the other has a number added. The pushes whose scopes differ are
those that open blocks in the walks of the program, in order; the pushes of one kind have
the numbers from one on, so no two of them have the same scope. -/
theorem timeline_relabelled (program : Program) :
    let shared := program.timeline .shared
    let unique := program.timeline .unique
    let pushes := shared.relabelledPushes unique
    shared.length = unique.length ∧
      List.Forall₂ (fun first second =>
        second = first.withScope second.scope ∧
          (second.scope = first.scope ∨
            first.scope ∈ ["if_body", "else_body", "while_loop"] ∧
              ∃ number, 1 ≤ number ∧ second.scope = first.scope ++ "#" ++ Nat.repr number))
        shared.events unique.events ∧
      (∃ sharedWalker uniqueWalker : Walker,
        Walks ⟨program, .shared⟩ (.statements program.nodes) globalScope .start sharedWalker ∧
          Walks ⟨program, .unique⟩ (.statements program.nodes) globalScope .start uniqueWalker ∧
          sharedWalker.recorder.timeline = shared ∧ uniqueWalker.recorder.timeline = unique ∧
          uniqueWalker.openings = sharedWalker.openings ∧
          pushes.map (fun push => (push.position, push.shared)) =
            sharedWalker.openings.reverse.map fun (position, kind) => (position, kind.label)) ∧
      (∀ label, (pushes.filter (·.shared = label)).map (·.unique) =
        (List.range' 1 (pushes.countP (·.shared = label))).map
          fun number => label ++ "#" ++ Nat.repr number) ∧
      (pushes.map (·.unique)).Nodup := by
  intro shared unique pushes
  obtain ⟨sharedWalker, walks, sameShared⟩ :=
    Recorder.exists_walks_program { program, naming := .shared }
  obtain ⟨uniqueWalker, otherWalks, relabels⟩ := walks.relabels (.refl globalScope) .start
  have sharedEq : sharedWalker.recorder.timeline = shared :=
    congrArg Recorder.timeline sameShared
  have uniqueEq : uniqueWalker.recorder.timeline = unique :=
    congrArg Recorder.timeline otherWalks.recorder_eq
  have pushesEq : pushes = Recorder.numberedPushes sharedWalker.openings := by
    simp only [pushes, ← sharedEq, ← uniqueEq]
    exact relabels.history.relabelledPushes_eq
  have aligned := List.forall₂_reverse_iff.mpr relabels.history.forall₂
  rw [pushesEq]
  refine ⟨?_, ?_, ⟨sharedWalker, uniqueWalker, walks, otherWalks, sharedEq, uniqueEq,
    relabels.openings, Recorder.map_numberedPushes _⟩, Recorder.filter_numberedPushes _,
    Recorder.nodup_numberedPushes _⟩
  · rw [← sharedEq, ← uniqueEq]
    exact aligned.length_eq
  · rw [← sharedEq, ← uniqueEq]
    refine aligned.imp ?_
    rintro first second ⟨sameButScope, scopes⟩
    exact ⟨sameButScope, scopes.eq_or_numbered⟩

/-- A loop with a loop inside, then a conditional. -/
example :
    let program : Program :=
      ⟨[.whileStatement (some [.whileStatement (some []) none]) none,
        .ifStatement (some []) none none]⟩
    ((program.timeline .shared).relabelledPushes (program.timeline .unique)).map (·.unique) =
      ["while_loop#1", "while_loop#2", "if_body#1"] := by decide

end Program

end MemoryTimeline
