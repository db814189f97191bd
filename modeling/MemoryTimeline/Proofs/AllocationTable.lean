import MemoryTimeline.Proofs.HeapReplay

/-!
# The table of allocations and the events

A recorder keeps the allocation that each pointer name was last bound to, in a table that no
event shows. Nothing takes a binding back: not the end of the scope in which the pointer was
declared, and not a later declaration of its name that allocates nothing. The table therefore
says no more and no less than the events so far (`TableFromEvents`): a name is bound to the
number of the latest entity named for it. A write to a member reads the table, so what it
refers to can be read off the events before it.
-/

namespace MemoryTimeline

/-- The record of an event that records the entity of an allocation. -/
def Event.entity? : Event → Option Record
  | .var record => if record.allocation = some "new" then some record else none
  | _ => none

/-- The entities of a name that some events record, in order. -/
def entitiesNamed (name : String) (events : List Event) : List Record :=
  (events.filterMap Event.entity?).filter (·.name = name)

/-- The latest entity of a name that some events record. -/
def latestEntity? (name : String) (events : List Event) : Option Record :=
  (entitiesNamed name events).getLast?

/-- The allocation that a pointer name is bound to, by the events alone. -/
def boundIn? (events : List Event) (pointer : String) : Option HeapId :=
  (latestEntity? (pointer ++ "_heap") events).bind Record.heap

/-- The entities of a name are the records under it that are marked as new. -/
theorem mem_entitiesNamed_iff {name : String} {events : List Event} {entity : Record} :
    entity ∈ entitiesNamed name events ↔
      .var entity ∈ events ∧ entity.allocation = some "new" ∧ entity.name = name := by
  simp only [entitiesNamed, List.mem_filter, List.mem_filterMap, decide_eq_true_eq]
  constructor
  · rintro ⟨⟨event, member, found⟩, named⟩
    cases event with
    | var record =>
        obtain ⟨isNew, same⟩ := Option.ite_none_right_eq_some.mp found
        obtain rfl := Option.some.inj same
        exact ⟨member, isNew, named⟩
    | push => contradiction
    | pop => contradiction
    | memberWrite => contradiction
  · rintro ⟨member, isNew, named⟩
    exact ⟨⟨.var entity, member, if_pos isNew⟩, named⟩

/-- Later events decide, as far as they record an entity of the name. -/
theorem latestEntity?_append (name : String) (events more : List Event) :
    latestEntity? name (events ++ more) =
      (latestEntity? name more).or (latestEntity? name events) := by
  simp [latestEntity?, entitiesNamed, List.getLast?_append]

/-- An event that records no entity has no say, whatever scope it opens or closes and whatever
name it declares. -/
theorem latestEntity?_concat_of_none {event : Event} (noEntity : event.entity? = none)
    (name : String) (events : List Event) :
    latestEntity? name (events ++ [event]) = latestEntity? name events := by
  have nothing : latestEntity? name [event] = none := by
    simp [latestEntity?, entitiesNamed, noEntity]
  rw [latestEntity?_append, nothing, Option.none_or]

/-- A new entity is the latest of its name, and leaves the other names as they were. -/
theorem latestEntity?_concat_entity {entity : Record} (isNew : entity.allocation = some "new")
    (name : String) (events : List Event) :
    latestEntity? name (events ++ [.var entity]) =
      if entity.name = name then some entity else latestEntity? name events := by
  have isEntity : (Event.var entity).entity? = some entity := if_pos isNew
  rw [latestEntity?_append]
  by_cases named : entity.name = name <;> simp [latestEntity?, entitiesNamed, isEntity, named]

/-- A record without a part in an allocation is no entity. -/
theorem Record.Unallocated.entity?_eq_none {record : Record} (unallocated : record.Unallocated) :
    (Event.var record).entity? = none := by
  rw [Event.entity?, unallocated.allocation]
  rfl

/-- The two records of an allocation bind the pointer to it, and no other name. -/
theorem AllocationPair.boundIn?_append {heap : HeapId} {pointer entity : Record}
    (pair : AllocationPair heap pointer entity) (events : List Event) (name : String) :
    boundIn? (events ++ [.var pointer, .var entity]) name =
      if name = pointer.name then some heap else boundIn? events name := by
  have sameName : entity.name = name ++ "_heap" ↔ name = pointer.name := by
    rw [pair.entityName, eq_comm]
    exact heapName_inj
  rw [List.append_cons, boundIn?, latestEntity?_concat_entity pair.allocation,
    latestEntity?_concat_of_none pair.pointerUnallocated.entity?_eq_none]
  simp only [sameName]
  split
  · exact pair.entityHeap
  · rfl

/-- What a member write refers to, by the events before it alone. -/
structure MemberWrite.BoundBy (write : MemberWrite) (before : List Event) : Prop where
  target : write.target = boundIn? before write.object
  pointee : write.pointee = write.value.identifier?.bind fun name =>
    (boundIn? before name).map fun heap => { name := heapName name, heap := some heap }

/-- What an event refers to, if it writes to a member. -/
def Event.BoundBy (before : List Event) (event : Event) (_ : List Event) : Prop :=
  ∀ write, event = .memberWrite write → write.BoundBy before

namespace Recorder

/-- The table of a recorder binds every name as the events so far do, and so did the table that
each member write has read. -/
structure TableFromEvents (recorder : Recorder) : Prop where
  table : ∀ pointer, recorder.allocations.lookup pointer =
    boundIn? recorder.timeline.events pointer
  writes : Everywhere Event.BoundBy recorder.timeline.events

namespace TableFromEvents

variable {recorder : Recorder}

/-- An event that is no entity leaves the table as it is. -/
theorem emit (fromEvents : recorder.TableFromEvents) {event : Event}
    (noEntity : event.entity? = none) (bound : event.BoundBy recorder.timeline.events []) :
    (recorder.emit event).TableFromEvents where
  table := by
    intro pointer
    rw [timeline_emit, boundIn?, latestEntity?_concat_of_none noEntity]
    exact fromEvents.table pointer
  writes := by
    rw [timeline_emit]
    refine fromEvents.writes.append (fun _ _ _ bound => bound) ?_
    exact everywhere_cons_iff.mpr ⟨by simpa [Event.BoundBy] using bound, everywhere_nil⟩

/-- An allocation enters the table and the events at once. -/
theorem allocate (fromEvents : recorder.TableFromEvents) {pointer entity : Record}
    (pair : AllocationPair recorder.nextHeap pointer entity) :
    (((recorder.allocate pointer.name).2.record pointer).record entity).TableFromEvents := by
  refine ⟨?_, ?_⟩
  · intro name
    rw [timeline_allocation, pair.boundIn?_append, lookup_allocation, fromEvents.table]
  · rw [timeline_allocation]
    refine fromEvents.writes.append (fun _ _ _ bound => bound) ?_
    exact everywhere_cons_iff.mpr ⟨nofun, everywhere_cons_iff.mpr ⟨nofun, everywhere_nil⟩⟩

end TableFromEvents

/-- Every action of a walk keeps the table and the events in agreement. A scope closes without
a change to the table, so what its body has allocated stays bound after it. -/
theorem Recording.tableFromEvents {before after : Recorder} (recording : Recording before after)
    (fromEvents : before.TableFromEvents) : after.TableFromEvents := by
  induction recording with
  | refl => exact fromEvents
  | trans _ _ firstHypothesis secondHypothesis =>
      exact secondHypothesis (firstHypothesis fromEvents)
  | ordinary ordinary => exact fromEvents.emit ordinary.toUnallocated.entity?_eq_none nofun
  | parameter unallocated => exact fromEvents.emit unallocated.entity?_eq_none nofun
  | allocation pair => exact fromEvents.allocate pair
  | memberWrite target pointee =>
      -- The write has read the table of the recorder that it is added to.
      refine fromEvents.emit rfl ?_
      rintro _ ⟨⟩
      refine ⟨target.trans (fromEvents.table _), pointee.trans ?_⟩
      congr 1
      funext name
      rw [allocation?, fromEvents.table]
  | countBlock => exact ⟨fromEvents.table, fromEvents.writes⟩
  | @scope before _ scope line _ bodyHypothesis =>
      have opened : (before.emit (.push scope line)).TableFromEvents := fromEvents.emit rfl nofun
      exact (bodyHypothesis opened).emit rfl nofun

end Recorder

/-- A member write refers to the latest entities before it: to the one named for its object, and
to the one named for the written value, if the value is a name. -/
structure MemberWrite.RefersToLatest (write : MemberWrite) (before : List Event) : Prop where
  target : ∀ heap, write.target = some heap ↔
    ∃ entity, latestEntity? (write.object ++ "_heap") before = some entity ∧
      entity.heap = some heap
  noTarget : write.target = none ↔ latestEntity? (write.object ++ "_heap") before = none
  pointee : ∀ pointee, write.pointee = some pointee ↔
    ∃ name entity heap, write.value.identifier? = some name ∧
      latestEntity? (name ++ "_heap") before = some entity ∧ entity.heap = some heap ∧
      pointee = { name := name ++ "_heap", heap := some heap }
  noPointee : write.pointee = none ↔
    ∀ name, write.value.identifier? = some name → latestEntity? (name ++ "_heap") before = none

/-- Every entity that some events record has a number. -/
def EntitiesNumbered (events : List Event) : Prop :=
  ∀ entity, .var entity ∈ events → entity.allocation = some "new" → entity.heap ≠ none

/-- Entities that are numbered in all events are numbered in the first of them. -/
theorem EntitiesNumbered.of_append {events more : List Event}
    (numbered : EntitiesNumbered (events ++ more)) : EntitiesNumbered events := by
  intro entity member isNew
  exact numbered entity (List.mem_append_left more member) isNew

/-- Where every entity has a number, a name without a binding has no entity. -/
theorem boundIn?_eq_none_iff {events : List Event} (numbered : EntitiesNumbered events)
    (pointer : String) :
    boundIn? events pointer = none ↔ latestEntity? (pointer ++ "_heap") events = none := by
  rw [boundIn?, Option.bind_eq_none_iff]
  constructor
  · intro unnumbered
    rw [Option.eq_none_iff_forall_ne_some]
    intro entity latest
    obtain ⟨member, isNew, _⟩ := mem_entitiesNamed_iff.mp (List.mem_of_getLast? latest)
    exact numbered entity member isNew (unnumbered entity latest)
  · intro absent entity latest
    rw [absent] at latest
    contradiction

/-- A name is bound to the number of the latest entity that is named for it. -/
theorem boundIn?_eq_some_iff {events : List Event} {pointer : String} {heap : HeapId} :
    boundIn? events pointer = some heap ↔
      ∃ entity, latestEntity? (pointer ++ "_heap") events = some entity ∧
        entity.heap = some heap :=
  Option.bind_eq_some_iff

/-- Two lists of events record entities of a name with the same numbers, in the same order. -/
def SameAllocations (name : String) (first second : List Event) : Prop :=
  (entitiesNamed name first).map Record.heap = (entitiesNamed name second).map Record.heap

/-- The numbers of the entities of a name decide what the name is bound to. -/
theorem SameAllocations.boundIn?_eq {pointer : String} {first second : List Event}
    (same : SameAllocations (pointer ++ "_heap") first second) :
    boundIn? first pointer = boundIn? second pointer := by
  have lastNumber (events : List Event) : boundIn? events pointer =
      ((entitiesNamed (pointer ++ "_heap") events).map Record.heap).getLast?.bind id := by
    rw [List.getLast?_map, Option.bind_map]
    rfl
  rw [lastNumber, lastNumber, same]

/-- What a member write is bound to are the latest entities, where every entity has a number. -/
theorem MemberWrite.BoundBy.refersToLatest {write : MemberWrite} {before : List Event}
    (bound : write.BoundBy before) (numbered : EntitiesNumbered before) :
    write.RefersToLatest before where
  target := by
    intro heap
    rw [bound.target]
    exact boundIn?_eq_some_iff
  noTarget := by
    rw [bound.target]
    exact boundIn?_eq_none_iff numbered write.object
  pointee := by
    intro pointee
    rw [bound.pointee, Option.bind_eq_some_iff]
    constructor
    · rintro ⟨name, isName, found⟩
      obtain ⟨heap, isBound, rfl⟩ := Option.map_eq_some_iff.mp found
      obtain ⟨entity, latest, number⟩ := boundIn?_eq_some_iff.mp isBound
      exact ⟨name, entity, heap, isName, latest, number, rfl⟩
    · rintro ⟨name, entity, heap, isName, latest, number, rfl⟩
      have isBound := boundIn?_eq_some_iff.mpr ⟨entity, latest, number⟩
      exact ⟨name, isName, Option.map_eq_some_iff.mpr ⟨heap, isBound, rfl⟩⟩
  noPointee := by
    simp only [bound.pointee, Option.bind_eq_none_iff, Option.map_eq_none_iff,
      boundIn?_eq_none_iff numbered]

namespace Program

variable {program : Program} {naming : ScopeNaming} {before after : List Event}
  {write : MemberWrite}

/-- A whole program leaves a table that agrees with its events. -/
theorem run_tableFromEvents (program : Program) (naming : ScopeNaming) :
    (Recorder.run { program, naming }).TableFromEvents := by
  have start : Recorder.empty.TableFromEvents := ⟨fun _ => rfl, everywhere_nil⟩
  exact (Recorder.Recording.run _).tableFromEvents (start.emit rfl nofun)

/-- A member write of a timeline refers to what the events before it bind. -/
theorem write_boundBy
    (split : (program.timeline naming).events = before ++ .memberWrite write :: after) :
    write.BoundBy before :=
  (program.run_tableFromEvents naming).writes before (.memberWrite write) after split write rfl

/-- Every entity of a timeline has a number. -/
theorem timeline_entitiesNumbered (program : Program) (naming : ScopeNaming) :
    EntitiesNumbered (program.timeline naming).events := by
  intro entity member isNew unnumbered
  obtain ⟨earlier, later, split⟩ := List.append_of_mem member
  have unmarked := ((record_coherentAt split).unallocated unnumbered).allocation
  rw [isNew] at unmarked
  contradiction

/-- What a member write refers to can be read off the events before it, in the timeline of every
program and under either naming of blocks. Its object is bound to the number of the latest entity
named for it, and so is the written value if it is a name; a name without such an entity is bound
to nothing. Nothing else has a say. Two writes, of one program or of two, refer to the same
allocations if the entities before them that are named for their names have the same numbers,
whatever was called, whichever scopes were open, and however often the names were declared again
without an allocation. -/
theorem member_write_refers_to_latest
    (split : (program.timeline naming).events = before ++ .memberWrite write :: after) :
    write.RefersToLatest before ∧
      ∀ (other : Program) (otherNaming : ScopeNaming) (earlier later : List Event)
        (again : MemberWrite),
        (other.timeline otherNaming).events = earlier ++ .memberWrite again :: later →
        (again.object = write.object →
          SameAllocations (write.object ++ "_heap") earlier before →
          again.target = write.target) ∧
        (again.value = write.value →
          (∀ name, write.value.identifier? = some name →
            SameAllocations (name ++ "_heap") earlier before) →
          again.pointee = write.pointee) := by
  have bound := write_boundBy split
  have numbered := program.timeline_entitiesNumbered naming
  rw [split] at numbered
  refine ⟨bound.refersToLatest numbered.of_append, ?_⟩
  intro other otherNaming earlier later again splitAgain
  have boundAgain := write_boundBy splitAgain
  constructor
  · intro sameObject same
    rw [boundAgain.target, bound.target, sameObject, same.boundIn?_eq]
  · intro sameValue same
    rw [boundAgain.pointee, bound.pointee, sameValue]
    refine Option.bind_congr fun name isName => ?_
    rw [(same name isName).boundIn?_eq]

/-- A pointer is allocated in a call and declared again after it, and its target in a loop. The
write that links the two refers to both allocations, like a write in a branch of a program that
allocates both at the top. -/
theorem member_write_refers_to_latest_after_call :
    let pointer (name : String) (allocation : Option String) : Node := .classPointer
      { name, classType := some "Node", allocatedType := none, allocation, scope := none
        args := [], id := none, line := none }
    let link : Node := .memberAssignment
      { object := "p", member := "next", value := .obj [("name", .str "q")], scope := none
        pointerAccess := true, line := none }
    let call : Node := .functionCall
      { name := "f", args := [], body := [pointer "p" (some "new")], scope := none, line := none }
    let loop : Node := .whileStatement (some [pointer "q" (some "new")]) none
    let branch : Node := .ifStatement (some [link]) none none
    let nested := Program.timeline ⟨[call, pointer "p" none, loop, link]⟩ .shared
    let flat := Program.timeline ⟨[pointer "p" (some "new"), pointer "q" (some "new"), branch]⟩
      .unique
    ∃ before write earlier again later,
      nested.events = before ++ [.memberWrite write] ∧ write.RefersToLatest before ∧
      write.target = some 0 ∧ write.pointee = some ⟨"q_heap", some 1⟩ ∧
      flat.events = earlier ++ .memberWrite again :: later ∧ again.scope = "if_body#1" ∧
      again.target = write.target ∧ again.pointee = write.pointee := by
  intro pointer link call loop branch nested flat
  have split : nested.events = (nested.upTo 10).events ++ [.memberWrite _] := rfl
  have splitAgain : flat.events = (flat.upTo 6).events ++ .memberWrite _ :: [_] := rfl
  obtain ⟨refers, agrees⟩ := member_write_refers_to_latest split
  obtain ⟨sameTarget, samePointee⟩ := agrees _ _ _ _ _ splitAgain
  refine ⟨_, _, _, _, _, split, refers, rfl, rfl, splitAgain, by decide, sameTarget rfl rfl, ?_⟩
  refine samePointee rfl ?_
  rintro _ ⟨⟩
  rfl

end Program

end MemoryTimeline
