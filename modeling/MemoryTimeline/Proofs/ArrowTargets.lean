import Mathlib.Data.List.Nodup
import MemoryTimeline.Proofs.HeapReplay
import MemoryTimeline.Proofs.Placement

/-!
# Where links lead

A link looks for its target by number first and by name after that. In the timeline of a
program a number comes with the name of its entity, so the number never finds anything
that the name would not find (`target?_eq_targetByName?`). A link thus leads to its own
allocation exactly while the latest record of that name on the heap is the entity it was
given; a pointer of the same name that allocates later takes the place of the entity, and
links to both numbers lead to the later one.
-/

namespace MemoryTimeline

namespace Scene.Places

/-- The place that a link leads to by name alone: that of its pointee's name, or else that
of another field of the same object. -/
def targetByName? (places : Places) (link : Link) : Option (String × Point) :=
  (places.ofName? link.pointee.name).or ((splitQualified? link.source).bind fun (object, _) =>
    places.ofName? (qualified object link.pointee.name))

/-- An arrow goes by the number of its allocation, and by name if this leads nowhere. -/
theorem target?_eq_or (places : Places) (link : Link) :
    places.target? link =
      (link.pointee.heap.bind places.ofHeap?).or (places.targetByName? link) :=
  Option.or_assoc

/-- A number whose name is the pointee's own adds nothing to the name. -/
theorem target?_eq_targetByName?_of_heapName {places : Places} {link : Link}
    (named : ∀ heap name, link.pointee.heap = some heap →
      places.heapNames.lookup heap = some name → name = link.pointee.name) :
    places.target? link = places.targetByName? link := by
  rw [target?_eq_or]
  cases numbered : link.pointee.heap with
  | none => rfl
  | some heap =>
      cases found : places.heapNames.lookup heap with
      | none => simp [ofHeap?, found]
      | some name =>
          obtain rfl := named heap name numbered found
          have same : places.ofHeap? heap = places.ofName? link.pointee.name := by
            rw [ofHeap?, found]
            rfl
          rw [Option.bind_some, same, targetByName?, ← Option.or_assoc, Option.or_self]

end Scene.Places

namespace Program

variable {program : Program} {naming : ScopeNaming} {step : Nat}

/-- The number of a live pointee is allocated under the pointee's name. -/
theorem allocated_of_live_pointee {record : Record} {heap : HeapId} {name : String}
    (live : record ∈ ((program.timeline naming).snapshot step).live)
    (linked : record.pointee = some { name, heap := some heap }) :
    Allocated (program.timeline naming).events heap name := by
  have initial := List.take_prefix step (program.timeline naming).events
  rcases allocated_of_replayed_pointee initial (Timeline.mem_snapshot_live.mp live).1 linked with
    ⟨entity, member, number, named⟩ | ⟨_, _, entity, _, pair, named, completed⟩
  · exact ⟨entity, initial.subset member, number, named⟩
  · exact ⟨entity, completed.subset (by simp), pair.entityHeap, named⟩

/-- A live record with a number belongs to the heap. -/
theorem scope_eq_of_live_heap {entity : Record} {heap : HeapId}
    (live : entity ∈ ((program.timeline naming).snapshot step).live)
    (number : entity.heap = some heap) : entity.scope = heapScope := by
  obtain ⟨recorded, isRecorded, same⟩ := Timeline.exists_recorded_of_mem_live live
  have sameNumber : entity.heap = recorded.heap := by rw [same]
  have sameScope : entity.scope = recorded.scope := by rw [same]
  rw [sameScope]
  exact entity_scope_eq isRecorded (sameNumber.symm.trans number)

/-- Live records of one key are the same. -/
theorem live_eq_of_key {first second : Record}
    (firstLive : first ∈ ((program.timeline naming).snapshot step).live)
    (secondLive : second ∈ ((program.timeline naming).snapshot step).live)
    (sameKey : first.key = second.key) : first = second :=
  List.inj_on_of_nodup_map (Timeline.nodup_snapshot_live _ _) firstLive secondLive sameKey

/-- A number is live exactly while the latest record of its entity's key is the entity. -/
theorem exists_live_heap_iff {heap : HeapId} :
    (∃ entity ∈ ((program.timeline naming).snapshot step).live, entity.heap = some heap) ↔
      ∃ before entity after,
        (program.timeline naming).events.take step = before ++ .var entity :: after ∧
          entity.heap = some heap ∧ ∀ later, .var later ∈ after → later.key ≠ entity.key := by
  constructor
  · rintro ⟨record, live, number⟩
    obtain ⟨before, latest, after, split, _, sameNumber, lastOne⟩ :=
      Snapshot.exists_latest_of_replayed (Timeline.mem_snapshot_live.mp live).1
    exact ⟨before, latest, after, split, sameNumber.trans number, lastOne⟩
  · rintro ⟨before, entity, after, split, number, lastOne⟩
    have recorded : .var entity ∈ (program.timeline naming).events.take step := by simp [split]
    have onHeap := entity_scope_eq ((List.take_prefix step _).subset recorded) number
    obtain ⟨record, live, sameKey⟩ := Timeline.exists_mem_snapshot_live.mpr
      ⟨⟨entity, recorded, rfl⟩, .inl onHeap⟩
    obtain ⟨before', latest, after', split', latestKey, latestNumber, lastOne'⟩ :=
      Snapshot.exists_latest_of_replayed (Timeline.mem_snapshot_live.mp live).1
    have isEntity : latest = entity :=
      Snapshot.latest_unique split' split (latestKey.trans sameKey) lastOne' lastOne
    exact ⟨record, live, by rw [← latestNumber, isEntity, number]⟩

section Links

variable {metrics : Scene.Metrics} {link : Scene.Link}
  (isLink : link ∈ (((program.timeline naming).snapshot step).scene metrics).links)

include isLink

/-- A live record with the number of a link has the key of the link's pointee. -/
theorem key_eq_of_link_heap {entity : Record} {heap : HeapId}
    (linked : link.pointee.heap = some heap)
    (live : entity ∈ ((program.timeline naming).snapshot step).live)
    (number : entity.heap = some heap) : entity.key = (heapScope, link.pointee.name) := by
  obtain ⟨record, recordLive, _, pointee⟩ := Scene.exists_record_of_mem_links isLink
  have allocated : Allocated (program.timeline naming).events heap link.pointee.name :=
    allocated_of_live_pointee recordLive (by rw [pointee, ← linked])
  exact key_eq_of_heap (List.take_prefix step _) (Timeline.mem_snapshot_live.mp live).1 number
    allocated

/-- A link leads to the place that it leads to by name alone. -/
theorem target?_eq_targetByName? :
    (((program.timeline naming).snapshot step).scene metrics).places.target? link =
      (((program.timeline naming).snapshot step).scene metrics).places.targetByName? link := by
  apply Scene.Places.target?_eq_targetByName?_of_heapName
  intro heap name linked found
  obtain ⟨node, isNode, number, rfl⟩ := Scene.exists_node_of_heapName found
  obtain ⟨entity, live, stands⟩ := Scene.exists_record_of_mem_nodes isNode
  have key := key_eq_of_link_heap isLink linked live (stands.heap.symm.trans number)
  exact stands.name.trans (congrArg Prod.snd key)

/-- A link leads to any live record of its pointee's name. -/
theorem target?_of_live_name {record : Record}
    (live : record ∈ ((program.timeline naming).snapshot step).live)
    (named : record.name = link.pointee.name) :
    ((((program.timeline naming).snapshot step).scene metrics).places.target? link).map Prod.fst =
      some record.name := by
  have drawn : (((program.timeline naming).snapshot step).scene metrics).Draws record :=
    Scene.draws_of_mem_live live
  obtain ⟨point, placed⟩ := Scene.exists_place_of_draws drawn
  rw [target?_eq_targetByName? isLink, Scene.Places.targetByName?, ← named, placed]
  rfl

end Links

/-- Numbers make no difference to what is shown of a program. Member writes reach the same
records by the name of their object alone, so every snapshot is the same without numbers,
and in every scene a link leads to where the names of its pointee and its siblings lead. -/
theorem resolution_by_name_alone (program : Program) (naming : ScopeNaming) (step : Nat) :
    let timeline := program.timeline naming
    timeline.snapshot step = timeline.snapshotByName step ∧
      ∀ metrics, let scene := (timeline.snapshot step).scene metrics
        ∀ link ∈ scene.links, scene.places.target? link = scene.places.targetByName? link := by
  intro timeline
  refine ⟨(program.snapshotByName_eq_snapshot naming step).symm, ?_⟩
  intro metrics scene link isLink
  exact target?_eq_targetByName? isLink

/-- A link leads to its own allocation, drawn and named by no entity of another, exactly
while the latest record of the entity's key is the entity itself. Whatever else is live
under the name of the pointee is drawn too, and the link leads to it. -/
theorem link_leads_to_allocation_iff (program : Program) (naming : ScopeNaming) (step : Nat)
    (metrics : Scene.Metrics) :
    let timeline := program.timeline naming
    let snapshot := timeline.snapshot step
    let scene := snapshot.scene metrics
    ∀ link ∈ scene.links, ∀ heap, link.pointee.heap = some heap →
      ((∃ entity ∈ snapshot.live, entity.heap = some heap ∧ scene.Draws entity ∧
          (scene.places.target? link).map Prod.fst = some entity.name ∧
          ∀ other ∈ snapshot.live, other.name = entity.name → other.heap ≠ none →
            other = entity) ↔
        ∃ before entity after, timeline.events.take step = before ++ .var entity :: after ∧
          entity.heap = some heap ∧ ∀ later, .var later ∈ after → later.key ≠ entity.key) ∧
      ∀ other ∈ snapshot.live, other.name = link.pointee.name →
        scene.Draws other ∧ (scene.places.target? link).map Prod.fst = some other.name := by
  intro timeline snapshot scene link isLink heap linked
  refine ⟨?_, ?_⟩
  · rw [← exists_live_heap_iff]
    constructor
    · rintro ⟨entity, live, number, _⟩
      exact ⟨entity, live, number⟩
    · rintro ⟨entity, live, number⟩
      have key := key_eq_of_link_heap isLink linked live number
      refine ⟨entity, live, number, Scene.draws_of_mem_live live,
        target?_of_live_name isLink live (congrArg Prod.snd key), ?_⟩
      intro other otherLive sameName numbered
      obtain ⟨otherNumber, hasNumber⟩ := Option.ne_none_iff_exists'.mp numbered
      have otherOnHeap := scope_eq_of_live_heap otherLive hasNumber
      have onHeap := scope_eq_of_live_heap live number
      refine live_eq_of_key otherLive live ?_
      rw [Record.key, Record.key, otherOnHeap, onHeap, sameName]
  · intro other live named
    exact ⟨Scene.draws_of_mem_live live, target?_of_live_name isLink live named⟩

/-- A program that allocates for a pointer and then calls a function that allocates for a
pointer of the same name. -/
def reusedPointer : Program :=
  let pointer : Declarator :=
    { name := "p", value := .null, scope := none, pointer := true, allocation := some "new"
      arraySize := none, dimensions := none, values := none, pointsTo := none, id := none
      line := none }
  let allocation : Node := .declaration { declarators := [pointer], scope := none, line := none }
  ⟨[allocation,
    .functionCall { name := "f", args := [], body := [allocation], scope := none, line := none }]⟩

/-- Before the call, the pointer of the caller leads to its own allocation. -/
theorem link_leads_to_own_allocation :
    let snapshot := (reusedPointer.timeline .shared).snapshot 3
    let scene := snapshot.scene .default
    ∃ link ∈ scene.links, link.pointee.heap = some 0 ∧
      ∃ entity ∈ snapshot.live, entity.heap = some 0 ∧ scene.Draws entity ∧
        (scene.places.target? link).map Prod.fst = some entity.name ∧
        ∀ other ∈ snapshot.live, other.name = entity.name → other.heap ≠ none →
          other = entity := by
  intro snapshot scene
  have linked : ∃ link ∈ scene.links, link.pointee.heap = some 0 := by decide
  obtain ⟨link, isLink, number⟩ := linked
  have leads := (link_leads_to_allocation_iff reusedPointer .shared 3 .default link isLink 0
    number).1
  refine ⟨link, isLink, number, leads.mpr ?_⟩
  exact exists_live_heap_iff.mp (by decide)

/-- Inside the call, the pointer of the caller leads to the allocation of the function. -/
theorem link_leads_to_other_allocation :
    let snapshot := (reusedPointer.timeline .shared).snapshot 6
    let scene := snapshot.scene .default
    ∃ link ∈ scene.links, link.pointee = { name := "p_heap", heap := some 0 } ∧
      (scene.places.target? link).map Prod.fst = some "p_heap" ∧
      (snapshot.live.filter (·.name = "p_heap")).map (·.heap) = [some 1] ∧
      ∀ node ∈ scene.nodes, node.name = "p_heap" → node.heap = some 1 := by
  decide

end Program

end MemoryTimeline
