import MemoryTimeline.Proofs.ArrowTargets
import MemoryTimeline.Proofs.GridPlacement

/-!
# What the box of an object shows

A record is live by its scope and its name, but it goes into boxes by its name alone
(`mem_boxed_iff`). A box therefore shows the fields of all live objects of its name in the
same half. It shows its own fields alone exactly when no other scope has a live record
under that name. Of the boxes that show a record, at most one has the scope of the record.
-/

namespace MemoryTimeline

namespace Snapshot

variable {snapshot : Snapshot}

/-- The records that are drawn as fields in the box of a live record, in order. -/
def boxed (snapshot : Snapshot) (object : Record) : List Record :=
  Scene.nestedRecords (Scene.recordsIn snapshot (.of object)) object

/-- A box shows the live records of its half that belong to the name of its object. -/
theorem mem_boxed_iff {object record : Record} (live : object ∈ snapshot.live) :
    record ∈ snapshot.boxed object ↔
      object.kind = .object ∧ record ∈ snapshot.live ∧
        Scene.Region.of record = .of object ∧ record.BelongsTo object.name := by
  have member : object ∈ Scene.recordsIn snapshot (.of object) :=
    Scene.mem_recordsIn.mpr ⟨live, rfl⟩
  by_cases isObject : object.kind = .object
  · rw [boxed, Scene.nestedRecords_eq_filter member isObject, List.mem_filter,
      Scene.mem_recordsIn, decide_eq_true_iff, and_assoc, and_iff_right isObject]
  · have notBox : ¬ Scene.Shape.of object = .object :=
      fun shape => isObject (Scene.Shape.of_eq_object.mp shape)
    rw [boxed, Scene.nestedRecords, if_neg notBox]
    simp [isObject]

/-- The records that have nodes, in the order of the nodes. -/
def placedRecords (snapshot : Snapshot) : List Record :=
  Scene.cellRecords (Scene.recordsIn snapshot .stack)
    ++ Scene.cellRecords (Scene.recordsIn snapshot .heap)

/-- The recorded fields of a node are those of the records in its box. -/
theorem scene_nodes_forall₂ (metrics : Scene.Metrics) (snapshot : Snapshot) :
    List.Forall₂ (fun node record => node.StandsFor record ∧
      List.Forall₂ Scene.PlacedField.StandsFor node.recordedFields (snapshot.boxed record))
      (snapshot.scene metrics).nodes snapshot.placedRecords := by
  have half (region : Scene.Region) :
      List.Forall₂ (fun node record => node.StandsFor record ∧
        List.Forall₂ Scene.PlacedField.StandsFor node.recordedFields (snapshot.boxed record))
        (Scene.placeRegion metrics region (Scene.recordsIn snapshot region))
        (Scene.cellRecords (Scene.recordsIn snapshot region)) := by
    refine Scene.placeRegion_forall₂.imp ?_
    rintro _ record ⟨member, center, rfl⟩
    obtain rfl := (Scene.mem_recordsIn.mp member).2
    refine ⟨(Scene.PlacedNode.place_standsFor metrics record _ .zero).moveTo center, ?_⟩
    have fields := Scene.recordedFields_unplaced metrics
      (Scene.recordsIn snapshot (.of record)) record center
    rw [← List.forall₂_eq_eq_eq, List.forall₂_map_left_iff, List.forall₂_map_right_iff] at fields
    refine fields.imp ?_
    intro field nested same
    exact (Scene.nestedField_standsFor nested).of_unplaced_eq same
  exact List.rel_append (half .stack) (half .heap)

end Snapshot

namespace Program

variable {program : Program} {naming : ScopeNaming} {step : Nat}

/-- Boxes that show one record have the same name, so they differ in scope if at all. -/
theorem box_eq_iff_scope_eq {first second record : Record}
    (firstLive : first ∈ ((program.timeline naming).snapshot step).live)
    (secondLive : second ∈ ((program.timeline naming).snapshot step).live)
    (inFirst : record ∈ ((program.timeline naming).snapshot step).boxed first)
    (inSecond : record ∈ ((program.timeline naming).snapshot step).boxed second) :
    first = second ↔ first.scope = second.scope := by
  obtain ⟨_, _, _, belongs⟩ := (Snapshot.mem_boxed_iff firstLive).mp inFirst
  obtain ⟨_, _, _, belongsToo⟩ := (Snapshot.mem_boxed_iff secondLive).mp inSecond
  constructor
  · exact congrArg Record.scope
  · intro sameScope
    refine live_eq_of_key firstLive secondLive ?_
    rw [Record.key, Record.key, sameScope, belongs.unique belongsToo]

/-- Boxes are filled by names, whatever the scopes. The nodes of a scene stand for the
records that take cells, and the recorded fields of each for the records in its box; these
are the live records of the same half that belong to the name of the object. So the boxes
show their own fields alone, and no record twice, exactly when a live record that belongs to
the name of a live object in its half always has the scope of this object. Two boxes that
show one record are those of objects in different scopes. -/
theorem boxes_show_own_fields_iff (program : Program) (naming : ScopeNaming) (step : Nat)
    (metrics : Scene.Metrics) :
    let snapshot := (program.timeline naming).snapshot step
    List.Forall₂ (fun node record => node.StandsFor record ∧
        List.Forall₂ Scene.PlacedField.StandsFor node.recordedFields (snapshot.boxed record))
        (snapshot.scene metrics).nodes snapshot.placedRecords ∧
      (∀ object ∈ snapshot.live, ∀ record, record ∈ snapshot.boxed object ↔
        object.kind = .object ∧ record ∈ snapshot.live ∧
          Scene.Region.of record = .of object ∧ record.BelongsTo object.name) ∧
      ((∀ object ∈ snapshot.live, ∀ record ∈ snapshot.boxed object,
          record.scope = object.scope ∧
            ∀ other ∈ snapshot.live, record ∈ snapshot.boxed other → other = object) ↔
        ∀ object ∈ snapshot.live, object.kind = .object →
          ∀ record ∈ snapshot.live, Scene.Region.of record = .of object →
            record.BelongsTo object.name → record.scope = object.scope) ∧
      ∀ first ∈ snapshot.live, ∀ second ∈ snapshot.live, ∀ record ∈ snapshot.boxed first,
        record ∈ snapshot.boxed second → (first = second ↔ first.scope = second.scope) := by
  intro snapshot
  refine ⟨Snapshot.scene_nodes_forall₂ metrics snapshot, ?_, ⟨?_, ?_⟩, ?_⟩
  · intro object live record
    exact Snapshot.mem_boxed_iff live
  · intro ownOnly object live isObject record recordLive sameHalf belongs
    exact (ownOnly object live record
      ((Snapshot.mem_boxed_iff live).mpr ⟨isObject, recordLive, sameHalf, belongs⟩)).1
  · intro sameScope object live record inBox
    have scopeOf {owner : Record} (ownerLive : owner ∈ snapshot.live)
        (inOwner : record ∈ snapshot.boxed owner) : record.scope = owner.scope := by
      obtain ⟨isObject, recordLive, sameHalf, belongs⟩ :=
        (Snapshot.mem_boxed_iff ownerLive).mp inOwner
      exact sameScope owner ownerLive isObject record recordLive sameHalf belongs
    refine ⟨scopeOf live inBox, ?_⟩
    intro other otherLive inOther
    refine (box_eq_iff_scope_eq otherLive live inOther inBox).mpr ?_
    exact (scopeOf otherLive inOther).symm.trans (scopeOf live inBox)
  · intro first firstLive second secondLive record inFirst inSecond
    exact box_eq_iff_scope_eq firstLive secondLive inFirst inSecond

/-- A program with an object of one class, and a call that declares an object of the same
name and of another class. -/
def sameNamedObjects : Program :=
  let classNode (name member : String) : Node := .classDeclaration
    { name
      members :=
        [{ kind := .variable, name := member, defaultValue := .int 1, pointer := false
           dataType := none, pointsTo := none, scope := none, params := [], body := []
           id := none, line := none }]
      line := none }
  let object (classType : String) : Node := .objectDeclaration
    { name := some "o", objectName := none, classType, scope := none, args := [], id := none
      line := none }
  ⟨[classNode "C" "x", classNode "D" "y", object "C",
    .functionCall { name := "f", args := [], body := [object "D"], scope := none, line := none }]⟩

/-- During the call, the box of each object shows the fields of both. -/
theorem boxes_show_other_fields :
    let snapshot := (sameNamedObjects.timeline .shared).snapshot 8
    let nodes := (snapshot.scene .default).nodes
    snapshot.live.map Record.key =
        [("global", "o"), ("global", "o.x"), ("f", "o"), ("f", "o.y")] ∧
      (snapshot.placedRecords.map fun object =>
          (object.key, (snapshot.boxed object).map Record.key)) =
        [(("global", "o"), [("global", "o.x"), ("f", "o.y")]),
          (("f", "o"), [("global", "o.x"), ("f", "o.y")])] ∧
      (nodes.map fun node => (node.scope, node.name, node.recordedFields.map (·.name))) =
        [("global", "o", ["o.x", "o.y"]), ("f", "o", ["o.x", "o.y"])] := by
  decide

end Program

end MemoryTimeline
