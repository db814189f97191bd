import Mathlib.Data.List.TakeWhile
import MemoryTimeline.Scene.Basic

/-!
# Records and their places

A node of a scene stands for one live record, and so does each field of an object that
has a record of its own (`StandsFor`). In the other direction no live record is lost: it
has a node, or it is a field of the object that its name begins with
(`draws_of_mem_live`). The table of positions therefore knows every live name, and the
table of allocations only numbers of live records.
-/

namespace MemoryTimeline

/-- A name is taken apart at its first dot. -/
theorem splitQualified?_eq_some_iff {name object member : String} :
    splitQualified? name = some (object, member) ↔
      name = qualified object member ∧ '.' ∉ object.toList := by
  constructor
  · intro found
    have joined : name.toList.takeWhile (· ≠ '.') ++ name.toList.dropWhile (· ≠ '.') =
        name.toList := List.takeWhile_append_dropWhile
    simp only [splitQualified?] at found
    split at found
    · contradiction
    next dot rest atDot =>
      obtain ⟨rfl, rfl⟩ := Prod.mk.inj (Option.some.inj found)
      have isDot : dot = '.' := by
        have stopped := List.head?_dropWhile_not (· ≠ '.') name.toList
        rw [atDot] at stopped
        simpa using stopped
      refine ⟨?_, ?_⟩
      · rw [atDot, isDot] at joined
        rw [← String.toList_inj, qualified]
        simp only [String.toList_append, String.toList_ofList, List.append_assoc]
        exact joined.symm
      · rw [String.toList_ofList]
        intro before
        simpa using List.mem_takeWhile_imp before
  · rintro ⟨rfl, undotted⟩
    have differ : ∀ char ∈ object.toList, decide (char ≠ '.') = true := by
      intro char before
      simpa using fun same : char = '.' => undotted (same ▸ before)
    have chars : (qualified object member).toList = object.toList ++ '.' :: member.toList := by
      simp [qualified]
    simp only [splitQualified?, chars, List.takeWhile_append_of_pos differ,
      List.dropWhile_append_of_pos differ]
    simp

/-- What stands before the first dot of a name has no dot. -/
theorem splitQualified?_object {name object member : String}
    (split : splitQualified? name = some (object, member)) : splitQualified? object = none := by
  obtain ⟨_, undotted⟩ := splitQualified?_eq_some_iff.mp split
  rw [Option.eq_none_iff_forall_not_mem]
  rintro ⟨before, after⟩ found
  obtain ⟨rfl, _⟩ := splitQualified?_eq_some_iff.mp found
  exact undotted (by simp [qualified])

namespace Scene

/-- A node that stands for a record. -/
structure PlacedNode.StandsFor (node : PlacedNode) (record : Record) : Prop where
  name : node.name = record.name
  scope : node.scope = record.scope
  region : node.region = .of record
  shape : node.shape = .of record
  pointee : node.pointee = record.pointee
  heap : node.heap = record.heap

/-- A field that stands for a record of its own. -/
structure PlacedField.StandsFor (field : PlacedField) (record : Record) : Prop where
  name : field.name = record.name
  shape : field.shape = .pointer ↔ record.kind = .pointer
  pointee : field.pointee = record.pointee

/-- A field without its place. -/
def PlacedField.unplaced (field : PlacedField) : PlacedField := { field with center := .zero }

/-- What a field stands for does not depend on where it is placed. -/
theorem PlacedField.StandsFor.of_unplaced_eq {field other : PlacedField} {record : Record}
    (stands : other.StandsFor record) (same : field.unplaced = other.unplaced) :
    field.StandsFor record := by
  simp only [unplaced, PlacedField.mk.injEq] at same
  obtain ⟨sameName, _, sameShape, _, samePointee⟩ := same
  exact ⟨sameName.trans stands.name, sameShape ▸ stands.shape, samePointee.trans stands.pointee⟩

/-- A field inside a box stands for the record that it is made from. -/
theorem nestedField_standsFor (record : Record) : (nestedField record).StandsFor record where
  name := rfl
  shape := by
    unfold nestedField
    by_cases isPointer : record.kind = .pointer <;> simp [isPointer]
  pointee := rfl

namespace PlacedNode

/-- A placed node stands for the record that it is made from. -/
theorem place_standsFor (metrics : Metrics) (record : Record) (nested : List Record)
    (center : Point) : (place metrics record nested center).StandsFor record := by
  unfold place
  split <;> exact ⟨rfl, rfl, rfl, rfl, rfl, rfl⟩

/-- A node stands for the same record wherever it is moved. -/
theorem StandsFor.moveTo {node : PlacedNode} {record : Record} (stands : node.StandsFor record)
    (center : Point) : (node.moveTo center).StandsFor record :=
  ⟨stands.name, stands.scope, stands.region, stands.shape, stands.pointee, stands.heap⟩

/-- The fields of a node move with it, and are otherwise as they were. -/
theorem moveTo_fields_unplaced (node : PlacedNode) (center : Point) :
    (node.moveTo center).fields.map PlacedField.unplaced =
      node.fields.map PlacedField.unplaced := by
  simp [moveTo, PlacedField.unplaced]

/-- An object shows its fields, whatever their places, and no other record has fields. -/
theorem place_fields_unplaced (metrics : Metrics) (record : Record) (nested : List Record)
    (center : Point) :
    (place metrics record nested center).fields.map PlacedField.unplaced =
      if Shape.of record = .object then
        (objectFields record nested).map PlacedField.unplaced
      else [] := by
  unfold place
  cases isObject : Shape.of record with
  | object =>
      have withoutRows : (objectFields record nested).zipIdx.map (PlacedField.unplaced ∘ Prod.fst) =
          (objectFields record nested).map PlacedField.unplaced := by
        rw [← List.map_map, List.zipIdx_map_fst]
      rw [if_pos rfl, List.map_map, ← withoutRows]
      rfl
  | scalar => rfl
  | pointer => rfl
  | parameter => rfl
  | array => rfl
  | heapBlock => rfl

end PlacedNode

section Region

variable {metrics : Metrics} {region : Region} {records : List Record}

/-- The nodes of a half are its records that belong to no object, each moved to some cell. -/
theorem mem_placeRegion {node : PlacedNode} (member : node ∈ placeRegion metrics region records) :
    ∃ record ∈ records, ∃ center,
      node = (PlacedNode.place metrics record (nestedRecords records record) .zero).moveTo
        center := by
  obtain ⟨⟨unplaced, index⟩, indexed, rfl⟩ := List.mem_map.mp member
  have isNode : unplaced ∈ unplacedNodes metrics records :=
    List.mem_of_getElem? (List.mem_zipIdx_iff_getElem?.mp indexed)
  obtain ⟨record, isRecord, rfl⟩ := List.mem_map.mp isNode
  exact ⟨record, (List.mem_filter.mp isRecord).1, _, rfl⟩

/-- A record that belongs to no object has a node. -/
theorem exists_mem_placeRegion {record : Record} (member : record ∈ records)
    (ownerless : owner? (objectNames records) record = none) :
    ∃ center, (PlacedNode.place metrics record (nestedRecords records record) .zero).moveTo
      center ∈ placeRegion metrics region records := by
  have isNode : PlacedNode.place metrics record (nestedRecords records record) .zero ∈
      unplacedNodes metrics records :=
    List.mem_map.mpr ⟨record, List.mem_filter.mpr ⟨member, by simp [ownerless]⟩, rfl⟩
  obtain ⟨index, found⟩ := List.mem_iff_getElem?.mp isNode
  exact ⟨_, List.mem_map.mpr ⟨(_, index), List.mem_zipIdx_iff_getElem?.mpr found, rfl⟩⟩

/-- The fields of a node stand for records of its half, or have no record and point to
nothing. -/
theorem field_of_mem_placeRegion {node : PlacedNode} {field : PlacedField}
    (member : node ∈ placeRegion metrics region records) (isField : field ∈ node.fields) :
    (∃ record ∈ records, field.StandsFor record) ∨ field.pointee = none := by
  obtain ⟨record, _, center, rfl⟩ := mem_placeRegion member
  have shown : field.unplaced ∈ ((PlacedNode.place metrics record
      (nestedRecords records record) .zero).moveTo center).fields.map PlacedField.unplaced :=
    List.mem_map_of_mem isField
  rw [PlacedNode.moveTo_fields_unplaced, PlacedNode.place_fields_unplaced] at shown
  split at shown
  · obtain ⟨original, isOriginal, same⟩ := List.mem_map.mp shown
    rcases List.mem_append.mp isOriginal with recorded | unrecorded
    · obtain ⟨nested, isNested, rfl⟩ := List.mem_map.mp recorded
      refine .inl ⟨nested, ?_, (nestedField_standsFor nested).of_unplaced_eq same.symm⟩
      unfold nestedRecords at isNested
      split at isNested
      · exact (List.mem_filter.mp isNested).1
      · contradiction
    · obtain ⟨_, _, rfl⟩ := List.mem_map.mp unrecorded
      exact .inr (congrArg PlacedField.pointee same).symm
  · contradiction

/-- A record that belongs to an object is a field of a node. -/
theorem exists_field_of_owner {record : Record} {object : String} (member : record ∈ records)
    (owned : owner? (objectNames records) record = some object) :
    ∃ owner ∈ records, owner.name = object ∧ Shape.of owner = .object ∧
      ∃ node ∈ placeRegion metrics region records, node.StandsFor owner ∧
        ∃ field ∈ node.fields, field.StandsFor record := by
  obtain ⟨⟨before, after⟩, split, chosen⟩ := Option.bind_eq_some_iff.mp owned
  simp only [Option.ite_none_right_eq_some, Option.some.injEq] at chosen
  obtain ⟨isObject, rfl⟩ := chosen
  obtain ⟨owner, isOwner, named⟩ := List.mem_map.mp (List.contains_iff_mem.mp isObject)
  obtain ⟨ownerMember, hasShape⟩ := List.mem_filter.mp isOwner
  have shape : Shape.of owner = .object := by simpa using hasShape
  -- The name of the object has no dot, so the object is not a field itself.
  have ownerless : owner? (objectNames records) owner = none := by
    rw [owner?, named, splitQualified?_object split]
    rfl
  obtain ⟨center, placed⟩ := exists_mem_placeRegion ownerMember ownerless
  have stands := (PlacedNode.place_standsFor metrics owner (nestedRecords records owner)
    .zero).moveTo center
  refine ⟨owner, ownerMember, named, shape, _, placed, stands, ?_⟩
  have isNested : record ∈ nestedRecords records owner := by
    rw [nestedRecords, if_pos shape]
    exact List.mem_filter.mpr ⟨member, by simp [owned, named]⟩
  have shown : (nestedField record).unplaced ∈ ((PlacedNode.place metrics owner
      (nestedRecords records owner) .zero).moveTo center).fields.map PlacedField.unplaced := by
    rw [PlacedNode.moveTo_fields_unplaced, PlacedNode.place_fields_unplaced, if_pos shape]
    exact List.mem_map_of_mem (List.mem_append_left _ (List.mem_map_of_mem isNested))
  obtain ⟨field, isField, same⟩ := List.mem_map.mp shown
  exact ⟨field, isField, (nestedField_standsFor record).of_unplaced_eq same⟩

end Region

/-- The places of the nodes of a scene and their fields. -/
def places (scene : Scene) : Places := placesOf scene.nodes

/-- The links of the nodes of a scene and their fields. -/
def links (scene : Scene) : List Link := scene.nodes.flatMap PlacedNode.links

/-- A scene draws a record as a node, or as a field of an object in the half of the record. -/
def Draws (scene : Scene) (record : Record) : Prop :=
  (∃ node ∈ scene.nodes, node.StandsFor record) ∨
    ∃ node ∈ scene.nodes, node.shape = .object ∧ node.region = .of record ∧
      ∃ field ∈ node.fields, field.StandsFor record

section Nodes

variable {metrics : Metrics} {snapshot : Snapshot}

/-- The nodes of a scene are those of its two halves. -/
theorem mem_scene_nodes {node : PlacedNode} :
    node ∈ (snapshot.scene metrics).nodes ↔
      ∃ region, node ∈ placeRegion metrics region (recordsIn snapshot region) := by
  constructor
  · intro member
    rcases List.mem_append.mp member with onStack | onHeap
    · exact ⟨.stack, onStack⟩
    · exact ⟨.heap, onHeap⟩
  · rintro ⟨region, member⟩
    cases region with
    | stack => exact List.mem_append_left _ member
    | heap => exact List.mem_append_right _ member

theorem mem_recordsIn {region : Region} {record : Record} :
    record ∈ recordsIn snapshot region ↔ record ∈ snapshot.live ∧ Region.of record = region := by
  simp [recordsIn]

/-- Every node stands for a live record. -/
theorem exists_record_of_mem_nodes {node : PlacedNode}
    (member : node ∈ (snapshot.scene metrics).nodes) :
    ∃ record ∈ snapshot.live, node.StandsFor record := by
  obtain ⟨region, inRegion⟩ := mem_scene_nodes.mp member
  obtain ⟨record, isRecord, center, rfl⟩ := mem_placeRegion inRegion
  exact ⟨record, (mem_recordsIn.mp isRecord).1,
    (PlacedNode.place_standsFor metrics record _ .zero).moveTo center⟩

/-- Every live record is drawn. -/
theorem draws_of_mem_live {record : Record} (member : record ∈ snapshot.live) :
    (snapshot.scene metrics).Draws record := by
  have inRegion : record ∈ recordsIn snapshot (.of record) := mem_recordsIn.mpr ⟨member, rfl⟩
  cases owned : owner? (objectNames (recordsIn snapshot (.of record))) record with
  | none =>
      obtain ⟨center, placed⟩ := exists_mem_placeRegion inRegion owned
      exact .inl ⟨_, mem_scene_nodes.mpr ⟨_, placed⟩,
        (PlacedNode.place_standsFor metrics record _ .zero).moveTo center⟩
  | some object =>
      obtain ⟨owner, isOwner, _, shape, node, placed, stands, field, isField, shown⟩ :=
        exists_field_of_owner inRegion owned
      refine .inr ⟨node, mem_scene_nodes.mpr ⟨_, placed⟩, stands.shape.trans shape, ?_, field,
        isField, shown⟩
      exact stands.region.trans (mem_recordsIn.mp isOwner).2

/-- Every link is that of a live record. -/
theorem exists_record_of_mem_links {link : Link} (member : link ∈ (snapshot.scene metrics).links) :
    ∃ record ∈ snapshot.live, record.name = link.source ∧ record.pointee = some link.pointee := by
  obtain ⟨node, isNode, isLink⟩ := List.mem_flatMap.mp member
  rcases List.mem_append.mp isLink with own | ofField
  · obtain ⟨record, live, stands⟩ := exists_record_of_mem_nodes isNode
    unfold PlacedNode.ownLink? at own
    split at own
    · obtain ⟨pointee, linked, rfl⟩ := Option.map_eq_some_iff.mp (Option.mem_toList.mp own)
      exact ⟨record, live, stands.name.symm, stands.pointee.symm.trans linked⟩
    · contradiction
  · obtain ⟨field, isField, isOwn⟩ := List.mem_filterMap.mp ofField
    obtain ⟨region, inRegion⟩ := mem_scene_nodes.mp isNode
    unfold PlacedField.link? at isOwn
    split at isOwn
    · obtain ⟨pointee, linked, rfl⟩ := Option.map_eq_some_iff.mp isOwn
      rcases field_of_mem_placeRegion inRegion isField with ⟨record, isRecord, stands⟩ | unlinked
      · exact ⟨record, (mem_recordsIn.mp isRecord).1, stands.name.symm,
          stands.pointee.symm.trans linked⟩
      · rw [unlinked] at linked
        contradiction
    · contradiction

end Nodes

/-- A name that is drawn has a place. -/
theorem exists_place_of_draws {scene : Scene} {record : Record} (drawn : scene.Draws record) :
    ∃ point, scene.places.ofName? record.name = some (record.name, point) := by
  have named : ∃ entry ∈ scene.nodes.flatMap PlacedNode.positions, entry.1 = record.name := by
    rcases drawn with ⟨node, isNode, stands⟩ | ⟨node, isNode, _, _, field, isField, stands⟩
    · exact ⟨_, List.mem_flatMap.mpr ⟨node, isNode, List.mem_cons_self⟩, stands.name⟩
    · exact ⟨_, List.mem_flatMap.mpr ⟨node, isNode,
        List.mem_cons_of_mem _ (List.mem_map_of_mem isField)⟩, stands.name⟩
  obtain ⟨entry, member, sameName⟩ := named
  have found : (scene.places.positions.lookup record.name).isSome := by
    rw [places, placesOf, Table.lookup_ofList, List.lookup_isSome_iff]
    exact ⟨entry, List.mem_reverse.mpr member, by simp [sameName]⟩
  obtain ⟨point, isPoint⟩ := Option.isSome_iff_exists.mp found
  exact ⟨point, by rw [Places.ofName?, isPoint]; rfl⟩

/-- A number that has a name is that of a node of this name. -/
theorem exists_node_of_heapName {scene : Scene} {heap : HeapId} {name : String}
    (found : scene.places.heapNames.lookup heap = some name) :
    ∃ node ∈ scene.nodes, node.heap = some heap ∧ node.name = name := by
  rw [places, placesOf, Table.lookup_ofList, List.lookup_eq_some_iff] at found
  obtain ⟨before, after, split, _⟩ := found
  have entered : (heap, name) ∈ scene.nodes.filterMap PlacedNode.heapEntry? := by
    rw [← List.mem_reverse, split]
    simp
  obtain ⟨node, isNode, entry⟩ := List.mem_filterMap.mp entered
  obtain ⟨number, hasNumber, same⟩ := Option.map_eq_some_iff.mp entry
  obtain ⟨rfl, rfl⟩ := Prod.mk.inj same
  exact ⟨node, isNode, hasNumber, rfl⟩

end Scene

end MemoryTimeline
