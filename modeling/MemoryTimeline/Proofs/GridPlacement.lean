import Mathlib.Data.List.Forall2
import MemoryTimeline.Proofs.Placement

/-!
# Cells and boxes

In each half of a scene a record takes a cell of the grid (`TakesCell`), unless its name
begins with that of an object of the same half, and then it is drawn in the box of every
such object. `placeRegion_eq_map` says which node stands in which cell, and
`getElem?_rowsOf` that cells by rows and columns are the list of nodes cut into rows, so
every row that is asked for its height is there. All of this holds for any measures.
-/

namespace MemoryTimeline

/-- A record whose name, up to its first dot, is that of an object. -/
def Record.BelongsTo (record : Record) (object : String) : Prop :=
  '.' ∉ object.toList ∧ ∃ member, record.name = object ++ "." ++ member

/-- A name belongs to the object before its first dot. -/
theorem Record.belongsTo_iff {record : Record} {object : String} :
    record.BelongsTo object ↔ (splitQualified? record.name).map Prod.fst = some object := by
  rw [Option.map_eq_some_iff]
  constructor
  · rintro ⟨undotted, member, named⟩
    exact ⟨(object, member), splitQualified?_eq_some_iff.mpr ⟨named, undotted⟩, rfl⟩
  · rintro ⟨⟨_, member⟩, split, rfl⟩
    obtain ⟨named, undotted⟩ := splitQualified?_eq_some_iff.mp split
    exact ⟨undotted, member, named⟩

instance (record : Record) (object : String) : Decidable (record.BelongsTo object) :=
  decidable_of_iff _ Record.belongsTo_iff.symm

/-- A name begins with at most one object. -/
theorem Record.BelongsTo.unique {record : Record} {object other : String}
    (belongs : record.BelongsTo object) (belongsToo : record.BelongsTo other) :
    object = other := by
  rw [belongsTo_iff] at belongs belongsToo
  exact Option.some.inj (belongs.symm.trans belongsToo)

namespace Scene

/-- Objects alone have the shape of objects. -/
theorem Shape.of_eq_object {record : Record} :
    Shape.of record = .object ↔ record.kind = .object := by
  cases kind : record.kind <;> simp [Shape.of, kind]

/-- A record that belongs to no object of the same half. -/
def TakesCell (records : List Record) (record : Record) : Prop :=
  ∀ object ∈ records, object.kind = .object → ¬ record.BelongsTo object.name

instance (records : List Record) (record : Record) : Decidable (TakesCell records record) :=
  inferInstanceAs (Decidable (∀ object ∈ records, _))

/-- The records of a half that take a cell, in order. -/
def cellRecords (records : List Record) : List Record := records.filter (TakesCell records ·)

section Owners

variable {records : List Record} {record : Record}

/-- A field is shown in the box of its object, if this object is drawn. -/
theorem owner?_eq_some_iff {object : String} :
    owner? (objectNames records) record = some object ↔
      record.BelongsTo object ∧ ∃ owner ∈ records, owner.kind = .object ∧ owner.name = object := by
  have isObject : (objectNames records).contains object ↔
      ∃ owner ∈ records, owner.kind = .object ∧ owner.name = object := by
    simp [objectNames, Shape.of_eq_object, and_assoc]
  rw [Record.belongsTo_iff, ← isObject, owner?]
  cases splitQualified? record.name with
  | none => simp
  | some parts =>
      simp only [Option.bind_some, Option.map_some, Option.ite_none_right_eq_some,
        Option.some.injEq]
      constructor
      · rintro ⟨found, rfl⟩
        exact ⟨rfl, found⟩
      · rintro ⟨rfl, found⟩
        exact ⟨found, rfl⟩

/-- A record that no drawn object owns takes a cell of its own. -/
theorem owner?_eq_none_iff :
    owner? (objectNames records) record = none ↔ TakesCell records record := by
  rw [Option.eq_none_iff_forall_ne_some]
  constructor
  · intro ownerless object member isObject belongs
    exact ownerless object.name (owner?_eq_some_iff.mpr ⟨belongs, object, member, isObject, rfl⟩)
  · intro takesCell object owned
    obtain ⟨belongs, owner, member, isObject, rfl⟩ := owner?_eq_some_iff.mp owned
    exact takesCell owner member isObject belongs

/-- The records in the box of an object are those of its half that belong to its name,
whatever their scopes. -/
theorem nestedRecords_eq_filter {object : Record} (member : object ∈ records)
    (isObject : object.kind = .object) :
    nestedRecords records object = records.filter (·.BelongsTo object.name) := by
  rw [nestedRecords, if_pos (Shape.of_eq_object.mpr isObject)]
  apply List.filter_congr
  intro other _
  have owned : owner? (objectNames records) other = some object.name ↔
      other.BelongsTo object.name ∧
        ∃ owner ∈ records, owner.kind = .object ∧ owner.name = object.name := owner?_eq_some_iff
  rw [decide_eq_decide, owned, and_iff_left ⟨object, member, isObject, rfl⟩]

/-- The name of an object that something belongs to has no dot, so the object takes a cell. -/
theorem takesCell_of_belongsTo {object : Record} (belongs : record.BelongsTo object.name) :
    TakesCell records object := by
  intro other _ _ belongsToo
  obtain ⟨_, member, named⟩ := belongsToo
  exact belongs.1 (by simp [named])

end Owners

section Rows

variable {Item : Type} {columns : Nat}

/-- The item at a position stands in the row and the column that division gives. -/
theorem getElem?_rowsOf (positive : 0 < columns) {items : List Item} {index : Nat} {item : Item}
    (found : items[index]? = some item) :
    ∃ row, (rowsOf columns items)[index / columns]? = some row ∧
      row[index % columns]? = some item := by
  obtain ⟨within, _⟩ := List.getElem?_eq_some_iff.mp found
  have inRows : index / columns < (items.length + columns - 1) / columns := by
    have next : (index + columns) / columns = index / columns + 1 := Nat.add_div_right _ positive
    have bounded : (index + columns) / columns ≤ (items.length + columns - 1) / columns :=
      Nat.div_le_div_right (by omega)
    omega
  refine ⟨(items.drop (index / columns * columns)).take columns, ?_, ?_⟩
  · rw [rowsOf, List.getElem?_map, List.getElem?_range inRows]
    rfl
  · rw [List.getElem?_take_of_lt (Nat.mod_lt index positive), List.getElem?_drop,
      Nat.div_add_mod', found]

theorem rowsOf_map {Other : Type} (change : Item → Other) (items : List Item) :
    rowsOf columns (items.map change) = (rowsOf columns items).map (List.map change) := by
  simp [rowsOf, List.map_take, List.map_drop]

/-- The height of a row depends on the heights of its nodes alone. -/
theorem rowHeight_eq (metrics : Metrics) :
    rowHeight metrics =
      (fun heights => heights.foldl (fun height next => larger height (next + rowGap))
        metrics.rowPitch) ∘ List.map fun node : PlacedNode => node.bounds.height := by
  funext row
  rw [Function.comp_apply, List.foldl_map]
  rfl

/-- The height of a row depends on the heights of its nodes alone. -/
theorem rowHeights_congr {metrics : Metrics} {nodes others : List PlacedNode}
    (same : nodes.map (·.bounds.height) = others.map (·.bounds.height)) :
    (rowsOf columns nodes).map (rowHeight metrics) =
      (rowsOf columns others).map (rowHeight metrics) := by
  rw [rowHeight_eq, ← List.map_map, ← List.map_map, ← rowsOf_map, ← rowsOf_map, same]

end Rows

/-- The grid has a column at least, however narrow the cells. -/
theorem Metrics.columns_pos (metrics : Metrics) : 1 ≤ metrics.columns := by
  unfold columns
  split
  · exact Nat.le_refl 1
  · exact Nat.le_max_right _ 1

/-- The heights of the rows of a half. -/
def rowHeights (metrics : Metrics) (nodes : List PlacedNode) : List Float :=
  (rowsOf metrics.columns nodes).map (rowHeight metrics)

section Region

variable {metrics : Metrics} {region : Region} {records : List Record}

/-- There is a node for each record that takes a cell, with the fields that it owns. -/
theorem unplacedNodes_eq_map :
    unplacedNodes metrics records = (cellRecords records).map fun record =>
      PlacedNode.place metrics record (nestedRecords records record) .zero := by
  have sameFilter : (records.filter fun record =>
      (owner? (objectNames records) record).isNone) = cellRecords records := by
    apply List.filter_congr
    intro record _
    rw [Bool.eq_iff_iff, Option.isNone_iff_eq_none, owner?_eq_none_iff, decide_eq_true_iff]
  rw [unplacedNodes, sameFilter]

/-- The node of a cell is that of the record with the same position among those that take
cells, moved to the center of the cell. -/
theorem placeRegion_eq_map :
    placeRegion metrics region records = (cellRecords records).zipIdx.map fun (record, index) =>
      (PlacedNode.place metrics record (nestedRecords records record) .zero).moveTo
        (cellCenter metrics (metrics.sectionOrigin region)
          (rowHeights metrics (unplacedNodes metrics records)) index) := by
  have indexed : (unplacedNodes metrics records).zipIdx = (cellRecords records).zipIdx.map
      (Prod.map (fun record => PlacedNode.place metrics record (nestedRecords records record) .zero)
        id) := by
    rw [unplacedNodes_eq_map, List.zipIdx_map]
  rw [placeRegion, indexed, List.map_map]
  rfl

/-- Nodes keep their heights when they are moved, so the rows have the heights for which
the cells were made. -/
theorem rowHeights_placeRegion :
    rowHeights metrics (placeRegion metrics region records) =
      rowHeights metrics (unplacedNodes metrics records) := by
  apply rowHeights_congr
  rw [placeRegion_eq_map, unplacedNodes_eq_map, List.map_map, List.map_map]
  calc (cellRecords records).zipIdx.map _
      = (cellRecords records).zipIdx.map ((fun record => (PlacedNode.place metrics record
          (nestedRecords records record) .zero).bounds.height) ∘ Prod.fst) := rfl
    _ = (cellRecords records).map fun record => (PlacedNode.place metrics record
          (nestedRecords records record) .zero).bounds.height := by
        rw [← List.map_map, List.zipIdx_map_fst]

/-- One node is placed for each record that takes a cell, in order. -/
theorem placeRegion_forall₂ :
    List.Forall₂ (fun node record => record ∈ records ∧ ∃ center,
      node = (PlacedNode.place metrics record (nestedRecords records record) .zero).moveTo center)
      (placeRegion metrics region records) (cellRecords records) := by
  have indexed : List.Forall₂ (fun node record => record ∈ records ∧ ∃ center,
      node = (PlacedNode.place metrics record (nestedRecords records record) .zero).moveTo center)
      (placeRegion metrics region records) ((cellRecords records).zipIdx.map Prod.fst) := by
    rw [placeRegion_eq_map, List.forall₂_map_left_iff, List.forall₂_map_right_iff,
      List.forall₂_same]
    rintro ⟨record, index⟩ member
    have takesCell : record ∈ cellRecords records :=
      List.mem_of_getElem? (List.mem_zipIdx_iff_getElem?.mp member)
    exact ⟨(List.mem_filter.mp takesCell).1, _, rfl⟩
  rwa [List.zipIdx_map_fst] at indexed

/-- A node stands in the row and the column that its position gives, and the height of the
row is there. -/
theorem getElem?_placeRegion_center {index : Nat} {node : PlacedNode}
    (found : (placeRegion metrics region records)[index]? = some node) :
    let nodes := placeRegion metrics region records
    let column := index % metrics.columns
    let row := index / metrics.columns
    ∃ rowNodes, (rowsOf metrics.columns nodes)[row]? = some rowNodes ∧
      rowNodes[column]? = some node ∧
      ∃ height, (rowHeights metrics nodes)[row]? = some height ∧
        node.center = (metrics.sectionOrigin region).offset
          ((Float.ofNat column + 0.5) * metrics.columnPitch)
          (((rowHeights metrics nodes).take row).foldl (· + ·) 0.0 + height / 2.0) := by
  intro nodes column row
  obtain ⟨rowNodes, isRow, inRow⟩ := getElem?_rowsOf metrics.columns_pos found
  have height : (rowHeights metrics nodes)[row]? = some (rowHeight metrics rowNodes) := by
    rw [rowHeights, List.getElem?_map, isRow]
    rfl
  refine ⟨rowNodes, isRow, inRow, rowHeight metrics rowNodes, height, ?_⟩
  rw [placeRegion_eq_map, List.getElem?_map, List.getElem?_zipIdx, Option.map_map] at found
  obtain ⟨record, _, rfl⟩ := Option.map_eq_some_iff.mp found
  have sameHeights :
      rowHeights metrics (unplacedNodes metrics records) = rowHeights metrics nodes :=
    rowHeights_placeRegion.symm
  have sameHeight : (rowHeights metrics nodes).getD row 0.0 = rowHeight metrics rowNodes := by
    rw [List.getD_eq_getElem?_getD, height, Option.getD_some]
  simp only [Function.comp, PlacedNode.moveTo, cellCenter, Nat.zero_add, sameHeights]
  rw [← sameHeight]

end Region

/-- The fields of a node that have records of their own. -/
def PlacedNode.recordedFields (node : PlacedNode) : List PlacedField :=
  node.fields.filter (·.shape ≠ .text)

/-- A field with a record of its own is no line of text, as members without one are. -/
theorem nestedField_shape_ne_text (record : Record) : (nestedField record).shape ≠ .text := by
  simp only [nestedField]
  split <;> simp

/-- Among the fields of an object, those with records come from the nested records. -/
theorem filter_objectFields (object : Record) (nested : List Record) :
    (objectFields object nested).filter (·.shape ≠ .text) = nested.map nestedField := by
  have recorded : ∀ field ∈ nested.map nestedField, decide (field.shape ≠ .text) = true := by
    intro field member
    obtain ⟨record, _, rfl⟩ := List.mem_map.mp member
    exact decide_eq_true (nestedField_shape_ne_text record)
  have unrecorded : ∀ members : List (String × Json),
      (members.map (memberField object)).filter (·.shape ≠ .text) = [] := by
    intro members
    rw [List.filter_eq_nil_iff]
    intro field member
    obtain ⟨_, _, rfl⟩ := List.mem_map.mp member
    simp [memberField]
  rw [objectFields, List.filter_append, List.filter_eq_self.mpr recorded, unrecorded,
    List.append_nil]

/-- Whatever their places, the recorded fields of a node are the fields of its nested
records, in order. -/
theorem recordedFields_unplaced (metrics : Metrics) (records : List Record) (record : Record)
    (center : Point) :
    ((PlacedNode.place metrics record (nestedRecords records record) .zero).moveTo
      center).recordedFields.map PlacedField.unplaced =
        (nestedRecords records record).map nestedField := by
  have unplacedShape : (fun field : PlacedField => decide (field.shape ≠ .text)) =
      (fun field => decide (field.shape ≠ .text)) ∘ PlacedField.unplaced := rfl
  rw [PlacedNode.recordedFields, unplacedShape, ← List.filter_map,
    PlacedNode.moveTo_fields_unplaced, PlacedNode.place_fields_unplaced]
  split
  · have unplacedFields : (fun field : PlacedField => decide (field.shape ≠ .text)) ∘
        PlacedField.unplaced = fun field => decide (field.shape ≠ .text) := rfl
    rw [List.filter_map, unplacedFields, filter_objectFields, List.map_map]
    rfl
  next notObject =>
    rw [nestedRecords, if_neg notObject]
    rfl

section Nodes

variable {metrics : Metrics} {snapshot : Snapshot} {region : Region}

/-- A node stays in the half of the picture that it is placed in. -/
theorem region_of_mem_placeRegion {node : PlacedNode}
    (member : node ∈ placeRegion metrics region (recordsIn snapshot region)) :
    node.region = region := by
  obtain ⟨record, isRecord, center, rfl⟩ := mem_placeRegion member
  have stands := (PlacedNode.place_standsFor metrics record
    (nestedRecords (recordsIn snapshot region) record) .zero).moveTo center
  exact stands.region.trans (mem_recordsIn.mp isRecord).2

/-- The nodes of a half are those placed from its records. -/
theorem nodesIn_scene :
    (snapshot.scene metrics).nodesIn region =
      placeRegion metrics region (recordsIn snapshot region) := by
  have kept (half : Region) : (placeRegion metrics half (recordsIn snapshot half)).filter
      (·.region = region) =
        if half = region then placeRegion metrics half (recordsIn snapshot half) else [] := by
    split
    next same =>
      subst same
      rw [List.filter_eq_self]
      intro node member
      exact decide_eq_true (region_of_mem_placeRegion member)
    next differ =>
      rw [List.filter_eq_nil_iff]
      intro node member
      rw [region_of_mem_placeRegion member]
      simpa using differ
  have split : (snapshot.scene metrics).nodes =
      placeRegion metrics .stack (recordsIn snapshot .stack)
        ++ placeRegion metrics .heap (recordsIn snapshot .heap) := rfl
  rw [nodesIn, split, List.filter_append, kept, kept]
  cases region with
  | stack => simp
  | heap => simp

/-- An object that a record of its half belongs to has a box. -/
theorem exists_box {object record : Record} (member : object ∈ recordsIn snapshot region)
    (isObject : object.kind = .object) (belongs : record.BelongsTo object.name) :
    ∃ node ∈ (snapshot.scene metrics).nodesIn region,
      node.shape = .object ∧ node.name = object.name := by
  have ownerless : owner? (objectNames (recordsIn snapshot region)) object = none :=
    owner?_eq_none_iff.mpr (takesCell_of_belongsTo belongs)
  obtain ⟨center, placed⟩ := exists_mem_placeRegion member ownerless
  have stands := (PlacedNode.place_standsFor metrics object
    (nestedRecords (recordsIn snapshot region) object) .zero).moveTo center
  rw [nodesIn_scene]
  exact ⟨_, placed, stands.shape.trans (Shape.of_eq_object.mpr isObject), stands.name⟩

/-- The box of an object has a field for every record of its half that belongs to it. -/
theorem exists_recordedField {node : PlacedNode} {record : Record}
    (isNode : node ∈ (snapshot.scene metrics).nodesIn region) (isObject : node.shape = .object)
    (member : record ∈ recordsIn snapshot region) (belongs : record.BelongsTo node.name) :
    ∃ field ∈ node.recordedFields, field.StandsFor record := by
  rw [nodesIn_scene] at isNode
  obtain ⟨object, objectMember, center, rfl⟩ := mem_placeRegion isNode
  have stands := (PlacedNode.place_standsFor metrics object
    (nestedRecords (recordsIn snapshot region) object) .zero).moveTo center
  have objectKind : object.kind = .object :=
    Shape.of_eq_object.mp (stands.shape.symm.trans isObject)
  have nested : record ∈ nestedRecords (recordsIn snapshot region) object := by
    rw [nestedRecords_eq_filter objectMember objectKind]
    exact List.mem_filter.mpr ⟨member, decide_eq_true (stands.name ▸ belongs)⟩
  have shown : nestedField record ∈
      (nestedRecords (recordsIn snapshot region) object).map nestedField :=
    List.mem_map_of_mem nested
  rw [← recordedFields_unplaced metrics _ object center] at shown
  obtain ⟨field, isField, same⟩ := List.mem_map.mp shown
  exact ⟨field, isField, (nestedField_standsFor record).of_unplaced_eq same⟩

end Nodes

end Scene

/-- A scene loses no live record, and its grid is never asked for a row that it does not
have, whatever the measures. The nodes of the stack come first; in each half there is one
node for each record that belongs to no object of the half, in the order of the records.
Any other record is a field in the box of every object that it belongs to, and there is
one. The nodes of a half fill rows of at least one column, one after the other. -/
theorem Snapshot.scene_loses_no_record (metrics : Scene.Metrics) (snapshot : Snapshot) :
    let scene := snapshot.scene metrics
    1 ≤ metrics.columns ∧
      scene.nodes = scene.nodesIn .stack ++ scene.nodesIn .heap ∧
      ∀ region,
        let records := snapshot.live.filter (Scene.Region.of · = region)
        let nodes := scene.nodesIn region
        List.Forall₂ Scene.PlacedNode.StandsFor nodes (Scene.cellRecords records) ∧
          (∀ record ∈ records, ¬ Scene.TakesCell records record →
            ∃ object, record.BelongsTo object ∧
              (∃ node ∈ nodes, node.shape = .object ∧ node.name = object) ∧
              ∀ node ∈ nodes, node.shape = .object → node.name = object →
                ∃ field ∈ node.recordedFields, field.StandsFor record) ∧
          ∀ index node, nodes[index]? = some node →
            let column := index % metrics.columns
            let row := index / metrics.columns
            ∃ rowNodes, (Scene.rowsOf metrics.columns nodes)[row]? = some rowNodes ∧
              rowNodes[column]? = some node ∧
              ∃ height, (Scene.rowHeights metrics nodes)[row]? = some height ∧
                node.center = (metrics.sectionOrigin region).offset
                  ((Float.ofNat column + 0.5) * metrics.columnPitch)
                  (((Scene.rowHeights metrics nodes).take row).foldl (· + ·) 0.0
                    + height / 2.0) := by
  intro scene
  refine ⟨metrics.columns_pos, ?_, ?_⟩
  · simp only [scene, Scene.nodesIn_scene]
    rfl
  · intro region records nodes
    refine ⟨?_, ?_, ?_⟩
    · simp only [nodes, scene, Scene.nodesIn_scene]
      refine Scene.placeRegion_forall₂.imp ?_
      rintro _ record ⟨_, center, rfl⟩
      exact (Scene.PlacedNode.place_standsFor metrics record _ .zero).moveTo center
    · intro record member ownedByObject
      obtain ⟨object, objectMember, isObject, belongs⟩ :
          ∃ object ∈ records, object.kind = .object ∧ record.BelongsTo object.name := by
        simpa [Scene.TakesCell] using ownedByObject
      refine ⟨object.name, belongs, ?_, ?_⟩
      · exact Scene.exists_box objectMember isObject belongs
      · intro node isNode isBox named
        exact Scene.exists_recordedField isNode isBox member (named ▸ belongs)
    · intro index node found
      simp only [nodes, scene, Scene.nodesIn_scene] at found ⊢
      exact Scene.getElem?_placeRegion_center found

end MemoryTimeline
