import MemoryTimeline.Recorder.Basic

/-!
# Declarations and assignments

Each statement here records variables of its own scope. A declaration that
allocates records the pointer first and then the entity it points to.
-/

namespace MemoryTimeline.Recorder

/-- The most placeholder cells that an allocation without values gets. -/
def maxPlaceholders : Nat := 16

/-- The cells of an allocation without values. -/
def placeholders (size : Nat) : List Json := List.replicate (min size maxPlaceholders) (.str "?")

/-- A pointee given by a name alone. -/
def namedPointee (name : String) : Pointee := { name, heap := none }

/-- What a declarator declares when it allocates nothing. -/
def declaredKind (declarator : Program.Declarator) : RecordKind :=
  if declarator.pointer then .pointer
  else if declarator.arraySize.isSome || declarator.dimensions.isSome then .array
  else .variable

/-- The record of a declarator that allocates nothing. -/
def declaredRecord (declarator : Program.Declarator) (scope : String) (line : Option Nat) :
    Record where
  name := declarator.name
  value := declarator.value
  scope := scope
  kind := declaredKind declarator
  arraySize := declarator.arraySize
  dimensions := declarator.dimensions
  values := declarator.values
  pointee := declarator.pointsTo.map namedPointee
  id := declarator.id
  line := line

/-- The pointer record of a declarator that allocates. -/
def pointerRecord (declarator : Program.Declarator) (scope : String) (line : Option Nat)
    (heap : HeapId) : Record where
  name := declarator.name
  value := declarator.value
  scope := scope
  kind := .pointer
  pointee := some { name := heapName declarator.name, heap := some heap }
  id := declarator.id
  line := line

/-- The record of the cells that a declarator allocates. -/
def blockRecord (declarator : Program.Declarator) (line : Option Nat) (heap : HeapId) : Record :=
  let size := declarator.arraySize.getD 1
  let cells : Record :=
    { name := heapName declarator.name
      value := .null
      scope := heapScope
      kind := .heap
      arraySize := some size
      values := some (declarator.values.getD (placeholders size))
      id := declarator.id
      line }
  cells.allocated heap

/-- Record one declared name. The scope and line of the statement stand in for those
that the name lacks. -/
def declareName (statement : Program.Declaration) (parent : String)
    (declarator : Program.Declarator) (recorder : Recorder) : Recorder :=
  let scope := scopeOf (declarator.scope.or statement.scope) parent
  let line := declarator.line.or statement.line
  if declarator.isNew then
    let (heap, recorder) := recorder.allocate declarator.name
    (recorder.record (pointerRecord declarator scope line heap)).record
      (blockRecord declarator line heap)
  else recorder.record (declaredRecord declarator scope line)

/-- Record the names of a declaration in order. -/
def declare (statement : Program.Declaration) (parent : String) (recorder : Recorder) : Recorder :=
  statement.declarators.foldl
    (fun recorder declarator => recorder.declareName statement parent declarator) recorder

/-- Record an assignment. -/
def assign (statement : Program.Assignment) (parent : String) (recorder : Recorder) : Recorder :=
  recorder.record
    { name := statement.name
      value := statement.value
      scope := scopeOf statement.scope parent
      kind := .assignment
      id := statement.id
      line := statement.line }

/-- Record a write to a member, with the allocations that the object and the written
name are bound to. -/
def assignMember (statement : Program.MemberAssignment) (parent : String) (recorder : Recorder) :
    Recorder :=
  recorder.emit (.memberWrite
    { object := statement.object
      member := statement.member
      value := statement.value
      scope := scopeOf statement.scope parent
      line := statement.line
      target := recorder.allocations.lookup statement.object
      pointee := statement.value.identifier?.bind recorder.allocation? })

end MemoryTimeline.Recorder
