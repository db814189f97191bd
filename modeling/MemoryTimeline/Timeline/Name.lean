/-!
# Names

Variables are named within scopes. Two scopes are always there: the global one,
and the one of allocated entities. The entity behind a pointer and the members of
an object have names made from those of the pointer and the object.
-/

namespace MemoryTimeline

/-- The outermost scope, which is never closed. -/
def globalScope : String := "global"

/-- The scope of allocated entities, which is never opened. -/
def heapScope : String := "heap"

/-- The ending that marks the name of an allocated entity. -/
def heapEnding : String := "_heap"

/-- The name of the entity that a pointer of this name was given. -/
def heapName (pointer : String) : String := pointer ++ heapEnding

/-- Entities have the same name only if their pointers do. -/
theorem heapName_inj {first second : String} : heapName first = heapName second ↔ first = second :=
  String.append_left_inj heapEnding

/-- Whether a name ends like that of an allocated entity. -/
def hasHeapEnding (name : String) : Bool := heapEnding.toList.isSuffixOf name.toList

/-- The name of a member of an object, and of the scope of a method. -/
def qualified (object member : String) : String := object ++ "." ++ member

/-- Members of one object have the same name only if they are called the same. -/
theorem qualified_inj {object first second : String} :
    qualified object first = qualified object second ↔ first = second := by
  constructor
  · intro same
    have chars := congrArg String.toList same
    simpa [qualified, String.toList_inj] using chars
  · rintro rfl
    rfl

/-- A member has another name than its object. -/
theorem qualified_ne_self (object member : String) : qualified object member ≠ object := by
  intro same
  have lengths := congrArg (·.toList.length) same
  simp [qualified] at lengths

/-- The parts of a name before and after its first dot. -/
def splitQualified? (name : String) : Option (String × String) :=
  let object := name.toList.takeWhile (· ≠ '.')
  match name.toList.dropWhile (· ≠ '.') with
  | [] => none
  | _ :: member => some (String.ofList object, String.ofList member)

end MemoryTimeline
