/-!
# Scope names

Functions open a scope of their name, methods one of receiver and method, and
blocks one of their kind. Blocks of one kind share a name unless each is asked to
have its own.
-/

namespace MemoryTimeline

/-- How the scopes of blocks are named. -/
inductive ScopeNaming where
  /-- All blocks of a kind share one name. -/
  | shared
  /-- Each block has a name of its own, with a number that counts its kind. -/
  | unique
  deriving DecidableEq

/-- The kinds of block. -/
inductive BlockKind where
  | thenBranch
  | elseBranch
  | loop
  deriving DecidableEq

/-- The shared name of blocks of a kind. -/
def BlockKind.label : BlockKind → String
  | .thenBranch => "if_body"
  | .elseBranch => "else_body"
  | .loop => "while_loop"

/-- How many blocks of each kind have been opened. -/
structure BlockCounts where
  thenBranches : Nat
  elseBranches : Nat
  loops : Nat

namespace BlockCounts

/-- No block opened yet. -/
def zero : BlockCounts := ⟨0, 0, 0⟩

/-- The count of a kind. -/
def get (counts : BlockCounts) : BlockKind → Nat
  | .thenBranch => counts.thenBranches
  | .elseBranch => counts.elseBranches
  | .loop => counts.loops

/-- Count one more block of a kind. -/
def bump (counts : BlockCounts) : BlockKind → BlockCounts
  | .thenBranch => { counts with thenBranches := counts.thenBranches + 1 }
  | .elseBranch => { counts with elseBranches := counts.elseBranches + 1 }
  | .loop => { counts with loops := counts.loops + 1 }

end BlockCounts

/-- The name of the block of a kind that carries the given number. -/
def ScopeNaming.blockScope (naming : ScopeNaming) (kind : BlockKind) (number : Nat) : String :=
  match naming with
  | .shared => kind.label
  | .unique => kind.label ++ "#" ++ Nat.repr number

/-- The mark that some documents put before the scope of a function. -/
def functionMark : String := "function:"

/-- A scope without the mark of a function. -/
def withoutFunctionMark (scope : String) : String :=
  if functionMark.toList <+: scope.toList then
    String.ofList (scope.toList.drop functionMark.toList.length)
  else scope

/-- A marked scope loses its mark, once. -/
theorem withoutFunctionMark_of_marked (scope : String) :
    withoutFunctionMark ("function:" ++ scope) = scope := by
  have chars : ("function:" ++ scope).toList = functionMark.toList ++ scope.toList :=
    String.toList_append
  rw [withoutFunctionMark, chars, if_pos (List.prefix_append _ _), List.drop_left,
    String.ofList_toList]

/-- A scope that does not begin with the mark stays as it is. -/
theorem withoutFunctionMark_of_unmarked {scope : String}
    (unmarked : ∀ rest, scope ≠ "function:" ++ rest) : withoutFunctionMark scope = scope := by
  refine if_neg ?_
  rintro ⟨rest, joined⟩
  apply unmarked (String.ofList rest)
  rw [← String.toList_inj, ← joined]
  simp [functionMark]

/-- What a scope is without the mark, said of the scope as it was written. -/
theorem eq_withoutFunctionMark_iff {scope stated : String} :
    scope = withoutFunctionMark stated ↔
      stated = "function:" ++ scope ∨ stated = scope ∧ ∀ rest, stated ≠ "function:" ++ rest := by
  by_cases marked : ∃ rest, stated = "function:" ++ rest
  · obtain ⟨rest, rfl⟩ := marked
    rw [withoutFunctionMark_of_marked, String.append_right_inj]
    constructor
    · intro same
      exact .inl same.symm
    · rintro (same | ⟨_, unmarked⟩)
      · exact same.symm
      · exact absurd rfl (unmarked rest)
  · have unmarked : ∀ rest, stated ≠ "function:" ++ rest := fun rest same => marked ⟨rest, same⟩
    rw [withoutFunctionMark_of_unmarked unmarked]
    constructor
    · intro same
      exact .inr ⟨same.symm, unmarked⟩
    · rintro (isMarked | ⟨same, _⟩)
      · exact absurd isMarked (unmarked scope)
      · exact same.symm

/-- The scope of a statement: the one it names itself, unless that is empty, and
otherwise the scope around it. -/
def scopeOf (named : Option String) (parent : String) : String :=
  match named with
  | some scope => if scope.isEmpty then parent else withoutFunctionMark scope
  | none => parent

end MemoryTimeline
