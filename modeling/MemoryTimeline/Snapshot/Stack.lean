import MemoryTimeline.Timeline.Event

/-!
# The stack of open scopes

Replaying scopes for display never fails. Closing a scope removes its innermost
occurrence wherever it is, closing a scope that is not open does nothing, and the
global scope is always shown outermost.
-/

namespace MemoryTimeline.Snapshot

/-- The open scopes after an event, innermost first. The global scope is not closed. -/
def applyScope (openScopes : List String) : Event → List String
  | .push scope _ => scope :: openScopes
  | .pop scope _ => if scope = globalScope then openScopes else openScopes.erase scope
  | _ => openScopes

/-- The open scopes after some events, innermost first. -/
def openScopes (events : List Event) : List String := events.foldl applyScope []

/-- Put the global scope first, if another scope or none is. -/
def rootedAtGlobal (stack : List String) : List String :=
  if stack.head? = some globalScope then stack
  else globalScope :: stack.filter (· ≠ globalScope)

/-- The stack after some events, outermost scope first. -/
def stackAfter (events : List Event) : List String := rootedAtGlobal (openScopes events).reverse

end MemoryTimeline.Snapshot
