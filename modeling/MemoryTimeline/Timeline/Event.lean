import MemoryTimeline.Timeline.Record

/-!
# Events and timelines

A timeline is the list of events of one program: scopes opened and closed,
variables recorded, members written. `openScopes?` replays the scopes strictly,
so that every closing event must name the innermost open scope; a balanced
timeline leaves exactly the global scope open.
-/

namespace MemoryTimeline

/-- One entry of a timeline. -/
inductive Event where
  | push (scope : String) (line : Option Nat)
  | pop (scope : String) (line : Option Nat)
  | var (record : Record)
  | memberWrite (write : MemberWrite)

namespace Event

/-- The source line of an event. -/
def line : Event → Option Nat
  | .push _ line => line
  | .pop _ line => line
  | .var record => record.line
  | .memberWrite write => write.line

/-- The scope that an event belongs to. -/
def scope : Event → String
  | .push scope _ => scope
  | .pop scope _ => scope
  | .var record => record.scope
  | .memberWrite write => write.scope

/-- The word for a kind of event. -/
def label : Event → String
  | .push .. => "push"
  | .pop .. => "pop"
  | .var _ => "var"
  | .memberWrite _ => "member_assign"

/-- The record of an event that records a variable. -/
def record? : Event → Option Record
  | .var record => some record
  | _ => none

/-- Whether an event opens a scope. -/
def isPush : Event → Bool
  | .push .. => true
  | _ => false

/-- Whether an event closes a scope. -/
def isPop : Event → Bool
  | .pop .. => true
  | _ => false

/-- Whether an event opens the global scope. -/
def opensGlobal : Event → Bool
  | .push scope _ => scope == globalScope
  | _ => false

/-- The open scopes after an event, innermost first. Only the innermost scope can be
closed. -/
def applyStrict (openScopes : List String) : Event → Option (List String)
  | .push scope _ => some (scope :: openScopes)
  | .pop scope _ =>
    match openScopes with
    | innermost :: outer => if innermost = scope then some outer else none
    | [] => none
  | _ => some openScopes

end Event

/-- The events of one program, in order. -/
structure Timeline where
  events : List Event

namespace Timeline

/-- The number of events. -/
def length (timeline : Timeline) : Nat := timeline.events.length

/-- Whether anything happens besides opening the global scope. -/
def hasContent (timeline : Timeline) : Bool := timeline.events.any (! ·.opensGlobal)

/-- The number of scopes opened. -/
def pushCount (timeline : Timeline) : Nat := timeline.events.countP Event.isPush

/-- The number of scopes closed. -/
def popCount (timeline : Timeline) : Nat := timeline.events.countP Event.isPop

/-- The records of the timeline, in order. -/
def records (timeline : Timeline) : List Record := timeline.events.filterMap Event.record?

/-- The open scopes after all events, innermost first, if every scope was closed as the
innermost one. -/
def openScopes? (timeline : Timeline) : Option (List String) :=
  timeline.events.foldlM Event.applyStrict []

/-- Whether every scope but the global one is closed in order. -/
def isBalanced (timeline : Timeline) : Bool := timeline.openScopes? == some [globalScope]

end Timeline

end MemoryTimeline
