import MemoryTimeline.Proofs.VisitedStatements

/-!
# The parameters of a call

A call records its parameters one after the other and looks each argument up in all that is
recorded so far, the parameters before it included. An argument that is the name of an earlier
parameter of the same call therefore takes over what that parameter was bound to
(`Binding.Captures`), and every other argument has the value and the pointee that it has at the
call. So a call binds its arguments as they stand at the call exactly when every argument that
finds an earlier parameter has the value and the pointee of that parameter's argument anyway.
-/

namespace MemoryTimeline

/-- What an argument hands over: a value and a pointee. -/
def Record.contents (record : Record) : Json × Option Pointee := (record.value, record.pointee)

/-- What a name that stands for a record hands over as an argument. A null value is unknown. -/
def Record.handedOver (record : Record) : Json × Option Pointee :=
  (if record.value.isNull then Recorder.unresolved else record.value, record.pointee)

/-- A value that is not null is handed over as it is. -/
theorem Record.handedOver_of_known {record : Record} (known : record.value.isNull = false) :
    record.handedOver = record.contents := by
  simp [handedOver, contents, known]

namespace Recorder

open Program (Argument Node Parameter)

section Lookup

variable {recorder : Recorder} {entries : List Record} {name : String}

/-- The latest record of a name is the last of those just recorded, if any of them has the name. -/
theorem latest?_recordAll (entries : List Record) (recorder : Recorder) (name : String) :
    (recorder.recordAll entries).latest? name =
      (entries.reverse.find? (·.name = name)).or (recorder.latest? name) := by
  have found : (entries.map Event.var).reverse.findSome?
      (fun event => event.record?.filter (·.name = name)) =
        entries.reverse.find? (·.name = name) := by
    rw [← List.map_reverse, List.findSome?_map]
    induction entries.reverse with
    | nil => rfl
    | cons entry rest inductionHypothesis =>
        by_cases named : entry.name = name
        · simp [Event.record?, named]
        · simpa [Event.record?, named] using inductionHypothesis
  rw [latest?, history_recordAll, List.findSome?_append, found]
  rfl

/-- A name that is not recorded again keeps its latest record. -/
theorem latest?_recordAll_of_absent (absent : ∀ entry ∈ entries, entry.name ≠ name) :
    (recorder.recordAll entries).latest? name = recorder.latest? name := by
  have notFound : entries.reverse.find? (·.name = name) = none := by
    simpa using absent
  rw [latest?_recordAll, notFound, Option.none_or]

/-- The last of some records that has a name is its latest record. -/
theorem latest?_recordAll_of_last {position : Nat} {source : Record}
    (atPosition : entries[position]? = some source) (named : source.name = name)
    (last : ∀ later entry, position < later → entries[later]? = some entry → entry.name ≠ name) :
    (recorder.recordAll entries).latest? name = some source := by
  obtain ⟨inside, isSource⟩ := List.getElem?_eq_some_iff.mp atPosition
  have split : entries = entries.take position ++ source :: entries.drop (position + 1) := by
    rw [← isSource, List.getElem_cons_drop, List.take_append_drop]
  have notAfter : (entries.drop (position + 1)).reverse.find? (·.name = name) = none := by
    rw [List.find?_eq_none]
    intro entry member
    obtain ⟨offset, found⟩ := List.mem_iff_getElem?.mp (List.mem_reverse.mp member)
    rw [List.getElem?_drop] at found
    simpa using last _ entry (by omega) found
  rw [latest?_recordAll, split, List.reverse_append, List.reverse_cons, List.find?_append,
    List.find?_append, notAfter]
  simp [named]

/-- What is known of an argument depends on the latest record of the name that it is. -/
theorem resolve_eq_of_latest? {first second : Recorder} {argument : Option Json}
    (same : ∀ name, argument.bind Json.identifier? = some name →
      first.latest? name = second.latest? name) :
    first.resolve argument = second.resolve argument := by
  cases argument with
  | none => rfl
  | some value =>
      simp only [resolve]
      cases isName : value.identifier? with
      | none => rfl
      | some name => simp only [same name isName]

/-- A name hands over what its latest record does. -/
theorem resolve_eq_handedOver {argument : Option Json} {source : Record}
    (isName : argument.bind Json.identifier? = some name)
    (latest : recorder.latest? name = some source) :
    recorder.resolve argument = source.handedOver := by
  obtain ⟨value, rfl, identifier⟩ := Option.bind_eq_some_iff.mp isName
  simp [resolve, identifier, latest, Record.handedOver]

/-- The value of an argument is never null. -/
theorem isNull_resolve (recorder : Recorder) (argument : Option Json) :
    (recorder.resolve argument).1.isNull = false := by
  unfold resolve
  split
  · rfl
  · split
    · split
      · split
        · rfl
        next known => simpa using known
      · rfl
    · split
      · rfl
      next known => simpa using known

end Lookup

/-- A call that finds its callee: the scope that it opens, its line, and the parameters and
arguments that it binds there. -/
structure Binding where
  scope : String
  line : Option Nat
  params : List Parameter
  args : List Argument

/-- What a statement binds, if it is a call that finds its callee. -/
def binding? (program : Program) (recorder : Recorder) : Node → Option Binding
  | .functionCall call =>
    (program.function? call.name).map fun callee =>
      { scope := scopeOf (some call.name) globalScope
        line := call.line
        params := callee.params
        args := call.args }
  | .methodCall call =>
    (calledMethod? program call recorder).map fun method =>
      { scope := qualified call.receiver.name call.method
        line := call.line
        params := method.params
        args := call.args }
  | _ => none

/-- A call that finds its callee opens a frame in which it binds the parameters. -/
theorem exists_frame_of_binding? {program : Program} {recorder : Recorder} {node : Node}
    {binding : Binding} (found : binding? program recorder node = some binding) :
    ∃ frame, frame? program recorder node = some frame ∧ frame.scope = binding.scope ∧
      frame.line = binding.line ∧
      frame.bind = bindParameters binding.scope binding.line binding.params binding.args := by
  cases node with
  | functionCall call =>
      obtain ⟨callee, called, rfl⟩ := Option.map_eq_some_iff.mp found
      simp [frame?, called]
  | methodCall call =>
      obtain ⟨method, called, rfl⟩ := Option.map_eq_some_iff.mp found
      simp [frame?, called]
  | _ => contradiction

/-- The record of a parameter that is bound to the given value and pointee. -/
def parameterRecord (scope : String) (line : Option Nat) (parameter : Parameter)
    (contents : Json × Option Pointee) : Record where
  name := parameter.name
  value := contents.1
  scope := scope
  kind := .parameter
  pointee := contents.2
  id := parameter.id
  line := parameter.line.or line

/-- Parameters are recorded in order, each with its argument as it stands after the ones
before it. -/
theorem exists_records_of_bindParameters (scope : String) (line : Option Nat)
    (params : List Parameter) (args : List Argument) (recorder : Recorder) :
    ∃ records, bindParameters scope line params args recorder = recorder.recordAll records ∧
      records.length = params.length ∧
      ∀ position parameter, params[position]? = some parameter →
        records[position]? = some (parameterRecord scope line parameter
          ((recorder.recordAll (records.take position)).resolve
            (args[position]?.map (·.value)))) := by
  induction params generalizing args recorder with
  | nil => exact ⟨[], rfl, rfl, by simp⟩
  | cons parameter rest inductionHypothesis =>
      let bound := parameterRecord scope line parameter
        (recorder.resolve (args.head?.map (·.value)))
      obtain ⟨records, recorded, length, each⟩ := inductionHypothesis args.tail
        (recorder.record bound)
      refine ⟨bound :: records, recorded, by simp [length], ?_⟩
      intro position parameter' found
      cases position with
      | zero =>
          obtain rfl : parameter = parameter' := by simpa using found
          simp [bound, List.head?_eq_getElem?, recordAll]
      | succ position =>
          have later := each position parameter' (by simpa using found)
          rw [List.getElem?_tail] at later
          exact later

namespace Binding

/-- The argument at a position. -/
def argument? (binding : Binding) (position : Nat) : Option Json :=
  binding.args[position]?.map (·.value)

/-- An argument that finds an earlier parameter of its own call: it is a name, and of the
parameters before it the earlier one is the last with this name. -/
def Captures (binding : Binding) (earlier later : Nat) : Prop :=
  earlier < later ∧ ∃ name, (binding.argument? later).bind Json.identifier? = some name ∧
    (binding.params[earlier]?).map (·.name) = some name ∧
    ∀ between, earlier < between → between < later →
      (binding.params[between]?).map (·.name) ≠ some name

/-- An argument that is the name of some earlier parameter finds the last of these. -/
theorem exists_captures {binding : Binding} {earlier later : Nat} {name : String}
    (before : earlier < later)
    (isName : (binding.argument? later).bind Json.identifier? = some name)
    (named : (binding.params[earlier]?).map (·.name) = some name) :
    ∃ last, binding.Captures last later := by
  generalize gap : later - earlier = distance
  induction distance using Nat.strongRecOn generalizing earlier with
  | ind distance inductionHypothesis =>
      by_cases repeated : ∃ between, earlier < between ∧ between < later ∧
          (binding.params[between]?).map (·.name) = some name
      · obtain ⟨between, after, beforeLater, sameName⟩ := repeated
        exact inductionHypothesis (later - between) (by omega) beforeLater sameName rfl
      · refine ⟨earlier, before, name, isName, named, ?_⟩
        intro between after beforeLater sameName
        exact repeated ⟨between, after, beforeLater, sameName⟩

/-- The records that bind the parameters of a call, from the recorder right after its scope
was opened. -/
structure Bound (binding : Binding) (opened : Recorder) (records : List Record) : Prop where
  length : records.length = binding.params.length
  each : ∀ position parameter, binding.params[position]? = some parameter →
    records[position]? = some (parameterRecord binding.scope binding.line parameter
      ((opened.recordAll (records.take position)).resolve (binding.argument? position)))

namespace Bound

variable {binding : Binding} {opened : Recorder} {records : List Record}

/-- Each record stands for the parameter at its position. -/
theorem exists_parameter (bound : binding.Bound opened records) {position : Nat} {record : Record}
    (found : records[position]? = some record) :
    ∃ parameter, binding.params[position]? = some parameter ∧
      record = parameterRecord binding.scope binding.line parameter
        ((opened.recordAll (records.take position)).resolve (binding.argument? position)) := by
  obtain ⟨inside, _⟩ := List.getElem?_eq_some_iff.mp found
  rw [bound.length] at inside
  have isParameter := List.getElem?_eq_getElem inside
  have recorded := bound.each position _ isParameter
  rw [found] at recorded
  exact ⟨_, isParameter, Option.some.inj recorded⟩

/-- A record that binds a parameter has the name of the parameter. -/
theorem name_eq (bound : binding.Bound opened records) {position : Nat} {record : Record}
    (found : records[position]? = some record) :
    (binding.params[position]?).map (·.name) = some record.name := by
  obtain ⟨parameter, isParameter, rfl⟩ := bound.exists_parameter found
  simp [isParameter, parameterRecord]

/-- An argument that finds an earlier parameter hands over what that one was bound to. -/
theorem contents_of_captures (bound : binding.Bound opened records) {earlier later : Nat}
    (captures : binding.Captures earlier later) {record : Record}
    (found : records[later]? = some record) :
    ∃ source, records[earlier]? = some source ∧ record.contents = source.contents := by
  obtain ⟨before, name, isName, named, last⟩ := captures
  obtain ⟨laterInside, _⟩ := List.getElem?_eq_some_iff.mp found
  have earlierInside : earlier < records.length := by omega
  have isSource := List.getElem?_eq_getElem earlierInside
  refine ⟨_, isSource, ?_⟩
  obtain ⟨_, _, isRecord⟩ := bound.exists_parameter found
  obtain ⟨_, _, sourceBound⟩ := bound.exists_parameter isSource
  have known : records[earlier].value.isNull = false := by
    rw [sourceBound]
    exact isNull_resolve _ _
  have latest : (opened.recordAll (records.take later)).latest? name = some records[earlier] := by
    have atEarlier : (records.take later)[earlier]? = some records[earlier] := by
      rw [List.getElem?_take_of_lt before, isSource]
    refine latest?_recordAll_of_last atEarlier ?_ ?_
    · rw [bound.name_eq isSource] at named
      exact Option.some.inj named
    · intro between entry after isEntry
      rw [List.getElem?_take] at isEntry
      obtain ⟨beforeLater, isEntry⟩ := Option.ite_none_right_eq_some.mp isEntry
      intro sameName
      exact last between after beforeLater (sameName ▸ bound.name_eq isEntry)
  rw [isRecord, ← Record.handedOver_of_known known]
  exact resolve_eq_handedOver isName latest

/-- An argument that finds no earlier parameter is bound as it stands at the call. -/
theorem contents_of_not_captured (bound : binding.Bound opened records) {position : Nat}
    (free : ∀ earlier, ¬ binding.Captures earlier position) {record : Record}
    (found : records[position]? = some record) :
    record.contents = opened.resolve (binding.argument? position) := by
  obtain ⟨_, _, rfl⟩ := bound.exists_parameter found
  refine resolve_eq_of_latest? fun name isName => latest?_recordAll_of_absent ?_
  intro entry member sameName
  obtain ⟨earlier, isEntry⟩ := List.mem_iff_getElem?.mp member
  rw [List.getElem?_take] at isEntry
  obtain ⟨before, isEntry⟩ := Option.ite_none_right_eq_some.mp isEntry
  obtain ⟨last, captures⟩ := exists_captures before isName (sameName ▸ bound.name_eq isEntry)
  exact free last captures

/-- All arguments are bound as they stand at the call exactly when those that find an earlier
parameter stand there for the same as the argument of that parameter. -/
theorem contents_eq_iff (bound : binding.Bound opened records) :
    (∀ position record, records[position]? = some record →
      record.contents = opened.resolve (binding.argument? position)) ↔
    ∀ earlier later, later < binding.params.length → binding.Captures earlier later →
      opened.resolve (binding.argument? earlier) = opened.resolve (binding.argument? later) := by
  constructor
  · intro asAtCall earlier later inside captures
    rw [← bound.length] at inside
    have found := List.getElem?_eq_getElem inside
    obtain ⟨source, isSource, same⟩ := bound.contents_of_captures captures found
    rw [← asAtCall earlier source isSource, ← asAtCall later _ found, same]
  · intro harmless position
    -- The parameter that an argument finds stands before it, so its binding is known already.
    induction position using Nat.strongRecOn with
    | ind position inductionHypothesis =>
        intro record found
        by_cases captured : ∃ earlier, binding.Captures earlier position
        · obtain ⟨earlier, captures⟩ := captured
          obtain ⟨source, isSource, same⟩ := bound.contents_of_captures captures found
          obtain ⟨inside, _⟩ := List.getElem?_eq_some_iff.mp found
          rw [same, inductionHypothesis earlier captures.1 source isSource]
          exact harmless earlier position (bound.length ▸ inside) captures
        · have free (earlier : Nat) : ¬ binding.Captures earlier position :=
            fun captures => captured ⟨earlier, captures⟩
          exact bound.contents_of_not_captured free found

end Bound

end Binding

end Recorder

namespace Program

open Recorder (Binding binding?)

/-- The timeline goes on with the scope of a visited call that finds its callee, and the records
that bind its parameters. -/
theorem Visits.exists_bound {program : Program} {naming : ScopeNaming} {node : Node}
    {scope : String} {recorder : Recorder} {binding : Binding}
    (visited : program.Visits naming node scope recorder)
    (calls : binding? program recorder node = some binding) :
    let opened := recorder.emit (.push binding.scope binding.line)
    ∃ records later, binding.Bound opened records ∧
      (program.timeline naming).events =
        opened.timeline.events ++ records.map Event.var ++ later := by
  intro opened
  obtain ⟨frame, opens, sameScope, sameLine, binds⟩ := Recorder.exists_frame_of_binding? calls
  obtain ⟨records, recorded, length, each⟩ := Recorder.exists_records_of_bindParameters
    binding.scope binding.line binding.params binding.args opened
  obtain ⟨later, split⟩ := visited.timeline_of_frame opens
  rw [sameScope, sameLine, binds, recorded, Recorder.timeline_recordAll] at split
  exact ⟨records, later, ⟨length, each⟩, split.symm⟩

/-- The parameters of every call that a program visits and that finds its callee. They are
recorded in order right after the scope of the call is opened. An argument that finds an earlier
parameter hands over what that parameter was bound to, and every other argument the value and
the pointee that it has when the scope is opened. All arguments are bound as they stand then
exactly when no argument stands for something else than that of the parameter it finds. -/
theorem parameters_bound_as_at_call_iff {program : Program} {naming : ScopeNaming} {node : Node}
    {scope : String} {recorder : Recorder} {binding : Binding}
    (visited : program.Visits naming node scope recorder)
    (calls : binding? program recorder node = some binding) :
    let opened := recorder.emit (.push binding.scope binding.line)
    ∃ (records : List Record) (later : List Event),
      (program.timeline naming).events =
        opened.timeline.events ++ records.map Event.var ++ later ∧
      records.map (fun record => (record.kind, record.key)) =
        binding.params.map (fun parameter =>
          (RecordKind.parameter, (binding.scope, parameter.name))) ∧
      (∀ position record, records[position]? = some record →
        (∀ earlier, binding.Captures earlier position →
          ∃ source, records[earlier]? = some source ∧ record.contents = source.contents) ∧
        ((∀ earlier, ¬ binding.Captures earlier position) →
          record.contents = opened.resolve (binding.argument? position))) ∧
      ((∀ position record, records[position]? = some record →
          record.contents = opened.resolve (binding.argument? position)) ↔
        ∀ earlier later, later < binding.params.length → binding.Captures earlier later →
          opened.resolve (binding.argument? earlier) =
            opened.resolve (binding.argument? later)) := by
  intro opened
  obtain ⟨records, later, bound, split⟩ := visited.exists_bound calls
  refine ⟨records, later, split, ?_, ?_, bound.contents_eq_iff⟩
  · refine List.ext_getElem? fun position => ?_
    rw [List.getElem?_map, List.getElem?_map]
    cases found : binding.params[position]? with
    | none =>
        rw [List.getElem?_eq_none_iff, ← bound.length, ← List.getElem?_eq_none_iff] at found
        rw [found]
        rfl
    | some parameter =>
        rw [bound.each position parameter found]
        rfl
  · intro position record found
    exact ⟨fun _ captures => bound.contents_of_captures captures found,
      fun free => bound.contents_of_not_captured free found⟩

/-- A call that passes one variable twice. The second argument finds the first parameter and
not the variable, which does no harm: both parameters are bound to the variable. -/
theorem parameters_bound_as_at_call_same_argument :
    let named (name : String) : Json := .obj [("name", .str name)]
    let assignment : Node := .assignment
      { name := "a", value := .int 1, scope := none, id := none, line := none }
    let function : Node := .functionDeclaration
      { name := "f", params := [⟨"a", none, none, none⟩, ⟨"b", none, none, none⟩], body := []
        returnType := none, line := none }
    let call : Node := .functionCall
      { name := "f", args := [⟨none, named "a"⟩, ⟨none, named "a"⟩], body := []
        scope := none, line := none }
    let program : Program := ⟨[assignment, function, call]⟩
    ∃ recorder binding, program.Visits .shared call globalScope recorder ∧
      binding? program recorder call = some binding ∧ binding.Captures 0 1 ∧
      let opened := recorder.emit (.push binding.scope binding.line)
      ∃ (records : List Record) (later : List Event),
        (program.timeline .shared).events =
          opened.timeline.events ++ records.map Event.var ++ later ∧
        ∀ position record, records[position]? = some record →
          record.contents = opened.resolve (binding.argument? position) := by
  intro named assignment function call program
  have visited : program.Visits .shared call globalScope _ :=
    ⟨_, .head (.tail (.tail .program (.plain rfl)) (.plain rfl)), rfl⟩
  refine ⟨_, _, visited, rfl, ⟨by decide, "a", rfl, rfl, by omega⟩, ?_⟩
  obtain ⟨records, later, split, _, _, asAtCall⟩ := parameters_bound_as_at_call_iff visited rfl
  refine ⟨records, later, split, asAtCall.mpr ?_⟩
  intro earlier later inside captured
  have before := captured.1
  obtain ⟨rfl, rfl⟩ : earlier = 0 ∧ later = 1 := by
    simp at inside
    omega
  rfl

/-- A call that swaps two variables: `f(b, a)` for parameters `a` and `b`. The second argument
finds the parameter that has just been bound, so both parameters have the value of `b`, where
the variable `a` has another one when the scope is opened. -/
theorem parameters_bound_out_of_turn :
    let named (name : String) : Json := .obj [("name", .str name)]
    let assignment (name : String) (value : Int) : Node := .assignment
      { name, value := .int value, scope := none, id := none, line := none }
    let function : Node := .functionDeclaration
      { name := "f", params := [⟨"a", none, none, none⟩, ⟨"b", none, none, none⟩], body := []
        returnType := none, line := none }
    let call : Node := .functionCall
      { name := "f", args := [⟨none, named "b"⟩, ⟨none, named "a"⟩], body := []
        scope := none, line := none }
    let program : Program := ⟨[assignment "a" 1, assignment "b" 2, function, call]⟩
    ∃ recorder binding record, program.Visits .shared call globalScope recorder ∧
      binding? program recorder call = some binding ∧
      let opened := recorder.emit (.push binding.scope binding.line)
      opened.timeline = (program.timeline .shared).upTo 4 ∧
        opened.resolve (binding.argument? 1) = (.int 1, none) ∧
        (program.timeline .shared).events[5]? = some (.var record) ∧
        record.key = ("f", "b") ∧ record.contents = (.int 2, none) := by
  intro named assignment function call program
  have visited : program.Visits .shared call globalScope _ :=
    ⟨_, .head (.tail (.tail (.tail .program (.plain rfl)) (.plain rfl)) (.plain rfl)), rfl⟩
  exact ⟨_, _, _, visited, rfl, rfl, rfl, rfl, by decide, rfl⟩

end Program

end MemoryTimeline
