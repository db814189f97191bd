import MemoryTimeline.Proofs.MemberWrites
import MemoryTimeline.Proofs.ParameterBinding

/-!
# Arguments as they are recorded and as they are shown

An argument that is a name hands over the value and the pointee of the latest record of the name.
A snapshot shows that record as well, and as long as nothing was written to it the two agree. A
write to a member is no record, though: where it reaches a field that has a record of its own, the
snapshot shows what was written, and the argument still hands over what was recorded. Since the
last such write alone counts for what is shown (`lastFieldWrite?`), it decides whether a parameter
is bound to what the snapshot shows.
-/

namespace MemoryTimeline

namespace Record

/-- Records that differ in members at most. -/
def SameButMembers (record source : Record) : Prop :=
  record = { source with members := record.members }

namespace SameButMembers

variable {first second third : Record}

theorem refl (record : Record) : record.SameButMembers record := rfl

theorem trans (left : first.SameButMembers second) (right : second.SameButMembers third) :
    first.SameButMembers third := by
  unfold SameButMembers at *
  rw [left, right]

theorem key_eq (same : first.SameButMembers second) : first.key = second.key := by
  rw [same]
  rfl

/-- Members are not handed over with an argument. -/
theorem handedOver_eq (same : first.SameButMembers second) :
    first.handedOver = second.handedOver := by
  rw [same]
  rfl

end SameButMembers

end Record

namespace Snapshot

/-- The write of an event, if it reaches the field of a key among the records before it. -/
def fieldWrite? (key : String × String) (records : List Record) : Event → Option MemberWrite
  | .memberWrite write => if writtenField write records = key then some write else none
  | _ => none

/-- The last write among some events that reaches the field of a key, from the records before
these events on. -/
def lastFieldWrite? (key : String × String) : List Record → List Event → Option MemberWrite
  | _, [] => none
  | records, event :: rest =>
    (lastFieldWrite? key (applyRecord records event) rest).or (fieldWrite? key records event)

/-- The record of a field after a write to it, if there is one. -/
def writeField? (write : Option MemberWrite) (record : Record) : Record :=
  write.elim record fun write => writeField write record

variable {records : List Record} {record : Record}

/-- A field that is written to twice is as the later write leaves it. -/
theorem writeField?_writeField? (first second : Option MemberWrite) (record : Record) :
    writeField? second (writeField? first record) = writeField? (second.or first) record := by
  cases first with
  | none => cases second <;> rfl
  | some first =>
      cases second with
      | none => rfl
      | some second =>
          by_cases isPointer : record.kind = .pointer
          · simp [writeField?, writeField, isPointer]
          · simp [writeField?, writeField, isPointer]

/-- A write to a field does not look at its members. -/
theorem writeField?_sameButMembers {changed : Record} (write : Option MemberWrite)
    (same : changed.SameButMembers record) :
    (writeField? write changed).SameButMembers (writeField? write record) := by
  cases write with
  | none => exact same
  | some write =>
      rw [same]
      rfl

theorem key_writeField? (write : Option MemberWrite) (record : Record) :
    (writeField? write record).key = record.key := by
  cases write <;> rfl

/-- One event that does not record the key of a record leaves the record, written to as a field
if the event does so. -/
theorem exists_mem_applyRecord (member : record ∈ records) {event : Event}
    (otherKey : ∀ later, event = .var later → later.key ≠ record.key) :
    ∃ changed ∈ applyRecord records event,
      changed.SameButMembers (writeField? (fieldWrite? record.key records event) record) := by
  cases event with
  | push => exact ⟨record, member, .refl record⟩
  | pop => exact ⟨record, member, .refl record⟩
  | var later =>
      exact ⟨record, mem_putRecord_of_ne member (otherKey later rfl).symm, .refl record⟩
  | memberWrite write =>
      obtain ⟨change, applied, reaches⟩ := applyWrite_eq_map_of_reach write records
      refine ⟨change record, ?_, ?_⟩
      · rw [applyRecord, applied]
        exact List.mem_map_of_mem member
      · rw [fieldWrite?]
        split
        next isField =>
          obtain ⟨same, pointer, other⟩ := reaches.field record isField.symm
          have pointee : (change record).pointee = (writeField write record).pointee := by
            by_cases isPointer : record.kind = .pointer
            · rw [pointer isPointer, (writesField write record).pointer isPointer]
            · rw [other isPointer, (writesField write record).other isPointer]
          rw [Record.SameButMembers, same, pointee]
          rfl
        next notField =>
          by_cases isEntity : (writtenEntity? write records).map Record.key = some record.key
          · exact (reaches.entity record isEntity).same
          · rw [reaches.others record isEntity (Ne.symm notField)]
            exact .refl record

/-- Events that do not record the key of a record leave the record, as the last write to it as a
field has left it. -/
theorem exists_mem_foldl_applyRecord (member : record ∈ records) {events : List Event}
    (otherKeys : ∀ later, .var later ∈ events → later.key ≠ record.key) :
    ∃ shown ∈ events.foldl applyRecord records,
      shown.SameButMembers (writeField? (lastFieldWrite? record.key records events) record) := by
  induction events generalizing records record with
  | nil => exact ⟨record, member, .refl record⟩
  | cons event rest inductionHypothesis =>
      obtain ⟨changed, changedMember, sameChanged⟩ := exists_mem_applyRecord member
        fun later isLater => otherKeys later (isLater ▸ List.mem_cons_self)
      have sameKey : changed.key = record.key := sameChanged.key_eq.trans (key_writeField? _ _)
      obtain ⟨shown, shownMember, sameShown⟩ := inductionHypothesis changedMember
        fun later isLater => sameKey ▸ otherKeys later (List.mem_cons_of_mem _ isLater)
      rw [sameKey] at sameShown
      -- What the event wrote counts only if nothing after it writes to the field.
      have whole := sameShown.trans (writeField?_sameButMembers _ sameChanged)
      rw [writeField?_writeField?] at whole
      exact ⟨shown, shownMember, whole⟩

/-- A replay shows the latest record of a key as the last write to it as a field has left it. -/
theorem sameButMembers_of_latest {before after : List Event} {source shown : Record}
    (otherKeys : ∀ later, .var later ∈ after → later.key ≠ source.key)
    (left : shown ∈ recordsAfter (before ++ .var source :: after))
    (sameKey : shown.key = source.key) :
    shown.SameButMembers
      (writeField? (lastFieldWrite? source.key (recordsAfter (before ++ [.var source])) after)
        source) := by
  have recorded : source ∈ recordsAfter (before ++ [.var source]) := by
    rw [recordsAfter_concat]
    exact mem_putRecord_self source _
  obtain ⟨kept, keptMember, same⟩ := exists_mem_foldl_applyRecord recorded otherKeys
  have keptLeft : kept ∈ recordsAfter (before ++ .var source :: after) := by
    rw [recordsAfter, List.append_cons, List.foldl_append]
    exact keptMember
  have keptKey : kept.key = shown.key :=
    (same.key_eq.trans (key_writeField? _ _)).trans sameKey.symm
  rwa [← List.inj_on_of_nodup_map (replayed_recordsAfter _).distinct keptLeft left keptKey]

/-- A name without a dot is no field, so no write reaches it as one. -/
theorem lastFieldWrite?_of_no_dot {key : String × String} (plain : '.' ∉ key.2.toList)
    (records : List Record) (events : List Event) : lastFieldWrite? key records events = none := by
  have qualifiedName (object member : String) : qualified object member ≠ key.2 := by
    intro isName
    rw [← isName] at plain
    simp [qualified] at plain
  have notWritten (records : List Record) (event : Event) :
      fieldWrite? key records event = none := by
    cases event with
    | memberWrite write =>
        refine if_neg fun isField => ?_
        have isName := congrArg Prod.snd isField
        unfold writtenField at isName
        split at isName
        · exact qualifiedName _ _ isName
        · exact qualifiedName _ _ isName
    | _ => rfl
  induction events generalizing records with
  | nil => rfl
  | cons event rest inductionHypothesis =>
      rw [lastFieldWrite?, inductionHypothesis, notWritten]
      rfl

end Snapshot

namespace Recorder

open Program (Node)

/-- The last record of a name among the events so far is its latest one. -/
theorem latest?_of_split {recorder : Recorder} {before after : List Event} {source : Record}
    (split : recorder.timeline.events = before ++ .var source :: after)
    (last : ∀ later, .var later ∈ after → later.name ≠ source.name) :
    recorder.latest? source.name = some source := by
  have history : recorder.history = after.reverse ++ .var source :: before.reverse := by
    rw [← List.reverse_reverse recorder.history]
    refine (congrArg List.reverse split).trans ?_
    simp
  have notAfter : after.reverse.findSome?
      (fun event => event.record?.filter (·.name = source.name)) = none := by
    rw [List.findSome?_eq_none_iff]
    intro event member
    cases event with
    | var later => simpa [Event.record?] using last later (List.mem_reverse.mp member)
    | _ => rfl
  rw [latest?, history, List.findSome?_append, notAfter]
  simp [Event.record?]

/-- An argument that is the name of no parameter finds none of them. -/
theorem Binding.not_captures_of_foreign {binding : Binding} {position : Nat} {name : String}
    (isName : (binding.argument? position).bind Json.identifier? = some name)
    (foreign : ∀ parameter ∈ binding.params, parameter.name ≠ name) (earlier : Nat) :
    ¬ binding.Captures earlier position := by
  rintro ⟨_, other, isOther, named, _⟩
  obtain rfl : name = other := Option.some.inj (isName.symm.trans isOther)
  obtain ⟨parameter, found, sameName⟩ := Option.map_eq_some_iff.mp named
  exact foreign parameter (List.mem_of_getElem? found) sameName

end Recorder

namespace Program

open Recorder (Binding binding?)
open Snapshot (lastFieldWrite? recordsAfter writeField writeField?)

/-- The parameter that a visited call binds to a name which is none of its parameters, where the
latest record of the name is live when the scope of the call is opened. The parameter has the
value and the pointee of that record. These are what the snapshot shows exactly when the last write
that has reached the record as a field since, if there is one, hands over the same; no write does
so when the name has no dot. -/
theorem argument_bound_as_recorded {program : Program} {naming : ScopeNaming} {node : Node}
    {scope : String} {recorder : Recorder} {binding : Binding}
    (visited : program.Visits naming node scope recorder)
    (calls : binding? program recorder node = some binding) {position : Nat}
    (inside : position < binding.params.length) {name : String}
    (isName : (binding.argument? position).bind Json.identifier? = some name)
    (foreign : ∀ parameter ∈ binding.params, parameter.name ≠ name)
    {before after : List Event} {source : Record}
    (split : recorder.timeline.events = before ++ .var source :: after)
    (named : source.name = name) (last : ∀ later, .var later ∈ after → later.name ≠ name)
    {shown : Record}
    (live : shown ∈ ((program.timeline naming).snapshot recorder.timeline.length).live)
    (sameKey : shown.key = source.key) :
    let write? := lastFieldWrite? source.key (recordsAfter (before ++ [.var source])) after
    ∃ (records : List Record) (later : List Event) (bound : Record),
      (program.timeline naming).events =
        recorder.timeline.events ++ .push binding.scope binding.line :: records.map Event.var ++
          later ∧
      records[position]? = some bound ∧ bound.kind = .parameter ∧ bound.scope = binding.scope ∧
      some bound.name = binding.params[position]?.map (·.name) ∧
      bound.contents = source.handedOver ∧
      (bound.contents = shown.handedOver ↔
        ∀ write, write? = some write → (writeField write source).handedOver = source.handedOver) ∧
      ('.' ∉ name.toList → bound.contents = shown.handedOver) := by
  intro write?
  obtain ⟨records, later, bound, opened⟩ := visited.exists_bound calls
  have events : (program.timeline naming).events = recorder.timeline.events ++
      .push binding.scope binding.line :: records.map Event.var ++ later := by
    rw [opened, Recorder.timeline_emit]
    simp
  have isParameter := List.getElem?_eq_getElem inside
  have found := bound.each position _ isParameter
  -- Opening the scope of the call records nothing, so the latest record is still the same.
  have latestBefore : recorder.latest? name = some source :=
    named ▸ Recorder.latest?_of_split split (named ▸ last)
  have latest : (recorder.emit (.push binding.scope binding.line)).latest? name = some source :=
    latestBefore
  have handed := (bound.contents_of_not_captured
    (Binding.not_captures_of_foreign isName foreign) found).trans
      (Recorder.resolve_eq_handedOver isName latest)
  have shownAs : shown.handedOver = (writeField? write? source).handedOver := by
    have left := (Timeline.mem_snapshot_live.mp live).1
    rw [events, Timeline.length, List.append_assoc, List.take_left, split] at left
    refine (Snapshot.sameButMembers_of_latest ?_ left sameKey).handedOver_eq
    intro later isLater sameLater
    exact last later isLater (named ▸ congrArg Prod.snd sameLater)
  refine ⟨records, later, _, events, found, rfl, rfl, ?_, handed, ?_, ?_⟩
  · rw [isParameter]
    rfl
  · rw [handed, shownAs]
    cases write? with
    | none => simp [writeField?]
    | some write => simp [writeField?, eq_comm]
  · intro plain
    rw [handed, shownAs]
    have plainKey : '.' ∉ source.name.toList := named ▸ plain
    have unwritten : write? = none := Snapshot.lastFieldWrite?_of_no_dot plainKey _ _
    rw [unwritten]
    rfl

/-- A pointer to a new block, handed over after a write to a member of the block. The write does
not reach the pointer, so the parameter points to the block as the pointer is shown to do. -/
theorem argument_bound_as_recorded_pointer :
    let named (name : String) : Json := .obj [("name", .str name)]
    let declaration : Node := .declaration
      { declarators :=
          [{ name := "p", value := .null, scope := none, pointer := true, allocation := some "new"
             arraySize := none, dimensions := none, values := none, pointsTo := none, id := none
             line := none }]
        scope := none, line := none }
    let write : Node := .memberAssignment
      { object := "p", member := "next", value := named "p", scope := none, pointerAccess := true
        line := none }
    let function : Node := .functionDeclaration
      { name := "f", params := [⟨"a", none, none, none⟩], body := [], returnType := none
        line := none }
    let call : Node := .functionCall
      { name := "f", args := [⟨none, named "p"⟩], body := [], scope := none, line := none }
    let program : Program := ⟨[declaration, write, function, call]⟩
    ∃ recorder binding shown bound, program.Visits .shared call globalScope recorder ∧
      binding? program recorder call = some binding ∧
      ((program.timeline .shared).snapshot 4).get? globalScope "p" = some shown ∧
      (program.timeline .shared).events[5]? = some (.var bound) ∧
      bound.contents = shown.handedOver ∧
      bound.contents = (Recorder.unresolved, some ⟨"p_heap", some 0⟩) := by
  intro named declaration write function call program
  let recorder := Recorder.run ⟨⟨[declaration, write]⟩, .shared⟩
  have visited : program.Visits .shared call globalScope recorder :=
    ⟨_, .head (.tail (.tail (.tail .program (.plain rfl)) (.plain rfl)) (.plain rfl)), rfl⟩
  have foreign : ∀ parameter ∈ [Parameter.mk "a" none none none], parameter.name ≠ "p" := by simp
  have split : recorder.timeline.events =
      [.push globalScope none] ++ .var _ :: [.var _, .memberWrite _] := rfl
  have shown : ((program.timeline .shared).snapshot 4).get? globalScope "p" = some _ := rfl
  obtain ⟨records, later, bound, events, found, _, _, _, handed, _, asShown⟩ :=
    argument_bound_as_recorded visited rfl Nat.zero_lt_one rfl foreign split rfl (by
      intro later member
      simp only [List.mem_cons, Event.var.injEq, reduceCtorEq, List.not_mem_nil, or_false]
        at member
      rw [member]
      decide) (List.mem_of_find?_eq_some shown) rfl
  refine ⟨recorder, _, _, bound, visited, rfl, shown, ?_, asShown (by decide), handed⟩
  obtain ⟨rest, rfl⟩ : ∃ rest, records = bound :: rest := by
    cases records with
    | nil => contradiction
    | cons first rest => exact ⟨rest, by simpa using found⟩
  rw [events, split]
  rfl

/-- A field of an object is written to and then handed over. The snapshot before the call shows
what was written, and the parameter is bound to the value that the field was recorded with. -/
theorem argument_bound_before_write :
    let member : Member Node :=
      { kind := .variable, name := "x", defaultValue := .int 1, pointer := false, dataType := none
        pointsTo := none, scope := none, params := [], body := [], id := none, line := none }
    let definition : Node := .classDeclaration { name := "C", members := [member], line := none }
    let object : Node := .objectDeclaration
      { name := some "o", objectName := none, classType := "C", scope := none, args := []
        id := none, line := none }
    let write : Node := .memberAssignment
      { object := "o", member := "x", value := .int 5, scope := none, pointerAccess := false
        line := none }
    let function : Node := .functionDeclaration
      { name := "f", params := [⟨"a", none, none, none⟩], body := [], returnType := none
        line := none }
    let call : Node := .functionCall
      { name := "f", args := [⟨none, .obj [("name", .str "o.x")]⟩], body := [], scope := none
        line := none }
    let program : Program := ⟨[definition, object, write, function, call]⟩
    let timeline := program.timeline .shared
    ∃ recorder binding source shown bound, program.Visits .shared call globalScope recorder ∧
      binding? program recorder call = some binding ∧
      (binding.argument? 0).bind Json.identifier? = some "o.x" ∧
      (∀ parameter ∈ binding.params, parameter.name ≠ "o.x") ∧
      timeline.upTo 5 = recorder.timeline ∧ recorder.latest? "o.x" = some source ∧
      source.key = (globalScope, "o.x") ∧
      (timeline.snapshot 5).get? globalScope "o.x" = some shown ∧
      shown.handedOver.1.display? = some "5" ∧
      timeline.events[6]? = some (.var bound) ∧ bound.key = ("f", "a") ∧
      bound.contents = (.int 1, none) ∧ bound.contents ≠ shown.handedOver := by
  intro member definition object write function call program timeline
  have visited : program.Visits .shared call globalScope _ :=
    ⟨_, .head (.tail (.tail (.tail (.tail .program (.plain rfl)) (.plain rfl)) (.plain rfl))
      (.plain rfl)), rfl⟩
  have written : ((timeline.snapshot 5).get? globalScope "o.x").bind
      (fun record => record.handedOver.1.display?) = some "5" := by decide
  obtain ⟨shown, live, isFive⟩ := Option.bind_eq_some_iff.mp written
  refine ⟨_, _, _, shown, _, visited, rfl, rfl, by simp, rfl, rfl, rfl, live, isFive, rfl, rfl, rfl,
    ?_⟩
  intro same
  rw [← same] at isFive
  exact absurd isFive (by decide)

end Program

end MemoryTimeline
