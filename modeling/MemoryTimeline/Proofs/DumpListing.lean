import Mathlib.Data.List.Nodup
import MemoryTimeline.CommandLine
import MemoryTimeline.Proofs.HeapReplay

/-!
# What a dump lists

The frames of a dump leave out heap blocks, while its heap section takes the
records that belong to the heap. No live record falls between the two: a block of
a recorded timeline belongs to the heap, and a write to a member moves no record
and changes no kind.
-/

namespace MemoryTimeline

/-- The record is among some records, and no other of them has its scope and name. -/
def Record.OnceIn (record : Record) (records : List Record) : Prop :=
  ∃ before after, records = before ++ record :: after ∧
    ∀ other ∈ before ++ after, other.key ≠ record.key

/-- Among records of distinct scopes and names, each occurs once. -/
theorem Record.onceIn_of_mem {record : Record} {records : List Record}
    (distinct : (records.map Record.key).Nodup) (member : record ∈ records) :
    record.OnceIn records := by
  obtain ⟨before, after, split⟩ := List.append_of_mem member
  refine ⟨before, after, split, ?_⟩
  intro other among sameKey
  rw [split, List.map_append, List.map_cons, List.nodup_middle, List.nodup_cons,
    ← List.map_append] at distinct
  exact distinct.1 (sameKey ▸ List.mem_map_of_mem among)

/-- Any choice among the live records, in their order, has a chosen record once. -/
theorem Timeline.onceIn_filter_live {timeline : Timeline} {step : Nat} {record : Record}
    {chosen : Record → Bool} (live : record ∈ (timeline.snapshot step).live)
    (isChosen : chosen record) :
    record.OnceIn ((timeline.snapshot step).live.filter chosen) :=
  Record.onceIn_of_mem
    ((timeline.nodup_snapshot_live step).sublist (List.filter_sublist.map Record.key))
    (List.mem_filter.mpr ⟨live, isChosen⟩)

namespace Program

variable {program : Program} {naming : ScopeNaming}

/-- A recorded heap block belongs to the heap. -/
theorem scope_eq_of_block {record : Record}
    (recorded : .var record ∈ (program.timeline naming).events) (block : record.kind = .heap) :
    record.scope = heapScope := by
  cases number : record.heap with
  | none =>
    obtain ⟨before, after, split⟩ := List.append_of_mem recorded
    exact absurd block ((record_coherentAt split).unallocated number).kind
  | some heap => exact entity_scope_eq recorded number

/-- A live heap block belongs to the heap. -/
theorem scope_eq_of_live_block {step : Nat} {record : Record}
    (live : record ∈ ((program.timeline naming).snapshot step).live)
    (block : record.kind = .heap) : record.scope = heapScope := by
  -- A write to a member keeps the kind and the scope that were recorded.
  obtain ⟨recorded, isRecorded, same⟩ := Timeline.exists_recorded_of_mem_live live
  have sameKind : record.kind = recorded.kind := by rw [same]
  have sameScope : record.scope = recorded.scope := by rw [same]
  rw [sameScope]
  exact scope_eq_of_block isRecorded (sameKind.symm.trans block)

/-- The frame of a scope other than the heap leaves out no live record of the scope. -/
theorem filter_inScope_eq {step : Nat} {scope : String} (notHeap : scope ≠ heapScope) :
    (((program.timeline naming).snapshot step).inScope scope).filter (·.kind ≠ .heap)
      = ((program.timeline naming).snapshot step).inScope scope := by
  rw [List.filter_eq_self]
  intro record member
  obtain ⟨live, inScope⟩ := List.mem_filter.mp member
  rw [decide_eq_true_iff] at inScope ⊢
  intro block
  exact notHeap (inScope ▸ scope_eq_of_live_block live block)

end Program

namespace CommandLine

/-- A heading, and a line for each of some records. -/
def sectionLines (heading : String) (records : List Record) : List String :=
  heading :: records.map fun record => "  " ++ record.summary

/-- The number of events that a dump applies. -/
def dumpedStep (timeline : Timeline) : Option Nat → Nat
  | some step => min (min step Text.maxInteger) timeline.length
  | none => timeline.length

/-- A dump as sections: a frame for each open scope, and the heap unless it is empty. -/
theorem dumpLines_eq (timeline : Timeline) (step : Option Nat) :
    let index := dumpedStep timeline step
    let snapshot := timeline.snapshot index
    dumpLines timeline step =
      eventLines timeline
        ++ ["", Cursor.indicator ⟨index⟩ timeline ++ "  " ++ timeline.description index]
        ++ snapshot.stack.flatMap (fun scope => sectionLines ("Scope: " ++ scope)
            ((snapshot.inScope scope).filter (·.kind ≠ .heap)))
        ++ if snapshot.heap.isEmpty then [] else sectionLines "Heap" snapshot.heap := by
  intro index snapshot
  have dumped : dumpLines timeline step
      = eventLines timeline ++ "" :: stepLines timeline ⟨index⟩ := by
    cases step <;> rfl
  have frames : snapshot.frames.flatMap (fun frame => frame.title :: frame.lines.map indent)
      = snapshot.stack.flatMap fun scope => sectionLines ("Scope: " ++ scope)
          ((snapshot.inScope scope).filter (·.kind ≠ .heap)) := by
    simp [Snapshot.frames, List.flatMap_map, sectionLines, Snapshot.Frame.title, indent,
      Function.comp_def]
  rw [dumped, stepLines, ← frames]
  simp [Cursor.snapshot, sectionLines, snapshot, indent, String.append_assoc]

end CommandLine

namespace Program

open CommandLine

/-- A dump omits no live record. It shows the memory at the given step or at the end,
whichever comes first, for every timeline that 64-bit integers can count. Its sections are
a frame for each entry of the stack and, unless it is empty, the heap. A live record that
does not belong to the heap has its scope on the stack, and every frame of that scope has
it once; one that belongs to the heap is once in the heap section. Sections follow the
order of the live records, and list nothing else. -/
theorem dump_omits_no_live_record (program : Program) (naming : ScopeNaming)
    (step : Option Nat) :
    let timeline := program.timeline naming
    let index := dumpedStep timeline step
    let snapshot := timeline.snapshot index
    let onHeap := snapshot.live.filter (·.scope = "heap")
    (timeline.length ≤ Text.maxInteger →
        index = min (step.getD timeline.length) timeline.length)
      ∧ ∃ listed : String → List Record,
        dumpLines timeline step =
          eventLines timeline
            ++ ["", Cursor.indicator ⟨index⟩ timeline ++ "  " ++ timeline.description index]
            ++ snapshot.stack.flatMap (fun scope =>
                sectionLines ("Scope: " ++ scope) (listed scope))
            ++ (if onHeap.isEmpty then [] else sectionLines "Heap" onHeap)
        ∧ (∀ record ∈ snapshot.live, record.scope ≠ "heap" →
            record.scope ∈ snapshot.stack ∧ record.OnceIn (listed record.scope))
        ∧ (∀ record ∈ snapshot.live, record.scope = "heap" → record.OnceIn onHeap)
        ∧ ∀ scope, (listed scope).Sublist (snapshot.live.filter (·.scope = scope)) := by
  intro timeline index snapshot onHeap
  have sameHeap : snapshot.heap = onHeap := rfl
  refine ⟨?_, fun scope => (snapshot.inScope scope).filter (·.kind ≠ .heap), ?_, ?_, ?_, ?_⟩
  · intro counted
    cases step with
    | none => exact (Nat.min_self _).symm
    | some step =>
      change min (min step Text.maxInteger) timeline.length = min step timeline.length
      omega
  · rw [← sameHeap]
    exact dumpLines_eq timeline step
  · intro record live notHeap
    have shown := (Timeline.mem_snapshot_live.mp live).2
    refine ⟨shown.resolve_left notHeap, ?_⟩
    change record.OnceIn ((snapshot.inScope record.scope).filter (·.kind ≠ .heap))
    rw [filter_inScope_eq notHeap]
    exact Timeline.onceIn_filter_live live (decide_eq_true rfl)
  · intro record live belongs
    exact Timeline.onceIn_filter_live live (decide_eq_true belongs)
  · intro scope
    exact List.filter_sublist

end Program

end MemoryTimeline
