import MemoryTimeline.Snapshot.Basic

/-!
# The records of a snapshot

A replay of events keeps one record for each scope and name that was recorded, in the
order in which these were recorded first, and shows each as it was recorded last apart
from the members written since (`Replayed`). This holds for every list of events,
balanced or not. A snapshot shows the records of the heap and of the scopes on its
stack.
-/

namespace MemoryTimeline

namespace Record

/-- Records that differ at most in what a write to a member can change. -/
def SameButContents (record source : Record) : Prop :=
  record =
    { source with value := record.value, pointee := record.pointee, members := record.members }

theorem SameButContents.refl (record : Record) : record.SameButContents record := rfl

theorem SameButContents.trans {first second third : Record}
    (left : first.SameButContents second) (right : second.SameButContents third) :
    first.SameButContents third := by
  unfold SameButContents at *
  rw [left, right]

/-- A write to a member leaves scope and name alone. -/
theorem SameButContents.key_eq {record source : Record}
    (same : record.SameButContents source) : record.key = source.key := by
  rw [same]
  rfl

end Record

namespace Snapshot

/-- The position of the first record of a key. -/
def firstRecorded (events : List Event) (key : String × String) : Nat :=
  events.findIdx fun event => event.record?.any (·.key = key)

/-- A record that shows the latest one of its key among some events. They agree but for
contents, and are equal if no member was written since. -/
def ShowsLatest (events : List Event) (record : Record) : Prop :=
  ∃ before latest after, events = before ++ .var latest :: after ∧ latest.key = record.key ∧
    (∀ later, .var later ∈ after → later.key ≠ record.key) ∧
    record.SameButContents latest ∧
    ((∀ write, .memberWrite write ∉ after) → record = latest)

/-- What a replay of some events leaves. -/
structure Replayed (events : List Event) (records : List Record) : Prop where
  distinct : (records.map Record.key).Nodup
  recorded : ∀ key, key ∈ records.map Record.key ↔
    ∃ record, .var record ∈ events ∧ record.key = key
  ordered : (records.map Record.key).Pairwise fun first second =>
    firstRecorded events first < firstRecorded events second
  latest : ∀ record ∈ records, ShowsLatest events record

section Put

/-- A record of a new key is put at the end. -/
theorem putRecord_of_not_mem {record : Record} {records : List Record}
    (absent : record.key ∉ records.map Record.key) :
    putRecord record records = records ++ [record] := by
  induction records with
  | nil => rfl
  | cons entry rest inductionHypothesis =>
      simp only [List.map_cons, List.mem_cons, not_or] at absent
      rw [putRecord, if_neg (Ne.symm absent.1), inductionHypothesis absent.2]
      rfl

/-- A record of a known key changes no key and no place. -/
theorem map_key_putRecord_of_mem {record : Record} {records : List Record}
    (present : record.key ∈ records.map Record.key) :
    (putRecord record records).map Record.key = records.map Record.key := by
  induction records with
  | nil => contradiction
  | cons entry rest inductionHypothesis =>
      by_cases same : entry.key = record.key
      · rw [putRecord, if_pos same, List.map_cons, List.map_cons, same]
      · have inRest : record.key ∈ rest.map Record.key := by
          simpa [Ne.symm same] using present
        rw [putRecord, if_neg same, List.map_cons, List.map_cons, inductionHypothesis inRest]

/-- Putting a record adds its key, and takes none away. -/
theorem mem_map_key_putRecord {record : Record} {records : List Record} {key : String × String} :
    key ∈ (putRecord record records).map Record.key ↔
      key ∈ records.map Record.key ∨ key = record.key := by
  by_cases present : record.key ∈ records.map Record.key
  · rw [map_key_putRecord_of_mem present]
    refine ⟨.inl, ?_⟩
    rintro (member | rfl)
    · exact member
    · exact present
  · rw [putRecord_of_not_mem present, List.map_append, List.mem_append]
    simp

/-- With one record for each key, a record put is there and the other keys keep theirs. -/
theorem mem_putRecord {record entry : Record} {records : List Record}
    (distinct : (records.map Record.key).Nodup) (member : entry ∈ putRecord record records) :
    entry = record ∨ entry ∈ records ∧ entry.key ≠ record.key := by
  induction records with
  | nil => exact .inl (by simpa [putRecord] using member)
  | cons first rest inductionHypothesis =>
      rw [List.map_cons, List.nodup_cons] at distinct
      by_cases same : first.key = record.key
      · rw [putRecord, if_pos same] at member
        rcases List.mem_cons.mp member with isRecord | inRest
        · exact .inl isRecord
        · refine .inr ⟨List.mem_cons_of_mem _ inRest, ?_⟩
          intro sameKey
          exact distinct.1 (same ▸ sameKey ▸ List.mem_map_of_mem inRest)
      · rw [putRecord, if_neg same] at member
        rcases List.mem_cons.mp member with rfl | inRest
        · exact .inr ⟨List.mem_cons_self, same⟩
        · rcases inductionHypothesis distinct.2 inRest with isRecord | ⟨kept, otherKey⟩
          · exact .inl isRecord
          · exact .inr ⟨List.mem_cons_of_mem _ kept, otherKey⟩

theorem mem_putRecord_self (record : Record) (records : List Record) :
    record ∈ putRecord record records := by
  induction records with
  | nil => exact List.mem_singleton_self record
  | cons entry rest inductionHypothesis =>
      rw [putRecord]
      split
      · exact List.mem_cons_self
      · exact List.mem_cons_of_mem entry inductionHypothesis

/-- A record stays when one of another key is put. -/
theorem mem_putRecord_of_ne {record entry : Record} {records : List Record}
    (member : entry ∈ records) (otherKey : entry.key ≠ record.key) :
    entry ∈ putRecord record records := by
  induction records with
  | nil => contradiction
  | cons first rest inductionHypothesis =>
      by_cases same : first.key = record.key
      · rw [putRecord, if_pos same]
        rcases List.mem_cons.mp member with rfl | inRest
        · contradiction
        · exact List.mem_cons_of_mem _ inRest
      · rw [putRecord, if_neg same]
        rcases List.mem_cons.mp member with rfl | inRest
        · exact List.mem_cons_self
        · exact List.mem_cons_of_mem _ (inductionHypothesis inRest)

end Put

/-- A write to a member changes the contents of records where they stand. -/
theorem applyWrite_eq_map (write : MemberWrite) (records : List Record) :
    ∃ change : Record → Record, (∀ record, (change record).SameButContents record) ∧
      applyWrite write records = records.map change := by
  have conditional (key : String × String) {change : Record → Record}
      (same : ∀ record, (change record).SameButContents record) (record : Record) :
      (if record.key = key then change record else record).SameButContents record := by
    split
    · exact same record
    · exact .refl record
  have memberSame : ∀ record, (writeMember write record).SameButContents record := fun _ => rfl
  have fieldSame : ∀ record, (writeField write record).SameButContents record := fun _ => rfl
  unfold applyWrite
  split
  · refine ⟨_, ?_, List.map_map⟩
    intro record
    exact (conditional _ fieldSame _).trans (conditional _ memberSame record)
  · exact ⟨_, conditional _ fieldSame, rfl⟩

section FirstRecorded

variable {events : List Event} {key : String × String}

/-- A key that is recorded has a first event that records it. -/
theorem firstRecorded_lt_length
    (recorded : ∃ record, .var record ∈ events ∧ record.key = key) :
    firstRecorded events key < events.length := by
  obtain ⟨record, member, sameKey⟩ := recorded
  exact List.findIdx_lt_length_of_exists ⟨.var record, member, by simp [Event.record?, sameKey]⟩

/-- Later events do not move the first record of a key. -/
theorem firstRecorded_append
    (recorded : ∃ record, .var record ∈ events ∧ record.key = key) (more : List Event) :
    firstRecorded (events ++ more) key = firstRecorded events key := by
  rw [firstRecorded, List.findIdx_append]
  exact if_pos (firstRecorded_lt_length recorded)

/-- A key recorded for the first time is recorded last of all. -/
theorem firstRecorded_append_var {record : Record}
    (absent : ¬ ∃ earlier, .var earlier ∈ events ∧ earlier.key = record.key) :
    firstRecorded (events ++ [.var record]) record.key = events.length := by
  have notFound : events.findIdx (fun event => event.record?.any (·.key = record.key)) =
      events.length := by
    rw [List.findIdx_eq_length]
    intro event member
    cases event with
    | var earlier =>
        simp only [Event.record?, Option.any_some, decide_eq_false_iff_not]
        exact fun sameKey => absent ⟨earlier, member, sameKey⟩
    | push => rfl
    | pop => rfl
    | memberWrite => rfl
  unfold firstRecorded
  rw [List.findIdx_append, notFound, if_neg (Nat.lt_irrefl _)]
  simp [Event.record?]

end FirstRecorded

/-- A shown record stays so under an event that does not record its key. Only a write to
a member may change it. -/
theorem ShowsLatest.append {events : List Event} {record changed : Record}
    (shown : ShowsLatest events record) (event : Event)
    (otherKey : ∀ later, event = .var later → later.key ≠ record.key)
    (same : changed.SameButContents record)
    (unchanged : (∀ write, event ≠ .memberWrite write) → changed = record) :
    ShowsLatest (events ++ [event]) changed := by
  obtain ⟨before, latest, after, split, sameKey, lastOne, agrees, unwrittenEqual⟩ := shown
  refine ⟨before, latest, after ++ [event], ?_, ?_, ?_, same.trans agrees, ?_⟩
  · rw [split, List.append_assoc, List.cons_append]
  · rw [sameKey, same.key_eq]
  · intro later member
    rw [same.key_eq]
    rcases List.mem_append.mp member with inAfter | isEvent
    · exact lastOne later inAfter
    · exact otherKey later (List.mem_singleton.mp isEvent).symm
  · intro unwritten
    simp only [List.mem_append, List.mem_singleton, not_or] at unwritten
    rw [unchanged fun write isWrite => (unwritten write).2 isWrite.symm]
    exact unwrittenEqual fun write => (unwritten write).1

namespace Replayed

variable {events : List Event} {records : List Record}

/-- The keys of a replay are ordered by first record whatever follows. -/
theorem ordered_append (replayed : Replayed events records) (more : List Event) :
    (records.map Record.key).Pairwise fun first second =>
      firstRecorded (events ++ more) first < firstRecorded (events ++ more) second := by
  refine replayed.ordered.imp_of_mem ?_
  intro first second firstMember secondMember before
  rw [firstRecorded_append ((replayed.recorded first).mp firstMember),
    firstRecorded_append ((replayed.recorded second).mp secondMember)]
  exact before

/-- An event that records nothing keeps the keys, and may change contents if it writes
to a member. -/
theorem changed (replayed : Replayed events records) {event : Event}
    (silent : event.record? = none) {change : Record → Record}
    (same : ∀ record, (change record).SameButContents record)
    (unchanged : (∀ write, event ≠ .memberWrite write) → ∀ record, change record = record) :
    Replayed (events ++ [event]) (records.map change) := by
  have notVar : ∀ record, event ≠ .var record := by
    rintro record rfl
    contradiction
  have keys : (records.map change).map Record.key = records.map Record.key := by
    rw [List.map_map]
    exact List.map_congr_left fun record _ => (same record).key_eq
  refine ⟨?_, ?_, ?_, ?_⟩
  · rw [keys]
    exact replayed.distinct
  · intro key
    rw [keys, replayed.recorded]
    simp [Ne.symm (notVar _)]
  · rw [keys]
    exact replayed.ordered_append [event]
  · intro record member
    obtain ⟨original, originalMember, rfl⟩ := List.mem_map.mp member
    refine (replayed.latest original originalMember).append event ?_ (same original) ?_
    · intro later isVar
      exact absurd isVar (notVar later)
    · intro notWrite
      exact unchanged notWrite original

/-- A record takes the place of its key, or the last place. -/
theorem put (replayed : Replayed events records) (record : Record) :
    Replayed (events ++ [.var record]) (putRecord record records) where
  distinct := by
    by_cases present : record.key ∈ records.map Record.key
    · rw [map_key_putRecord_of_mem present]
      exact replayed.distinct
    · rw [putRecord_of_not_mem present, List.map_append, List.nodup_append]
      refine ⟨replayed.distinct, by simp, ?_⟩
      rintro key member _ isKey rfl
      exact present ((List.mem_singleton.mp isKey) ▸ member)
  recorded := by
    intro key
    rw [mem_map_key_putRecord, replayed.recorded]
    simp [or_and_right, exists_or, eq_comm]
  ordered := by
    by_cases present : record.key ∈ records.map Record.key
    · rw [map_key_putRecord_of_mem present]
      exact replayed.ordered_append [.var record]
    · have absent := fun recorded => present ((replayed.recorded record.key).mpr recorded)
      rw [putRecord_of_not_mem present, List.map_append, List.pairwise_append]
      refine ⟨replayed.ordered_append _, by simp, ?_⟩
      intro key member last isLast
      rw [List.mem_singleton.mp isLast, firstRecorded_append_var absent,
        firstRecorded_append ((replayed.recorded key).mp member)]
      exact firstRecorded_lt_length ((replayed.recorded key).mp member)
  latest := by
    intro entry member
    rcases mem_putRecord replayed.distinct member with rfl | ⟨kept, otherKey⟩
    · exact ⟨events, entry, [], rfl, rfl, by simp, .refl entry, fun _ => rfl⟩
    · refine (replayed.latest entry kept).append _ ?_ (.refl entry) fun _ => rfl
      rintro later ⟨⟩
      exact Ne.symm otherKey

/-- One event, of any kind, leads from the replay before it to the one after it. -/
theorem step (replayed : Replayed events records) (event : Event) :
    Replayed (events ++ [event]) (applyRecord records event) := by
  have unchanged (silent : event.record? = none) : Replayed (events ++ [event]) records := by
    have kept := replayed.changed silent Record.SameButContents.refl fun _ _ => rfl
    rwa [List.map_id'] at kept
  cases event with
  | push => exact unchanged rfl
  | pop => exact unchanged rfl
  | var record => exact replayed.put record
  | memberWrite write =>
      obtain ⟨change, same, applied⟩ := applyWrite_eq_map write records
      rw [applyRecord, applied]
      exact replayed.changed rfl same fun notWrite => absurd rfl (notWrite write)

/-- A whole replay, from any point of it. -/
theorem replay (replayed : Replayed events records) (more : List Event) :
    Replayed (events ++ more) (more.foldl applyRecord records) := by
  induction more generalizing events records with
  | nil => rwa [List.append_nil]
  | cons event rest inductionHypothesis =>
      have continued := inductionHypothesis (replayed.step event)
      rwa [List.append_assoc, List.singleton_append] at continued

end Replayed

/-- The replay of any events, from the start. -/
theorem replayed_recordsAfter (events : List Event) : Replayed events (recordsAfter events) := by
  have start : Replayed [] [] := ⟨by simp, by simp, by simp, by simp⟩
  exact start.replay events

end Snapshot

namespace Timeline

/-- A record is live when it is left by the replay and its scope is shown. -/
theorem mem_snapshot_live {timeline : Timeline} {step : Nat} {record : Record} :
    record ∈ (timeline.snapshot step).live ↔
      record ∈ Snapshot.recordsAfter (timeline.events.take step) ∧
        (record.scope = heapScope ∨ record.scope ∈ (timeline.snapshot step).stack) := by
  simp [snapshot, List.mem_filter, Record.isHeapScoped]

/-- The keys that are live are those recorded so far whose scope is shown. -/
theorem exists_mem_snapshot_live {timeline : Timeline} {step : Nat} {scope name : String} :
    (∃ record ∈ (timeline.snapshot step).live, record.key = (scope, name)) ↔
      (∃ record, .var record ∈ timeline.events.take step ∧ record.key = (scope, name)) ∧
        (scope = heapScope ∨ scope ∈ (timeline.snapshot step).stack) := by
  have recorded := (Snapshot.replayed_recordsAfter (timeline.events.take step)).recorded
    (scope, name)
  rw [← recorded, List.mem_map]
  constructor
  · rintro ⟨record, member, sameKey⟩
    obtain ⟨left, shown⟩ := mem_snapshot_live.mp member
    have sameScope : record.scope = scope := congrArg Prod.fst sameKey
    exact ⟨⟨record, left, sameKey⟩, sameScope ▸ shown⟩
  · rintro ⟨⟨record, left, sameKey⟩, shown⟩
    have sameScope : record.scope = scope := congrArg Prod.fst sameKey
    exact ⟨record, mem_snapshot_live.mpr ⟨left, sameScope ▸ shown⟩, sameKey⟩

/-- There is at most one live record for each scope and name. -/
theorem nodup_snapshot_live (timeline : Timeline) (step : Nat) :
    ((timeline.snapshot step).live.map Record.key).Nodup :=
  (Snapshot.replayed_recordsAfter (timeline.events.take step)).distinct.sublist
    (List.filter_sublist.map Record.key)

/-- A live record was recorded, with other contents at most. -/
theorem exists_recorded_of_mem_live {timeline : Timeline} {step : Nat} {record : Record}
    (live : record ∈ (timeline.snapshot step).live) :
    ∃ recorded, .var recorded ∈ timeline.events ∧ record.SameButContents recorded := by
  obtain ⟨before, latest, after, split, _, _, same, _⟩ :=
    (Snapshot.replayed_recordsAfter (timeline.events.take step)).latest record
      (mem_snapshot_live.mp live).1
  exact ⟨latest, (List.take_prefix step _).subset (by simp [split]), same⟩

end Timeline

end MemoryTimeline
