/-!
# Tables in order of arrival

A table is a list of entries, one per key, in the order in which the keys first
arrived. Writing to a key that is present keeps its place.
-/

namespace MemoryTimeline

/-- Entries with distinct keys, in order of arrival. -/
abbrev Table (Key Value : Type) := List (Key × Value)

/-- Write a value to a key. -/
def Table.put {Key Value : Type} [BEq Key] (key : Key) (value : Value) :
    Table Key Value → Table Key Value
  | [] => [(key, value)]
  | entry :: rest =>
    if entry.1 == key then (entry.1, value) :: rest else entry :: Table.put key value rest

/-- The table of a list of writes, carried out in order. -/
def Table.ofList {Key Value : Type} [BEq Key] (writes : List (Key × Value)) : Table Key Value :=
  writes.foldl (fun table write => Table.put write.1 write.2 table) []

section Lookup

variable {Key Value : Type} [BEq Key] [LawfulBEq Key]

/-- A key that was written to has its new value, and the others keep theirs. -/
theorem Table.lookup_put (key other : Key) (value : Value) (table : Table Key Value) :
    (Table.put key value table).lookup other = List.lookup other ((key, value) :: table) := by
  induction table with
  | nil => rfl
  | cons entry rest inductionHypothesis =>
      obtain ⟨stored, old⟩ := entry
      by_cases same : stored = key
      · subst same
        by_cases isKey : other = stored
        · simp [Table.put, isKey]
        · simp [Table.put, List.lookup_cons, beq_false_of_ne isKey]
      · by_cases isStored : other = stored
        · subst isStored
          simp [Table.put, beq_false_of_ne same, List.lookup_cons]
        · simpa [Table.put, beq_false_of_ne same, List.lookup_cons, beq_false_of_ne isStored] using
            inductionHypothesis

/-- A key that is present keeps its place, and a new one takes the last. -/
theorem Table.keys_put (key : Key) (value : Value) (table : Table Key Value) :
    (Table.put key value table).map Prod.fst =
      if table.any (·.1 == key) then table.map Prod.fst else table.map Prod.fst ++ [key] := by
  induction table with
  | nil => rfl
  | cons entry rest inductionHypothesis =>
      by_cases same : entry.1 = key
      · simp [Table.put, same]
      · simp only [Table.put, beq_false_of_ne same, Bool.false_eq_true, if_false, List.map_cons,
          inductionHypothesis, List.any_cons, Bool.false_or]
        split <;> rfl

/-- The entries of the other keys stay as they are, in the same order. -/
theorem Table.filter_put (key : Key) (value : Value) (table : Table Key Value) :
    (Table.put key value table).filter (·.1 != key) = table.filter (·.1 != key) := by
  induction table with
  | nil => simp [Table.put]
  | cons entry rest inductionHypothesis =>
      by_cases same : entry.1 = key
      · simp [Table.put, same]
      · simp [Table.put, beq_false_of_ne same, same, inductionHypothesis]

/-- In a table of writes, each key has the value that was written to it last. -/
theorem Table.lookup_ofList (writes : List (Key × Value)) (key : Key) :
    (Table.ofList writes).lookup key = writes.reverse.lookup key := by
  have continued (table : Table Key Value) :
      (writes.foldl (fun table write => Table.put write.1 write.2 table) table).lookup key =
        List.lookup key (writes.reverse ++ table) := by
    induction writes generalizing table with
    | nil => rfl
    | cons write rest inductionHypothesis =>
        rw [List.foldl_cons, inductionHypothesis, List.lookup_append, Table.lookup_put,
          ← List.lookup_append, List.reverse_cons, List.append_assoc, List.singleton_append]
  simpa [Table.ofList] using continued []

end Lookup

end MemoryTimeline
