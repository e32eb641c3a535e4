import HamLogger.Library.Catalog

/-! Saving a state in the tables of a database: every table is deleted, and
then every record is created anew. What the tables hold when this is
interrupted between two of the writes. -/
namespace HamLogger.TableStore

variable {Table Id : Type} {Payload : Table → Type}

/-- A record of some table. -/
abbrev Record (Payload : Table → Type) := (table : Table) × Payload table

inductive Write (Payload : Table → Type) where
  | deleteTable (table : Table)
  | createRecord (record : Record Payload)

/-- The writes that put these records in place of all others. -/
def replaceAll (tables : List Table) (records : List (Record Payload)) : List (Write Payload) :=
  tables.map .deleteTable ++ records.map .createRecord

variable [DecidableEq Id] {recordId : (table : Table) → Payload table → Id}

/-- Tables of records, each under its identifier. -/
abbrev Database (recordId : (table : Table) → Payload table → Id) :=
  (table : Table) → Catalog (recordId table)

def emptyDatabase : Database recordId := fun _ => ∅

/-- The records of each table have identifiers of their own. -/
def DistinctRecords (recordId : (table : Table) → Payload table → Id)
    (records : List (Record Payload)) : Prop :=
  (records.map fun record => (record.1, recordId record.1 record.2)).Nodup

variable [DecidableEq Table]

/-- Creating a record that is there replaces it. -/
def Write.apply (database : Database recordId) : Write Payload → Database recordId
  | .deleteTable table => Function.update database table ∅
  | .createRecord record => Function.update database record.1 ((database record.1).insert record.2)

def perform (writes : List (Write Payload)) (database : Database recordId) : Database recordId :=
  writes.foldl Write.apply database

theorem perform_append (first second : List (Write Payload)) (database : Database recordId) :
    perform (first ++ second) database = perform second (perform first database) :=
  List.foldl_append

/-- Deleting tables empties them and leaves the others. -/
theorem perform_deletions (tables : List Table) (database : Database recordId) (table : Table) :
    perform (tables.map .deleteTable) database table =
      if table ∈ tables then ∅ else database table := by
  induction tables using List.reverseRecOn with
  | nil => rfl
  | append_singleton tables last ih =>
      rw [List.map_append, perform_append]
      show Function.update _ last ∅ table = _
      by_cases hSame : table = last
      · subst hSame
        rw [Function.update_self, if_pos (by simp)]
      · rw [Function.update_of_ne hSame, ih]
        simp [hSame]

/-- What a created record adds to the tables. -/
theorem mem_values_createRecord (database : Database recordId) (record : Record Payload)
    (table : Table) (payload : Payload table) :
    payload ∈ (Write.apply database (.createRecord record) table).values ↔
      record = ⟨table, payload⟩ ∨ (payload ∈ (database table).values ∧
        (record.1, recordId record.1 record.2) ≠ (table, recordId table payload)) := by
  obtain ⟨other, created⟩ := record
  show payload ∈ (Function.update database other ((database other).insert created) table).values ↔ _
  by_cases hTable : table = other
  · subst hTable
    rw [Function.update_self, Catalog.mem_values_insert]
    simp [eq_comm]
  · rw [Function.update_of_ne hTable]
    have hOther : other ≠ table := fun hSame => hTable hSame.symm
    simp [hOther]

/-- Records with identifiers of their own are all there in the end. -/
theorem mem_perform_creations {records : List (Record Payload)}
    (h : DistinctRecords recordId records) (table : Table) (payload : Payload table) :
    payload ∈ (perform (records.map .createRecord)
        (emptyDatabase : Database recordId) table).values ↔ ⟨table, payload⟩ ∈ records := by
  induction records using List.reverseRecOn with
  | nil =>
      show payload ∈ [] ↔ _
      simp
  | append_singleton records last ih =>
      rw [DistinctRecords, List.map_append, List.nodup_append] at h
      rw [List.map_append, perform_append, List.mem_append, List.mem_singleton]
      refine (mem_values_createRecord _ last table payload).trans ?_
      rw [ih h.1]
      constructor
      · intro hMem
        rcases hMem with hLast | hEarly
        · exact Or.inr hLast.symm
        · exact Or.inl hEarly.1
      · intro hMem
        rcases hMem with hEarly | hLast
        · refine Or.inr ⟨hEarly, fun hSame => ?_⟩
          have hApart := h.2.2 (table, recordId table payload)
            (List.mem_map_of_mem (f := fun record : Record Payload =>
              (record.1, recordId record.1 record.2)) hEarly)
          exact hApart _ (List.mem_singleton.mpr hSame.symm) rfl
        · exact Or.inl hLast.symm

section Interrupted
variable {tables : List Table} {records : List (Record Payload)} {done : Nat}

/-- Interrupted among the deletions, the tables that come first are empty. -/
theorem perform_take_deleting (h : done ≤ tables.length) (database : Database recordId)
    (table : Table) :
    perform ((replaceAll tables records).take done) database table =
      if table ∈ tables.take done then ∅ else database table := by
  have hTake : (replaceAll tables records).take done =
      (tables.take done).map (.deleteTable : Table → Write Payload) := by
    rw [replaceAll, List.take_append_of_le_length (by rw [List.length_map]; exact h),
      List.map_take]
  rw [hTake, perform_deletions]

/-- Interrupted among the creations, the tables hold the records that come
first. -/
theorem mem_perform_take_creating (hTables : ∀ table, table ∈ tables)
    (hRecords : DistinctRecords recordId records) (h : tables.length ≤ done)
    (database : Database recordId) (table : Table) (payload : Payload table) :
    payload ∈ (perform ((replaceAll tables records).take done) database table).values ↔
      ⟨table, payload⟩ ∈ records.take (done - tables.length) := by
  have hTake : (replaceAll tables records).take done =
      tables.map (.deleteTable : Table → Write Payload) ++
        (records.take (done - tables.length)).map .createRecord := by
    rw [replaceAll, List.take_append, List.length_map, List.map_take,
      List.take_of_length_le (by rw [List.length_map]; exact h)]
  have hDeleted : perform (tables.map .deleteTable) database = emptyDatabase :=
    funext fun other => by
      rw [perform_deletions, if_pos (hTables other)]
      rfl
  rw [hTake, perform_append, hDeleted]
  refine mem_perform_creations ?_ table payload
  exact List.Nodup.sublist ((List.take_sublist _ records).map _) hRecords

end Interrupted
end HamLogger.TableStore
