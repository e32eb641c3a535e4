import HamLogger.Core.StoreRuns
import HamLogger.Library.Replay

/-! The event store that keeps its events in a file, one JSON text a line. A
call changes the memory first and writes the file afterwards; opening the
store reads the file back. -/
namespace HamLogger

/-! The lines of a buffered reader. A line ends with a newline, which is cut
off together with a carriage return before it; the last line may lack one. -/

def stripCarriageReturn (line : List UInt8) : List UInt8 :=
  if line.getLast? = some 13 then line.dropLast else line

def linesFrom : List UInt8 → List UInt8 → List (List UInt8)
  | current, [] => if current = [] then [] else [current]
  | current, byte :: rest =>
      if byte = 10 then stripCarriageReturn current :: linesFrom [] rest
      else linesFrom (current ++ [byte]) rest

def bufReadLines (bytes : List UInt8) : List (List UInt8) :=
  linesFrom [] bytes

/-- The file is empty or its last line has its newline. -/
def EndsWithNewline (bytes : List UInt8) : Prop :=
  bytes = [] ∨ bytes.getLast? = some 10

/-- Lines after a newline are read independently of what is before it. -/
theorem linesFrom_after_newline (current first second : List UInt8) :
    linesFrom current (first ++ 10 :: second) =
      linesFrom current (first ++ [10]) ++ bufReadLines second := by
  induction first generalizing current with
  | nil => simp [linesFrom, bufReadLines]
  | cons byte rest ih =>
      simp only [List.cons_append, linesFrom]
      split
      · rw [ih]
        rfl
      · exact ih _

theorem bufReadLines_append {first : List UInt8} (h : EndsWithNewline first)
    (second : List UInt8) :
    bufReadLines (first ++ second) = bufReadLines first ++ bufReadLines second := by
  rcases h with rfl | hLast
  · rfl
  · obtain ⟨before, rfl⟩ := List.getLast?_eq_some_iff.mp hLast
    unfold bufReadLines
    rw [List.append_assoc]
    exact linesFrom_after_newline [] before second

/-- A line without newlines of its own is read as it was written. -/
theorem linesFrom_line {line : List UInt8} (hLine : 10 ∉ line) (current : List UInt8) :
    linesFrom current (line ++ [10]) = [stripCarriageReturn (current ++ line)] := by
  induction line generalizing current with
  | nil => simp [linesFrom]
  | cons byte rest ih =>
      have hByte : byte ≠ 10 := fun h => hLine (by simp [h])
      have hRest : 10 ∉ rest := fun h => hLine (by simp [h])
      simp only [List.cons_append, linesFrom, if_neg hByte]
      rw [ih hRest]
      simp

theorem bufReadLines_line {line : List UInt8} (hLine : 10 ∉ line)
    (hEnd : line.getLast? ≠ some 13) : bufReadLines (line ++ [10]) = [line] := by
  rw [bufReadLines, linesFrom_line hLine]
  simp [stripCarriageReturn, hEnd]

/-- How the file system serves a write. -/
inductive WriteOutcome where
  | completes
  | openFails (error : StoreError)
  | stopsAfter (count : Nat) (error : StoreError)

structure JsonlLogbookEventStore where
  file : Option (List UInt8) := none
  memory : InMemoryLogbookEventStore := {}

section Disk
variable [EventJson]

/-- What a write appends to the file. -/
def eventLine (event : CoreEventEnvelope) : List UInt8 :=
  EventJson.toWriter event ++ [10]

/-- The write fails before the whole line is in the file. -/
def WriteOutcome.Fails (event : CoreEventEnvelope) : WriteOutcome → Prop
  | .completes => False
  | .openFails _ => True
  | .stopsAfter count _ => count < (eventLine event).length

def persistEvent (file : Option (List UInt8)) (event : CoreEventEnvelope) :
    WriteOutcome → Option (List UInt8) × Except StoreError Unit
  | .completes => (some (file.getD [] ++ eventLine event), .ok ())
  | .openFails error => (file, .error error)
  | .stopsAfter count error =>
      (some (file.getD [] ++ (eventLine event).take count), .error error)

def loadLine (inner : InMemoryLogbookEventStore) (line : List UInt8) :
    Except StoreError InMemoryLogbookEventStore :=
  match String.fromUTF8? ⟨line.toArray⟩ with
  | none => .error (.io "stream did not contain valid UTF-8")
  | some text =>
      if trim text = "" then .ok inner
      else match EventJson.fromStr text with
        | .error error => .error (.serde error)
        | .ok event => .ok (inner.insertEvent event)

def loadInnerFromDisk : Option (List UInt8) → Except StoreError InMemoryLogbookEventStore
  | none => .ok {}
  | some bytes => Replay.replay loadLine {} (bufReadLines bytes)

/-- The line of an event reads back as the event. -/
structure ReadsBack (event : CoreEventEnvelope) : Prop where
  noNewline : 10 ∉ EventJson.toWriter event
  noCarriageReturn : (EventJson.toWriter event).getLast? ≠ some 13
  parses : ∃ text, String.fromUTF8? ⟨(EventJson.toWriter event).toArray⟩ = some text ∧
    trim text ≠ "" ∧ EventJson.fromStr text = .ok event

/-- The file consists of whole lines that read as the given events. -/
structure FileReads (file : Option (List UInt8)) (events : List CoreEventEnvelope) : Prop where
  complete : EndsWithNewline (file.getD [])
  reads : ∀ inner, Replay.replay loadLine inner (bufReadLines (file.getD [])) =
    .ok (events.foldl InMemoryLogbookEventStore.insertEvent inner)

theorem fileReads_none : FileReads none [] where
  complete := Or.inl rfl
  reads := fun _ => rfl

theorem FileReads.load {file : Option (List UInt8)} {events : List CoreEventEnvelope}
    (h : FileReads file events) :
    loadInnerFromDisk file = .ok (events.foldl InMemoryLogbookEventStore.insertEvent {}) := by
  cases file with
  | none => exact h.reads {}
  | some bytes => exact h.reads {}

/-- A complete write adds its event to what the file reads as. -/
theorem FileReads.persist {file : Option (List UInt8)} {events : List CoreEventEnvelope}
    (h : FileReads file events) {event : CoreEventEnvelope} (hEvent : ReadsBack event) :
    FileReads (persistEvent file event .completes).1 (events ++ [event]) := by
  obtain ⟨text, hText, hBlank, hParse⟩ := hEvent.parses
  refine ⟨Or.inr ?_, fun inner => ?_⟩
  · simp [persistEvent, eventLine]
  · have hLine : bufReadLines (eventLine event) = [EventJson.toWriter event] :=
      bufReadLines_line hEvent.noNewline hEvent.noCarriageReturn
    simp only [persistEvent, Option.getD_some]
    rw [bufReadLines_append h.complete, hLine, Replay.replay_append, h.reads inner,
      List.foldl_append]
    simp [Replay.replay, loadLine, hText, hBlank, hParse]

end Disk

namespace JsonlLogbookEventStore
variable [CanonicalJson] [Sha2Crate] [EventJson]

/-- The end of an append: write the event that the memory step returned. -/
def persistOutcome (store : JsonlLogbookEventStore) (disk : WriteOutcome)
    (appended : InMemoryLogbookEventStore × Except StoreError CoreEventEnvelope) :
    JsonlLogbookEventStore × Except StoreError CoreEventEnvelope :=
  match appended with
  | (memory, .error error) => ({ store with memory := memory }, .error error)
  | (memory, .ok officialEvent) =>
      match persistEvent store.file officialEvent disk with
      | (file, .ok ()) => ({ file := file, memory := memory }, .ok officialEvent)
      | (file, .error error) => ({ file := file, memory := memory }, .error error)

def appendEvent (store : JsonlLogbookEventStore) (event : NewLogbookEvent) (stamp : EventStamp)
    (disk : WriteOutcome) : JsonlLogbookEventStore × Except StoreError CoreEventEnvelope :=
  store.persistOutcome disk (store.memory.appendEvent event stamp)

def appendVerifiedRemoteEvent (store : JsonlLogbookEventStore) (event : CoreEventEnvelope)
    (disk : WriteOutcome) : JsonlLogbookEventStore × Except StoreError CoreEventEnvelope :=
  if store.memory.getEvent event.eventId = some event then (store, .ok event)
  else store.persistOutcome disk (store.memory.appendVerifiedRemoteEvent event)

end JsonlLogbookEventStore
end HamLogger
