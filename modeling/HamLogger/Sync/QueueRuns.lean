import HamLogger.Core.Crates
import HamLogger.Sync.QueueStore

/-! What one call of the queue can do to the queue file, and what follows for
whole runs of calls that may fail or be cut off. -/
namespace HamLogger

open FileReplace (Content Cut Disk Plan Store)
open Transition (Run System)

namespace JsonOfflineMutationQueue

theorem loadFile_eq_ok_iff {disk : QueueDisk} {file : OfflineQueueFile} :
    loadFile disk = .ok file ↔
      ∃ stored, disk.contents {} = some stored ∧ stored.validate = .ok () ∧
        stored.sorted = file := by
  unfold loadFile
  cases hStored : disk.contents {} with
  | none => simp
  | some stored =>
      cases hValid : stored.validate with
      | error error => simp [hValid]
      | ok valid => simp [hValid]

theorem saveFile_eq_ok {α : Type} {file : OfflineQueueFile} {result reply : α}
    {saved : Option OfflineQueueFile} (h : saveFile file result = .ok (reply, saved)) :
    file.validate = .ok () ∧ reply = result ∧ saved = some file := by
  unfold saveFile at h
  cases hValid : file.validate with
  | error error => simp [hValid] at h
  | ok valid =>
      simp only [hValid] at h
      cases h
      exact ⟨rfl, rfl, rfl⟩

/-- What a successful update saves. -/
theorem updateMutation_eq_ok {disk : QueueDisk} {operationId : Uuid} {now : DateTime}
    {update : OfflineMutationEnvelope → Outcome OfflineQueueError OfflineMutationEnvelope}
    {reply : OfflineMutationEnvelope} {saved : Option OfflineQueueFile}
    (h : updateMutation disk operationId now update = .ok (reply, saved)) :
    ∃ file mutation updated, loadFile disk = .ok file ∧
      file.findMutation operationId = some mutation ∧ update mutation = .ok updated ∧
      reply = { updated with updatedAt := now } ∧
      saved = some (file.setMutation operationId reply).sorted ∧
      (file.setMutation operationId reply).sorted.validate = .ok () := by
  unfold updateMutation at h
  cases hLoad : loadFile disk with
  | error fault => simp [hLoad] at h
  | ok file =>
      cases hFound : file.findMutation operationId with
      | none => simp [hLoad, hFound] at h
      | some mutation =>
          cases hUpdate : update mutation with
          | error fault => simp [hLoad, hFound, hUpdate] at h
          | ok updated =>
              simp only [hLoad, hFound, hUpdate] at h
              obtain ⟨hValid, hReply, hSaved⟩ := saveFile_eq_ok h
              subst hReply
              exact ⟨file, mutation, updated, rfl, hFound, hUpdate, rfl, hSaved, hValid⟩

/-- A property of queue files that the empty file has, and that does not
depend on the order of the mutations. -/
structure Stable (P : OfflineQueueFile → Prop) : Prop where
  empty : P {}
  sorted : ∀ file, P file → P file.sorted
  valid : ∀ file, P file → file.validate = .ok ()

theorem loadFile_of_holds {P : OfflineQueueFile → Prop} (stable : Stable P) {disk : QueueDisk}
    (hDisk : disk.Holds P) : ∃ file, loadFile disk = .ok file ∧ P file := by
  obtain ⟨stored, hContents, hStored⟩ := hDisk.contents stable.empty
  have hLoad := loadFile_eq_ok_iff.mpr ⟨stored, hContents, stable.valid stored hStored, rfl⟩
  exact ⟨stored.sorted, hLoad, stable.sorted stored hStored⟩

end JsonOfflineMutationQueue

namespace QueueCall
open JsonOfflineMutationQueue

/-- The operation that a call addresses. -/
def operationId : QueueCall → Option Uuid
  | .recordLocalEvent operationId _ _ => some operationId
  | .markSending operationId _ => some operationId
  | .recordTransientFailure operationId _ _ _ => some operationId
  | .markBlocked operationId _ _ => some operationId
  | .markFailed operationId _ _ _ => some operationId
  | .markUserActionRequired operationId _ _ _ => some operationId
  | .markAccepted operationId _ => some operationId
  | _ => none

/-- The calls that set another status than the accepted one, whatever the
status was. -/
def reopens : QueueCall → Bool
  | .markSending .. | .recordTransientFailure .. | .markBlocked .. | .markFailed ..
  | .markUserActionRequired .. => true
  | _ => false

/-- What a call may change in a mutation of a file. -/
structure Revises (call : QueueCall) (file : OfflineQueueFile)
    (old new : OfflineMutationEnvelope) : Prop where
  identity : new.identity = old.identity
  addressed : ∀ operationId, call.operationId = some operationId →
    file.findMutation operationId = some old
  acceptance : (new.status = .accepted ∧ new.acceptedAt.isSome = true) ∨
    (new.acceptedAt = old.acceptedAt ∧
      ((new.status = .accepted ↔ old.status = .accepted) ∨
        (new.status ≠ .accepted ∧ call.reopens = true)))

theorem replying_eq_ok {α : Type} {reply : α → QueueReply} {outcome : QueueOutcome α}
    {result : QueueReply} {saved : Option OfflineQueueFile}
    (h : replying reply outcome = .ok (result, saved)) :
    ∃ value, outcome = .ok (value, saved) ∧ result = reply value := by
  obtain ⟨⟨value, saved'⟩, hOutcome, hPair⟩ := (except_map_eq_ok_iff _ _ _).mp h
  cases hPair
  exact ⟨value, hOutcome, rfl⟩

theorem operationId_of_findMutation {file : OfflineQueueFile} {operationId : Uuid}
    {mutation : OfflineMutationEnvelope} (h : file.findMutation operationId = some mutation) :
    mutation.operationId = operationId := by
  simpa using List.find?_some h

section Saves
variable [UuidCrate]

/-- What a call may add to a file, and the counter it leaves. -/
def Adds (file : OfflineQueueFile) (mutation : OfflineMutationEnvelope)
    (counter : UInt64) : QueueCall → Prop
  | .enqueueInput input now random =>
      queuedOperation file input = none ∧
      (∀ key, input.idempotencyKey = some key → queuedKey file input.logbookId key = none) ∧
      mutation = .new input (file.nextSequence input.logbookId) now random ∧
      counter = saturatingSucc mutation.sequence
  | .enqueue envelope =>
      file.findMutation envelope.operationId = none ∧ mutation = envelope ∧
      counter = max (file.nextSequence envelope.logbookId) (saturatingSucc envelope.sequence)
  | _ => False

/-- The file that a call saves, from the file it works from. -/
inductive Saves (call : QueueCall) (file : OfflineQueueFile) :
    OfflineQueueFile → Prop where
  | revised (mutations : List OfflineMutationEnvelope)
      (h : List.Forall₂ (fun old new => new = old ∨ call.Revises file old new)
        file.mutations mutations) :
      Saves call file (OfflineQueueFile.sorted { file with mutations := mutations })
  | added (mutation : OfflineMutationEnvelope) (counter : UInt64)
      (h : call.Adds file mutation counter) :
      Saves call file (withMutation file mutation counter)

theorem saves_of_setMutation {call : QueueCall} {file : OfflineQueueFile} {operationId : Uuid}
    {old new : OfflineMutationEnvelope} (hFound : file.findMutation operationId = some old)
    (h : call.Revises file old new) :
    call.Saves file (file.setMutation operationId new).sorted := by
  refine Saves.revised _ ((forall₂_updateFirst file.mutations).imp ?_)
  rintro before after (hSame | ⟨hFirst, rfl⟩)
  · exact Or.inl hSame
  · obtain rfl : old = before := Option.some.inj (hFound.symm.trans hFirst)
    exact Or.inr h

/-- A call that rewrites every mutation of the file. -/
theorem saves_of_map {call : QueueCall} {file : OfflineQueueFile}
    {change : OfflineMutationEnvelope → OfflineMutationEnvelope}
    (h : ∀ old, change old = old ∨ call.Revises file old (change old)) :
    call.Saves file
      (OfflineQueueFile.sorted { file with mutations := file.mutations.map change }) := by
  refine Saves.revised _ (List.forall₂_map_right_iff.mpr (List.forall₂_same.mpr ?_))
  intro old _
  exact h old

theorem saves_of_recovery {call : QueueCall} (hCall : call.operationId = none)
    (file : OfflineQueueFile) (now : DateTime) :
    call.Saves file (recoverInterruptedWritesInFile file now).1.sorted := by
  refine saves_of_map fun old => ?_
  by_cases hSending : old.status = .sending
  · rw [if_pos hSending]
    refine Or.inr ⟨rfl, ?_, Or.inr ⟨rfl, Or.inl ?_⟩⟩
    · intro operationId hOperation
      rw [hCall] at hOperation
      cases hOperation
    · simp [hSending]
  · rw [if_neg hSending]
    exact Or.inl rfl

end Saves

/-- The file that a call works from. -/
def base [UuidCrate] [LegacyQueueJson] (disk : QueueDisk) :
    QueueCall → Outcome OfflineQueueError OfflineQueueFile
  | .recoverOrInitialize now => (recoveryBase disk now).2.map Prod.snd
  | _ => loadFile disk

end QueueCall

namespace JsonOfflineMutationQueue
open QueueCall (Saves replying_eq_ok operationId_of_findMutation saves_of_setMutation
  saves_of_map saves_of_recovery)

/-- A call that addresses an operation changes the first mutation with that
identifier, and replies with it. -/
def ChangesOne (disk : QueueDisk) (call : QueueCall) (operationId : Uuid) (reply : QueueReply)
    (saved : Option OfflineQueueFile) : Prop :=
  ∃ file old new, loadFile disk = .ok file ∧ file.findMutation operationId = some old ∧
    call.Revises file old new ∧ reply = .mutation new ∧
    saved = some (file.setMutation operationId new).sorted ∧
    (file.setMutation operationId new).sorted.validate = .ok ()

/-- An update that keeps the identity of the mutation and the time of its
acceptance, and sets another status, is what a reopening call may do. -/
theorem changesOne_of_update {call : QueueCall} {disk : QueueDisk} {operationId : Uuid}
    {now : DateTime}
    {update : OfflineMutationEnvelope → Outcome OfflineQueueError OfflineMutationEnvelope}
    {reply : QueueReply} {saved : Option OfflineQueueFile}
    (hCall : call.operationId = some operationId)
    (hUpdate : ∀ old new, update old = .ok new → new.identity = old.identity ∧
      ((new.status = .accepted ∧ new.acceptedAt.isSome = true) ∨
        (new.acceptedAt = old.acceptedAt ∧ new.status ≠ .accepted ∧ call.reopens = true)))
    (h : QueueCall.replying .mutation (updateMutation disk operationId now update) =
      .ok (reply, saved)) :
    ChangesOne disk call operationId reply saved := by
  obtain ⟨value, hValue, rfl⟩ := replying_eq_ok h
  obtain ⟨file, old, new, hLoad, hFound, hNew, rfl, hSaved, hValid⟩ := updateMutation_eq_ok hValue
  obtain ⟨hIdentity, hAccepted⟩ := hUpdate old new hNew
  refine ⟨file, old, { new with updatedAt := now }, hLoad, hFound, ⟨hIdentity, ?_, ?_⟩, rfl,
    hSaved, hValid⟩
  · intro other hOther
    rw [← Option.some.inj (hCall.symm.trans hOther)]
    exact hFound
  · rcases hAccepted with hAccepted | ⟨hKept, hStatus, hReopens⟩
    · exact Or.inl hAccepted
    · exact Or.inr ⟨hKept, Or.inr ⟨hStatus, hReopens⟩⟩

theorem changesOne_of_recordLocalEvent {disk : QueueDisk} {operationId : Uuid}
    {event : CoreEventEnvelope} {now : DateTime} {value : OfflineMutationEnvelope}
    {saved : Option OfflineQueueFile}
    (h : recordLocalEvent disk operationId event now = .ok (value, saved)) :
    ChangesOne disk (.recordLocalEvent operationId event now) operationId (.mutation value)
      saved := by
  unfold recordLocalEvent at h
  cases hLoad : loadFile disk with
  | error fault => simp [hLoad] at h
  | ok file =>
      cases hFound : file.findMutation operationId with
      | none => simp [hLoad, hFound] at h
      | some old =>
          simp only [hLoad, hFound] at h
          obtain ⟨hValid, rfl, hSaved⟩ := saveFile_eq_ok h
          refine ⟨file, old, old.attachLocalEvent event now, hLoad, hFound,
            ⟨rfl, ?_, Or.inr ⟨rfl, Or.inl ?_⟩⟩, rfl, hSaved, hValid⟩
          · intro other hOther
            rw [← Option.some.inj hOther]
            exact hFound
          · cases hStatus : old.status <;> simp [OfflineMutationEnvelope.attachLocalEvent, hStatus]

variable [UuidCrate]

theorem saves_of_acceptedHashes {disk : QueueDisk} {acceptedHashes : List String}
    {now : DateTime} {value : Nat} {next : OfflineQueueFile}
    (h : markAcceptedByEventHashes disk acceptedHashes now = .ok (value, some next)) :
    ∃ file, loadFile disk = .ok file ∧
      Saves (.markAcceptedByEventHashes acceptedHashes now) file next ∧
      next.validate = .ok () := by
  unfold markAcceptedByEventHashes at h
  cases hLoad : loadFile disk with
  | error fault => simp [hLoad] at h
  | ok file =>
      simp only [hLoad] at h
      obtain ⟨hValid, _, hNext⟩ := saveFile_eq_ok h
      obtain rfl := Option.some.inj hNext
      refine ⟨file, rfl, saves_of_map fun old => ?_, hValid⟩
      by_cases hAccepted : acceptedByHash acceptedHashes old = true
      · rw [if_pos hAccepted]
        exact Or.inr ⟨rfl, by simp [QueueCall.operationId], Or.inl ⟨rfl, rfl⟩⟩
      · rw [if_neg hAccepted]
        exact Or.inl rfl

theorem saves_of_recoverInterruptedWrites {disk : QueueDisk} {now : DateTime} {value : Nat}
    {next : OfflineQueueFile}
    (h : recoverInterruptedWrites disk now = .ok (value, some next)) :
    ∃ file, loadFile disk = .ok file ∧ Saves (.recoverInterruptedWrites now) file next ∧
      next.validate = .ok () := by
  unfold recoverInterruptedWrites at h
  cases hLoad : loadFile disk with
  | error fault => simp [hLoad] at h
  | ok file =>
      simp only [hLoad] at h
      obtain ⟨hValid, _, hNext⟩ := saveFile_eq_ok h
      obtain rfl := Option.some.inj hNext
      exact ⟨file, rfl, saves_of_recovery rfl file now, hValid⟩

theorem saves_of_changesOne {disk : QueueDisk} {call : QueueCall} {operationId : Uuid}
    {reply : QueueReply} {next : OfflineQueueFile}
    (h : ChangesOne disk call operationId reply (some next)) :
    ∃ file, loadFile disk = .ok file ∧ call.Saves file next ∧ next.validate = .ok () := by
  obtain ⟨file, old, new, hLoad, hFound, hRevises, _, hNext, hValid⟩ := h
  obtain rfl := Option.some.inj hNext
  exact ⟨file, hLoad, saves_of_setMutation hFound hRevises, hValid⟩

theorem saves_of_enqueueInput {disk : QueueDisk} {input : OfflineMutationInput} {now : DateTime}
    {random : Uuid} {value : OfflineMutationEnvelope} {next : OfflineQueueFile}
    (h : enqueueInput disk input now random = .ok (value, some next)) :
    ∃ file, loadFile disk = .ok file ∧ Saves (.enqueueInput input now random) file next ∧
      next.validate = .ok () := by
  unfold enqueueInput at h
  cases hLoad : loadFile disk with
  | error fault => simp [hLoad] at h
  | ok file =>
      simp only [hLoad] at h
      cases hQueued : (queuedOperation file input).or
          (input.idempotencyKey.bind (queuedKey file input.logbookId)) with
      | some existing => simp [hQueued] at h
      | none =>
          simp only [hQueued] at h
          obtain ⟨hOperation, hKey⟩ := Option.or_eq_none_iff.mp hQueued
          cases hValid : (OfflineMutationEnvelope.new input (file.nextSequence input.logbookId) now
              random).validate with
          | error error => simp [hValid] at h
          | ok valid =>
              simp only [hValid] at h
              obtain ⟨hSaved, rfl, hNext⟩ := saveFile_eq_ok h
              obtain rfl := Option.some.inj hNext
              refine ⟨file, rfl, Saves.added _ _ ⟨hOperation, ?_, rfl, rfl⟩, hSaved⟩
              intro key hSome
              simpa [hSome] using hKey

theorem saves_of_enqueue {disk : QueueDisk} {envelope value : OfflineMutationEnvelope}
    {next : OfflineQueueFile} (h : enqueue disk envelope = .ok (value, some next)) :
    ∃ file, loadFile disk = .ok file ∧ Saves (.enqueue envelope) file next ∧
      next.validate = .ok () := by
  unfold enqueue at h
  cases hValid : envelope.validate with
  | error error => simp [hValid] at h
  | ok valid =>
      cases hLoad : loadFile disk with
      | error fault => simp [hValid, hLoad] at h
      | ok file =>
          simp only [hValid, hLoad] at h
          cases hQueued : (file.findMutation envelope.operationId).or
              (queuedKey file envelope.logbookId envelope.idempotencyKey) with
          | some existing => simp [hQueued] at h
          | none =>
              simp only [hQueued] at h
              split at h
              · cases h
              · obtain ⟨hSaved, rfl, hNext⟩ := saveFile_eq_ok h
                obtain rfl := Option.some.inj hNext
                exact ⟨file, rfl,
                  Saves.added _ _ ⟨(Option.or_eq_none_iff.mp hQueued).1, rfl, rfl⟩, hSaved⟩

variable [LegacyQueueJson]

theorem saves_of_recoverOrInitialize {disk : QueueDisk} {now : DateTime}
    {value : OfflineQueueRecoveryReport} {next : OfflineQueueFile}
    (h : (recoverOrInitialize disk now).outcome = .ok (value, some next)) :
    ∃ file, QueueCall.base disk (.recoverOrInitialize now) = .ok file ∧
      Saves (.recoverOrInitialize now) file next ∧ next.validate = .ok () := by
  unfold recoverOrInitialize at h
  cases hBase : (recoveryBase disk now).2 with
  | error fault => simp [hBase] at h
  | ok base =>
      simp only [hBase] at h
      obtain ⟨hValid, _, hNext⟩ := saveFile_eq_ok h
      obtain rfl := Option.some.inj hNext
      refine ⟨base.2, ?_, saves_of_recovery rfl base.2 now, hValid⟩
      rw [QueueCall.base, hBase]
      rfl

theorem changesOne {disk : QueueDisk} {call : QueueCall} {operationId : Uuid}
    {reply : QueueReply} {saved : Option OfflineQueueFile}
    (hCall : call.operationId = some operationId)
    (h : (call.plan disk).outcome = .ok (reply, saved)) :
    ChangesOne disk call operationId reply saved := by
  cases call with
  | recordLocalEvent operationId event now =>
      obtain rfl := Option.some.inj hCall
      obtain ⟨value, hValue, rfl⟩ := replying_eq_ok h
      exact changesOne_of_recordLocalEvent hValue
  | recordTransientFailure operationId reason errorCode now =>
      obtain rfl := Option.some.inj hCall
      refine changesOne_of_update rfl ?_ h
      intro old new hNew
      split at hNew
      · cases hNew
        exact ⟨rfl, Or.inr ⟨rfl, by simp, rfl⟩⟩
      · split at hNew
        · cases hNew
        · cases hNew
          exact ⟨rfl, Or.inr ⟨rfl, by simp, rfl⟩⟩
  | markAccepted operationId now =>
      obtain rfl := Option.some.inj hCall
      refine changesOne_of_update rfl ?_ h
      intro old new hNew
      cases hNew
      exact ⟨rfl, Or.inl ⟨rfl, rfl⟩⟩
  | markSending | markBlocked | markFailed | markUserActionRequired =>
      obtain rfl := Option.some.inj hCall
      refine changesOne_of_update rfl ?_ h
      intro old new hNew
      cases hNew
      exact ⟨rfl, Or.inr ⟨rfl, by simp, rfl⟩⟩
  | loadSnapshot | enqueueInput | enqueue | markAcceptedByEventHashes | recoverInterruptedWrites
  | recoverOrInitialize | readyToSend | readyEventBatch => cases hCall

/-- What a call saves, if it saves a file at all. -/
theorem saves {disk : QueueDisk} {call : QueueCall} {reply : QueueReply}
    {next : OfflineQueueFile} (h : (call.plan disk).outcome = .ok (reply, some next)) :
    ∃ file, call.base disk = .ok file ∧ call.Saves file next ∧ next.validate = .ok () := by
  cases call with
  | loadSnapshot now =>
      obtain ⟨value, hValue, _⟩ := replying_eq_ok h
      unfold loadSnapshot at hValue
      cases hLoad : loadFile disk <;> simp [hLoad] at hValue
  | enqueueInput input now random =>
      obtain ⟨value, hValue, _⟩ := replying_eq_ok h
      exact saves_of_enqueueInput hValue
  | enqueue envelope =>
      obtain ⟨value, hValue, _⟩ := replying_eq_ok h
      exact saves_of_enqueue hValue
  | recordLocalEvent | markSending | recordTransientFailure | markBlocked | markFailed
  | markUserActionRequired | markAccepted => exact saves_of_changesOne (changesOne rfl h)
  | markAcceptedByEventHashes acceptedHashes now =>
      obtain ⟨value, hValue, _⟩ := replying_eq_ok h
      exact saves_of_acceptedHashes hValue
  | recoverInterruptedWrites now =>
      obtain ⟨value, hValue, _⟩ := replying_eq_ok h
      exact saves_of_recoverInterruptedWrites hValue
  | recoverOrInitialize now =>
      obtain ⟨value, hValue, _⟩ := replying_eq_ok h
      exact saves_of_recoverOrInitialize hValue
  | readyToSend logbookId now =>
      obtain ⟨value, hValue, _⟩ := replying_eq_ok h
      unfold readyToSend at hValue
      cases hLoad : loadFile disk <;> simp [hLoad] at hValue
  | readyEventBatch logbookId localEvents now =>
      obtain ⟨value, hValue, _⟩ := replying_eq_ok h
      unfold readyEventBatch at hValue
      cases hLoad : loadFile disk <;> simp [hLoad] at hValue

/-- Recovery on a disk whose files are all checked: it goes on with the queue
file if there is one, else with the new file of an interrupted save, else with
an empty queue. -/
theorem recoveryBase_cases {P : OfflineQueueFile → Prop} {disk : QueueDisk}
    (hDisk : disk.Holds P) (hValid : ∀ file, P file → file.validate = .ok ()) (now : DateTime) :
    (∃ file report prepared, disk.file = some (.document file) ∧
      recoveryBase disk now = (prepared, .ok (report, file)) ∧
      prepared.file = disk.file ∧ prepared.temp = none) ∨
    (∃ file report, disk.file = none ∧ disk.temp = some (.document file) ∧
      recoveryBase disk now = ({ disk with file := some (.document file), temp := none },
        .ok (report, file.sorted))) ∨
    (∃ report prepared, (disk.file = none ∨ disk.file = some .blank) ∧
      recoveryBase disk now = (prepared, .ok (report, {})) ∧
      prepared.file = disk.file ∧ prepared.temp = none) := by
  obtain ⟨diskFile, diskTemp, quarantined⟩ := disk
  rcases diskFile with _ | ⟨_ | bytes | file⟩
  · rcases diskTemp with _ | ⟨_ | bytes | file⟩
    · exact Or.inr (Or.inr ⟨_, _, Or.inl rfl, rfl, rfl, rfl⟩)
    · exact Or.inr (Or.inr ⟨_, _, Or.inl rfl, rfl, rfl, rfl⟩)
    · exact Or.inr (Or.inr ⟨_, _, Or.inl rfl, rfl, rfl, rfl⟩)
    · have hFile := hValid file (hDisk.temp file rfl)
      refine Or.inr (Or.inl ⟨file, { promotedInterruptedAtomicWrite := true }, rfl, rfl, ?_⟩)
      simp only [recoveryBase, recoverInterruptedAtomicWrite, hFile]
  · rcases diskTemp with _ | content
    · exact Or.inr (Or.inr ⟨_, _, Or.inr rfl, rfl, rfl, rfl⟩)
    · exact Or.inr (Or.inr ⟨_, _, Or.inr rfl, rfl, rfl, rfl⟩)
  · exact absurd rfl (hDisk.readable bytes)
  · have hFile := hValid file (hDisk.file file rfl)
    have hVersion : file.version ≠ offlineQueueLegacyV02FileVersion := by
      rw [((OfflineQueueFile.validate_eq_ok_iff file).mp hFile).1]
      decide
    rcases diskTemp with _ | content
    · refine Or.inl ⟨file, {}, ⟨_, none, quarantined⟩, rfl, ?_, rfl, rfl⟩
      simp only [recoveryBase, recoverInterruptedAtomicWrite, hVersion, if_false, hFile]
    · refine Or.inl ⟨file, { removedStaleTempFile := true },
        ⟨_, none, content :: quarantined⟩, rfl, ?_, rfl, rfl⟩
      simp only [recoveryBase, recoverInterruptedAtomicWrite, hVersion, if_false, hFile]

/-- The renames of a call keep the queue file, or put the new file of an
interrupted save in its place. -/
theorem prepared_cases {P : OfflineQueueFile → Prop} {disk : QueueDisk} (hDisk : disk.Holds P)
    (hValid : ∀ file, P file → file.validate = .ok ()) (call : QueueCall) :
    (call.plan disk).prepared = disk ∨
    ((call.plan disk).prepared.file = disk.file ∧ (call.plan disk).prepared.temp = none) ∨
    (disk.file = none ∧ ∃ file, disk.temp = some (.document file) ∧
      (call.plan disk).prepared = { disk with file := some (.document file), temp := none }) := by
  cases call with
  | recoverOrInitialize now =>
      have hPrepared : (QueueCall.plan disk (.recoverOrInitialize now)).prepared =
          (recoveryBase disk now).1 := rfl
      rw [hPrepared]
      rcases recoveryBase_cases hDisk hValid now with
        ⟨file, report, prepared, _, hBase, hFile, hTemp⟩ | ⟨file, report, hFile, hTemp, hBase⟩ |
        ⟨report, prepared, _, hBase, hFile, hTemp⟩
      · rw [hBase]
        exact Or.inr (Or.inl ⟨hFile, hTemp⟩)
      · rw [hBase]
        exact Or.inr (Or.inr ⟨hFile, file, hTemp, rfl⟩)
      · rw [hBase]
        exact Or.inr (Or.inl ⟨hFile, hTemp⟩)
  | _ => exact Or.inl rfl

theorem holds_prepared {P : OfflineQueueFile → Prop} {disk : QueueDisk} (hDisk : disk.Holds P)
    (hValid : ∀ file, P file → file.validate = .ok ()) (call : QueueCall) :
    (call.plan disk).prepared.Holds P := by
  rcases prepared_cases hDisk hValid call with hSame | ⟨hFile, hTemp⟩ | ⟨_, file, hTemp, hSame⟩
  · rw [hSame]
    exact hDisk
  · refine ⟨fun bytes => hFile ▸ hDisk.readable bytes, fun value => hFile ▸ hDisk.file value, ?_⟩
    rw [hTemp]
    exact nofun
  · rw [hSame]
    refine ⟨nofun, ?_, nofun⟩
    intro value hValue
    cases hValue
    exact hDisk.temp file hTemp

/-- The file that a call works from has every property of the files on the
disk. -/
theorem base_holds {P : OfflineQueueFile → Prop} (stable : Stable P) {disk : QueueDisk}
    (hDisk : disk.Holds P) {call : QueueCall} {file : OfflineQueueFile}
    (h : call.base disk = .ok file) : P file := by
  cases call with
  | recoverOrInitialize now =>
      have hBase : (recoveryBase disk now).2.map Prod.snd = .ok file := h
      rcases recoveryBase_cases hDisk stable.valid now with
        ⟨stored, report, prepared, hFile, hCase, _⟩ | ⟨stored, report, _, hTemp, hCase⟩ |
        ⟨report, prepared, _, hCase, _⟩
      · rw [hCase] at hBase
        cases hBase
        exact hDisk.file _ hFile
      · rw [hCase] at hBase
        cases hBase
        exact stable.sorted stored (hDisk.temp stored hTemp)
      · rw [hCase] at hBase
        cases hBase
        exact stable.empty
  | _ =>
      obtain ⟨loaded, hLoad, hLoaded⟩ := loadFile_of_holds stable hDisk
      obtain rfl : loaded = file := Except.ok.inj (hLoad.symm.trans h)
      exact hLoaded

theorem holds_next {P : OfflineQueueFile → Prop} (stable : Stable P) {disk : QueueDisk}
    (hDisk : disk.Holds P) {call : QueueCall}
    (hSaves : ∀ file next, P file → call.base disk = .ok file → call.Saves file next →
      next.validate = .ok () → P next) (cut : Option Cut) :
    (queueStore.next disk call cut).Holds P := by
  refine Plan.holds_carryOut hDisk (holds_prepared hDisk stable.valid call) ?_ cut
  intro reply next hOutcome
  obtain ⟨file, hBase, hSaved, hNext⟩ := saves hOutcome
  exact hSaves file next (base_holds stable hDisk hBase) hBase hSaved hNext

end JsonOfflineMutationQueue

/-- The random identifier of a call is one that no queued mutation has. -/
def QueueCall.Fresh (file : OfflineQueueFile) : QueueCall → Prop
  | .enqueueInput _ _ random => ∀ mutation ∈ file.mutations, mutation.operationId ≠ random
  | _ => True

/-- Calls one after the other, each carried out, cut off by a crash, or ended
by an error of the file system. -/
def queueSystem [UuidCrate] [LegacyQueueJson] : System QueueDisk (QueueCall × Option Cut) where
  step disk label later :=
    (∀ file, label.1.base disk = .ok file → label.1.Fresh file) ∧
      later = queueStore.next disk label.1 label.2

end HamLogger
