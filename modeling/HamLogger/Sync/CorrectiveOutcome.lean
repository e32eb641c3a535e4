import HamLogger.Sync.CorrectiveEvents

/-! Whether the request for corrective events does all that it was asked to or
nothing. The proposals are submitted one by one to a log that keeps every
event, so a proposal that is refused leaves the events of those before it. -/
namespace HamLogger

open FileReplace (Disk)
open Program
open InMemoryLogbookEventStore (insertEvent)

/-- The list of the events of a logbook only grows. -/
theorem InMemoryLogbookEventStore.stored_foldl_insertEvent (events : List CoreEventEnvelope)
    (store : InMemoryLogbookEventStore) (logbookId : Uuid) :
    ((store.eventsByLogbook.lookup logbookId).getD []).length ≤
      (((events.foldl insertEvent store).eventsByLogbook.lookup logbookId).getD []).length := by
  induction events generalizing store with
  | nil => exact Nat.le_refl _
  | cons event rest ih =>
      have hRest := ih (store.insertEvent event)
      rw [eventIds_insertEvent, List.length_append] at hRest
      rw [List.foldl_cons]
      omega

/-- A store that took events in is not the one before. -/
theorem InMemoryLogbookEventStore.foldl_insertEvent_ne (store : InMemoryLogbookEventStore)
    (event : CoreEventEnvelope) (rest : List CoreEventEnvelope) :
    (event :: rest).foldl insertEvent store ≠ store := by
  intro hSame
  have hRest := stored_foldl_insertEvent rest (store.insertEvent event) event.logbookId
  have hFold : rest.foldl insertEvent (store.insertEvent event) = store := hSame
  rw [hFold, eventIds_insertEvent, if_pos rfl, List.length_append, List.length_singleton] at hRest
  omega

theorem isWhitespace_hexDigit {value : Nat} (h : value < 16) :
    isWhitespace (hexDigit value) = false := by
  have hAll : ∀ digit : Fin 16, isWhitespace (hexDigit digit) = false := by decide
  exact hAll ⟨value, h⟩

/-- The hash of an event is not blank. -/
theorem trim_bytesToHex_ne_empty {bytes : List UInt8} (h : bytes ≠ []) :
    trim (bytesToHex bytes) ≠ "" := by
  obtain ⟨byte, rest, rfl⟩ := List.exists_cons_of_ne_nil h
  have hLow : byte.toNat / 16 < 16 := by
    have hByte := byte.toNat_lt
    omega
  have hMem : hexDigit (byte.toNat / 16) ∈ (bytesToHex (byte :: rest)).toList := by
    unfold bytesToHex
    rw [String.toList_ofList]
    simp
  exact trim_ne_empty hMem (isWhitespace_hexDigit hLow)

section Rounds
variable {B : Type}

/-- The log and the reviews are as before. -/
structure KeepsLog (world later : CorrectiveWorld B) : Prop where
  events : later.events = world.events
  reviews : later.reviews = world.reviews

theorem KeepsLog.trans {world middle later : CorrectiveWorld B} (first : KeepsLog world middle)
    (second : KeepsLog middle later) : KeepsLog world later :=
  ⟨second.events.trans first.events, second.reviews.trans first.reviews⟩

/-- What one round does: it appends the event that it returns, and where it
fails it appends nothing or an event that is lost to the rest. -/
structure RoundLeaves (world later : CorrectiveWorld B)
    (outcome : Except CorrectiveError CoreEventEnvelope) : Prop where
  reviews : later.reviews = world.reviews
  accepted : ∀ event, outcome = .ok event →
    later.events = insertEvent world.events event ∧ trim event.eventHash ≠ ""
  refused : ∀ error, outcome = .error error →
    later.events = world.events ∨ ∃ event, later.events = insertEvent world.events event

theorem KeepsLog.roundLeaves {world later : CorrectiveWorld B} (h : KeepsLog world later)
    (error : CorrectiveError) : RoundLeaves world later (.error error) where
  reviews := h.reviews
  accepted event hEvent := by cases hEvent
  refused _ _ := Or.inl h.events

theorem RoundLeaves.after {world middle later : CorrectiveWorld B}
    {outcome : Except CorrectiveError CoreEventEnvelope} (h : KeepsLog world middle)
    (hRound : RoundLeaves middle later outcome) : RoundLeaves world later outcome where
  reviews := hRound.reviews.trans h.reviews
  accepted event hEvent := by
    rw [← h.events]
    exact hRound.accepted event hEvent
  refused error hError := by
    rw [← h.events]
    exact hRound.refused error hError

theorem requireQueue_keeps {α : Type} (call : QueueDisk → QueueOutcome α)
    (world : CorrectiveWorld B) :
    Ensures (requireQueue call) world fun later _ => KeepsLog world later := by
  unfold Ensures requireQueue
  rw [Program.execute_ofFunction]
  split
  · exact ⟨rfl, rfl⟩
  · exact ⟨rfl, rfl⟩
  · exact ⟨rfl, rfl⟩
  · exact ⟨rfl, rfl⟩

theorem tryQueue_keeps {α : Type} (call : QueueDisk → QueueOutcome α)
    (world : CorrectiveWorld B) :
    Ensures (tryQueue call) world fun later outcome => KeepsLog world later ∧ outcome = .ok () := by
  unfold Ensures tryQueue
  rw [Program.execute_modify]
  dsimp only
  split
  · exact ⟨⟨rfl, rfl⟩, rfl⟩
  · exact ⟨⟨rfl, rfl⟩, rfl⟩

end Rounds

section Submissions
variable {B : Type} [UuidCrate] [RustFmt]

theorem refuseQueued_ensures {α : Type} (operationId : Uuid) (draws : CorrectiveDraws)
    (fault : Fault ProposalValidationError) (world : CorrectiveWorld B) :
    Ensures (refuseQueued operationId draws fault : CorrectiveProgram B α) world
      fun later outcome => KeepsLog world later ∧ ∃ error, outcome = .error error := by
  cases fault with
  | error error =>
      refine (tryQueue_keeps _ world).bind ?_ ?_
      · intro later error h
        exact ⟨h.1, error, rfl⟩
      · intro later _ h
        exact Ensures.throw ⟨h.1, _, rfl⟩
  | panic => exact Ensures.throw ⟨⟨rfl, rfl⟩, _, rfl⟩

variable [EventBus B] [ChronoCrate] [CanonicalJson] [Sha2Crate]

theorem submitting_ensures (context : ProposalContext) (proposal : ProposalEnvelope)
    (stamp : SubmissionStamp) (world : CorrectiveWorld B) :
    Ensures (submitting (submitProposal context proposal stamp)) world fun later result =>
      later.reviews = world.reviews ∧ ∃ outcome, result = .ok outcome ∧
        SubmissionLeaves world.events context proposal stamp later.events outcome :=
  ⟨rfl, _, rfl, submitProposal_ensures world.events context proposal stamp world.bus⟩

/-- The submission after the queueing is a round, whatever the queue then says
to the event. -/
theorem submitQueued_ensures (hDigest : ∀ bytes, Sha2Crate.digest bytes ≠ [])
    (client : CorrectiveClient) (draws : CorrectiveDraws) (proposal : CorrectiveProposal)
    (payload : Value) (plugin : CorrectivePlugin) (sourcePluginId : String)
    (queued : OfflineMutationEnvelope) (record : CoreEventEnvelope → CorrectiveProgram B Unit)
    (hRecord : ∀ event world, Ensures (record event) world fun later _ => KeepsLog world later)
    (world : CorrectiveWorld B) :
    Ensures (submitQueued client draws proposal payload plugin sourcePluginId queued record) world
      (RoundLeaves world) := by
  unfold submitQueued
  refine (submitting_ensures _ _ draws.stamp world).bind ?_ ?_
  · rintro later error ⟨_, _, hResult, _⟩
    cases hResult
  · rintro later outcome ⟨hReviews, _, hResult, hLeaves⟩
    obtain rfl := Except.ok.inj hResult
    cases outcome with
    | error fault =>
        refine (refuseQueued_ensures queued.operationId draws fault later).mono ?_
        rintro last outcome ⟨hKeeps, error, rfl⟩
        refine ⟨hKeeps.reviews.trans hReviews, fun event hEvent => (by cases hEvent), fun _ _ => ?_⟩
        rw [hKeeps.events]
        rcases hLeaves with ⟨hSame, _⟩ | ⟨newEvent, _, hLater, _⟩
        · exact Or.inl hSame
        · exact Or.inr ⟨_, hLater⟩
    | ok accepted =>
        rcases hLeaves with ⟨_, hNever⟩ | ⟨newEvent, _, hLater, hEvent⟩
        · exact absurd rfl (hNever accepted)
        obtain hOfficial := Except.ok.inj (hEvent accepted rfl)
        have hAppended : later.events = insertEvent world.events accepted.officialEvent := by
          rw [← hOfficial]
          exact hLater
        refine (hRecord accepted.officialEvent later).bind ?_ ?_
        · intro last error hKeeps
          refine ⟨hKeeps.reviews.trans hReviews, fun event hOk => (by cases hOk), fun _ _ => ?_⟩
          exact Or.inr ⟨_, hKeeps.events.trans hAppended⟩
        · intro last _ hKeeps
          refine Ensures.pure ⟨hKeeps.reviews.trans hReviews, fun event hOk => ?_,
            fun error hError => by cases hError⟩
          obtain rfl := Except.ok.inj hOk
          refine ⟨hKeeps.events.trans hAppended, ?_⟩
          rw [← hOfficial]
          exact trim_bytesToHex_ne_empty (hDigest _)

variable (hDigest : ∀ bytes, Sha2Crate.digest bytes ≠ [])
include hDigest

theorem submitDesktopRound_ensures (client : CorrectiveClient) (proposal : CorrectiveProposal)
    (draws : CorrectiveDraws) (world : CorrectiveWorld B) :
    Ensures (submitDesktopRound client proposal draws) world (RoundLeaves world) := by
  have hKeeps : KeepsLog world world := ⟨rfl, rfl⟩
  unfold submitDesktopRound
  split
  · exact Ensures.throw (hKeeps.roundLeaves _)
  split
  · exact Ensures.throw (hKeeps.roundLeaves _)
  rename_i plugin _
  refine (requireQueue_keeps _ world).bind ?_ ?_
  · intro later error h
    exact h.roundLeaves error
  · intro later queued h
    refine (submitQueued_ensures hDigest client draws proposal proposal.payload plugin plugin.id
      queued _ ?_ later).mono fun last outcome hRound => hRound.after h
    intro event middle
    exact (tryQueue_keeps _ middle).mono fun last outcome hTry => hTry.1

theorem submitIosRound_ensures (client : CorrectiveClient) (proposal : CorrectiveProposal)
    (draws : CorrectiveDraws) (world : CorrectiveWorld B) :
    Ensures (submitIosRound client proposal draws) world (RoundLeaves world) := by
  have hKeeps : KeepsLog world world := ⟨rfl, rfl⟩
  unfold submitIosRound submitIosCorrectiveProposal
  refine Ensures.reading_bind (fun error _ => hKeeps.roundLeaves error) fun payload _ => ?_
  refine (requireQueue_keeps _ world).bind ?_ ?_
  · intro later error h
    exact h.roundLeaves error
  · intro later queued h
    refine (submitQueued_ensures hDigest client draws proposal payload .gui iosPluginId
      queued _ ?_ later).mono fun last outcome hRound => hRound.after h
    intro event middle
    refine (requireQueue_keeps _ middle).bind (fun last error hRecorded => hRecorded) ?_
    intro last _ hRecorded
    exact Ensures.pure hRecorded

end Submissions

section Loop
variable {B : Type}

/-- Every proposal is accepted in the state that those before it leave. -/
def AcceptsEach (submit : CorrectiveProposal → CorrectiveDraws →
      CorrectiveProgram B CoreEventEnvelope) :
    List CorrectiveProposal → (Nat → CorrectiveDraws) → CorrectiveWorld B → Prop
  | [], _, _ => True
  | proposal :: rest, draws, world =>
      ∃ later event, (submit proposal (draws 0)).execute world = (later, .ok event) ∧
        AcceptsEach submit rest (fun round => draws (round + 1)) later

/-- The submission of the first proposal does not reach the log. -/
def AppendsNothing (submit : CorrectiveProposal → CorrectiveDraws →
      CorrectiveProgram B CoreEventEnvelope)
    (proposals : List CorrectiveProposal) (draws : Nat → CorrectiveDraws)
    (world : CorrectiveWorld B) : Prop :=
  ∀ proposal ∈ proposals.head?, ((submit proposal (draws 0)).execute world).1.events = world.events

/-- What the loop does. Where it fails, the events of the rounds before stay. -/
structure LoopLeaves (proposals : List CorrectiveProposal) (world later : CorrectiveWorld B)
    (outcome : Except CorrectiveError (List CoreEventEnvelope)) : Prop where
  reviews : later.reviews = world.reviews
  accepted : ∀ events, outcome = .ok events → events.length = proposals.length ∧
    later.events = events.foldl insertEvent world.events ∧
    ∀ event ∈ events, trim event.eventHash ≠ ""
  refused : ∀ error, outcome = .error error →
    ∃ appended : List CoreEventEnvelope,
      later.events = appended.foldl insertEvent world.events

variable {submit : CorrectiveProposal → CorrectiveDraws →
  CorrectiveProgram B CoreEventEnvelope}

/-- The loop ends well exactly where every round does. -/
theorem acceptsEach_iff (proposals : List CorrectiveProposal) (draws : Nat → CorrectiveDraws)
    (world : CorrectiveWorld B) :
    AcceptsEach submit proposals draws world ↔
      ∃ later events, (submitCorrective submit proposals draws).execute world =
        (later, .ok events) := by
  induction proposals generalizing draws world with
  | nil => exact ⟨fun _ => ⟨world, [], rfl⟩, fun _ => trivial⟩
  | cons proposal rest ih =>
      constructor
      · rintro ⟨middle, event, hRound, hRest⟩
        obtain ⟨later, events, hLoop⟩ := (ih _ _).mp hRest
        refine ⟨later, event :: events, ?_⟩
        rw [submitCorrective, execute_bind, hRound]
        dsimp only
        rw [execute_bind, hLoop]
        rfl
      · rintro ⟨later, events, hLoop⟩
        rw [submitCorrective, execute_bind_ok] at hLoop
        obtain ⟨middle, event, hRound, hRest⟩ := hLoop
        rw [execute_bind_ok] at hRest
        obtain ⟨last, others, hOthers, _⟩ := hRest
        exact ⟨middle, event, hRound, (ih _ _).mpr ⟨last, others, hOthers⟩⟩

variable
  (hSubmit : ∀ proposal draws world, Ensures (submit proposal draws) world (RoundLeaves world))
include hSubmit

theorem submitCorrective_ensures (proposals : List CorrectiveProposal)
    (draws : Nat → CorrectiveDraws) (world : CorrectiveWorld B) :
    Ensures (submitCorrective submit proposals draws) world (LoopLeaves proposals world) := by
  induction proposals generalizing draws world with
  | nil =>
      refine Ensures.pure ⟨rfl, fun events hOk => ?_, fun error hError => by cases hError⟩
      obtain rfl := Except.ok.inj hOk
      exact ⟨rfl, rfl, fun event hMem => by cases hMem⟩
  | cons proposal rest ih =>
      unfold submitCorrective
      refine (hSubmit proposal (draws 0) world).bind ?_ ?_
      · intro later error hRound
        refine ⟨hRound.reviews, fun events hOk => (by cases hOk), fun _ _ => ?_⟩
        rcases hRound.refused error rfl with hSame | ⟨event, hEvent⟩
        · exact ⟨[], hSame⟩
        · exact ⟨[event], hEvent⟩
      intro later event hRound
      obtain ⟨hEvent, hHash⟩ := hRound.accepted event rfl
      refine (ih (fun round => draws (round + 1)) later).bind ?_ ?_
      · intro last error hLoop
        refine ⟨hLoop.reviews.trans hRound.reviews, fun events hOk => (by cases hOk), fun _ _ => ?_⟩
        obtain ⟨appended, hAppended⟩ := hLoop.refused error rfl
        refine ⟨event :: appended, ?_⟩
        rw [hAppended, hEvent, List.foldl_cons]
      · intro last events hLoop
        obtain ⟨hLength, hEvents, hHashes⟩ := hLoop.accepted events rfl
        refine Ensures.pure ⟨hLoop.reviews.trans hRound.reviews, fun all hOk => ?_,
          fun error hError => by cases hError⟩
        obtain rfl := Except.ok.inj hOk
        refine ⟨by simp [hLength], ?_, List.forall_mem_cons.mpr ⟨hHash, hHashes⟩⟩
        rw [hEvents, hEvent, List.foldl_cons]

/-- A loop that fails leaves the log alone exactly where its first round does. -/
theorem refused_events_iff {proposals : List CorrectiveProposal} (hSome : proposals ≠ [])
    {draws : Nat → CorrectiveDraws} {world later : CorrectiveWorld B} {error : CorrectiveError}
    (hLoop : (submitCorrective submit proposals draws).execute world = (later, .error error)) :
    later.events = world.events ↔ AppendsNothing submit proposals draws world := by
  obtain ⟨proposal, rest, rfl⟩ := List.exists_cons_of_ne_nil hSome
  have hFirst := hSubmit proposal (draws 0) world
  unfold AppendsNothing
  simp only [List.head?_cons, Option.mem_def, Option.some.injEq, forall_eq']
  rw [submitCorrective, execute_bind] at hLoop
  unfold Ensures at hFirst
  rcases hRound : (submit proposal (draws 0)).execute world with ⟨middle, failed | event⟩
  · rw [hRound] at hLoop
    cases hLoop
    rfl
  · rw [hRound] at hLoop hFirst
    obtain ⟨hEvent, _⟩ := hFirst.accepted event rfl
    have hRest := submitCorrective_ensures hSubmit rest (fun round => draws (round + 1)) middle
    unfold Ensures at hRest
    dsimp only at hLoop
    rw [execute_bind] at hLoop
    have hGrown : ∀ appended : List CoreEventEnvelope,
        appended.foldl insertEvent middle.events ≠ world.events := fun appended => by
      rw [hEvent]
      exact world.events.foldl_insertEvent_ne event appended
    rcases hOthers : (submitCorrective submit rest fun round => draws (round + 1)).execute middle
      with ⟨last, failed | events⟩
    · rw [hOthers] at hLoop hRest
      cases hLoop
      obtain ⟨appended, hAppended⟩ := hRest.refused error rfl
      rw [hAppended]
      exact iff_of_false (hGrown appended) (hGrown [])
    · rw [hOthers] at hLoop
      cases hLoop

end Loop

section Resolution
variable {B : Type}

theorem readReviews_replace {reviews : Disk ConflictReviewFile} {file : ConflictReviewFile}
    (hValid : file.validate = .ok ()) : readReviews (reviews.replace file none) = .ok file.sorted :=
  JsonConflictReviewStore.readFile_eq_ok_iff.mpr ⟨file, rfl, hValid, rfl⟩

/-- The review is resolved with these hashes. -/
def ResolvedWith (reviews : Disk ConflictReviewFile) (review : ManualConflictReview)
    (hashes : List String) : Prop :=
  ∃ file, readReviews reviews = .ok file ∧ review ∈ file.reviews ∧ review.status = .resolved ∧
    review.selectedResolution.map ManualConflictResolution.correctiveEventHashes = some hashes

/-- A resolution that names visible hashes is accepted for a report of any kind. -/
theorem validateResolution_corrective {report : SyncConflictReport}
    {resolution : ManualConflictResolution} (hChoice : resolution.choice = .createCorrectiveEvents)
    (hNote : ∀ note ∈ resolution.operatorNote, note.utf8ByteSize ≤ maxConflictReviewNoteBytes)
    (hHashes : ∃ hash ∈ resolution.correctiveEventHashes, trim hash ≠ "") :
    validateResolutionForReport report resolution = .ok () := by
  have hShort : (resolution.operatorNote.any fun note =>
      maxConflictReviewNoteBytes < note.utf8ByteSize) = false := by
    cases hText : resolution.operatorNote with
    | none => rfl
    | some note =>
        have hSize := hNote note hText
        simpa using hSize
  unfold validateResolutionForReport
  simp only [hShort, hChoice]
  simpa using hHashes

/-- The last stage is never refused: the review is there, and what the
resolution names was looked at before. -/
theorem resolveStored_ensures {reviewId : Uuid} {resolution : ManualConflictResolution}
    {world : CorrectiveWorld B} (now : DateTime)
    (hOpen : openReviewCheck reviewId world.reviews = .ok ())
    (hChoice : resolution.choice = .createCorrectiveEvents)
    (hNote : ∀ note ∈ resolution.operatorNote, note.utf8ByteSize ≤ maxConflictReviewNoteBytes)
    (hHashes : ∃ hash ∈ resolution.correctiveEventHashes, trim hash ≠ "") :
    Ensures (resolveStored reviewId resolution now) world fun later outcome =>
      later.events = world.events ∧ ∃ review, outcome = .ok review ∧ review.reviewId = reviewId ∧
        ResolvedWith later.reviews review resolution.correctiveEventHashes := by
  unfold openReviewCheck at hOpen
  split at hOpen
  · cases hOpen
  rename_i file hFile
  split at hOpen
  case isFalse => cases hOpen
  rename_i hAny
  obtain ⟨stored, _, hValid, hSorted⟩ := JsonConflictReviewStore.readFile_eq_ok_iff.mp hFile
  obtain ⟨open', hOpenMem, hOpenIs⟩ := List.any_eq_true.mp hAny
  have hFound : ∃ review, JsonConflictReviewStore.findReview file reviewId = some review := by
    rw [← Option.isSome_iff_exists]
    unfold JsonConflictReviewStore.findReview
    rw [List.find?_isSome]
    exact ⟨open', hOpenMem, by simpa using (of_decide_eq_true hOpenIs).1⟩
  obtain ⟨review, hReview⟩ := hFound
  have hId : review.reviewId = reviewId := by simpa using List.find?_some hReview
  have hVersion : file.validate = .ok () := by
    rw [← hSorted]
    exact hValid
  have hSaved : (JsonConflictReviewStore.setReview file reviewId
      (review.resolve resolution now)).sorted.validate = .ok () := hVersion
  unfold Ensures resolveStored
  rw [Program.execute_ofFunction, hFile]
  simp only [Except.bind, JsonConflictReviewStore.resolveReview, hReview,
    validateResolution_corrective hChoice hNote hHashes, JsonConflictReviewStore.saveFile, hSaved]
  refine ⟨trivial, _, rfl, hId, _, readReviews_replace hSaved, ?_, rfl, rfl⟩
  obtain ⟨before, after, _, hUpdate⟩ := @updateFirst_of_find? _ _
    (fun _ => review.resolve resolution now) _ _ hReview
  rw [ConflictReviewFile.mem_sorted, ConflictReviewFile.mem_sorted]
  show _ ∈ updateFirst _ _ file.reviews
  rw [hUpdate]
  simp

end Resolution
/-- The request did all that it was asked to, or nothing. -/
def AllOrNothing {B : Type} (request : ConflictReviewCorrectiveEventsRequest)
    (world later : CorrectiveWorld B) : Except CorrectiveError CorrectiveReply → Prop
  | .ok reply =>
      reply.events.length = request.proposals.length ∧
      later.events = reply.events.foldl insertEvent world.events ∧
      reply.review.reviewId = request.reviewId ∧
      ResolvedWith later.reviews reply.review (reply.events.map CoreEventEnvelope.eventHash)
  | .error _ => later.events = world.events ∧ later.reviews = world.reviews

/-- The request is refused before anything is submitted. -/
def RefusedEarly {B : Type} (proposalCheck : CorrectiveProposal → Except CorrectiveError Unit)
    (request : ConflictReviewCorrectiveEventsRequest) (world : CorrectiveWorld B) : Prop :=
  correctiveRequestCheck proposalCheck request ≠ .ok () ∨
    openReviewCheck request.reviewId world.reviews ≠ .ok ()

section Handlers
variable {B : Type} {proposalCheck : CorrectiveProposal → Except CorrectiveError Unit}
  (submit : CorrectiveProposal → CorrectiveDraws → CorrectiveProgram B CoreEventEnvelope)
  (client : CorrectiveClient) {request : ConflictReviewCorrectiveEventsRequest}
  (draws : Nat → CorrectiveDraws) (now : DateTime) {world : CorrectiveWorld B}

theorem correctiveEvents_refusedEarly (h : RefusedEarly proposalCheck request world) :
    ∃ error, (correctiveEvents proposalCheck submit client request draws now).execute world =
      (world, .error error) := by
  unfold correctiveEvents
  rw [execute_bind, execute_reading]
  cases hCheck : correctiveRequestCheck proposalCheck request with
  | error error => exact ⟨error, rfl⟩
  | ok checked =>
      dsimp only
      rw [execute_bind, execute_reading]
      cases hOpen : openReviewCheck request.reviewId world.reviews with
      | error error => exact ⟨error, rfl⟩
      | ok found => exact absurd h (by simp [RefusedEarly, hCheck, hOpen])

/-- What the check of a request looked at. -/
theorem correctiveRequestCheck_ok (h : correctiveRequestCheck proposalCheck request = .ok ()) :
    request.proposals ≠ [] ∧
      ∀ note ∈ request.operatorNote, note.utf8ByteSize ≤ maxConflictReviewNoteBytes := by
  unfold correctiveRequestCheck at h
  split at h
  · cases h
  rename_i hSome
  split at h
  · cases h
  rename_i hNote
  refine ⟨hSome, fun note hMem => ?_⟩
  rw [Option.mem_def] at hMem
  rw [hMem] at hNote
  simpa using hNote

variable {submit} (hSubmit : ∀ proposal draws world,
  Ensures (submit proposal draws) world (RoundLeaves world))
include hSubmit

theorem correctiveEvents_accepted (hCheck : correctiveRequestCheck proposalCheck request = .ok ())
    (hOpen : openReviewCheck request.reviewId world.reviews = .ok ())
    {later : CorrectiveWorld B} {events : List CoreEventEnvelope}
    (hLoop : (submitCorrective submit request.proposals draws).execute world =
      (later, .ok events)) :
    Ensures (correctiveEvents proposalCheck submit client request draws now) world
      (AllOrNothing request world) := by
  obtain ⟨hSome, hNote⟩ := correctiveRequestCheck_ok hCheck
  have hLeaves := submitCorrective_ensures hSubmit request.proposals draws world
  unfold Ensures at hLeaves
  rw [hLoop] at hLeaves
  obtain ⟨hLength, hEvents, hVisible⟩ := hLeaves.accepted events rfl
  have hHashes : ∃ hash ∈ events.map CoreEventEnvelope.eventHash, trim hash ≠ "" := by
    have hPos : 0 < events.length := by
      rw [hLength]
      exact List.length_pos_of_ne_nil hSome
    have hMem := List.getElem_mem hPos
    exact ⟨_, List.mem_map_of_mem hMem, hVisible _ hMem⟩
  unfold correctiveEvents
  refine Ensures.reading_bind (fun error hError => ?_) fun _ _ => ?_
  · rw [hCheck] at hError
    cases hError
  refine Ensures.reading_bind (fun error hError => ?_) fun _ _ => ?_
  · rw [hOpen] at hError
    cases hError
  refine Ensures.bind (R := fun state outcome => (state, outcome) = (later, .ok events)) hLoop
    (fun state error hState => by cases hState) fun state value hState => ?_
  cases hState
  rw [← hLeaves.reviews] at hOpen
  refine (resolveStored_ensures now hOpen rfl ?_ hHashes).bind ?_ ?_
  · intro note hMem
    obtain ⟨hOriginal, _⟩ := Option.filter_eq_some_iff.mp hMem
    exact hNote note hOriginal
  · rintro last error ⟨_, review, hReview, _⟩
    cases hReview
  · rintro last review ⟨hKept, _, hReview, hId, hResolved⟩
    cases hReview
    exact Ensures.pure ⟨hLength, hKept.trans hEvents, hId, hResolved⟩

theorem correctiveEvents_allOrNothing_iff :
    Ensures (correctiveEvents proposalCheck submit client request draws now) world
        (AllOrNothing request world) ↔
      RefusedEarly proposalCheck request world ∨
        AppendsNothing submit request.proposals draws world ∨
        AcceptsEach submit request.proposals draws world := by
  by_cases hEarly : RefusedEarly proposalCheck request world
  · obtain ⟨error, hRun⟩ := correctiveEvents_refusedEarly submit client draws now hEarly
    refine iff_of_true ?_ (Or.inl hEarly)
    unfold Ensures
    rw [hRun]
    exact ⟨rfl, rfl⟩
  have hNot := hEarly
  unfold RefusedEarly at hNot
  rw [not_or, not_not, not_not] at hNot
  obtain ⟨hCheck, hOpen⟩ := hNot
  have hSome := (correctiveRequestCheck_ok hCheck).1
  have hLeaves := submitCorrective_ensures hSubmit request.proposals draws world
  rcases hLoop : (submitCorrective submit request.proposals draws).execute world
    with ⟨later, error | events⟩
  · have hRefused : (correctiveEvents proposalCheck submit client request draws now).execute world =
        (later, .error error) := by
      unfold correctiveEvents
      rw [execute_bind, execute_reading, hCheck]
      dsimp only
      rw [execute_bind, execute_reading, hOpen]
      dsimp only
      rw [execute_bind, hLoop]
    have hNone : ¬AcceptsEach submit request.proposals draws world := by
      rw [acceptsEach_iff, hLoop]
      rintro ⟨_, _, hOk⟩
      cases hOk
    unfold Ensures at hLeaves ⊢
    rw [hLoop] at hLeaves
    rw [hRefused, ← refused_events_iff hSubmit hSome hLoop]
    have hReviews : later.reviews = world.reviews := hLeaves.reviews
    show later.events = world.events ∧ later.reviews = world.reviews ↔ _
    simp only [hReviews, and_true, hEarly, hNone, false_or, or_false]
  · refine iff_of_true
      (correctiveEvents_accepted client draws now hSubmit hCheck hOpen hLoop) ?_
    exact Or.inr (Or.inr ((acceptsEach_iff _ _ _).mpr ⟨later, events, hLoop⟩))

end Handlers

namespace Crates

/-- A client at the first device whose plugins hold every permission they ask
for. -/
def correctiveClient : CorrectiveClient where
  logbookId := 1
  deviceId := 1
  correlationId := 9
  context plugin := .localAdmin
    { pluginId := plugin.id, requestedPermissions := [.netTemplateCreate], capabilities := [] }
    .admin

def correctiveDraws (round : Nat) : CorrectiveDraws where
  operationId := 20 + round
  proposalId := 30 + round
  timestamp := epoch
  now := epoch
  recordedAt := epoch
  stamp := { freshEntityId := 40 + round, event := sampleStamp (50 + round) }

/-- A template, as a corrective proposal. -/
def templateProposal (fields : List (String × Value)) : CorrectiveProposal where
  proposalType := .netTemplateCreate
  payload := .object fields

theorem length_compressRound {state : List UInt32} (h : state.length = 8)
    (round : UInt32 × UInt32) : (compressRound state round).length = 8 := by
  unfold compressRound
  split
  · rfl
  · exact h

theorem length_foldl_compressRound {state : List UInt32} (h : state.length = 8)
    (rounds : List (UInt32 × UInt32)) : (rounds.foldl compressRound state).length = 8 := by
  induction rounds generalizing state with
  | nil => exact h
  | cons round rest ih => exact ih (length_compressRound h round)

theorem length_compressBlocks (blocks : Nat) (state : List UInt32) (h : state.length = 8)
    (words : List UInt32) : (compressBlocks blocks state words).length = 8 := by
  induction blocks generalizing state words with
  | zero => exact h
  | succ blocks ih =>
      unfold compressBlocks
      apply ih
      rw [List.length_zipWith, h, length_foldl_compressRound h]
      rfl

/-- A digest has eight words, so it is not empty. -/
theorem sha256_ne_nil (message : List UInt8) : sha256 message ≠ [] := by
  intro hEmpty
  have hWords := length_compressBlocks ((bigEndianWords (padMessage message)).length / 16)
    initialWords rfl (bigEndianWords (padMessage message))
  have hNone := List.flatMap_eq_nil_iff.mp hEmpty
  obtain ⟨word, rest, hCons⟩ := List.exists_cons_of_length_pos (Nat.lt_of_lt_of_eq
    (Nat.zero_lt_succ 7) hWords.symm)
  have hWord := hNone word (by rw [hCons]; exact List.mem_cons_self)
  cases hWord

/-- A client that holds one open review and no event. -/
def oneOpenReview : CorrectiveWorld InMemoryEventBus where
  bus := { receiverCount := 1 }
  reviews :=
    { file := some (.document
        { reviews := [ManualConflictReview.new (sampleReport 1) epoch 7] }) }

end Crates

section Claim
variable {B : Type} [UuidCrate] [RustFmt] [EventBus B] [ChronoCrate] [CanonicalJson] [Sha2Crate]

end Claim

end HamLogger
