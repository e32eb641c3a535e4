import HamLogger.Core.Submission
import HamLogger.Sync.ConflictReview
import HamLogger.Sync.QueueStore

/-! Corrective events for a conflict review: a list of proposals is submitted
one after the other, and then the review is resolved with the hashes of their
events. The desktop client and the bridge of the mobile client each have a
handler of their own. -/
namespace HamLogger

open FileReplace (Disk)
open Program

/-- The type is the trimmed text of the request. -/
structure CorrectiveProposal where
  proposalType : ProposalType
  entityId : Option Uuid := none
  operationId : Option String := none
  payload : Value

/-- The logbook and the device that a mobile client can name belong to the
client here. -/
structure ConflictReviewCorrectiveEventsRequest where
  reviewId : Uuid
  operatorNote : Option String := none
  proposals : List CorrectiveProposal

/-- What one submission draws: identifiers, times, and the stamp of its event. -/
structure CorrectiveDraws where
  operationId : Uuid
  proposalId : Uuid
  timestamp : DateTime
  now : DateTime
  recordedAt : DateTime
  stamp : SubmissionStamp

inductive CorrectiveError where
  | invalid (message : String)
  | notFound
  | review (error : ConflictReviewError)
  | queue (error : OfflineQueueError)
  | proposal (error : ProposalValidationError)
  | panic

structure CorrectiveReply where
  review : ManualConflictReview
  events : List CoreEventEnvelope

/-- The event log, the bus, the queue and the reviews of one client. -/
structure CorrectiveWorld (B : Type) where
  events : InMemoryLogbookEventStore := {}
  bus : B
  queue : QueueDisk := {}
  reviews : Disk ConflictReviewFile := {}

abbrev CorrectiveProgram (B α : Type) := Program (CorrectiveWorld B) CorrectiveError α

/-- The types that corrective proposals can have, with the plugin that
proposes them. -/
inductive CorrectivePlugin where
  | gui | potaSota | netControl
  deriving DecidableEq

def correctivePlugin : ProposalType → Option CorrectivePlugin
  | .qsoCreate | .qsoCorrect | .qsoDelete | .qsoRestore | .qsoNoteAdd => some .gui
  | .activationCreate | .activationUpdate | .activationStart | .activationEnd
  | .activationCancel | .activationNoteAdd | .qsoActivationLink | .qsoActivationUnlink =>
      some .potaSota
  | .netTemplateCreate | .netTemplateUpdate | .netSessionStart | .netSessionEnd
  | .netSessionCancel | .netCheckinCreate | .netCheckinUpdate | .netCheckinDelete
  | .netTrafficCreate | .netTrafficUpdate | .netReportExport => some .netControl
  | _ => none

def CorrectivePlugin.id : CorrectivePlugin → String
  | .gui => "core.gui"
  | .potaSota => "plugin.pota-sota"
  | .netControl => "plugin.net-control"

/-- What the client brings to a request. The mobile client submits every
proposal in one context. -/
structure CorrectiveClient where
  logbookId : Uuid
  deviceId : Uuid
  correlationId : Uuid
  context : CorrectivePlugin → ProposalContext

def correctiveProposalRequiresEntityId : ProposalType → Bool
  | .qsoCreate | .activationCreate | .activationStart | .netTemplateCreate | .netSessionStart
  | .netCheckinCreate | .netTrafficCreate => false
  | _ => true

/-- The operation that the queue lists a proposal as. -/
def offlineOperationType : ProposalType → String
  | .qsoCreate => "qso.create"
  | .qsoCorrect => "qso.correct"
  | .qsoDelete => "qso.delete"
  | .qsoRestore => "qso.restore"
  | .qsoNoteAdd => "qso.note.add"
  | .activationStart => "activation.start"
  | .activationEnd => "activation.end"
  | .netSessionStart => "net.session.start"
  | .netSessionEnd => "net.session.end"
  | .netCheckinCreate => "net.checkin.create"
  | .netCheckinDelete => "net.checkin.delete"
  | .netTrafficCreate => "net.traffic.create"
  | proposalType => proposalType.name

/-- The field of a payload that names the entity of a proposal. -/
def proposalEntityKey : ProposalType → String
  | .netTemplateCreate | .netTemplateUpdate => "net_template_id"
  | .activationCreate | .activationUpdate | .activationStart | .activationEnd
  | .activationCancel | .activationNoteAdd => "activation_id"
  | .netSessionStart | .netSessionEnd | .netSessionCancel => "net_session_id"
  | .netCheckinCreate | .netCheckinUpdate | .netCheckinDelete => "checkin_id"
  | .netTrafficCreate | .netTrafficUpdate => "traffic_id"
  | _ => "qso_id"

def iosPluginId : String := "plugin.ios.native"

/-- The fields that the mobile client looks for the entity of an operation in. -/
def payloadEntityFields (operationType : String) : List String :=
  if operationType ∈ ["qso.create", "qso.correct", "qso.delete", "qso.restore",
      "qso.note.add"] then
    ["entity_id", "qso_id"]
  else if operationType ∈ ["activation.start", "activation.end"] then
    ["entity_id", "activation_id"]
  else if operationType ∈ ["net.session.start", "net.session.end"] then
    ["entity_id", "net_session_id"]
  else if operationType ∈ ["net.checkin.create", "net.checkin.delete"] then
    ["entity_id", "checkin_id"]
  else if operationType = "net.traffic.create" then ["entity_id", "traffic_id"]
  else if operationType ∈ ["station.profile.create", "station.profile.select"] then
    ["entity_id", "station_profile_id"]
  else if operationType = "station.equipment.create" then ["entity_id", "equipment_id"]
  else ["entity_id"]

def payloadEntityId [UuidCrate] (operationType : String) (payload : Value) : Option Uuid :=
  (payloadEntityFields operationType).findSome? fun field =>
    ((payload.get field).bind Value.asStr).bind UuidCrate.parseStr

section Handlers
variable {B : Type} [EventBus B] [UuidCrate] [ChronoCrate] [CanonicalJson] [Sha2Crate] [RustFmt]

/-- A call of the queue that has to succeed. -/
def requireQueue {α : Type} (call : QueueDisk → QueueOutcome α) : CorrectiveProgram B α :=
  Program.ofFunction fun world =>
    match call world.queue with
    | .error (.error error) => (world, .error (.queue error))
    | .error .panic => (world, .error .panic)
    | .ok (value, none) => (world, .ok value)
    | .ok (value, some file) =>
        ({ world with queue := world.queue.replace file none }, .ok value)

/-- A call of the queue whose failure is ignored, or becomes a warning. -/
def tryQueue {α : Type} (call : QueueDisk → QueueOutcome α) : CorrectiveProgram B Unit :=
  modify fun world =>
    match call world.queue with
    | .ok (_, some file) => { world with queue := world.queue.replace file none }
    | _ => world

/-- A submission to the event log, with its outcome. -/
def submitting {α : Type} (submission : Submission InMemoryLogbookEventStore B α) :
    CorrectiveProgram B (Outcome ProposalValidationError α) :=
  Program.ofFunction fun world =>
    let (state, outcome) := submission.execute (world.events, world.bus)
    ({ world with events := state.1, bus := state.2 }, .ok outcome)

/-- The mutation of a proposal that was refused waits for the user. -/
def refuseQueued {α : Type} (operationId : Uuid) (draws : CorrectiveDraws) :
    Fault ProposalValidationError → CorrectiveProgram B α
  | .error error => do
      tryQueue fun disk => JsonOfflineMutationQueue.markUserActionRequired disk operationId
        error.toString (some "domain_validation_failed") draws.recordedAt
      throw (.proposal error)
  | .panic => throw .panic

/-- The submission that follows the queueing of a proposal. The queue is told
of the event, and only the mobile client stops where that fails. -/
def submitQueued (client : CorrectiveClient) (draws : CorrectiveDraws)
    (proposal : CorrectiveProposal) (payload : Value) (plugin : CorrectivePlugin)
    (sourcePluginId : String) (queued : OfflineMutationEnvelope)
    (record : CoreEventEnvelope → CorrectiveProgram B Unit) :
    CorrectiveProgram B CoreEventEnvelope := do
  let outcome ← submitting (submitProposal (client.context plugin)
    { proposalId := draws.proposalId
      proposalType := proposal.proposalType
      logbookId := client.logbookId
      entityId := proposal.entityId
      timestamp := draws.timestamp
      authorOperatorId := none
      authorDeviceId := client.deviceId
      sourcePluginId := sourcePluginId
      schemaVersion := 1
      payload := payload }
    draws.stamp)
  match outcome with
  | .error fault => refuseQueued queued.operationId draws fault
  | .ok accepted => do
      record accepted.officialEvent
      return accepted.officialEvent

def submitOfflineTrackedProposal (client : CorrectiveClient) (proposal : CorrectiveProposal)
    (plugin : CorrectivePlugin) (draws : CorrectiveDraws) :
    CorrectiveProgram B CoreEventEnvelope := do
  let queued ← requireQueue fun disk => JsonOfflineMutationQueue.enqueueInput disk
    { logbookId := client.logbookId
      deviceId := client.deviceId
      clientId := client.deviceId
      operationType := offlineOperationType proposal.proposalType
      payload := proposal.payload
      operationId := some draws.operationId
      correlationId := some draws.operationId
      entityId := proposal.entityId
      idempotencyKey := some
        (proposal.proposalType.name ++ ":" ++ UuidCrate.display draws.operationId) }
    draws.now draws.operationId
  submitQueued client draws proposal proposal.payload plugin plugin.id queued fun event =>
    tryQueue fun disk =>
      JsonOfflineMutationQueue.recordLocalEvent disk queued.operationId event draws.recordedAt

/-- The identifier that the mobile client goes by, as text. -/
def externalOperationId (proposal : CorrectiveProposal) (draws : CorrectiveDraws) : String :=
  (proposal.operationId.filter fun text => trim text ≠ "").getD
    (UuidCrate.display draws.operationId)

def correctivePayloadWithEntityId (proposal : CorrectiveProposal) :
    Except CorrectiveError Value :=
  match proposal.payload, proposal.entityId with
  | .object fields, some entityId =>
      let key := proposalEntityKey proposal.proposalType
      .ok (.object (if Fields.containsKey fields key then fields
        else Fields.insert fields key (.string (UuidCrate.display entityId))))
  | .object fields, none => .ok (.object fields)
  | _, _ => .error (.invalid "corrective proposal payload must be a JSON object")

/-- The body of the loop of the mobile client. -/
def submitIosCorrectiveProposal (client : CorrectiveClient) (proposal : CorrectiveProposal)
    (plugin : CorrectivePlugin) (draws : CorrectiveDraws) :
    CorrectiveProgram B CoreEventEnvelope := do
  let payload ← Program.reading fun _ => correctivePayloadWithEntityId proposal
  let external := externalOperationId proposal draws
  let operationType := offlineOperationType proposal.proposalType
  let queued ← requireQueue fun disk => JsonOfflineMutationQueue.enqueueInput disk
    { logbookId := client.logbookId
      deviceId := client.deviceId
      clientId := client.deviceId
      operationType := operationType
      payload := payload
      operationId := some ((UuidCrate.parseStr external).getD client.correlationId)
      correlationId := some client.correlationId
      entityId := proposal.entityId.or (payloadEntityId operationType payload)
      idempotencyKey := some (operationType ++ ":" ++ external) }
    draws.now draws.operationId
  submitQueued client draws proposal payload plugin iosPluginId queued fun event => do
    let _ ← requireQueue fun disk =>
      JsonOfflineMutationQueue.recordLocalEvent disk queued.operationId event draws.recordedAt

/-- The loop over the proposals. Every round draws anew. -/
def submitCorrective (submit : CorrectiveProposal → CorrectiveDraws →
      CorrectiveProgram B CoreEventEnvelope) :
    List CorrectiveProposal → (Nat → CorrectiveDraws) →
      CorrectiveProgram B (List CoreEventEnvelope)
  | [], _ => pure []
  | proposal :: rest, draws => do
      let event ← submit proposal (draws 0)
      let events ← submitCorrective submit rest fun round => draws (round + 1)
      return event :: events

/-- One round of the desktop client. -/
def submitDesktopRound (client : CorrectiveClient) (proposal : CorrectiveProposal)
    (draws : CorrectiveDraws) : CorrectiveProgram B CoreEventEnvelope :=
  if proposal.proposalType.name = "" then
    throw (.invalid "corrective proposal_type is required")
  else match correctivePlugin proposal.proposalType with
    | none =>
        throw (.invalid
          ("unsupported corrective proposal type `" ++ proposal.proposalType.name ++ "`"))
    | some plugin => submitOfflineTrackedProposal client proposal plugin draws

/-- One round of the mobile client. The types that it supports are those with
a plugin, which it does not look up. -/
def submitIosRound (client : CorrectiveClient) (proposal : CorrectiveProposal)
    (draws : CorrectiveDraws) : CorrectiveProgram B CoreEventEnvelope :=
  submitIosCorrectiveProposal client proposal .gui draws

/-! The checks of a request. -/

def desktopProposalCheck (proposal : CorrectiveProposal) : Except CorrectiveError Unit :=
  if proposal.proposalType.name = "" then .error (.invalid "corrective proposal_type is required")
  else if proposal.payload.isObject = false then
    .error (.invalid "corrective proposal payload must be a JSON object")
  else if correctiveProposalRequiresEntityId proposal.proposalType ∧ proposal.entityId = none then
    .error (.invalid "corrective proposal entity_id is required for this proposal type")
  else if correctivePlugin proposal.proposalType = none then
    .error (.invalid
      ("unsupported corrective proposal type `" ++ proposal.proposalType.name ++ "`"))
  else .ok ()

def iosProposalCheck (proposal : CorrectiveProposal) : Except CorrectiveError Unit :=
  if proposal.proposalType.name = "" then .error (.invalid "corrective proposal_type is required")
  else if correctivePlugin proposal.proposalType = none then
    .error (.invalid
      ("unsupported corrective proposal type `" ++ proposal.proposalType.name ++ "`"))
  else if proposal.payload.isObject = false then
    .error (.invalid "corrective proposal payload must be a JSON object")
  else if correctiveProposalRequiresEntityId proposal.proposalType ∧ proposal.entityId = none then
    .error (.invalid "corrective proposal entity_id is required for this proposal type")
  else if (proposal.operationId.filter fun text => trim text ≠ "").any
      fun text => (UuidCrate.parseStr text).isNone then
    .error (.invalid "corrective proposal operation_id must be a UUID")
  else .ok ()

def correctiveRequestCheck (proposalCheck : CorrectiveProposal → Except CorrectiveError Unit)
    (request : ConflictReviewCorrectiveEventsRequest) : Except CorrectiveError Unit :=
  if request.proposals = [] then
    .error (.invalid "at least one corrective proposal is required")
  else if request.operatorNote.any fun note => maxConflictReviewNoteBytes < note.utf8ByteSize then
    .error (.invalid "conflict review note is too large")
  else request.proposals.forM proposalCheck

def readReviews (reviews : Disk ConflictReviewFile) :
    Except ConflictReviewError ConflictReviewFile :=
  JsonConflictReviewStore.readFile (reviews.contents {})

/-- The look for the open review before anything is submitted. -/
def openReviewCheck (reviewId : Uuid) (reviews : Disk ConflictReviewFile) :
    Except CorrectiveError Unit :=
  match readReviews reviews with
  | .error error => .error (.review error)
  | .ok file =>
      if file.reviews.any fun review => review.reviewId = reviewId ∧ review.status = .opened then
        .ok ()
      else .error .notFound

def correctiveResolution (client : CorrectiveClient)
    (request : ConflictReviewCorrectiveEventsRequest) (hashes : List String) :
    ManualConflictResolution where
  choice := .createCorrectiveEvents
  operatorNote := request.operatorNote.filter fun note => trim note ≠ ""
  correctiveEventHashes := hashes
  resolvedByDeviceId := some client.deviceId

/-- A call of the review store that resolves a review. -/
def resolveStored (reviewId : Uuid) (resolution : ManualConflictResolution) (now : DateTime) :
    CorrectiveProgram B ManualConflictReview :=
  Program.ofFunction fun world =>
    match (readReviews world.reviews).bind fun file =>
        JsonConflictReviewStore.resolveReview file reviewId resolution now with
    | .error error => (world, .error (.review error))
    | .ok (review, none) => (world, .ok review)
    | .ok (review, some file) =>
        ({ world with reviews := world.reviews.replace file none }, .ok review)

/-- What the two handlers share: the checks, the loop, and the resolution. -/
def correctiveEvents (proposalCheck : CorrectiveProposal → Except CorrectiveError Unit)
    (submit : CorrectiveProposal → CorrectiveDraws → CorrectiveProgram B CoreEventEnvelope)
    (client : CorrectiveClient) (request : ConflictReviewCorrectiveEventsRequest)
    (draws : Nat → CorrectiveDraws) (now : DateTime) : CorrectiveProgram B CorrectiveReply := do
  Program.reading fun _ => correctiveRequestCheck proposalCheck request
  Program.reading fun world => openReviewCheck request.reviewId world.reviews
  let events ← submitCorrective submit request.proposals draws
  let review ← resolveStored request.reviewId
    (correctiveResolution client request (events.map CoreEventEnvelope.eventHash)) now
  return { review := review, events := events }

def handleConflictReviewCorrectiveEvents (client : CorrectiveClient) :
    ConflictReviewCorrectiveEventsRequest → (Nat → CorrectiveDraws) → DateTime →
      CorrectiveProgram B CorrectiveReply :=
  correctiveEvents desktopProposalCheck (submitDesktopRound client) client

def syncConflictReviewCorrectiveEventsCommand (client : CorrectiveClient) :
    ConflictReviewCorrectiveEventsRequest → (Nat → CorrectiveDraws) → DateTime →
      CorrectiveProgram B CorrectiveReply :=
  correctiveEvents iosProposalCheck (submitIosRound client) client

end Handlers
end HamLogger
