import HamLogger.Core.AdifSafety
import HamLogger.Core.SubmissionSuccess

/-! The import of a text into a logbook: one record after another, each turned
into a contact, compared with the contacts that are visible then, and proposed. -/
namespace HamLogger

/-- The counts of an import and the errors of its records. -/
structure AdifImportSummary where
  importedCount : Nat := 0
  skippedCount : Nat := 0
  duplicateCount : Nat := 0
  rejectedCount : Nat := 0
  errors : List String := []
  deriving DecidableEq

/-- The records that the counts cover. -/
def AdifImportSummary.total (summary : AdifImportSummary) : Nat :=
  summary.importedCount + summary.duplicateCount + summary.rejectedCount

/-- `TimeDelta::num_minutes` of the difference, without its sign. -/
def minutesApart (first second : DateTime) : Nat :=
  ((first.nanos - second.nanos).tdiv 60000000000).natAbs

/-- What the environment supplies for the proposal of a record. -/
structure ImportStamp where
  proposalId : Uuid
  timestamp : DateTime
  submission : SubmissionStamp

section Duplicates
variable [ChronoCrate]

def isDuplicate (projection : QsoCurrentStateProjection) (payload : Value)
    (windowMinutes : Int64) : Bool :=
  let callsign := (textField payload "contacted_callsign").getD ""
  let mode := (textField payload "mode").getD ""
  let band := textField payload "band"
  match instantField payload "started_at" with
  | none => false
  | some startedAt =>
      (projection.list false).any fun record =>
        let existing := record.payload
        let sameCall := (textField existing "contacted_callsign").any
          fun value => eqIgnoreAsciiCase value callsign
        let sameMode := (textField existing "mode").any fun value => eqIgnoreAsciiCase value mode
        let sameBand := match band with
          | some band => (textField existing "band").any fun value => eqIgnoreAsciiCase value band
          | none => true
        let closeTime := (instantField existing "started_at").any fun existingStarted =>
          decide ((minutesApart existingStarted startedAt : Int) ≤ windowMinutes.toInt)
        sameCall && sameMode && sameBand && closeTime

end Duplicates

/-- What an import keeps while it goes through its records. -/
structure ImportState (S B : Type) where
  store : S
  bus : B
  projection : QsoCurrentStateProjection
  summary : AdifImportSummary := {}

section Import
variable {S B : Type} [LogbookEventStore S]

/-- The contacts of the logbook, or none when they cannot be rebuilt. A panic
ends the import. -/
def currentContacts (store : S) (logbookId : Uuid) : Option QsoCurrentStateProjection :=
  match LogbookEventStore.rebuildProjections store logbookId with
  | .ok projection => some projection
  | .error (.error _) => some {}
  | .error .panic => none

def qsoProposal (logbookId : Uuid) (options : AdifImportOptions) (payload : Value)
    (stamp : ImportStamp) : ProposalEnvelope where
  proposalId := stamp.proposalId
  proposalType := .qsoCreate
  logbookId := logbookId
  entityId := none
  timestamp := stamp.timestamp
  authorOperatorId := none
  authorDeviceId := options.authorDeviceId
  sourcePluginId := options.sourcePluginId
  schemaVersion := 1
  payload := payload

/-- A record that is rejected with an error. -/
def ImportState.rejected (state : ImportState S B) (error : String) : ImportState S B :=
  { state with summary :=
      { state.summary with
        rejectedCount := state.summary.rejectedCount + 1
        errors := state.summary.errors ++ [error] } }

/-- A record that is skipped as a duplicate. -/
def ImportState.skipped (state : ImportState S B) : ImportState S B :=
  { state with summary :=
      { state.summary with
        duplicateCount := state.summary.duplicateCount + 1
        skippedCount := state.summary.skippedCount + 1 } }

variable [EventBus B] [UuidCrate] [RustFmt] [ChronoCrate] [ChronoFormat] [FloatText]
variable (context : ProposalContext) (logbookId : Uuid) (options : AdifImportOptions)

/-- The proposal of a contact, and the contacts after it. -/
def proposeContact (state : ImportState S B) (payload : Value) (stamp : ImportStamp) :
    Option (ImportState S B) :=
  match (submitProposal context (qsoProposal logbookId options payload stamp)
      stamp.submission).execute (state.store, state.bus) with
  | ((store, bus), .ok _) =>
      (currentContacts store logbookId).map fun projection =>
        { store := store, bus := bus, projection := projection
          summary := { state.summary with importedCount := state.summary.importedCount + 1 } }
  | ((store, bus), .error (.error error)) =>
      some (ImportState.rejected { state with store := store, bus := bus } error.toString)
  | (_, .error .panic) => none

/-- One turn of the import. -/
def importRecord (state : ImportState S B) (record : AdifRecord) (stamp : ImportStamp) :
    Option (ImportState S B) :=
  match adifRecordToQsoPayload record options with
  | .error .panic => none
  | .error (.error error) => some (state.rejected error)
  | .ok payload =>
      if options.duplicatePolicy = .skip ∧
          isDuplicate state.projection payload options.duplicateWindowMinutes = true then
        some state.skipped
      else proposeContact context logbookId options state payload stamp

/-- The loop over the records, each with what the environment supplies for it. -/
def importRecords (stamps : Nat → ImportStamp) (state : ImportState S B) :
    Nat → List AdifRecord → Option (ImportState S B)
  | _, [] => some state
  | position, record :: rest =>
      (importRecord context logbookId options state record (stamps position)).bind fun next =>
        importRecords stamps next (position + 1) rest

/-- The import of a text. It returns nothing when it panics. -/
def importAdif (store : S) (bus : B) (input : String) (stamps : Nat → ImportStamp) :
    Option (ImportState S B) :=
  (parseAdif input).bind fun records =>
    (currentContacts store logbookId).bind fun projection =>
      importRecords context logbookId options stamps
        { store := store, bus := bus, projection := projection } 0 records

end Import
end HamLogger
