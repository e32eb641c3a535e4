import HamLogger.Core.ProposalRuns
import HamLogger.Server.SyncIsolation

/-! The two ways in which a member of a logbook writes to it: a proposal that a
request submits, and a batch of events that is pushed. -/
namespace HamLogger

open Program

/-- The role in which the proposals of a member are submitted. -/
def LogbookRole.proposalRole : LogbookRole → OperatorRole
  | .owner | .admin => .admin
  | .operator => .logger
  | .viewer => .readOnly

def coreGuiCapabilities : List PluginCapability :=
  [.qsoView, .qsoCreate, .qsoCorrect, .qsoDelete, .qsoRestore, .qsoNoteAdd, .activationCreate,
   .activationUpdate, .activationEnd, .netSessionStart, .netSessionEnd, .netCheckinCreate,
   .netCheckinUpdate, .netTrafficManage]

def coreGuiManifest : PluginManifest where
  pluginId := "core.gui"
  requestedPermissions := coreGuiCapabilities
  capabilities := coreGuiCapabilities

/-- The requests that submit proposals. -/
inductive ProposalRoute where
  | createQso | patchQso | deleteQso | restoreQso | qsoNote | importAdif | createActivation
  | patchActivation | endActivation | createNetSession | patchNetSession | endNetSession
  | createNetCheckin | patchNetCheckin | createNetTraffic
  deriving DecidableEq

namespace ProposalRoute

/-- The access that the request requires. -/
def access : ProposalRoute → LogbookAccess
  | .createQso | .patchQso | .deleteQso | .restoreQso | .qsoNote | .importAdif => .logQso
  | .createActivation | .patchActivation | .endActivation | .createNetSession
  | .patchNetSession | .endNetSession | .createNetCheckin | .patchNetCheckin
  | .createNetTraffic => .admin

/-- The types of the proposals that the request submits. A new activation is
started at once if the request says when it started. -/
def proposalTypes : ProposalRoute → List ProposalType
  | .createQso | .importAdif => [.qsoCreate]
  | .patchQso => [.qsoCorrect]
  | .deleteQso => [.qsoDelete]
  | .restoreQso => [.qsoRestore]
  | .qsoNote => [.qsoNoteAdd]
  | .createActivation => [.activationStart, .activationCreate]
  | .patchActivation => [.activationUpdate]
  | .endActivation => [.activationEnd]
  | .createNetSession => [.netSessionStart]
  | .patchNetSession | .endNetSession => [.netSessionEnd]
  | .createNetCheckin => [.netCheckinCreate]
  | .patchNetCheckin => [.netCheckinUpdate]
  | .createNetTraffic => [.netTrafficCreate]

end ProposalRoute

namespace AuthorizedLogbook

/-- The proposal of a request of the member. -/
def proposal (auth : AuthorizedLogbook) (proposalType : ProposalType) (entityId : Option Uuid)
    (payload : Value) (drawn : Uuid) (now : DateTime) : ProposalEnvelope where
  proposalId := drawn
  proposalType := proposalType
  logbookId := auth.logbookId
  entityId := entityId
  timestamp := now
  authorOperatorId := some auth.session.userId
  authorDeviceId := auth.session.deviceId
  sourcePluginId := "core.gui"
  schemaVersion := 1
  payload := payload

/-- What the proposals of the member are checked against. -/
def proposalContext (auth : AuthorizedLogbook) : ProposalContext :=
  .localAdmin coreGuiManifest auth.role.proposalRole

/-- A request lets the member through, and its proposal has the permissions to
become an event of the type. -/
def MayPropose (auth : AuthorizedLogbook) (type : EventType) : Prop :=
  ∃ route : ProposalRoute, auth.role.allows route.access = true ∧
    ∃ proposalType ∈ route.proposalTypes, ∃ entityId payload drawn now creates,
      Authorized auth.proposalContext
          (auth.proposal proposalType entityId payload drawn now) ∧
        officialEventType proposalType = some (type, creates)

end AuthorizedLogbook

/-- Every capability that the server requests is granted to it. -/
theorem coreGui_granted {capability : PluginCapability} (h : capability ∈ coreGuiCapabilities) :
    checkPluginPermission coreGuiManifest (.grantsForManifest coreGuiManifest) capability =
      .ok () := by
  simp only [coreGuiCapabilities, List.mem_cons, List.not_mem_nil, or_false] at h
  rcases h with rfl | rfl | rfl | rfl | rfl | rfl | rfl | rfl | rfl | rfl | rfl | rfl | rfl | rfl
  all_goals decide

/-- No other capability passes. -/
theorem coreGui_requested {capability : PluginCapability}
    (h : checkPluginPermission coreGuiManifest (.grantsForManifest coreGuiManifest) capability =
      .ok ()) : capability ∈ coreGuiCapabilities := by
  by_contra hOther
  have hMissing : coreGuiManifest.hasCapability capability = false := by
    have hNone : coreGuiCapabilities.any (fun held => held = capability) = false := by
      rw [List.any_eq_false]
      intro held hMem hSame
      exact hOther (of_decide_eq_true hSame ▸ hMem)
    rw [PluginManifest.hasCapability]
    exact Bool.or_eq_false_iff.mpr ⟨hNone, hNone⟩
  rw [checkPluginPermission, if_pos hMissing] at h
  cases h

/-- The types of the events that the proposals of a role become. -/
def LogbookRole.proposable : LogbookRole → List EventType
  | .owner | .admin =>
      [.qsoCreated, .qsoCorrected, .qsoDeleted, .qsoRestored, .qsoNoteAdded, .activationCreated,
       .activationStarted, .activationUpdated, .activationEnded, .netSessionStarted,
       .netSessionEnded, .netCheckinCreated, .netCheckinUpdated, .netTrafficCreated]
  | .operator => [.qsoCreated, .qsoCorrected]
  | .viewer => []

namespace AuthorizedLogbook
variable {auth : AuthorizedLogbook} {type : EventType}

theorem mayPropose_of_route {proposalType : ProposalType} {capability : PluginCapability}
    {creates : Bool} (route : ProposalRoute) (hAccess : auth.role.allows route.access = true)
    (hRoute : proposalType ∈ route.proposalTypes)
    (hRole : auth.role.proposalRole.canSubmit proposalType = true)
    (hCapability : requiredCapability proposalType = .ok capability)
    (hRequested : capability ∈ coreGuiCapabilities)
    (hType : officialEventType proposalType = some (type, creates)) : auth.MayPropose type :=
  ⟨route, hAccess, proposalType, hRoute, none, .null, 0, Crates.epoch, creates,
    ⟨rfl, ⟨capability, hCapability, coreGui_granted hRequested⟩, hRole⟩, hType⟩

/-- What a request submits becomes an event of a type of the role. -/
theorem proposable_of_route {route : ProposalRoute} {proposalType : ProposalType}
    {role : LogbookRole} {creates : Bool} (hAccess : role.allows route.access = true)
    (hRoute : proposalType ∈ route.proposalTypes)
    (hRole : role.proposalRole.canSubmit proposalType = true)
    (hType : officialEventType proposalType = some (type, creates)) : type ∈ role.proposable := by
  have hEvent : (officialEventType proposalType).map Prod.fst = some type := by rw [hType]; rfl
  have hAll : ∀ role : LogbookRole, role.allows route.access = true →
      ∀ proposalType ∈ route.proposalTypes, role.proposalRole.canSubmit proposalType = true →
        ∀ type ∈ (officialEventType proposalType).map Prod.fst, type ∈ role.proposable := by
    intro role
    cases role <;> cases route <;> decide
  exact hAll role hAccess proposalType hRoute hRole type hEvent

/-- Whoever administers the logbook has a request for each of the types. -/
theorem mayPropose_administrator (hRole : auth.role.canAdminister = true)
    (h : type ∈ LogbookRole.owner.proposable) : auth.MayPropose type := by
  have hAccess : ∀ access, auth.role.allows access = true := by
    revert hRole
    cases auth.role <;> intro hRole access <;> cases access <;> first | rfl | cases hRole
  have hSubmit : auth.role.proposalRole = .admin := by
    revert hRole
    cases auth.role <;> intro hRole <;> first | rfl | cases hRole
  have hRoute : ∀ (route : ProposalRoute) {proposalType : ProposalType}
      {capability : PluginCapability} {creates : Bool}, proposalType ∈ route.proposalTypes →
      proposalType ∈ ProposalType.declared → requiredCapability proposalType = .ok capability →
      capability ∈ coreGuiCapabilities →
      officialEventType proposalType = some (type, creates) → auth.MayPropose type := by
    intro route proposalType capability creates hMem hDeclared hCapability hRequested hType
    refine mayPropose_of_route route (hAccess _) hMem ?_ hCapability hRequested hType
    rw [hSubmit]
    exact decide_eq_true hDeclared
  simp only [LogbookRole.proposable, List.mem_cons, List.not_mem_nil, or_false] at h
  rcases h with rfl | rfl | rfl | rfl | rfl | rfl | rfl | rfl | rfl | rfl | rfl | rfl | rfl | rfl
  · exact hRoute .createQso (.head _) (by decide) rfl (by decide) rfl
  · exact hRoute .patchQso (.head _) (by decide) rfl (by decide) rfl
  · exact hRoute .deleteQso (.head _) (by decide) rfl (by decide) rfl
  · exact hRoute .restoreQso (.head _) (by decide) rfl (by decide) rfl
  · exact hRoute .qsoNote (.head _) (by decide) rfl (by decide) rfl
  · exact hRoute .createActivation (.tail _ (.head _)) (by decide) rfl (by decide) rfl
  · exact hRoute .createActivation (.head _) (by decide) rfl (by decide) rfl
  · exact hRoute .patchActivation (.head _) (by decide) rfl (by decide) rfl
  · exact hRoute .endActivation (.head _) (by decide) rfl (by decide) rfl
  · exact hRoute .createNetSession (.head _) (by decide) rfl (by decide) rfl
  · exact hRoute .endNetSession (.head _) (by decide) rfl (by decide) rfl
  · exact hRoute .createNetCheckin (.head _) (by decide) rfl (by decide) rfl
  · exact hRoute .patchNetCheckin (.head _) (by decide) rfl (by decide) rfl
  · exact hRoute .createNetTraffic (.head _) (by decide) rfl (by decide) rfl

/-- The role decides what the proposals of a member can become. -/
theorem mayPropose_iff : auth.MayPropose type ↔ type ∈ auth.role.proposable := by
  constructor
  · intro h
    obtain ⟨route, hAccess, proposalType, hRoute, _, _, _, _, creates, hAuthorized, hType⟩ := h
    exact proposable_of_route hAccess hRoute hAuthorized.role hType
  · intro h
    cases hRole : auth.role with
    | owner =>
        rw [hRole] at h
        exact mayPropose_administrator (by rw [hRole]; rfl) h
    | admin =>
        rw [hRole] at h
        exact mayPropose_administrator (by rw [hRole]; rfl) h
    | operator =>
        rw [hRole] at h
        have hOwn : type = .qsoCreated ∨ type = .qsoCorrected := by
          simpa [LogbookRole.proposable] using h
        have hAccess : auth.role.allows .logQso = true := by rw [hRole]; rfl
        rcases hOwn with rfl | rfl
        · exact mayPropose_of_route .createQso hAccess (.head _) (by rw [hRole]; rfl) rfl
            (by decide) rfl
        · exact mayPropose_of_route .patchQso hAccess (.head _) (by rw [hRole]; rfl) rfl
            (by decide) rfl
    | viewer =>
        rw [hRole] at h
        cases h

section Submissions
variable {B : Type} [EventBus B] [UuidCrate] [ChronoCrate] [CanonicalJson] [Sha2Crate] [RustFmt]

/-- What the requests of a member write is of a type that the member may
propose. -/
theorem mayPropose_of_submitted {route : ProposalRoute} {proposalType : ProposalType}
    (hAccess : auth.role.allows route.access = true)
    (hRoute : proposalType ∈ route.proposalTypes) {entityId : Option Uuid} {payload : Value}
    {drawn : Uuid} {now : DateTime} {stamp : SubmissionStamp}
    {store later : InMemoryLogbookEventStore} {bus laterBus : B} {accepted : ProposalOutcome}
    (h : (submitProposal auth.proposalContext
      (auth.proposal proposalType entityId payload drawn now) stamp).execute (store, bus) =
        ((later, laterBus), .ok accepted)) :
    auth.MayPropose accepted.officialEvent.eventType := by
  have hLeaves := submitProposal_ensures store auth.proposalContext
    (auth.proposal proposalType entityId payload drawn now) stamp bus
  unfold Ensures at hLeaves
  rw [h] at hLeaves
  rcases hLeaves with ⟨_, hRefused⟩ | ⟨newEvent, hAccepts, _, hAppended⟩
  · exact absurd rfl (hRefused accepted)
  · obtain ⟨creates, hType⟩ := (toOfficialEvent_ok hAccepts.official).eventType
    have hStored : accepted.officialEvent.eventType = newEvent.eventType := by
      rw [← Except.ok.inj (hAppended accepted rfl)]
      rfl
    rw [← hStored] at hType
    exact ⟨route, hAccess, proposalType, hRoute, entityId, payload, drawn, now, creates,
      hAccepts.authorized, hType⟩

end Submissions

end AuthorizedLogbook

/-- The events that the role may push although no proposal of the role becomes
such an event. -/
def LogbookRole.onlyPushed : LogbookRole → EventType → Bool
  | .operator, type => type ≠ .qsoCreated ∧ type ≠ .qsoCorrected
  | _, .activationCancelled | _, .activationNoteAdded | _, .qsoActivationLinked
  | _, .qsoActivationUnlinked | _, .uploadQueued | _, .uploadCompleted | _, .uploadFailed
  | _, .netTemplateCreated | _, .netTemplateUpdated | _, .netSessionCancelled
  | _, .netCheckinDeleted | _, .netTrafficUpdated | _, .netReportExported => true
  | _, _ => false

/-- Among the types that a push accepts, a role that may push proposes those
that it does not only push. -/
theorem LogbookRole.proposable_iff {role : LogbookRole} {type : EventType}
    (hLogs : role.canLogQso = true) (hSupported : isSupportedRemoteType type = true) :
    type ∈ role.proposable ↔ role.onlyPushed type = false := by
  cases role with
  | operator => simp [proposable, onlyPushed, imp_iff_not_or, or_comm]
  | viewer => cases hLogs
  | _ =>
      cases type <;> first
        | cases hSupported; done
        | simp [proposable, onlyPushed]

section Push
variable [UuidCrate] [Sha2Crate]

namespace HostedServer

theorem requireLogbookRole_allows {context : RequestContext} {logbookId : Uuid}
    {access : LogbookAccess} {state : ServerState} {auth : AuthorizedLogbook}
    (h : ((requireLogbookRole context logbookId access).execute state).2 = .ok auth) :
    auth.role.allows access = true := by
  have hRun : (requireLogbookRole context logbookId access).execute state = (_, .ok auth) :=
    Prod.ext rfl h
  rw [requireLogbookRole, execute_bind_ok] at hRun
  obtain ⟨middle, session, _, hRest⟩ := hRun
  simp only [execute_bind_ok, get_ok, orReject_ok] at hRest
  obtain ⟨_, _, ⟨rfl, rfl⟩, _, membership, _, hGuarded⟩ := hRest
  by_cases hAllowed : membership.role.allows access = true
  · rw [if_neg (by simp [hAllowed]), pure_ok] at hGuarded
    rw [hGuarded.2]
    exact hAllowed
  · rw [if_pos (by simpa using hAllowed), execute_bind_ok] at hGuarded
    obtain ⟨_, _, hRejected, _⟩ := hGuarded
    exact absurd hRejected (fun h => (reject_ok _).mp h)

variable [RustFmt] [CanonicalJson]

/-- A push validates what it stores. -/
theorem syncPushLoop_validates {store : InMemoryLogbookEventStore} {progress : PushProgress}
    {events : List CoreEventEnvelope} {event : CoreEventEnvelope}
    (h : (syncPushLoop store progress events).1.getEvent event.eventId = some event) :
    store.getEvent event.eventId = some event ∨ validateSupportedRemoteEvent event = .ok () := by
  induction events generalizing store progress with
  | nil => exact Or.inl h
  | cons pushed rest ih =>
      unfold syncPushLoop at h
      cases hFound : store.getEvent pushed.eventId with
      | some existing =>
          rw [hFound] at h
          dsimp only at h
          split at h
          · exact ih h
          · exact Or.inl h
      | none =>
          rw [hFound] at h
          dsimp only at h
          rcases store.appendVerifiedRemoteEvent_cases pushed with ⟨error, hError⟩ |
            ⟨_, hStored, _⟩ | ⟨hValid, _, _, hAppend⟩
          · rw [hError] at h
            exact Or.inl h
          · rw [hFound] at hStored
            cases hStored
          · rw [hAppend] at h
            rcases ih h with hBefore | hLater
            · rw [InMemoryLogbookEventStore.getEvent_insertEvent] at hBefore
              split at hBefore
              · obtain rfl := Option.some.inj hBefore
                exact Or.inr hValid
              · exact Or.inl hBefore
            · exact Or.inr hLater

/-- A push leaves the events as they are or goes through the loop. -/
theorem syncPush_store (context : RequestContext) (input : PushEventsInput)
    (state : HostedState) :
    ((syncPush context (.ok input)).execute state).1.store = state.store ∨
      ((syncPush context (.ok input)).execute state).1.store =
        (syncPushLoop state.store {} input.events).1 := by
  rcases hAuth : (authorizeSync context input.logbookId .logQso).execute state.server with
    ⟨server, outcome⟩
  unfold syncPush
  cases outcome with
  | error fault =>
      left
      simp only [execute_bind, execute_onServer, parseJson, execute_pure, hAuth]
  | ok value =>
      simp only [execute_bind, execute_onServer, parseJson, execute_pure, hAuth]
      split
      · exact Or.inl rfl
      · exact Or.inr rfl

/-- A push of the member is answered with the event as accepted: the event was
not stored and it is stored now. -/
structure PushAccepts (context : RequestContext) (input : PushEventsInput) (state : HostedState)
    (auth : AuthorizedLogbook) (event : CoreEventEnvelope) : Prop where
  member : ((requireLogbookRole context input.logbookId .logQso).execute state.server).2 =
    .ok auth
  new : state.store.getEvent event.eventId = none
  stored : ((syncPush context (.ok input)).execute state).1.store.getEvent event.eventId =
    some event

theorem PushAccepts.validated {context : RequestContext} {input : PushEventsInput}
    {state : HostedState} {auth : AuthorizedLogbook} {event : CoreEventEnvelope}
    (h : PushAccepts context input state auth event) :
    validateSupportedRemoteEvent event = .ok () := by
  have hStored := h.stored
  rcases syncPush_store context input state with hSame | hLoop
  · rw [hSame, h.new] at hStored
    cases hStored
  · rw [hLoop] at hStored
    rcases syncPushLoop_validates hStored with hBefore | hValid
    · rw [h.new] at hBefore
      cases hBefore
    · exact hValid

/-- A push of one event that continues the logbook is accepted. -/
theorem pushAccepts_single {context : RequestContext} {state : HostedState}
    {auth : AuthorizedLogbook} {logbookId : Uuid} {event : CoreEventEnvelope}
    (hMember : ((requireLogbookRole context logbookId .logQso).execute state.server).2 =
      .ok auth)
    (hAuthorized : ((authorizeSync context logbookId .logQso).execute state.server).2 = .ok ())
    (hLogbook : event.logbookId = logbookId)
    (hValid : validateSupportedRemoteEvent event = .ok ())
    (hNew : state.store.getEvent event.eventId = none)
    (hHead : event.previousHash = state.store.getHead event.logbookId) :
    PushAccepts context ⟨logbookId, [event]⟩ state auth event := by
  rcases hRun : (authorizeSync context logbookId .logQso).execute state.server with
    ⟨server, outcome⟩
  rw [hRun] at hAuthorized
  obtain rfl : outcome = .ok () := hAuthorized
  have hOwn : ∀ pushed ∈ [event], pushed.logbookId = logbookId := by
    intro pushed hMem
    rw [List.mem_singleton.mp hMem]
    exact hLogbook
  have hAppend := InMemoryLogbookEventStore.appendVerifiedRemoteEvent_new hValid hNew hHead
  have hLoop : (syncPushLoop state.store {} [event]).1 = state.store.insertEvent event := by
    simp only [syncPushLoop, hNew, hAppend]
  have hStored : ((syncPush context (.ok ⟨logbookId, [event]⟩)).execute state).1.store =
      state.store.insertEvent event := by
    have hPush := @syncPush_eq _ _ _ _ context ⟨logbookId, [event]⟩ state server hRun hOwn
    rw [hPush]
    exact hLoop
  refine ⟨hMember, hNew, ?_⟩
  rw [hStored, InMemoryLogbookEventStore.getEvent_insertEvent, if_pos rfl]

end HostedServer

variable [RustFmt] [CanonicalJson]

/-- An event that a push of a member accepts is one that the member may propose
exactly where its type is none that the role can only push. -/
theorem pushed_within_rights_iff {context : RequestContext} {input : PushEventsInput}
    {state : HostedState} {auth : AuthorizedLogbook} {event : CoreEventEnvelope}
    (h : HostedServer.PushAccepts context input state auth event) :
    auth.MayPropose event.eventType ↔ auth.role.onlyPushed event.eventType = false := by
  have hLogs : auth.role.canLogQso = true := HostedServer.requireLogbookRole_allows h.member
  have hSupported := ((validateSupportedRemoteEvent_ok_iff event).mp h.validated).2.2
  rw [AuthorizedLogbook.mayPropose_iff]
  exact LogbookRole.proposable_iff hLogs hSupported

end Push

section
open Crates

/-- An operator was invited to the logbook of the administrator, has registered
and is logged in. -/
def withOperator : ServerState :=
  let invited := ((HostedServer.createInvitation { administratorRequest with
    draws := sampleDraws 300 } (.ok ⟨102, "op@example.test", .operator, none⟩)).execute
      afterBootstrap).1
  let registered := ((HostedServer.register (sampleRequest 400)
    (.ok { email := "op@example.test", displayName := none, deviceName := none,
           invitationToken := some (opaqueToken "invite" 102 313) })).execute invited).1
  let verified := ((HostedServer.verifyEmail (sampleRequest 500)
    (.ok (opaqueToken "verify" 400 409))).execute registered).1
  ((HostedServer.login (sampleRequest 600)
    (.ok { email := "op@example.test", displayName := none, deviceName := none })).execute
      verified).1

/-- A session of the operator. -/
def operatorRequest : RequestContext :=
  { sampleRequest 700 with bearer := some (opaqueToken "session" 400 606) }

theorem operator_member : ∃ auth, ((HostedServer.requireLogbookRole operatorRequest 102
    .logQso).execute withOperator).2 = .ok auth ∧ auth.role = .operator := by
  have hRole : ((HostedServer.requireLogbookRole operatorRequest 102 .logQso).execute
      withOperator).2.toOption.map AuthorizedLogbook.role = some .operator := by
    decide +kernel
  cases hAuth : ((HostedServer.requireLogbookRole operatorRequest 102 .logQso).execute
      withOperator).2 with
  | error fault =>
      rw [hAuth] at hRole
      cases hRole
  | ok auth =>
      rw [hAuth] at hRole
      exact ⟨auth, rfl, Option.some.inj hRole⟩

theorem operator_authorized : ((HostedServer.authorizeSync operatorRequest 102 .logQso).execute
    withOperator).2 = .ok () := by
  decide +kernel

/-- An operator pushes a first contact, and could have proposed it. -/
theorem pushed_within_rights_contact :
    ∃ auth, HostedServer.PushAccepts operatorRequest ⟨102, [firstContact]⟩ ⟨withOperator, {}⟩ auth
        firstContact ∧ auth.MayPropose firstContact.eventType := by
  obtain ⟨auth, hAuth, hRole⟩ := operator_member
  have hAccepted : HostedServer.PushAccepts operatorRequest ⟨102, [firstContact]⟩
      ⟨withOperator, {}⟩ auth firstContact :=
    HostedServer.pushAccepts_single hAuth operator_authorized rfl
      ((validateSupportedRemoteEvent_fromNew ..).mpr ⟨rfl, rfl⟩) rfl rfl
  refine ⟨auth, hAccepted, (pushed_within_rights_iff hAccepted).mpr ?_⟩
  rw [hRole]
  rfl

/-- The contact of the logbook is deleted. -/
def contactDeletion : CoreEventEnvelope :=
  CoreEventEnvelope.fromNew (sampleEvent .qsoDeleted 102 (some 7) .null)
    (some firstContact.eventHash) (sampleStamp 9)

/-- An operator, whose proposals must not delete contacts, deletes one by a
push. -/
theorem operator_deletes_by_push :
    ∃ auth, HostedServer.PushAccepts operatorRequest ⟨102, [contactDeletion]⟩
        ⟨withOperator, InMemoryLogbookEventStore.insertEvent {} firstContact⟩ auth
        contactDeletion ∧ auth.role = .operator ∧ ¬ auth.MayPropose contactDeletion.eventType := by
  obtain ⟨auth, hAuth, hRole⟩ := operator_member
  refine ⟨auth, HostedServer.pushAccepts_single hAuth operator_authorized rfl
    ((validateSupportedRemoteEvent_fromNew ..).mpr ⟨rfl, rfl⟩) ?_ ?_, hRole, ?_⟩
  · rw [InMemoryLogbookEventStore.getEvent_insertEvent]
    exact if_neg (by decide)
  · rw [InMemoryLogbookEventStore.getHead_insertEvent]
    exact (if_pos rfl).symm
  · rw [AuthorizedLogbook.mayPropose_iff, hRole]
    decide

end
end HamLogger
