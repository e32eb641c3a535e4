import HamLogger.Core.Proposal

/-! What one submission does to the store: nothing, or one append of the
official event of a proposal that passed every check. -/
namespace HamLogger

open Program (Ensures)

section Steps
variable {S B : Type} [EventBus B] {store : S}

/-- Publishing leaves the store alone. -/
theorem publish_keeps (event : BusEvent) (bus : B) :
    Ensures (publish event : Submission S B Unit) (store, bus) fun later _ => later.1 = store := by
  unfold Ensures publish
  rw [Program.execute_ofFunction]
  rcases hPublish : EventBus.publish bus event with ⟨later, error | count⟩
  · simp [hPublish]
  · simp [hPublish]

/-- Publishing and then refusing does not succeed and leaves the store alone. -/
theorem publish_refuse_keeps {α : Type} (event : BusEvent) (error : ProposalValidationError)
    (bus : B) (fact : Prop) :
    Ensures (do publish event; refuse error : Submission S B α) (store, bus)
      fun later outcome => later.1 = store ∧ (∀ value, outcome = .ok value → fact) := by
  refine (publish_keeps event bus).bind ?_ ?_
  · intro later fault hStore
    exact ⟨hStore, fun value h => by cases h⟩
  · intro later _ hStore
    exact Ensures.throw ⟨hStore, fun value h => by cases h⟩

/-- The permissions a proposal needs. -/
structure Authorized (context : ProposalContext) (proposal : ProposalEnvelope) : Prop where
  plugin : proposal.sourcePluginId = context.pluginManifest.pluginId
  granted : ∃ capability, requiredCapability proposal.proposalType = .ok capability ∧
    checkPluginPermission context.pluginManifest context.permissionGrants capability = .ok ()
  role : context.operatorRole.canSubmit proposal.proposalType = true

variable (context : ProposalContext) (proposal : ProposalEnvelope)

theorem checkCapability_ensures (capability : PluginCapability) (bus : B) :
    Ensures (checkCapability context proposal capability) (store, bus) fun later outcome =>
      later.1 = store ∧ ∀ value, outcome = .ok value →
        checkPluginPermission context.pluginManifest context.permissionGrants capability
          = .ok () := by
  unfold checkCapability
  split
  · exact publish_refuse_keeps ..
  · split
    · exact publish_refuse_keeps ..
    · rename_i hGranted
      exact (publish_keeps _ bus).mono fun later outcome hStore => ⟨hStore, fun _ _ => hGranted⟩

theorem checkRole_ensures (capability : PluginCapability) (bus : B) :
    Ensures (checkRole context proposal capability) (store, bus) fun later outcome =>
      later.1 = store ∧ ∀ value, outcome = .ok value →
        context.operatorRole.canSubmit proposal.proposalType = true := by
  unfold checkRole
  split
  · exact publish_refuse_keeps ..
  · rename_i hRole
    exact Ensures.pure ⟨rfl, fun _ _ => by simpa using hRole⟩

/-- The permission checks leave the store alone and let only authorized
proposals through. -/
theorem authorizeProposal_ensures (bus : B) :
    Ensures (authorizeProposal context proposal) (store, bus) fun later outcome =>
      later.1 = store ∧ ∀ value, outcome = .ok value → Authorized context proposal := by
  unfold authorizeProposal
  split
  · exact Ensures.throw ⟨rfl, fun value h => by cases h⟩
  · rename_i hPlugin
    split
    · exact Ensures.throw ⟨rfl, fun value h => by cases h⟩
    · rename_i capability hCapability
      refine (checkCapability_ensures context proposal capability bus).bind ?_ ?_
      · intro later fault h
        exact ⟨h.1, fun value hOk => by cases hOk⟩
      · rintro ⟨_, bus'⟩ value ⟨rfl, hGranted⟩
        refine (checkRole_ensures context proposal capability bus').mono ?_
        intro later outcome h
        exact ⟨h.1, fun value hOk =>
          ⟨not_not.mp hPlugin, ⟨capability, hCapability, hGranted _ rfl⟩, h.2 value hOk⟩⟩

end Steps

section Outcome
variable {S B : Type} [LogbookEventStore S]

theorem appendOfficialEvent_ensures {store : S} (stamp : EventStamp) (newEvent : NewLogbookEvent)
    (bus : B) :
    Ensures (appendOfficialEvent newEvent stamp) (store, bus) fun later outcome =>
      later.1 = (LogbookEventStore.appendEvent store newEvent stamp).1 ∧
      ∀ official, outcome = .ok official →
        (LogbookEventStore.appendEvent store newEvent stamp).2 = .ok official := by
  unfold Ensures appendOfficialEvent
  rw [Program.execute_ofFunction]
  dsimp only
  rcases LogbookEventStore.appendEvent store newEvent stamp with ⟨later, error | official⟩
  · exact ⟨rfl, fun _ h => by cases h⟩
  · refine ⟨rfl, fun _ h => ?_⟩
    cases h
    rfl

variable [UuidCrate] [ChronoCrate]

/-- The proposal passes every check, and this is its official event. -/
structure Accepts (store : S) (context : ProposalContext) (proposal : ProposalEnvelope)
    (fresh : Uuid) (newEvent : NewLogbookEvent) : Prop where
  authorized : Authorized context proposal
  valid : validateQsoSchema store proposal = .ok ()
  official : toOfficialEvent proposal fresh = .ok newEvent

/-- The proposal is refused and the store is as before, or it passes every
check and its official event is appended. An appended event does not make the
submission succeed: the bus can still fail after it. -/
def SubmissionLeaves (store : S) (context : ProposalContext) (proposal : ProposalEnvelope)
    (stamp : SubmissionStamp) (later : S)
    (outcome : Outcome ProposalValidationError ProposalOutcome) : Prop :=
  (later = store ∧ ∀ accepted, outcome ≠ .ok accepted) ∨
  ∃ newEvent, Accepts store context proposal stamp.freshEntityId newEvent ∧
    later = (LogbookEventStore.appendEvent store newEvent stamp.event).1 ∧
    ∀ accepted, outcome = .ok accepted →
      (LogbookEventStore.appendEvent store newEvent stamp.event).2 = .ok accepted.officialEvent

variable [EventBus B] {store : S} (context : ProposalContext) (proposal : ProposalEnvelope)
  (stamp : SubmissionStamp)

theorem submitProposalInner_ensures (bus : B) :
    Ensures (submitProposalInner context proposal stamp) (store, bus) fun later outcome =>
      SubmissionLeaves store context proposal stamp later.1 outcome := by
  unfold submitProposalInner
  refine (authorizeProposal_ensures context proposal bus).bind ?_ ?_
  · intro later fault h
    exact Or.inl ⟨h.1, fun accepted hOk => by cases hOk⟩
  rintro ⟨store, bus⟩ value ⟨rfl, hAuthorized⟩
  refine (Ensures.reading (Q := fun later outcome =>
    later = (store, bus) ∧ outcome = validateQsoSchema store proposal) ⟨rfl, rfl⟩).bind ?_ ?_
  · rintro _ fault ⟨rfl, _⟩
    exact Or.inl ⟨rfl, fun accepted hOk => by cases hOk⟩
  rintro _ ⟨⟩ ⟨rfl, hValid⟩
  refine (Ensures.reading (Q := fun later outcome => later = (store, bus) ∧
    outcome = toOfficialEvent proposal stamp.freshEntityId) ⟨rfl, rfl⟩).bind ?_ ?_
  · rintro _ fault ⟨rfl, _⟩
    exact Or.inl ⟨rfl, fun accepted hOk => by cases hOk⟩
  rintro _ newEvent ⟨rfl, hOfficial⟩
  have hAccepts : Accepts store context proposal stamp.freshEntityId newEvent :=
    ⟨hAuthorized value rfl, hValid.symm, hOfficial.symm⟩
  refine (appendOfficialEvent_ensures stamp.event newEvent bus).bind ?_ ?_
  · rintro later fault ⟨hStore, _⟩
    exact Or.inr ⟨newEvent, hAccepts, hStore, fun accepted hOk => by cases hOk⟩
  rintro ⟨later, bus⟩ official ⟨hStore, hAppended⟩
  refine (publish_keeps (.officialLogbookEvent official) bus).bind ?_ ?_
  · rintro ⟨_, bus⟩ fault rfl
    exact Or.inr ⟨newEvent, hAccepts, hStore, fun accepted hOk => by cases hOk⟩
  · rintro ⟨_, bus⟩ _ rfl
    refine Ensures.pure (Or.inr ⟨newEvent, hAccepts, hStore, ?_⟩)
    intro accepted hOk
    obtain rfl := Except.ok.inj hOk
    exact hAppended official rfl

/-- Whatever the outcome was, failing afterwards says nothing more. -/
theorem SubmissionLeaves.fails {later : S} {outcome : Outcome _ ProposalOutcome}
    (h : SubmissionLeaves store context proposal stamp later outcome)
    (fault : Fault ProposalValidationError) :
    SubmissionLeaves store context proposal stamp later (.error fault) := by
  rcases h with ⟨hStore, _⟩ | ⟨newEvent, hAccepts, hStore, _⟩
  · exact Or.inl ⟨hStore, fun accepted hOk => by cases hOk⟩
  · exact Or.inr ⟨newEvent, hAccepts, hStore, fun accepted hOk => by cases hOk⟩

/-- Publishing after the outcome is known neither changes the store nor turns
a refusal into a success. -/
theorem SubmissionLeaves.publish_bind {later : S} {outcome : Outcome _ ProposalOutcome}
    (h : SubmissionLeaves store context proposal stamp later outcome) (event : BusEvent) (bus : B)
    {next : Unit → Submission S B ProposalOutcome}
    (hNext : ∀ bus, Ensures (next ()) (later, bus) fun last outcome =>
      SubmissionLeaves store context proposal stamp last.1 outcome) :
    Ensures (publish event >>= next) (later, bus) fun last outcome =>
      SubmissionLeaves store context proposal stamp last.1 outcome := by
  refine (publish_keeps event bus).bind ?_ ?_
  · rintro ⟨_, bus⟩ fault rfl
    exact h.fails context proposal stamp fault
  · rintro ⟨_, bus⟩ _ rfl
    exact hNext bus

variable (store) in
/-- What a submission does to the store. -/
theorem submitProposal_ensures [RustFmt] (bus : B) :
    Ensures (submitProposal context proposal stamp) (store, bus) fun later outcome =>
      SubmissionLeaves store context proposal stamp later.1 outcome := by
  have hReceived : SubmissionLeaves store context proposal stamp store (.error .panic) :=
    Or.inl ⟨rfl, fun accepted hOk => by cases hOk⟩
  unfold submitProposal
  refine hReceived.publish_bind context proposal stamp _ bus fun bus => ?_
  -- The outcome is a success only where the inner submission succeeded.
  refine ((submitProposalInner_ensures context proposal stamp bus).attempt (Q :=
    fun later result => match result with
      | .ok (.ok accepted) => SubmissionLeaves store context proposal stamp later.1 (.ok accepted)
      | _ => SubmissionLeaves store context proposal stamp later.1 (.error .panic))
    (fun later accepted h => h)
    (fun later fault caught h _ => h.fails context proposal stamp .panic)
    (fun later fault h _ => h.fails context proposal stamp .panic)).bind ?_ ?_
  · intro later fault h
    exact SubmissionLeaves.fails context proposal stamp h fault
  · rintro ⟨later, bus⟩ (error | accepted) h
    · refine SubmissionLeaves.publish_bind context proposal stamp h _ bus fun bus => ?_
      exact Ensures.throw (SubmissionLeaves.fails context proposal stamp h _)
    · refine SubmissionLeaves.publish_bind context proposal stamp h _ bus fun bus => ?_
      refine SubmissionLeaves.publish_bind context proposal stamp h _ bus fun bus => ?_
      refine SubmissionLeaves.publish_bind context proposal stamp h _ bus fun bus => ?_
      exact Ensures.pure h

end Outcome
end HamLogger
