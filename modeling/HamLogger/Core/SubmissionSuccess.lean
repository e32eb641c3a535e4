import HamLogger.Core.ProposalRuns

/-! Submissions over a bus that publishes everything. There a proposal succeeds
exactly where it passes every check, and a proposal that fails leaves the store
as it was. -/
namespace HamLogger

/-- The bus takes every event. -/
def Delivers (B : Type) [EventBus B] : Prop :=
  ∀ (bus : B) (event : BusEvent), ∃ later count, EventBus.publish bus event = (later, .ok count)

theorem delivers_inMemoryEventBus : Delivers InMemoryEventBus := by
  intro bus event
  cases event with
  | officialLogbookEvent event => exact ⟨_, _, rfl⟩
  | runtime event => exact ⟨_, _, rfl⟩

/-- Whatever the bus holds, the program succeeds with this store and value. -/
def Yields {S B α : Type} (program : Submission S B α) (store later : S) (value : α) : Prop :=
  ∀ bus, ∃ last, program.execute (store, bus) = ((later, last), .ok value)

section Programs
variable {S B α β : Type} {store middle later : S}

theorem Yields.bind {first : Submission S B α} {next : α → Submission S B β} {result : α}
    {value : β} (hFirst : Yields first store middle result)
    (hNext : Yields (next result) middle later value) :
    Yields (first >>= next) store later value := by
  intro bus
  obtain ⟨between, hBetween⟩ := hFirst bus
  obtain ⟨last, hLast⟩ := hNext between
  exact ⟨last, Program.execute_bind_ok.mpr ⟨_, _, hBetween, hLast⟩⟩

theorem yields_reading {f : S × B → Except (Fault ProposalValidationError) α} {value : α}
    (h : ∀ bus, f (store, bus) = .ok value) : Yields (Program.reading f) store store value := by
  intro bus
  exact ⟨bus, by rw [Program.execute_reading, h bus]⟩

theorem Yields.attempt {Caught : Type} {program : Submission S B α} {value : α}
    (h : Yields program store later value)
    (catches : Fault ProposalValidationError → Option Caught) :
    Yields (program.attempt catches) store later (.ok value) := by
  intro bus
  obtain ⟨last, hLast⟩ := h bus
  exact ⟨last, by rw [Program.attempt, Program.execute_ofFunction, hLast]⟩

variable [EventBus B] (hBus : Delivers B)
include hBus

theorem yields_publish (event : BusEvent) :
    Yields (publish event : Submission S B Unit) store store () := by
  intro bus
  obtain ⟨last, count, hPublish⟩ := hBus bus event
  exact ⟨last, by simp only [publish, Program.execute_ofFunction, hPublish]⟩

/-- An authorized proposal passes the permission checks. -/
theorem yields_authorizeProposal {context : ProposalContext} {proposal : ProposalEnvelope}
    (h : Authorized context proposal) :
    Yields (authorizeProposal context proposal : Submission S B Unit) store store () := by
  obtain ⟨capability, hCapability, hGranted⟩ := h.granted
  have hHas : context.pluginManifest.hasCapability capability ≠ false := by
    intro hNot
    rw [checkPluginPermission, if_pos hNot] at hGranted
    cases hGranted
  have hRole : context.operatorRole.canSubmit proposal.proposalType ≠ false := by
    rw [h.role]
    decide
  unfold authorizeProposal
  rw [if_neg (not_not.mpr h.plugin), hCapability]
  have hChecked : Yields (checkCapability context proposal capability : Submission S B Unit)
      store store () := by
    unfold checkCapability
    rw [if_neg hHas, hGranted]
    exact yields_publish hBus _
  refine hChecked.bind ?_
  unfold checkRole
  rw [if_neg hRole]
  exact fun bus => ⟨bus, rfl⟩

variable [LogbookEventStore S] [UuidCrate] [ChronoCrate] [RustFmt]

/-- A proposal that passes every check succeeds with its official event. -/
theorem yields_submitProposal {context : ProposalContext} {proposal : ProposalEnvelope}
    {stamp : SubmissionStamp} {newEvent : NewLogbookEvent} {official : CoreEventEnvelope}
    (h : Accepts store context proposal stamp.freshEntityId newEvent)
    (hAppend : LogbookEventStore.appendEvent store newEvent stamp.event = (later, .ok official)) :
    Yields (submitProposal context proposal stamp : Submission S B ProposalOutcome) store later
      { officialEvent := official } := by
  have hAppended : Yields (appendOfficialEvent newEvent stamp.event : Submission S B _) store later
      official := by
    intro bus
    exact ⟨bus, by simp only [appendOfficialEvent, Program.execute_ofFunction, hAppend]⟩
  have hInner : Yields (submitProposalInner context proposal stamp : Submission S B _) store later
      { officialEvent := official } := by
    unfold submitProposalInner
    refine (yields_authorizeProposal hBus h.authorized).bind ?_
    refine (yields_reading fun _ => h.valid).bind ?_
    refine (yields_reading fun _ => h.official).bind ?_
    exact hAppended.bind ((yields_publish hBus _).bind fun bus => ⟨bus, rfl⟩)
  unfold submitProposal
  refine (yields_publish hBus _).bind ((hInner.attempt reportedError).bind ?_)
  refine (yields_publish hBus _).bind ((yields_publish hBus _).bind ?_)
  exact (yields_publish hBus _).bind fun bus => ⟨bus, rfl⟩

end Programs

/-- Whatever the store and the bus hold, the program does not panic. -/
def Calm {S B α : Type} (program : Submission S B α) : Prop :=
  ∀ state, (program.execute state).2 ≠ .error .panic

section Panics
variable {S B α β : Type}

theorem calm_pure (value : α) : Calm (pure value : Submission S B α) :=
  fun _ h => by cases h

theorem calm_refuse (error : ProposalValidationError) : Calm (refuse error : Submission S B α) :=
  fun _ h => by cases h

theorem Calm.bind {first : Submission S B α} {next : α → Submission S B β} (hFirst : Calm first)
    (hNext : ∀ value, Calm (next value)) : Calm (first >>= next) := by
  intro state
  have hState := hFirst state
  rw [Program.execute_bind]
  rcases hRun : first.execute state with ⟨later, fault | value⟩
  · rw [hRun] at hState
    exact fun h => hState (congrArg Except.error (Except.error.inj h))
  · exact hNext value later

theorem calm_reading {f : S × B → Except (Fault ProposalValidationError) α}
    (h : ∀ state, f state ≠ .error .panic) : Calm (Program.reading f) :=
  fun state => h state

/-- Whatever can be reported is. -/
theorem Calm.attempt {program : Submission S B α} (h : Calm program) :
    Calm (program.attempt reportedError) := by
  intro state
  have hState := h state
  rw [Program.attempt, Program.execute_ofFunction]
  rcases hRun : program.execute state with ⟨later, (error | _) | value⟩
  · exact fun h => by cases h
  · rw [hRun] at hState
    exact absurd rfl hState
  · exact fun h => by cases h

variable [EventBus B]

theorem calm_publish (event : BusEvent) : Calm (publish event : Submission S B Unit) := by
  rintro ⟨store, bus⟩
  rw [publish, Program.execute_ofFunction]
  rcases hPublish : EventBus.publish bus event with ⟨later, error | count⟩ <;>
    simp [hPublish]

theorem calm_authorizeProposal (context : ProposalContext) (proposal : ProposalEnvelope) :
    Calm (authorizeProposal context proposal : Submission S B Unit) := by
  unfold authorizeProposal
  split
  · exact calm_refuse _
  · split
    · exact calm_refuse _
    · refine Calm.bind ?_ fun _ => ?_
      · unfold checkCapability
        split
        · exact (calm_publish _).bind fun _ => calm_refuse _
        · split
          · exact (calm_publish _).bind fun _ => calm_refuse _
          · exact calm_publish _
      · unfold checkRole
        split
        · exact (calm_publish _).bind fun _ => calm_refuse _
        · exact calm_pure _

variable [LogbookEventStore S] [UuidCrate] [ChronoCrate] [RustFmt]

/-- A submission panics only where the checks or the translation do. -/
theorem calm_submitProposal {context : ProposalContext} {proposal : ProposalEnvelope}
    {stamp : SubmissionStamp}
    (hSchema : ∀ store : S, validateQsoSchema store proposal ≠ .error .panic)
    (hOfficial : toOfficialEvent proposal stamp.freshEntityId ≠ .error .panic) :
    Calm (submitProposal context proposal stamp : Submission S B ProposalOutcome) := by
  have hAppend : ∀ newEvent,
      Calm (appendOfficialEvent newEvent stamp.event : Submission S B _) := by
    rintro newEvent ⟨store, bus⟩
    rw [appendOfficialEvent, Program.execute_ofFunction]
    rcases hStore : LogbookEventStore.appendEvent store newEvent stamp.event with
      ⟨later, error | official⟩ <;> simp [hStore]
  have hInner : Calm (submitProposalInner context proposal stamp : Submission S B _) := by
    unfold submitProposalInner
    refine (calm_authorizeProposal context proposal).bind fun _ => ?_
    refine (calm_reading fun state => hSchema state.1).bind fun _ => ?_
    refine (calm_reading fun _ => hOfficial).bind fun newEvent => ?_
    exact (hAppend newEvent).bind fun _ => (calm_publish _).bind fun _ => calm_pure _
  unfold submitProposal
  refine (calm_publish _).bind fun _ => hInner.attempt.bind fun result => ?_
  cases result with
  | error error => exact (calm_publish _).bind fun _ => calm_refuse _
  | ok outcome =>
      exact (calm_publish _).bind fun _ => (calm_publish _).bind fun _ =>
        (calm_publish _).bind fun _ => calm_pure _

end Panics
end HamLogger
