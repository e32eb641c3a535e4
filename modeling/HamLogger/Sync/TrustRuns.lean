import HamLogger.Core.Crates
import HamLogger.Sync.TrustStore

/-! Trust over whole runs: a device is trusted for the logbook it was last
trusted for until it is revoked, and a pairing token is accepted once, in time
and with its own code. -/
namespace HamLogger

open FileReplace (Cut Disk DocumentStore Plan)
open JsonLanTrustStore (LanCall)
open Transition (Run Since System not_since_nil since_snoc split_snoc)

/-- A call that was made, with its answer. -/
structure TrustStep where
  call : TrustCall
  cut : Option Cut
  answer : Except TrustFault TrustReply

namespace TrustStep

/-- The device was trusted for the logbook. -/
inductive Grants : TrustStep → Uuid → Uuid → Prop where
  | accepted (request : LanPairingAcceptance) (now : DateTime) (cut : Option Cut)
      (device : TrustedPeerDevice) (logbookId : Uuid) (h : device.logbookIds = [logbookId]) :
      Grants ⟨.write (.accept request) now, cut, .ok (.device device)⟩ request.peerDeviceId
        logbookId
  | trusted (request : LanPeerTrustUpdate) (now : DateTime) (cut : Option Cut)
      (reply : TrustReply) :
      Grants ⟨.write (.trust request) now, cut, .ok reply⟩ request.peerDeviceId request.logbookId

inductive Revokes : TrustStep → Uuid → Prop where
  | revoked (deviceId : Uuid) (now : DateTime) (cut : Option Cut) (reply : TrustReply) :
      Revokes ⟨.write (.revoke deviceId) now, cut, .ok reply⟩ deviceId

/-- The token and the code that were issued. -/
def issuedCode : TrustStep → Option (Uuid × String)
  | ⟨.write (.issue _ _ _ _ tokenId pairingCode) _, _, .ok _⟩ => some (tokenId, pairingCode)
  | _ => none

/-- The token and the code that were accepted. -/
def acceptedCode : TrustStep → Option (Uuid × String)
  | ⟨.write (.accept request) _, _, .ok _⟩ => some (request.tokenId, request.pairingCode)
  | _ => none

end TrustStep

theorem acceptedCode_accept (request : LanPairingAcceptance) (now : DateTime) (cut : Option Cut)
    (reply : TrustReply) :
    TrustStep.acceptedCode ⟨.write (.accept request) now, cut, .ok reply⟩ =
      some (request.tokenId, request.pairingCode) := rfl

/-- The device was trusted for the logbook, and has not been revoked since. -/
def TrustedSince (steps : List TrustStep) (deviceId logbookId : Uuid) : Prop :=
  Since (fun step => step.Grants deviceId logbookId) (fun step => step.Revokes deviceId) steps

theorem trustedSince_snoc {steps : List TrustStep} {step : TrustStep}
    {deviceId logbookId : Uuid} :
    TrustedSince (steps ++ [step]) deviceId logbookId ↔
      step.Grants deviceId logbookId ∨
        (TrustedSince steps deviceId logbookId ∧ ¬ step.Revokes deviceId) :=
  since_snoc

/-- The random identifier of a token is one that no token has. -/
def TrustCall.Fresh (file : LanTrustFile) : TrustCall → Prop
  | .write (.issue _ _ _ _ tokenId _) _ =>
      ∀ token ∈ file.pairingTokens, token.tokenId ≠ tokenId
  | _ => True

/-- The device and the logbook that a call would trust it for. -/
def TrustCall.proposes (file : LanTrustFile) : TrustCall → Option (Uuid × Uuid)
  | .write (.trust request) _ => some (request.peerDeviceId, request.logbookId)
  | .write (.accept request) _ =>
      (file.findToken request.tokenId).map fun token => (request.peerDeviceId, token.logbookId)
  | _ => none

section Runs
variable [UuidCrate] [Sha2Crate]

/-- The record is the one of the token that was issued. -/
def PairingTokenRecord.IssuedBy (token : PairingTokenRecord) (step : TrustStep) : Prop :=
  ∃ issuerDeviceId issuerDisplayName pairingCode cut reply,
    step = ⟨.write (.issue issuerDeviceId token.logbookId issuerDisplayName true token.tokenId
      pairingCode) token.createdAt, cut, .ok reply⟩ ∧
    token.tokenHash = pairingTokenHash token.tokenId pairingCode ∧
    token.createdAt.addSeconds defaultPairingTokenTtlSeconds = some token.expiresAt

/-- Every token that was accepted was issued before, for the logbook that was
granted and with a code of the same hash, and had not expired. -/
def Honoured (steps : List TrustStep) : Prop :=
  ∀ before request now cut device after,
    steps = before ++ ⟨.write (.accept request) now, cut, .ok (.device device)⟩ :: after →
    ∃ issue ∈ before, ∃ token : PairingTokenRecord, token.IssuedBy issue ∧
      token.tokenId = request.tokenId ∧ now ≤ token.expiresAt ∧
      token.tokenHash = pairingTokenHash request.tokenId request.pairingCode ∧
      device.logbookIds = [token.logbookId]

/-- What the tokens in the file say about the calls that were made. -/
structure TokensOf (steps : List TrustStep) (tokens : List PairingTokenRecord) : Prop where
  distinct : (tokens.map PairingTokenRecord.tokenId).Nodup
  issued : ∀ token ∈ tokens, ∃ step ∈ steps, token.IssuedBy step
  consumed : ∀ step ∈ steps, ∀ accepted, step.acceptedCode = some accepted →
    ∃ token ∈ tokens, token.tokenId = accepted.1 ∧ token.consumedAt.isSome = true
  once : ((steps.filterMap TrustStep.acceptedCode).map Prod.fst).Nodup
  honoured : Honoured steps

theorem honoured_snoc {steps : List TrustStep} (h : Honoured steps) {step : TrustStep}
    (hStep : ∀ request now cut device,
      step = ⟨.write (.accept request) now, cut, .ok (.device device)⟩ →
      ∃ issue ∈ steps, ∃ token : PairingTokenRecord, token.IssuedBy issue ∧
        token.tokenId = request.tokenId ∧ now ≤ token.expiresAt ∧
        token.tokenHash = pairingTokenHash request.tokenId request.pairingCode ∧
        device.logbookIds = [token.logbookId]) : Honoured (steps ++ [step]) := by
  intro before request now cut device after hSplit
  rcases split_snoc hSplit with ⟨_, hSame, rfl⟩ | ⟨middle, _, hInit⟩
  · exact hStep request now cut device hSame.symm
  · exact h before request now cut device middle hInit

/-- A call that accepts no token and leaves the tokens. -/
theorem TokensOf.unchanged {steps : List TrustStep} {tokens : List PairingTokenRecord}
    (h : TokensOf steps tokens) {step : TrustStep} (hStep : step.acceptedCode = none) :
    TokensOf (steps ++ [step]) tokens where
  distinct := h.distinct
  issued token hMem := by
    obtain ⟨issue, hIssue, hToken⟩ := h.issued token hMem
    exact ⟨issue, List.mem_append_left _ hIssue, hToken⟩
  consumed other hOther accepted hAccepted := by
    rcases List.mem_append.mp hOther with hOld | hNew
    · exact h.consumed other hOld accepted hAccepted
    · rw [List.mem_singleton.mp hNew, hStep] at hAccepted
      cases hAccepted
  once := by
    rw [List.filterMap_append, List.filterMap_cons_none hStep, List.filterMap_nil,
      List.append_nil]
    exact h.once
  honoured := by
    refine honoured_snoc h.honoured ?_
    intro request now cut device hSame
    rw [hSame, acceptedCode_accept] at hStep
    cases hStep

/-- A token that is issued. -/
theorem TokensOf.appended {steps : List TrustStep} {tokens : List PairingTokenRecord}
    (h : TokensOf steps tokens) {step : TrustStep} (hStep : step.acceptedCode = none)
    {token : PairingTokenRecord} (hToken : token.IssuedBy step)
    (hFresh : ∀ old ∈ tokens, old.tokenId ≠ token.tokenId) :
    TokensOf (steps ++ [step]) (tokens ++ [token]) where
  distinct := by
    rw [List.map_append, List.nodup_append]
    refine ⟨h.distinct, List.nodup_singleton _, ?_⟩
    intro id hId other hOther
    obtain ⟨old, hOld, rfl⟩ := List.mem_map.mp hId
    rw [List.mem_singleton.mp hOther]
    exact hFresh old hOld
  issued other hOther := by
    rcases List.mem_append.mp hOther with hOld | hNew
    · exact (h.unchanged hStep).issued other hOld
    · rw [List.mem_singleton.mp hNew]
      exact ⟨step, List.mem_append_right _ (List.mem_singleton.mpr rfl), hToken⟩
  consumed other hOther accepted hAccepted := by
    obtain ⟨old, hOld, hSame⟩ := (h.unchanged hStep).consumed other hOther accepted hAccepted
    exact ⟨old, List.mem_append_left _ hOld, hSame⟩
  once := (h.unchanged hStep).once
  honoured := (h.unchanged hStep).honoured

/-- A token that is accepted. -/
theorem TokensOf.accepted {steps : List TrustStep} {file : LanTrustFile}
    (h : TokensOf steps file.pairingTokens) {request : LanPairingAcceptance} {now : DateTime}
    {cut : Option Cut} {device : TrustedPeerDevice} {token : PairingTokenRecord}
    (hFound : file.findToken request.tokenId = some token) (hUnused : token.consumedAt = none)
    (hTime : now ≤ token.expiresAt)
    (hCode : token.tokenHash = pairingTokenHash request.tokenId request.pairingCode)
    (hDevice : device.logbookIds = [token.logbookId]) :
    TokensOf (steps ++ [⟨.write (.accept request) now, cut, .ok (.device device)⟩])
      (file.consumeToken request.tokenId now).pairingTokens := by
  have hMem : token ∈ file.pairingTokens := List.mem_of_find?_eq_some hFound
  have hId : token.tokenId = request.tokenId := by simpa using List.find?_some hFound
  obtain ⟨before, after, hBefore, hAfter⟩ := @updateFirst_of_find? _ _
    (fun token : PairingTokenRecord => { token with consumedAt := some now }) _ _ hFound
  have hKept : ∀ old ∈ file.pairingTokens,
      ∃ new ∈ (file.consumeToken request.tokenId now).pairingTokens,
        new = old ∨ new = { old with consumedAt := some now } := by
    intro old hOld
    obtain ⟨new, hNew, hSame⟩ := exists_right_of_forall₂ (forall₂_updateFirst _) hOld
    exact ⟨new, hNew, hSame.imp id And.right⟩
  have hSource : ∀ new ∈ (file.consumeToken request.tokenId now).pairingTokens,
      ∃ old ∈ file.pairingTokens, new = old ∨ new = { old with consumedAt := some now } := by
    intro new hNew
    obtain ⟨old, hOld, hSame⟩ := exists_left_of_forall₂ (forall₂_updateFirst _) hNew
    exact ⟨old, hOld, hSame.imp id And.right⟩
  refine ⟨?_, ?_, ?_, ?_, honoured_snoc h.honoured ?_⟩
  · have hIds : (file.consumeToken request.tokenId now).pairingTokens.map
        PairingTokenRecord.tokenId = file.pairingTokens.map PairingTokenRecord.tokenId :=
      map_updateFirst fun _ _ => rfl
    rw [hIds]
    exact h.distinct
  · intro new hNew
    obtain ⟨old, hOld, hSame⟩ := hSource new hNew
    obtain ⟨issue, hIssue, hToken⟩ := h.issued old hOld
    refine ⟨issue, List.mem_append_left _ hIssue, ?_⟩
    rcases hSame with rfl | rfl
    · exact hToken
    · exact hToken
  · intro step hStep accepted hAccepted
    rcases List.mem_append.mp hStep with hOld | hNew
    · obtain ⟨old, hOldMem, hOldId, hOldConsumed⟩ := h.consumed step hOld accepted hAccepted
      obtain ⟨new, hNew, hSame⟩ := hKept old hOldMem
      refine ⟨new, hNew, ?_⟩
      rcases hSame with rfl | rfl
      · exact ⟨hOldId, hOldConsumed⟩
      · exact ⟨hOldId, rfl⟩
    · rw [List.mem_singleton.mp hNew, acceptedCode_accept] at hAccepted
      cases hAccepted
      refine ⟨{ token with consumedAt := some now }, ?_, hId, rfl⟩
      rw [LanTrustFile.consumeToken, hAfter]
      simp
  · rw [List.filterMap_append, List.map_append, List.nodup_append]
    refine ⟨h.once, List.nodup_singleton request.tokenId, ?_⟩
    intro id hOld other hOther hSame
    obtain rfl : other = request.tokenId := List.mem_singleton.mp hOther
    obtain ⟨accepted, hAccepted, hFirst⟩ := List.mem_map.mp hOld
    obtain ⟨step, hStep, hCodeOf⟩ := List.mem_filterMap.mp hAccepted
    obtain ⟨used, hUsed, hUsedId, hConsumed⟩ := h.consumed step hStep accepted hCodeOf
    have hSameId : used.tokenId = token.tokenId := by rw [hUsedId, hFirst, hSame, hId]
    obtain rfl := List.inj_on_of_nodup_map h.distinct hUsed hMem hSameId
    rw [hUnused] at hConsumed
    cases hConsumed
  · intro other time cut' peer hSame
    cases hSame
    obtain ⟨issue, hIssue, hToken⟩ := h.issued token hMem
    exact ⟨issue, hIssue, token, hToken, hId, hTime, hCode, hDevice⟩

/-! Steps of the trust store. -/

/-- A successful call that writes saves what it wrote. -/
theorem written_of_perform {file : LanTrustFile} {call : LanCall} {now : DateTime}
    {reply : TrustReply} {saved : Option LanTrustFile}
    (h : TrustCall.perform (.write call now) (.ok file) = .ok (reply, saved)) :
    ∃ next, saved = some next ∧ TrustCall.written file now call = .ok (reply, next) := by
  have hWritten : ((TrustCall.written file now call).mapError FileError.own).map
      (fun result => (result.1, some result.2)) = .ok (reply, saved) := by
    cases call with
    | issue _ _ _ approvedByOperator =>
        cases approvedByOperator with
        | true => exact h
        | false => cases h
    | accept | trust | rotate | authorize | revoke => exact h
  obtain ⟨⟨value, next⟩, hValue, hPair⟩ := (except_map_eq_ok_iff _ _ _).mp hWritten
  cases hPair
  refine ⟨next, rfl, ?_⟩
  cases hCall : TrustCall.written file now call with
  | ok result =>
      rw [hCall] at hValue
      cases hValue
      rfl
  | error fault =>
      rw [hCall] at hValue
      cases fault <;> cases hValue

/-- Calls one after the other, each carried out, cut off by a crash, or ended
by an error of the file system. -/
def trustSystem : System (Disk LanTrustFile) TrustStep where
  step disk label later :=
    (∀ file, trustStore.load disk = .ok file → label.call.Fresh file) ∧
      label.answer = trustStore.store.answer disk label.call label.cut ∧
      later = trustStore.store.next disk label.call label.cut

/-- A step of the store either leaves the file, and is no call that wrote, or
has the effect of the call that it is. -/
theorem step_effect {disk later : Disk LanTrustFile} {step : TrustStep}
    (h : trustSystem.step disk step later)
    (hWhole : step.cut = some .oldRemoved → disk.file = none) {file : LanTrustFile}
    (hLoad : trustStore.load disk = .ok file) :
    (trustStore.load later = .ok file ∧
      ∀ call now reply, step.call = .write call now → step.answer ≠ .ok reply) ∨
    ∃ call now reply next, step = ⟨.write call now, none, .ok reply⟩ ∧
      TrustCall.Effect file now call reply next ∧ trustStore.load later = .ok next := by
  obtain ⟨call, cut, answer⟩ := step
  obtain ⟨_, hAnswer, rfl⟩ := h
  dsimp only at hAnswer hWhole
  subst hAnswer
  cases hReply : trustStore.store.answer disk call cut with
  | error fault =>
      have hFile := DocumentStore.file_of_error hWhole hReply
      refine Or.inl ⟨?_, fun _ _ _ _ hOk => by cases hOk⟩
      rw [trustStore.load_of_contents (Disk.contents_of_file hFile), hLoad]
  | ok reply =>
      obtain ⟨rfl, saved, hPerform⟩ := DocumentStore.perform_of_answer hReply
      have hCall := hPerform
      rw [hLoad] at hCall
      cases call with
      | write written now =>
          obtain ⟨next, rfl, hWritten⟩ := written_of_perform hCall
          obtain ⟨hValid, hEffect⟩ := TrustCall.effect_of_written hWritten
          have hLater := DocumentStore.load_of_saved hPerform
          have hRead : trustStore.read (some next) = .ok next :=
            readTrustFile_eq_ok_iff.mpr ⟨rfl, hValid⟩
          exact Or.inr ⟨written, now, reply, next, rfl, hEffect, hLater.trans hRead⟩
      | trustedPeer deviceId logbookId =>
          obtain ⟨device, _, hPair⟩ := (except_map_eq_ok_iff _ _ _).mp hCall
          cases hPair
          rw [DocumentStore.next_of_unsaved hPerform]
          exact Or.inl ⟨hLoad, fun _ _ _ hWrite => by cases hWrite⟩
      | snapshot =>
          cases hCall
          rw [DocumentStore.next_of_unsaved hPerform]
          exact Or.inl ⟨hLoad, fun _ _ _ hWrite => by cases hWrite⟩

/-- The step trusts no device for a logbook while it is trusted for another
one, and is not cut off between the removal of the file and the renaming. -/
structure KeepsTrust (disk : Disk LanTrustFile) (step : TrustStep) : Prop where
  oneLogbook : ∀ file, trustStore.load disk = .ok file →
    ∀ deviceId logbookId, step.call.proposes file = some (deviceId, logbookId) →
    ∀ other ∈ file.scope deviceId, other = logbookId
  whole : step.cut = some .oldRemoved → disk.file = none

/-- What a call that writes does to the trust in a device. -/
theorem mem_scope_of_effect {file next : LanTrustFile} {call : LanCall} {now : DateTime}
    {reply : TrustReply} (h : TrustCall.Effect file now call reply next)
    (hOne : ∀ deviceId logbookId, TrustCall.proposes file (.write call now) =
      some (deviceId, logbookId) → ∀ other ∈ file.scope deviceId, other = logbookId)
    (deviceId logbookId : Uuid) :
    logbookId ∈ next.scope deviceId ↔
      TrustStep.Grants ⟨.write call now, none, .ok reply⟩ deviceId logbookId ∨
        (logbookId ∈ file.scope deviceId ∧
          ¬ TrustStep.Revokes ⟨.write call now, none, .ok reply⟩ deviceId) := by
  cases h with
  | issued expires tokens scope | rotated tokens scope found | authorized tokens scope found =>
      rw [scope]
      exact ⟨fun hMem => Or.inr ⟨hMem, nofun⟩, fun h => h.elim nofun And.left⟩
  | @accepted request token device next found fresh inTime code tokens peer granted scope =>
      have hProposes : TrustCall.proposes file (.write (.accept request) now) =
          some (request.peerDeviceId, token.logbookId) := by
        rw [TrustCall.proposes, found]
        rfl
      rw [scope]
      by_cases hPeer : deviceId = request.peerDeviceId
      · subst hPeer
        rw [if_pos rfl, List.mem_singleton]
        constructor
        · rintro rfl
          exact Or.inl (.accepted request now none device _ granted)
        · rintro (hGrants | ⟨hMem, _⟩)
          · cases hGrants with
            | accepted _ _ _ _ _ hLogbook =>
                exact List.singleton_inj.mp (hLogbook.symm.trans granted)
          · exact hOne _ _ hProposes logbookId hMem
      · rw [if_neg hPeer]
        constructor
        · exact fun hMem => Or.inr ⟨hMem, nofun⟩
        · rintro (hGrants | ⟨hMem, _⟩)
          · cases hGrants
            exact absurd rfl hPeer
          · exact hMem
  | @trusted request device next tokens peer granted scope =>
      rw [scope]
      by_cases hPeer : deviceId = request.peerDeviceId
      · subst hPeer
        rw [if_pos rfl, List.mem_singleton]
        constructor
        · rintro rfl
          exact Or.inl (.trusted request now none _)
        · rintro (hGrants | ⟨hMem, _⟩)
          · cases hGrants
            rfl
          · exact hOne _ _ rfl logbookId hMem
      · rw [if_neg hPeer]
        constructor
        · exact fun hMem => Or.inr ⟨hMem, nofun⟩
        · rintro (hGrants | ⟨hMem, _⟩)
          · cases hGrants
            exact absurd rfl hPeer
          · exact hMem
  | @revoked target reply next tokens scope found =>
      rw [scope]
      by_cases hTarget : deviceId = target
      · subst hTarget
        rw [if_pos rfl]
        constructor
        · exact nofun
        · rintro (hGrants | ⟨_, hKept⟩)
          · cases hGrants
          · exact absurd (.revoked deviceId now none reply) hKept
      · rw [if_neg hTarget]
        constructor
        · refine fun hMem => Or.inr ⟨hMem, fun hRevokes => ?_⟩
          cases hRevokes
          exact hTarget rfl
        · rintro (hGrants | ⟨hMem, _⟩)
          · cases hGrants
          · exact hMem

theorem tokensOf_of_effect {steps : List TrustStep} {file next : LanTrustFile} {call : LanCall}
    {now : DateTime} {reply : TrustReply} (h : TokensOf steps file.pairingTokens)
    (hFresh : TrustCall.Fresh file (.write call now))
    (hEffect : TrustCall.Effect file now call reply next) :
    TokensOf (steps ++ [⟨.write call now, none, .ok reply⟩]) next.pairingTokens := by
  cases hEffect with
  | @issued issuer logbookId tokenId name code reply expiresAt next expires tokens scope =>
      rw [tokens]
      refine h.appended rfl ?_ hFresh
      exact ⟨issuer, name, code, none, reply, rfl, rfl, expires⟩
  | accepted found fresh inTime code tokens peer granted scope =>
      rw [tokens]
      exact h.accepted found fresh inTime code granted
  | trusted tokens peer granted scope =>
      rw [tokens]
      exact h.unchanged rfl
  | rotated tokens scope found =>
      rw [tokens]
      exact h.unchanged rfl
  | authorized tokens scope found =>
      rw [tokens]
      exact h.unchanged rfl
  | revoked tokens scope found =>
      rw [tokens]
      exact h.unchanged rfl

/-- What the trust file says about the calls that were made. -/
structure RecordsTrust (steps : List TrustStep) (file : LanTrustFile) : Prop where
  scope : ∀ deviceId logbookId,
    logbookId ∈ file.scope deviceId ↔ TrustedSince steps deviceId logbookId
  tokens : TokensOf steps file.pairingTokens

theorem recordsTrust_empty : RecordsTrust [] {} where
  scope _ _ := ⟨fun hMem => absurd hMem List.not_mem_nil, fun h => absurd h (not_since_nil _ _)⟩
  tokens :=
    { distinct := List.nodup_nil
      issued := fun _ hMem => absurd hMem List.not_mem_nil
      consumed := fun _ hMem => absurd hMem List.not_mem_nil
      once := List.nodup_nil
      honoured := fun _ _ _ _ _ _ h => by simp at h }

theorem recordsTrust_snoc {steps : List TrustStep} {step : TrustStep}
    {disk later : Disk LanTrustFile} {file : LanTrustFile}
    (hLoad : trustStore.load disk = .ok file) (h : RecordsTrust steps file)
    (hStep : (trustSystem.restrict KeepsTrust).step disk step later) :
    ∃ next, trustStore.load later = .ok next ∧ RecordsTrust (steps ++ [step]) next := by
  obtain ⟨hAllowed, hTaken⟩ := hStep
  have hFresh := hTaken.1 file hLoad
  rcases step_effect hTaken hAllowed.whole hLoad with ⟨hSame, hNoWrite⟩ |
    ⟨call, now, reply, next, rfl, hEffect, hLater⟩
  · refine ⟨file, hSame, ?_, h.tokens.unchanged ?_⟩
    · intro deviceId logbookId
      rw [h.scope, trustedSince_snoc]
      refine ⟨fun hSince => Or.inr ⟨hSince, fun hRevokes => ?_⟩, ?_⟩
      · cases hRevokes
        exact hNoWrite _ _ _ rfl rfl
      · rintro (hGrants | ⟨hSince, _⟩)
        · cases hGrants with
          | accepted => exact absurd rfl (hNoWrite _ _ _ rfl)
          | trusted => exact absurd rfl (hNoWrite _ _ _ rfl)
        · exact hSince
    · obtain ⟨call, cut, answer⟩ := step
      cases answer with
      | error fault =>
          cases call with
          | write written now => cases written <;> rfl
          | trustedPeer | snapshot => rfl
      | ok reply =>
          cases call with
          | write written now => exact absurd rfl (hNoWrite written now reply rfl)
          | trustedPeer | snapshot => rfl
  · refine ⟨next, hLater, ?_, tokensOf_of_effect h.tokens hFresh hEffect⟩
    intro deviceId logbookId
    rw [trustedSince_snoc, ← h.scope]
    exact mem_scope_of_effect hEffect (hAllowed.oneLogbook file hLoad) deviceId logbookId

/-- Codes of the same token with the same hash are the same, among the codes
that were issued and presented. -/
def NoCollision (steps : List TrustStep) : Prop :=
  ∀ issue ∈ steps, ∀ step ∈ steps, ∀ tokenId issued presented,
    issue.issuedCode = some (tokenId, issued) → step.acceptedCode = some (tokenId, presented) →
    pairingTokenHash tokenId presented = pairingTokenHash tokenId issued → presented = issued

/-- The acceptance is of a token that was issued: with its code, before it
expired, and for its logbook. -/
structure AcceptsIssued (issue : TrustStep) (request : LanPairingAcceptance) (now : DateTime)
    (device : TrustedPeerDevice) : Prop where
  code : issue.issuedCode = some (request.tokenId, request.pairingCode)
  inTime : ∃ token : PairingTokenRecord, token.IssuedBy issue ∧ now ≤ token.expiresAt ∧
    device.logbookIds = [token.logbookId]

/-- In every run in which no device is trusted for two logbooks at a time, and
whose codes do not collide, the store trusts the devices that were trusted and
not revoked since, a token is accepted at most once and as it was issued, and
a call that fails leaves the file. -/
theorem trust_follows_history {steps : List TrustStep} {disk : Disk LanTrustFile}
    (run : Run (trustSystem.restrict KeepsTrust) {} steps disk) (hCodes : NoCollision steps) :
    (∀ deviceId logbookId,
      (∃ reply, trustStore.store.answer disk (.trustedPeer deviceId logbookId) none = .ok reply) ↔
        TrustedSince steps deviceId logbookId) ∧
    ((steps.filterMap TrustStep.acceptedCode).map Prod.fst).Nodup ∧
    (∀ before request now cut device after,
      steps = before ++ ⟨.write (.accept request) now, cut, .ok (.device device)⟩ :: after →
      ∃ issue ∈ before, AcceptsIssued issue request now device) ∧
    ∀ (call : TrustCall) (cut : Option Cut) (fault : TrustFault),
      (cut = some .oldRemoved → disk.file = none) →
      trustStore.store.answer disk call cut = .error fault →
      (trustStore.store.next disk call cut).file = disk.file := by
  obtain ⟨file, hLoad, hRecords⟩ : ∃ file, trustStore.load disk = .ok file ∧
      RecordsTrust steps file := by
    refine run.history (P := fun steps disk => ∃ file, trustStore.load disk = .ok file ∧
      RecordsTrust steps file) ⟨{}, rfl, recordsTrust_empty⟩ ?_
    rintro seen before step after ⟨file, hLoad, hRecords⟩ hStep
    exact recordsTrust_snoc hLoad hRecords hStep
  refine ⟨?_, hRecords.tokens.once, ?_, fun _ _ _ hWhole => DocumentStore.file_of_error hWhole⟩
  · intro deviceId logbookId
    rw [← hRecords.scope, ← LanTrustFile.trustedPeer_succeeds_iff]
    have hPlan : (trustStore.store.plan disk (.trustedPeer deviceId logbookId)).outcome =
        ((file.trustedPeer deviceId logbookId).mapError FileError.own).map
          (fun device => (.device device, none)) := by
      show TrustCall.perform (.trustedPeer deviceId logbookId) (trustStore.load disk) = _
      rw [hLoad]
      rfl
    constructor
    · rintro ⟨reply, hAnswer⟩
      obtain ⟨_, saved, hOutcome⟩ := Plan.response_eq_ok hAnswer
      cases hPeer : file.trustedPeer deviceId logbookId with
      | ok device => exact ⟨device, rfl⟩
      | error fault =>
          rw [hPlan, hPeer] at hOutcome
          cases fault <;> cases hOutcome
    · rintro ⟨device, hPeer⟩
      rw [hPeer] at hPlan
      exact ⟨_, Plan.response_of_ok _ hPlan⟩
  · intro before request now cut device after hSplit
    obtain ⟨issue, hIssue, token, hToken, hId, hTime, hHash, hDevice⟩ :=
      hRecords.tokens.honoured before request now cut device after hSplit
    have hCode : issue.issuedCode = some (request.tokenId, request.pairingCode) := by
      obtain ⟨issuer, name, code, issueCut, reply, hSame, hIssuedHash, _⟩ := hToken
      have hIssued : issue.issuedCode = some (request.tokenId, code) := by
        rw [hSame, ← hId]
        rfl
      have hBefore : issue ∈ steps := by
        rw [hSplit]
        exact List.mem_append_left _ hIssue
      have hAccept : (⟨.write (.accept request) now, cut, .ok (.device device)⟩ : TrustStep) ∈
          steps := by
        rw [hSplit]
        exact List.mem_append_right _ List.mem_cons_self
      have hHashes : pairingTokenHash request.tokenId request.pairingCode =
          pairingTokenHash request.tokenId code := by
        rw [← hHash, hIssuedHash, hId]
      rw [hIssued, hCodes issue hBefore _ hAccept request.tokenId code request.pairingCode
        hIssued rfl hHashes]
    exact ⟨issue, hIssue, hCode, token, hToken, hTime, hDevice⟩

end Runs

section
open Crates JsonLanTrustStore

theorem trust_follows_history_laptop :
    let disk := trustStore.store.next {} (.write (.trust samplePeer) epoch) none
    ∃ reply, trustStore.store.answer disk (.trustedPeer 1 2) none = .ok reply := by
  intro disk
  obtain ⟨reply, hReply⟩ : ∃ reply, trustStore.store.answer {}
      (.write (.trust samplePeer) epoch) none = .ok reply := ⟨_, rfl⟩
  have hStep : (trustSystem.restrict KeepsTrust).step {}
      ⟨.write (.trust samplePeer) epoch, none, .ok reply⟩ disk := by
    refine ⟨⟨?_, fun h => by cases h⟩, fun _ _ => trivial, hReply.symm, rfl⟩
    intro file hFile deviceId logbookId _ other hOther
    cases hFile
    cases hOther
  have hCodes : NoCollision [⟨.write (.trust samplePeer) epoch, none, .ok reply⟩] := by
    intro issue hIssue _ _ tokenId issued presented hIssued
    rw [List.mem_singleton.mp hIssue] at hIssued
    cases hIssued
  have hSince : TrustedSince [⟨.write (.trust samplePeer) epoch, none, .ok reply⟩] 1 2 :=
    ⟨[], _, [], rfl, .trusted samplePeer epoch none reply,
      fun _ hMem => absurd hMem List.not_mem_nil⟩
  exact ((trust_follows_history (Run.single hStep) hCodes).1 1 2).mpr hSince

/-- A device that is trusted for a second logbook is not trusted for the first
one any more. -/
theorem second_logbook_replaces_first :
    let second := { samplePeer with logbookId := 3 }
    let disk := trustStore.store.next {} (.write (.trust samplePeer) epoch) none
    let later := trustStore.store.next disk (.write (.trust second) epoch) none
    ∃ reply again, let steps : List TrustStep :=
        [⟨.write (.trust samplePeer) epoch, none, .ok reply⟩,
         ⟨.write (.trust second) epoch, none, .ok again⟩]
      Run trustSystem {} steps later ∧ TrustedSince steps 1 2 ∧
        trustStore.store.answer later (.trustedPeer 1 2) none =
          .error (.error (.own (.wrongLogbook 1 2))) := by
  intro second disk later
  obtain ⟨reply, hReply⟩ : ∃ reply, trustStore.store.answer {}
      (.write (.trust samplePeer) epoch) none = .ok reply := ⟨_, rfl⟩
  obtain ⟨again, hAgain⟩ : ∃ again, trustStore.store.answer disk
      (.write (.trust second) epoch) none = .ok again := ⟨_, rfl⟩
  have hFirst : trustSystem.step {} ⟨.write (.trust samplePeer) epoch, none, .ok reply⟩ disk :=
    ⟨fun _ _ => trivial, hReply.symm, rfl⟩
  have hSecond : trustSystem.step disk ⟨.write (.trust second) epoch, none, .ok again⟩ later :=
    ⟨fun _ _ => trivial, hAgain.symm, rfl⟩
  refine ⟨reply, again, Run.snoc (Run.single hFirst) hSecond, ?_, rfl⟩
  refine ⟨[], _, [_], rfl, .trusted samplePeer epoch none reply, ?_⟩
  intro step hStep hRevokes
  rw [List.mem_singleton.mp hStep] at hRevokes
  cases hRevokes

end

end HamLogger
