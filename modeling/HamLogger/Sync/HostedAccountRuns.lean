import HamLogger.Core.Crates
import HamLogger.Library.Transition
import HamLogger.Sync.HostedAccount

/-! Which servers the tokens of a hosted account reach, over runs of calls that
configure the client and carry requests out. -/
namespace HamLogger

open FileReplace (Cut Disk)
open Program
open Transition (Run System)

namespace AccountExchange

/-- The request goes to the server of a base URL. -/
def SentTo (exchange : AccountExchange) (baseUrl : String) : Prop :=
  exchange.plan.url = baseUrl ++ exchange.plan.path

/-- The session token and the refresh token of the request. -/
def sentTokens (exchange : AccountExchange) : List String :=
  exchange.sessionToken.toList ++
    (exchange.plan.refreshTokenBodyField.bind fun field =>
      (exchange.body.bind fun body => body.get field).bind Value.asStr).toList

/-- The tokens that the response brings. -/
def receivedTokens (exchange : AccountExchange) : List String :=
  match exchange.response with
  | .ok response =>
      let tokens := issuedTokens (response.body.getD .null)
      tokens.1.toList ++ tokens.2.toList
  | .error _ => []

theorem SentTo.eq {exchange : AccountExchange} {first second : String}
    (hFirst : exchange.SentTo first) (hSecond : exchange.SentTo second) : first = second := by
  have hSame : first ++ exchange.plan.path = second ++ exchange.plan.path :=
    hFirst.symm.trans hSecond
  have hLists := congrArg String.toList hSame
  rw [String.toList_append, String.toList_append] at hLists
  exact String.toList_injective (List.append_cancel_right hLists)

end AccountExchange

/-- A response from a server has brought the token. -/
def ReceivedFrom (exchanges : List AccountExchange) (baseUrl token : String) : Prop :=
  ∃ exchange ∈ exchanges, exchange.SentTo baseUrl ∧ token ∈ exchange.receivedTokens

/-- A token goes only to a server that has sent it before. -/
def Confined (exchanges : List AccountExchange) : Prop :=
  ∀ before exchange after, exchanges = before ++ exchange :: after →
    ∀ baseUrl, exchange.SentTo baseUrl → ∀ token ∈ exchange.sentTokens,
      ReceivedFrom before baseUrl token

theorem ReceivedFrom.append {exchanges later : List AccountExchange} {baseUrl token : String}
    (h : ReceivedFrom exchanges baseUrl token) :
    ReceivedFrom (exchanges ++ later) baseUrl token := by
  obtain ⟨exchange, hMem, hReceived⟩ := h
  exact ⟨exchange, List.mem_append_left _ hMem, hReceived⟩

theorem confined_nil : Confined [] := by
  intro before exchange after hNil
  simp at hNil

theorem Confined.snoc {exchanges : List AccountExchange} (h : Confined exchanges)
    {exchange : AccountExchange} {baseUrl : String} (hServer : exchange.SentTo baseUrl)
    (hTokens : ∀ token ∈ exchange.sentTokens, ReceivedFrom exchanges baseUrl token) :
    Confined (exchanges ++ [exchange]) := by
  intro before other after hSplit server hSent token hToken
  rcases Transition.split_snoc hSplit with ⟨_, rfl, rfl⟩ | ⟨middle, _, hEarlier⟩
  · rw [hSent.eq hServer]
    exact hTokens token hToken
  · exact h before other middle hEarlier server hSent token hToken

/-- Secrets under these identifiers come from one server. -/
def CleanFor (baseUrl : String) (ids : List Uuid) (world : AccountWorld) : Prop :=
  ∀ id ∈ ids, ∀ token, world.secrets.lookup id = some token →
    ReceivedFrom world.exchanges baseUrl token

theorem CleanFor.insert {baseUrl : String} {ids : List Uuid} {world : AccountWorld}
    (h : CleanFor baseUrl ids world) {token : String}
    (hToken : ReceivedFrom world.exchanges baseUrl token) (credentialId : Uuid) :
    CleanFor baseUrl (credentialId :: ids)
      { world with secrets := world.secrets.insert credentialId token } := by
  intro id hId found hFound
  rw [KeyMap.lookup_insert_eq_ite] at hFound
  by_cases hSame : id = credentialId
  · rw [if_pos hSame] at hFound
    rw [← Option.some.inj hFound]
    exact hToken
  · rw [if_neg hSame] at hFound
    rcases List.mem_cons.mp hId with hNew | hOld
    · exact absurd hNew hSame
    · exact h id hOld found hFound

theorem CleanFor.erase {baseUrl : String} {ids : List Uuid} {world : AccountWorld}
    (h : CleanFor baseUrl ids world) (credentialId : Uuid) :
    CleanFor baseUrl ids { world with secrets := world.secrets.erase credentialId } := by
  intro id hId found hFound
  by_cases hSame : id = credentialId
  · rw [hSame, AList.lookup_erase] at hFound
    cases hFound
  · rw [AList.lookup_erase_ne hSame] at hFound
    exact h id hId found hFound

/-- The secrets that a record names come from its server. -/
def OwnSecrets (snapshot : HostedAccountSnapshot) (world : AccountWorld) : Prop :=
  ∀ baseUrl, normalizeBaseUrl snapshot.baseUrl = .ok baseUrl →
    CleanFor baseUrl snapshot.credentialIds world

theorem OwnSecrets.congr {snapshot : HostedAccountSnapshot} {world later : AccountWorld}
    (h : OwnSecrets snapshot world) (hExchanges : later.exchanges = world.exchanges)
    (hSecrets : later.secrets = world.secrets) : OwnSecrets snapshot later := by
  intro baseUrl hBase id hId token hToken
  rw [hSecrets] at hToken
  rw [hExchanges]
  exact h baseUrl hBase id hId token hToken

namespace HostedAccountClient

/-- Tokens have gone only where they came from, and so will those that are
stored. -/
structure Guarded (world : AccountWorld) : Prop where
  confined : Confined world.exchanges
  own : ∀ snapshot, loadFile world.disk = .ok snapshot → OwnSecrets snapshot world

theorem ownSecrets_new (config : HostedAccountConfig) (world : AccountWorld) :
    OwnSecrets (.new config) world := by
  intro baseUrl _ id hId
  cases hId

/-- What a file shows after a record was saved, or the save was cut off. -/
theorem loadFile_replace {disk : Disk HostedAccountFile} {snapshot found : HostedAccountSnapshot}
    {cut : Option Cut}
    (h : loadFile (disk.replace { version := hostedAccountFileVersion, snapshot := snapshot } cut) =
      .ok found) : loadFile disk = .ok found ∨ found = snapshot := by
  rcases cut with _ | cut
  · unfold loadFile Disk.replace at h
    dsimp only at h
    obtain ⟨_, _, hFound⟩ := (except_bind_eq_ok_iff ..).mp h
    exact Or.inr (Except.ok.inj hFound).symm
  · cases cut with
    | oldRemoved => cases h
    | notStarted | beforeTemp | tempCreated | tempPartial | tempWritten => exact Or.inl h

/-- A record that names only secrets of its server can be saved. -/
theorem saveFile_guarded {world : AccountWorld} (h : Guarded world)
    {snapshot : HostedAccountSnapshot} (hOwn : OwnSecrets snapshot world) (cut : Option Cut) :
    Ensures (saveFile snapshot cut) world fun later _ =>
      Guarded later ∧ later.exchanges = world.exchanges ∧ later.secrets = world.secrets ∧
        ∀ found, loadFile later.disk = .ok found → loadFile world.disk = .ok found ∨
          found = snapshot := by
  have hSaved : Guarded { world with
      disk := world.disk.replace
        { version := hostedAccountFileVersion, snapshot := snapshot } cut } := by
    refine ⟨h.confined, ?_⟩
    intro found hFound
    rcases loadFile_replace hFound with hOld | hNew
    · exact h.own found hOld
    · rw [hNew]
      exact hOwn
  unfold saveFile
  apply Ensures.modify_bind
  split
  · exact Ensures.throw ⟨hSaved, rfl, rfl, fun found hFound => loadFile_replace hFound⟩
  · exact Ensures.pure ⟨hSaved, rfl, rfl, fun found hFound => loadFile_replace hFound⟩

theorem startRecord_guarded {world : AccountWorld} (h : Guarded world)
    (hMissing : ∀ found, loadFile world.disk ≠ .ok found) (config : HostedAccountConfig)
    (env : AccountEnv) :
    Ensures (startRecord config env) world fun later outcome =>
      Guarded later ∧ later.exchanges = world.exchanges ∧ later.secrets = world.secrets ∧
        ∀ snapshot, outcome = .ok snapshot → snapshot.credentialIds = [] ∧
          ∀ found, loadFile later.disk = .ok found → found = snapshot := by
  unfold startRecord
  apply Ensures.reading_bind
  · intro error _
    exact ⟨h, rfl, rfl, fun _ hOk => by cases hOk⟩
  intro normalized _
  refine (saveFile_guarded h (ownSecrets_new normalized world) env.initialSave).bind ?_ ?_
  · intro later error hLater
    exact ⟨hLater.1, hLater.2.1, hLater.2.2.1, fun _ hOk => by cases hOk⟩
  · intro later _ hLater
    refine Ensures.pure ⟨hLater.1, hLater.2.1, hLater.2.2.1, ?_⟩
    intro snapshot hSnapshot
    obtain rfl := Except.ok.inj hSnapshot
    refine ⟨rfl, fun found hFound => ?_⟩
    rcases hLater.2.2.2 found hFound with hOld | hSame
    · exact absurd hOld (hMissing found)
    · exact hSame

theorem loadFile_of_missing {disk : Disk HostedAccountFile} (h : disk.file = none)
    (found : HostedAccountSnapshot) : loadFile disk ≠ .ok found := by
  intro hFound
  rw [loadFile, h] at hFound
  cases hFound

theorem quarantineFile_guarded {world : AccountWorld} (h : Guarded world)
    (hMissing : ∀ found, loadFile world.disk ≠ .ok found) (env : AccountEnv) :
    Ensures (quarantineFile env) world fun later _ =>
      Guarded later ∧ later.exchanges = world.exchanges ∧ later.secrets = world.secrets ∧
        ∀ found, loadFile later.disk ≠ .ok found := by
  unfold quarantineFile
  apply Ensures.get_bind
  split
  · split
    · exact Ensures.throw ⟨h, rfl, rfl, hMissing⟩
    · have hGone := @loadFile_of_missing
        { world.disk with
          file := none, quarantined := world.disk.file.toList ++ world.disk.quarantined } rfl
      exact ⟨⟨h.confined, fun found hFound => absurd hFound (hGone found)⟩, rfl, rfl, hGone⟩
  · exact Ensures.pure ⟨h, rfl, rfl, hMissing⟩

/-- What reading the record leaves: the world as it was, with the record of the
file, or a new record, which names no secrets. -/
theorem loadOrInitialize_guarded {world : AccountWorld} (h : Guarded world)
    (config : HostedAccountConfig) (env : AccountEnv) :
    Ensures (loadOrInitialize config env) world fun later outcome =>
      Guarded later ∧ later.exchanges = world.exchanges ∧ later.secrets = world.secrets ∧
        ∀ snapshot, outcome = .ok snapshot →
          (loadFile world.disk = .ok snapshot ∨ snapshot.credentialIds = []) ∧
            ∀ found, loadFile later.disk = .ok found → found = snapshot := by
  unfold loadOrInitialize
  apply Ensures.get_bind
  cases hLoad : loadFile world.disk with
  | ok stored =>
      refine Ensures.pure ⟨h, rfl, rfl, fun snapshot hSnapshot => ?_⟩
      obtain rfl := Except.ok.inj hSnapshot
      refine ⟨Or.inl rfl, fun found hFound => ?_⟩
      rw [hLoad] at hFound
      exact (Except.ok.inj hFound).symm
  | error error =>
      have hMissing : ∀ found, loadFile world.disk ≠ .ok found := by
        intro found hFound
        rw [hLoad] at hFound
        cases hFound
      refine (quarantineFile_guarded h hMissing env).bind ?_ ?_
      · intro later error hLater
        exact ⟨hLater.1, hLater.2.1, hLater.2.2.1, fun _ hOk => by cases hOk⟩
      · intro middle _ hMiddle
        refine (startRecord_guarded hMiddle.1 hMiddle.2.2.2 config env).mono ?_
        intro later outcome hLater
        refine ⟨hLater.1, hLater.2.1.trans hMiddle.2.1, hLater.2.2.1.trans hMiddle.2.2.1, ?_⟩
        intro snapshot hSnapshot
        have hNew := hLater.2.2.2 snapshot hSnapshot
        exact ⟨Or.inr hNew.1, hNew.2⟩

/-! What a request sends, and what its response leaves in the storage. -/

theorem readSessionToken_ensures (plan : HostedAccountRequestPlan) (env : AccountEnv)
    (world : AccountWorld) :
    Ensures (readSessionToken plan env) world fun later outcome => later = world ∧
      ∀ token, outcome = .ok (some token) →
        ∃ id, plan.sessionTokenCredentialId = some id ∧
          world.secrets.lookup id = some token := by
  unfold readSessionToken
  cases hId : plan.sessionTokenCredentialId with
  | none => exact Ensures.pure ⟨rfl, fun token hToken => by cases hToken⟩
  | some id =>
      apply Ensures.reading_bind
      · intro error _
        exact ⟨rfl, fun token hToken => by cases hToken⟩
      intro found hFound
      cases hFails : env.readSession with
      | some message =>
          rw [hFails] at hFound
          cases hFound
      | none =>
          rw [hFails] at hFound
          have hStored : world.secrets.lookup id = found := Except.ok.inj hFound
          split
          · exact ⟨rfl, fun token hToken => by cases hToken⟩
          · refine Ensures.pure ⟨rfl, fun token hToken => ⟨id, rfl, ?_⟩⟩
            rw [hStored]
            exact Except.ok.inj hToken

/-- The refresh token in a body is the one that is stored. -/
theorem requestBody_ensures {plan : HostedAccountRequestPlan} (env : AccountEnv)
    (world : AccountWorld)
    (hField : plan.requiresRefreshToken = false → plan.refreshTokenBodyField = none)
    (hObject : plan.requiresRefreshToken = true → ∃ fields, plan.body = some (.object fields)) :
    Ensures (requestBody plan env) world fun later outcome => later = world ∧
      ∀ body, outcome = .ok body → ∀ field, plan.refreshTokenBodyField = some field →
        ∀ token, (body.bind fun body => body.get field).bind Value.asStr = some token →
          ∃ id, plan.refreshTokenCredentialId = some id ∧
            world.secrets.lookup id = some token := by
  unfold requestBody
  cases hRequires : plan.requiresRefreshToken with
  | false =>
      rw [if_neg (by decide)]
      refine Ensures.pure ⟨rfl, fun body _ field hSome => ?_⟩
      rw [hField hRequires] at hSome
      cases hSome
  | true =>
      rw [if_pos rfl]
      cases hId : plan.refreshTokenCredentialId with
      | none => exact Ensures.throw ⟨rfl, fun body hBody => by cases hBody⟩
      | some id =>
          apply Ensures.reading_bind
          · intro error _
            exact ⟨rfl, fun body hBody => by cases hBody⟩
          intro found hFound
          cases hFails : env.readRefresh with
          | some message =>
              rw [hFails] at hFound
              cases hFound
          | none =>
              rw [hFails] at hFound
              have hStored : world.secrets.lookup id = found := Except.ok.inj hFound
              cases found with
              | none => exact Ensures.throw ⟨rfl, fun body hBody => by cases hBody⟩
              | some stored =>
                  refine Ensures.pure ⟨rfl, fun body hBody field hSome token hToken => ?_⟩
                  obtain ⟨fields, hFields⟩ := hObject hRequires
                  obtain rfl := Except.ok.inj hBody
                  unfold HostedAccountRequestPlan.bodyWithRefreshToken at hToken
                  rw [hSome, hFields] at hToken
                  have hSame : (Fields.get (Fields.insert fields field (.string stored))
                      field).bind Value.asStr = some token := hToken
                  rw [Fields.get_insert_self] at hSame
                  exact ⟨id, rfl, hStored.trans hSame⟩

/-- The storage after a change that erases, or that keeps a token of the
server. -/
theorem changeSecrets_clean {baseUrl : String} {ids : List Uuid} {world : AccountWorld}
    (fault : Option SecretFault) {change : KeyMap Uuid String → KeyMap Uuid String}
    (h : CleanFor baseUrl ids world)
    (hChange : CleanFor baseUrl ids { world with secrets := change world.secrets }) :
    Ensures (changeSecrets fault change) world fun later outcome =>
      CleanFor baseUrl ids later ∧ later.exchanges = world.exchanges ∧
        later.disk = world.disk ∧
        (outcome = .ok () → later.secrets = change world.secrets) := by
  cases fault with
  | none => exact ⟨hChange, rfl, rfl, fun _ => rfl⟩
  | some fault =>
      unfold changeSecrets
      dsimp only
      split
      · exact ⟨hChange, rfl, rfl, fun hOk => by cases hOk⟩
      · exact ⟨h, rfl, rfl, fun hOk => by cases hOk⟩

theorem clearSecrets_clean {baseUrl : String} {ids : List Uuid} {world : AccountWorld}
    (h : CleanFor baseUrl ids world) (fails : Uuid → Option SecretFault) (cleared : List Uuid) :
    Ensures (clearSecrets fails cleared) world fun later _ =>
      CleanFor baseUrl ids later ∧ later.exchanges = world.exchanges ∧
        later.disk = world.disk := by
  induction cleared generalizing world with
  | nil => exact Ensures.pure ⟨h, rfl, rfl⟩
  | cons credentialId rest ih =>
      refine (changeSecrets_clean (fails credentialId) h (h.erase credentialId)).bind ?_ ?_
      · intro later error hLater
        exact ⟨hLater.1, hLater.2.1, hLater.2.2.1⟩
      · intro later _ hLater
        refine (ih hLater.1).mono fun last outcome hLast => ?_
        exact ⟨hLast.1, hLast.2.1.trans hLater.2.1, hLast.2.2.trans hLater.2.2.1⟩

/-- A token that the server has sent is stored, and its credential is clean
then. -/
theorem storeIssued_clean {baseUrl : String} {ids : List Uuid} {world : AccountWorld}
    (h : CleanFor baseUrl ids world) (fault : Option SecretFault) (credentialId : Option Uuid)
    {token : Option String}
    (hToken : ∀ text ∈ token, ReceivedFrom world.exchanges baseUrl text) :
    Ensures (storeIssued fault credentialId token) world fun later outcome =>
      CleanFor baseUrl ids later ∧ later.exchanges = world.exchanges ∧
        later.disk = world.disk ∧ (outcome = .ok () → token.isSome = true →
          ∀ id ∈ credentialId, CleanFor baseUrl (id :: ids) later) := by
  cases credentialId with
  | none => exact Ensures.pure ⟨h, rfl, rfl, fun _ _ id hId => by cases hId⟩
  | some credentialId =>
      cases token with
      | none => exact Ensures.pure ⟨h, rfl, rfl, fun _ hSome => by cases hSome⟩
      | some text =>
          have hInsert := h.insert (hToken text rfl) credentialId
          have hKept : CleanFor baseUrl ids
              { world with secrets := world.secrets.insert credentialId text } :=
            fun id hId => hInsert id (List.mem_cons_of_mem _ hId)
          refine (changeSecrets_clean fault h hKept).mono ?_
          intro later outcome hLater
          refine ⟨hLater.1, hLater.2.1, hLater.2.2.1, ?_⟩
          intro hOk _ id hId other hOther found hFound
          obtain rfl := Option.some.inj hId
          rw [hLater.2.2.2 hOk] at hFound
          rw [hLater.2.1]
          exact hInsert other hOther found hFound

/-! Whole calls. -/

/-- What the plan of a request takes from the record. -/
structure Planned (snapshot : HostedAccountSnapshot) (plan : HostedAccountRequestPlan) : Prop where
  server : ∃ baseUrl, normalizeBaseUrl snapshot.baseUrl = .ok baseUrl ∧
    plan.url = baseUrl ++ plan.path
  session : ∀ id, plan.sessionTokenCredentialId = some id →
    snapshot.sessionTokenCredentialId = some id
  refresh : ∀ id, plan.refreshTokenCredentialId = some id →
    snapshot.refreshTokenCredentialId = some id
  field : plan.requiresRefreshToken = false → plan.refreshTokenBodyField = none
  body : plan.requiresRefreshToken = true → ∃ fields, plan.body = some (.object fields)

/-- What the result of a call leaves in the record: its server, and only
credentials that were there or whose token was issued. -/
structure Follows (snapshot : HostedAccountSnapshot) (exchange : AccountExchange)
    (result : HostedAccountResult) : Prop where
  server : result.snapshot.baseUrl = snapshot.baseUrl
  sessionIssued : ∀ token ∈ result.sessionToken, token ∈ exchange.receivedTokens
  refreshIssued : ∀ token ∈ result.refreshToken, token ∈ exchange.receivedTokens
  session : ∀ id ∈ result.snapshot.sessionTokenCredentialId,
    result.sessionToken.isSome = true ∨ id ∈ snapshot.credentialIds
  refresh : ∀ id ∈ result.snapshot.refreshTokenCredentialId,
    result.refreshToken.isSome = true ∨ id ∈ snapshot.credentialIds

theorem follows_kept {snapshot : HostedAccountSnapshot} {exchange : AccountExchange}
    {result : HostedAccountResult} (hServer : result.snapshot.baseUrl = snapshot.baseUrl)
    (hSession : result.sessionToken = none) (hRefresh : result.refreshToken = none)
    (hIds : ∀ id ∈ result.snapshot.credentialIds, id ∈ snapshot.credentialIds) :
    Follows snapshot exchange result where
  server := hServer
  sessionIssued token hToken := by
    rw [hSession] at hToken
    cases hToken
  refreshIssued token hToken := by
    rw [hRefresh] at hToken
    cases hToken
  session id hId := Or.inr (hIds id (List.mem_append_left _ (Option.mem_toList.mpr hId)))
  refresh id hId := Or.inr (hIds id (List.mem_append_right _ (Option.mem_toList.mpr hId)))

theorem ownSecrets_of_none {snapshot : HostedAccountSnapshot} (h : snapshot.credentialIds = [])
    (world : AccountWorld) : OwnSecrets snapshot world := by
  intro baseUrl _ id hId
  rw [h] at hId
  cases hId

/-- The record that a call goes on with names only secrets of its server. -/
theorem ownSecrets_of_loaded {world later : AccountWorld} (h : Guarded world)
    {snapshot : HostedAccountSnapshot} (hExchanges : later.exchanges = world.exchanges)
    (hSecrets : later.secrets = world.secrets)
    (hOrigin : loadFile world.disk = .ok snapshot ∨ snapshot.credentialIds = []) :
    OwnSecrets snapshot later := by
  rcases hOrigin with hFile | hNone
  · exact (h.own snapshot hFile).congr hExchanges hSecrets
  · exact ownSecrets_of_none hNone later

/-- While the file shows one record at most, clean secrets of that record are
all there is to guard. -/
theorem Guarded.of_clean {world later : AccountWorld} (h : Guarded world)
    {snapshot : HostedAccountSnapshot} {baseUrl : String}
    (hOnly : ∀ found, loadFile world.disk = .ok found → found = snapshot)
    (hBase : normalizeBaseUrl snapshot.baseUrl = .ok baseUrl)
    (hExchanges : later.exchanges = world.exchanges) (hDisk : later.disk = world.disk)
    (hClean : CleanFor baseUrl snapshot.credentialIds later) : Guarded later := by
  refine ⟨?_, ?_⟩
  · rw [hExchanges]
    exact h.confined
  · intro found hFound other hOther
    rw [hDisk] at hFound
    rw [hOnly found hFound] at hOther ⊢
    rw [hBase] at hOther
    rw [← Except.ok.inj hOther]
    exact hClean

/-- Once the response is there, the issued tokens are stored, others are
cleared, and the record is saved. -/
theorem finish_guarded {world : AccountWorld} (h : Guarded world)
    {snapshot : HostedAccountSnapshot} {baseUrl : String}
    (hOnly : ∀ found, loadFile world.disk = .ok found → found = snapshot)
    (hBase : normalizeBaseUrl snapshot.baseUrl = .ok baseUrl)
    (hClean : CleanFor baseUrl snapshot.credentialIds world) {exchange : AccountExchange}
    (hMem : exchange ∈ world.exchanges) (hSent : exchange.SentTo baseUrl)
    {result : HostedAccountResult} (hFollows : Follows snapshot exchange result)
    (env : AccountEnv) :
    Ensures (do
      storeIssued env.writeSession result.snapshot.sessionTokenCredentialId result.sessionToken
      storeIssued env.writeRefresh result.snapshot.refreshTokenCredentialId result.refreshToken
      clearSecrets env.clear result.clearedCredentialIds
      saveFile result.snapshot env.save
      return result) world fun later _ => Guarded later := by
  have hSession : ∀ text ∈ result.sessionToken, ReceivedFrom world.exchanges baseUrl text :=
    fun text hText => ⟨exchange, hMem, hSent, hFollows.sessionIssued text hText⟩
  refine (storeIssued_clean hClean env.writeSession _ hSession).bind ?_ ?_
  · intro later error hLater
    exact h.of_clean hOnly hBase hLater.2.1 hLater.2.2.1 hLater.1
  intro first _ hFirst
  obtain ⟨hFirstClean, hFirstExchanges, hFirstDisk, hFirstNew⟩ := hFirst
  have hFirstAll : CleanFor baseUrl
      (result.snapshot.sessionTokenCredentialId.toList ++ snapshot.credentialIds) first := by
    intro id hId
    rcases List.mem_append.mp hId with hNew | hOld
    · have hNamed := Option.mem_toList.mp hNew
      rcases hFollows.session id hNamed with hIssued | hKept
      · exact hFirstNew rfl hIssued id hNamed id List.mem_cons_self
      · exact hFirstClean id hKept
    · exact hFirstClean id hOld
  have hRefresh : ∀ text ∈ result.refreshToken, ReceivedFrom first.exchanges baseUrl text := by
    intro text hText
    rw [hFirstExchanges]
    exact ⟨exchange, hMem, hSent, hFollows.refreshIssued text hText⟩
  refine (storeIssued_clean hFirstAll env.writeRefresh _ hRefresh).bind ?_ ?_
  · intro later error hLater
    exact h.of_clean hOnly hBase (hLater.2.1.trans hFirstExchanges)
      (hLater.2.2.1.trans hFirstDisk) fun id hId => hLater.1 id (List.mem_append_right _ hId)
  intro second _ hSecond
  obtain ⟨hSecondClean, hSecondExchanges, hSecondDisk, hSecondNew⟩ := hSecond
  have hSecondAll : CleanFor baseUrl
      (result.snapshot.credentialIds ++ snapshot.credentialIds) second := by
    intro id hId
    rcases List.mem_append.mp hId with hNew | hOld
    · rcases List.mem_append.mp hNew with hNamed | hNamed
      · exact hSecondClean id (List.mem_append_left _ hNamed)
      · have hNamed := Option.mem_toList.mp hNamed
        rcases hFollows.refresh id hNamed with hIssued | hKept
        · exact hSecondNew rfl hIssued id hNamed id List.mem_cons_self
        · exact hSecondClean id (List.mem_append_right _ hKept)
    · exact hSecondClean id (List.mem_append_right _ hOld)
  refine (clearSecrets_clean hSecondAll env.clear result.clearedCredentialIds).bind ?_ ?_
  · intro later error hLater
    exact h.of_clean hOnly hBase
      (hLater.2.1.trans (hSecondExchanges.trans hFirstExchanges))
      (hLater.2.2.trans (hSecondDisk.trans hFirstDisk))
      fun id hId => hLater.1 id (List.mem_append_right _ hId)
  intro third _ hThird
  have hThirdGuarded : Guarded third := h.of_clean hOnly hBase
    (hThird.2.1.trans (hSecondExchanges.trans hFirstExchanges))
    (hThird.2.2.trans (hSecondDisk.trans hFirstDisk))
    fun id hId => hThird.1 id (List.mem_append_right _ hId)
  have hOwn : OwnSecrets result.snapshot third := by
    intro other hOther
    rw [hFollows.server, hBase] at hOther
    rw [← Except.ok.inj hOther]
    exact fun id hId => hThird.1 id (List.mem_append_left _ hId)
  refine (saveFile_guarded hThirdGuarded hOwn env.save).bind ?_ ?_
  · intro later error hLater
    exact hLater.1
  · intro later _ hLater
    exact Ensures.pure hLater.1

/-- The record keeps its server, or names no secret that is stored. -/
def KeepsServer (world : AccountWorld) (config : HostedAccountConfig) : Prop :=
  ∀ snapshot normalized, loadFile world.disk = .ok snapshot → config.normalized = .ok normalized →
    normalizeBaseUrl snapshot.baseUrl = normalizeBaseUrl normalized.baseUrl ∨
      ∀ id ∈ snapshot.credentialIds, world.secrets.lookup id = none

theorem configure_guarded {world : AccountWorld} (h : Guarded world)
    {config : HostedAccountConfig} (hKeeps : KeepsServer world config) (env : AccountEnv) :
    Ensures (configure config env) world fun later _ => Guarded later := by
  unfold configure
  apply Ensures.reading_bind (fun _ _ => h)
  intro normalized hNormalized
  refine (loadOrInitialize_guarded h normalized env).bind (fun _ _ hLater => hLater.1) ?_
  intro loaded snapshot hLoaded
  obtain ⟨hGuarded, hExchanges, hSecrets, hSnapshot⟩ := hLoaded
  obtain ⟨hOrigin, _⟩ := hSnapshot snapshot rfl
  have hLoadedOwn := ownSecrets_of_loaded h hExchanges hSecrets hOrigin
  -- The credentials stay; the server they belong to is the new one.
  have hOwn : OwnSecrets { snapshot with
      baseUrl := normalized.baseUrl, deviceName := normalized.deviceName } loaded := by
    intro baseUrl hBase id hId token hToken
    rcases hOrigin with hFile | hNone
    · rcases hKeeps snapshot normalized hFile hNormalized with hSame | hEmpty
      · exact hLoadedOwn baseUrl (hSame.trans hBase) id hId token hToken
      · rw [hSecrets, hEmpty id hId] at hToken
        cases hToken
    · have hNo : id ∈ snapshot.credentialIds := hId
      rw [hNone] at hNo
      cases hNo
  refine (saveFile_guarded hGuarded hOwn env.save).bind ?_ ?_
  · intro later error hLater
    exact hLater.1
  · intro later _ hLater
    exact Ensures.pure hLater.1

section Calls
variable [UuidCrate]

theorem planned {action : HostedAccountAction} {snapshot : HostedAccountSnapshot}
    {plan : HostedAccountRequestPlan}
    (h : planHostedAccountRequest action snapshot = .ok plan) : Planned snapshot plan := by
  unfold planHostedAccountRequest at h
  obtain ⟨baseUrl, hBase, h⟩ := (except_bind_eq_ok_iff ..).mp h
  obtain ⟨deviceName, _, h⟩ := (except_bind_eq_ok_iff ..).mp h
  split at h
  · cases h
  obtain ⟨⟨method, path, body⟩, hRequest, h⟩ := (except_bind_eq_ok_iff ..).mp h
  dsimp only at h
  split at h
  · cases h
  obtain rfl := Except.ok.inj h
  refine ⟨⟨baseUrl, hBase, rfl⟩, ?_, ?_, ?_, ?_⟩
  · intro id hId
    dsimp only at hId
    split at hId
    · exact hId
    · cases hId
  · intro id hId
    dsimp only at hId
    split at hId
    · exact hId
    · cases hId
  · intro hNone
    exact if_neg (by simpa using hNone)
  · intro hRotate
    have hAction : action = .sessionRotate := of_decide_eq_true hRotate
    rw [hAction] at hRequest
    have hBody := congrArg (fun result => result.2.2) (Except.ok.inj hRequest)
    exact ⟨[], hBody.symm⟩

theorem baseUrl_applySession (draws : CredentialDraws) (snapshot : HostedAccountSnapshot)
    (body : Value) : (applySession draws snapshot body).baseUrl = snapshot.baseUrl := by
  unfold applySession
  cases body.get "account" with
  | none => rfl
  | some account => rfl

theorem session_applySession (draws : CredentialDraws) (snapshot : HostedAccountSnapshot)
    (body : Value) : (applySession draws snapshot body).sessionTokenCredentialId =
      if (issuedTokens body).1.isSome then
        some (snapshot.sessionTokenCredentialId.getD draws.session)
      else snapshot.sessionTokenCredentialId := by
  unfold applySession
  cases body.get "account" with
  | none => rfl
  | some account => rfl

theorem refresh_applySession (draws : CredentialDraws) (snapshot : HostedAccountSnapshot)
    (body : Value) : (applySession draws snapshot body).refreshTokenCredentialId =
      if (issuedTokens body).2.isSome then
        some (snapshot.refreshTokenCredentialId.getD draws.refresh)
      else snapshot.refreshTokenCredentialId := by
  unfold applySession
  cases body.get "account" with
  | none => rfl
  | some account => rfl

/-- A response that issues a session. -/
theorem follows_session {snapshot : HostedAccountSnapshot} {exchange : AccountExchange}
    {response : HostedAccountHttpResponse} (draws : CredentialDraws)
    {result : HostedAccountResult} (hResponse : exchange.response = .ok response)
    (hServer : result.snapshot.baseUrl = snapshot.baseUrl)
    (hSession : result.sessionToken = (issuedTokens (response.body.getD .null)).1)
    (hRefresh : result.refreshToken = (issuedTokens (response.body.getD .null)).2)
    (hSessionId : result.snapshot.sessionTokenCredentialId =
      (applySession draws snapshot (response.body.getD .null)).sessionTokenCredentialId)
    (hRefreshId : result.snapshot.refreshTokenCredentialId =
      (applySession draws snapshot (response.body.getD .null)).refreshTokenCredentialId) :
    Follows snapshot exchange result where
  server := hServer
  sessionIssued token hToken := by
    rw [hSession] at hToken
    rw [AccountExchange.receivedTokens, hResponse]
    exact List.mem_append_left _ (Option.mem_toList.mpr hToken)
  refreshIssued token hToken := by
    rw [hRefresh] at hToken
    rw [AccountExchange.receivedTokens, hResponse]
    exact List.mem_append_right _ (Option.mem_toList.mpr hToken)
  session id hId := by
    rw [hSessionId, session_applySession] at hId
    rw [hSession]
    split at hId
    · rename_i hIssued
      exact Or.inl hIssued
    · exact Or.inr (List.mem_append_left _ (Option.mem_toList.mpr hId))
  refresh id hId := by
    rw [hRefreshId, refresh_applySession] at hId
    rw [hRefresh]
    split at hId
    · rename_i hIssued
      exact Or.inl hIssued
    · exact Or.inr (List.mem_append_right _ (Option.mem_toList.mpr hId))

theorem follows_acceptedResult {snapshot : HostedAccountSnapshot} {exchange : AccountExchange}
    {response : HostedAccountHttpResponse} (hResponse : exchange.response = .ok response)
    (draws : CredentialDraws) (action : HostedAccountAction) (status : UInt16) :
    Follows snapshot exchange
      (acceptedResult draws action status (response.body.getD .null) snapshot) := by
  cases action with
  | register | recoveryStart | deviceList | deviceRegister =>
      exact follows_kept rfl rfl rfl fun _ hId => hId
  | verifyEmail =>
      unfold acceptedResult
      cases (response.body.getD .null).get "account" with
      | none => exact follows_kept rfl rfl rfl fun _ hId => hId
      | some account => exact follows_kept rfl rfl rfl fun _ hId => hId
  | logout | logoutAll | deviceRevokeAll | accountDelete =>
      exact follows_kept rfl rfl rfl fun _ hId => by cases hId
  | deviceRevoke deviceId =>
      unfold acceptedResult
      dsimp only
      split
      · exact follows_kept rfl rfl rfl fun _ hId => by cases hId
      · exact follows_kept rfl rfl rfl fun _ hId => hId
  | recoveryComplete | bootstrap | login | sessionRotate | session =>
      exact follows_session draws hResponse (baseUrl_applySession draws snapshot _) rfl rfl rfl rfl

theorem follows_resultOf (action : HostedAccountAction) (env : AccountEnv)
    (snapshot : HostedAccountSnapshot) {exchange : AccountExchange}
    (hResponse : exchange.response = env.response) :
    Follows snapshot exchange (resultOf action env snapshot) := by
  unfold resultOf
  cases hEnv : env.response with
  | error message => exact follows_kept rfl rfl rfl fun _ hId => hId
  | ok response =>
      rw [hEnv] at hResponse
      dsimp only
      unfold applyHostedAccountResponse
      dsimp only
      split
      · exact follows_acceptedResult hResponse env.draws action response.status
      · split
        · exact follows_kept rfl rfl rfl fun _ hId => by cases hId
        · exact follows_kept rfl rfl rfl fun _ hId => hId
        · exact follows_kept rfl rfl rfl fun _ hId => hId

/-- A request sends no token that its server has not sent before. -/
theorem execute_guarded {world : AccountWorld} (h : Guarded world)
    (action : HostedAccountAction) (config : HostedAccountConfig) (env : AccountEnv) :
    Ensures (execute action config env) world fun later _ => Guarded later := by
  unfold execute
  refine (loadOrInitialize_guarded h config env).bind (fun _ _ hLater => hLater.1) ?_
  intro loaded snapshot hLoaded
  obtain ⟨hGuarded, hExchanges, hSecrets, hSnapshot⟩ := hLoaded
  obtain ⟨hOrigin, hOnly⟩ := hSnapshot snapshot rfl
  have hOwn := ownSecrets_of_loaded h hExchanges hSecrets hOrigin
  apply Ensures.reading_bind (fun _ _ => hGuarded)
  intro plan hPlan
  have hPlanned := planned hPlan
  obtain ⟨baseUrl, hBase, hUrl⟩ := hPlanned.server
  have hClean := hOwn baseUrl hBase
  refine (readSessionToken_ensures plan env loaded).bind ?_ ?_
  · intro later error hLater
    rw [hLater.1]
    exact hGuarded
  intro later sessionToken hLater
  obtain ⟨rfl, hSession⟩ := hLater
  refine (requestBody_ensures env later hPlanned.field hPlanned.body).bind ?_ ?_
  · intro last error hLast
    rw [hLast.1]
    exact hGuarded
  intro last body hLast
  obtain ⟨rfl, hBody⟩ := hLast
  apply Ensures.modify_bind
  have hSent : AccountExchange.SentTo
      { plan := plan, body := body, sessionToken := sessionToken, response := env.response }
      baseUrl := hUrl
  have hTokens : ∀ token ∈ AccountExchange.sentTokens
      { plan := plan, body := body, sessionToken := sessionToken, response := env.response },
      ReceivedFrom last.exchanges baseUrl token := by
    intro token hToken
    rcases List.mem_append.mp hToken with hBearer | hRefresh
    · have hRead := Option.mem_toList.mp hBearer
      obtain ⟨id, hId, hStored⟩ := hSession token (congrArg Except.ok hRead)
      exact hClean id (List.mem_append_left _ (Option.mem_toList.mpr (hPlanned.session id hId)))
        token hStored
    · have hField := Option.mem_toList.mp hRefresh
      obtain ⟨field, hSome, hText⟩ := Option.bind_eq_some_iff.mp hField
      obtain ⟨id, hId, hStored⟩ := hBody body rfl field hSome token hText
      exact hClean id (List.mem_append_right _ (Option.mem_toList.mpr (hPlanned.refresh id hId)))
        token hStored
  have hCarried : CleanFor baseUrl snapshot.credentialIds { last with
      exchanges := last.exchanges ++
        [{ plan := plan, body := body, sessionToken := sessionToken,
           response := env.response }] } :=
    fun id hId token hToken => (hClean id hId token hToken).append
  have hCarriedGuarded : Guarded { last with
      exchanges := last.exchanges ++
        [{ plan := plan, body := body, sessionToken := sessionToken,
           response := env.response }] } := by
    refine ⟨hGuarded.confined.snoc hSent hTokens, ?_⟩
    intro found hFound other hOther
    rw [hOnly found hFound] at hOther ⊢
    rw [hBase] at hOther
    rw [← Except.ok.inj hOther]
    exact hCarried
  exact finish_guarded hCarriedGuarded hOnly hBase hCarried
    (List.mem_append_right _ List.mem_cons_self) hSent (follows_resultOf action env snapshot rfl)
    env

end Calls
end HostedAccountClient

/-! Runs of the client. -/

inductive AccountCall where
  | configure (config : HostedAccountConfig)
  | execute (action : HostedAccountAction) (config : HostedAccountConfig)

theorem guarded_initial {world : AccountWorld} (hSecrets : world.secrets = ∅)
    (hExchanges : world.exchanges = []) : HostedAccountClient.Guarded world := by
  refine ⟨?_, ?_⟩
  · rw [hExchanges]
    exact confined_nil
  · intro snapshot _ baseUrl _ id _ token hToken
    rw [hSecrets, AList.lookup_empty] at hToken
    cases hToken

section Runs
variable [UuidCrate]

/-- The state that a call leaves, whatever it answers. -/
def AccountCall.after (call : AccountCall) (env : AccountEnv) (world : AccountWorld) :
    AccountWorld :=
  match call with
  | .configure config => ((HostedAccountClient.configure config env).execute world).1
  | .execute action config => ((HostedAccountClient.execute action config env).execute world).1

/-- A configuration that changes the server finds no secret of the record, and
a request may be any. -/
def AccountCall.KeepsServer (call : AccountCall) (world : AccountWorld) : Prop :=
  match call with
  | .configure config => HostedAccountClient.KeepsServer world config
  | .execute _ _ => True

/-- The calls of one client, with what each of them meets. -/
def accountSystem : System AccountWorld (AccountCall × AccountEnv) where
  step world label later := later = label.1.after label.2 world

theorem AccountCall.guarded {world : AccountWorld} (h : HostedAccountClient.Guarded world)
    {call : AccountCall} (hKeeps : call.KeepsServer world) (env : AccountEnv) :
    HostedAccountClient.Guarded (call.after env world) := by
  cases call with
  | configure config => exact HostedAccountClient.configure_guarded h hKeeps env
  | execute action config => exact HostedAccountClient.execute_guarded h action config env

/-- While no configuration moves a record with stored secrets to another server,
each token is sent only to the server that it came from. -/
theorem tokens_confined {start world : AccountWorld} {labels : List (AccountCall × AccountEnv)}
    (hSecrets : start.secrets = ∅) (hExchanges : start.exchanges = [])
    (run : Run (accountSystem.restrict fun world label => label.1.KeepsServer world)
      start labels world) : Confined world.exchanges := by
  have hStep : ∀ state label later, HostedAccountClient.Guarded state →
      (accountSystem.restrict fun world label => label.1.KeepsServer world).step
        state label later → HostedAccountClient.Guarded later := by
    intro state label later hState hAllowed
    obtain ⟨hKeeps, rfl⟩ := hAllowed
    exact AccountCall.guarded hState hKeeps label.2
  have hGuarded := run.invariant hStep (guarded_initial hSecrets hExchanges)
  exact hGuarded.confined

end Runs

section
open Crates

/-- The response that signs a client in with a session token. -/
def signedInWith (token : String) : AccountEnv where
  draws := { session := 1, refresh := 2 }
  response := .ok
    { status := 200
      body := some (.object [("session", .object [("token", .string token)])]) }

def firstServer : HostedAccountConfig where
  baseUrl := "https://a"
  deviceName := ""

def secondServer : HostedAccountConfig where
  baseUrl := "https://b"
  deviceName := ""

/-- The token of a login is asked about at the server that has issued it. -/
theorem tokens_confined_session :
    Confined ((AccountCall.execute .session firstServer).after (signedInWith "")
      ((AccountCall.execute (.login "me@a.b" none) firstServer).after
        (signedInWith "secret") {})).exchanges :=
  have hRun : Run (accountSystem.restrict fun world label => label.1.KeepsServer world) {}
      [(.execute (.login "me@a.b" none) firstServer, signedInWith "secret"),
        (.execute .session firstServer, signedInWith "")] _ :=
    (Run.single (by exact ⟨trivial, rfl⟩)).snoc (by exact ⟨trivial, rfl⟩)
  tokens_confined rfl rfl hRun

/-- The session token of the first server reaches the second one. -/
theorem token_follows_configuration :
    ∃ labels world, Run accountSystem {} labels world ∧ ¬ Confined world.exchanges := by
  let signIn : AccountCall × AccountEnv :=
    (.execute (.login "me@a.b" none) firstServer, signedInWith "secret")
  let move : AccountCall × AccountEnv := (.configure secondServer, signedInWith "")
  let ask : AccountCall × AccountEnv := (.execute .session secondServer, signedInWith "")
  let last := ask.1.after ask.2 (move.1.after move.2 (signIn.1.after signIn.2 {}))
  refine ⟨[signIn, move, ask], last, ((Run.single rfl).snoc rfl).snoc rfl, ?_⟩
  intro hConfined
  have hLength : 1 < last.exchanges.length := by decide +kernel
  have hSplit : last.exchanges = last.exchanges.take 1 ++
      last.exchanges.get ⟨1, hLength⟩ :: last.exchanges.drop 2 := by
    rw [List.get_eq_getElem, ← List.drop_eq_getElem_cons, List.take_append_drop]
  have hSent : ∀ h : 1 < last.exchanges.length, (last.exchanges.get ⟨1, h⟩).plan.url =
      "https://b" ++ (last.exchanges.get ⟨1, h⟩).plan.path := by decide +kernel
  have hToken : ∀ h : 1 < last.exchanges.length,
      "secret" ∈ (last.exchanges.get ⟨1, h⟩).sentTokens := by decide +kernel
  obtain ⟨exchange, hMem, hServer, _⟩ :=
    hConfined _ _ _ hSplit _ (hSent hLength) _ (hToken hLength)
  have hOther : ∀ exchange ∈ last.exchanges.take 1,
      exchange.plan.url ≠ "https://b" ++ exchange.plan.path := by decide +kernel
  exact hOther exchange hMem hServer

end
end HamLogger
