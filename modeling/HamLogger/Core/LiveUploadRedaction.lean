import HamLogger.Core.LiveUpload

/-! Which secrets of a credential can show in what an upload reports. -/
namespace HamLogger.LiveUpload

open Replacement (Apart StartsApart replace)

/-- One text lies in another one. -/
def Within (part text : String) : Prop := part.toList <:+: text.toList

instance (part text : String) : Decidable (Within part text) :=
  inferInstanceAs (Decidable (part.toList <:+: text.toList))

/-- The texts that the code itself writes. -/
def fixedTexts : List String :=
  ["[REDACTED]", "provider live upload failed", "tqsl signing flow not modeled",
    "Club Log authentication failed", "Club Log rejected the QSO",
    "Club Log temporary server failure", "Club Log returned an unrecognized response",
    "QRZ Logbook temporary server failure", "QRZ Logbook authentication failed",
    "QRZ Logbook rejected the upload", "eQSL temporary server failure",
    "eQSL authentication failed", "eQSL returned an unrecognized response"] ++
  [["email"], ["password", "app_password"], ["callsign"], ["api", "api_key"], ["key", "api_key"],
    ["username", "callsign"], ["password"]].map (fun names => ProviderHttpError.toString
      (.unsupported ("credential secret is missing " ++ "/".intercalate names))) ++
  ["lotw", "dx-cluster", "pota-spots", "qrz-xml", "clublog", ""].map liveLimitationForProvider ++
  ["lotw", "dx-cluster", "pota-spots", "qrz-xml", "clublog", ""].map (fun providerId =>
    ProviderHttpError.toString (.unsupported (liveLimitationForProvider providerId)))

/-- A secret that none of the code's own texts holds. -/
def Foreign (secret : String) : Prop := ∀ text ∈ fixedTexts, ¬ Within secret text

instance (secret : String) : Decidable (Foreign secret) :=
  inferInstanceAs (Decidable (∀ text ∈ fixedTexts, ¬ Within secret text))

/-- The texts that are persisted and shown. -/
def ProviderUploadExecution.texts (execution : ProviderUploadExecution) : List String :=
  execution.resultSummary :: (execution.failureReason.toList ++ execution.redactedError.toList)

/-- No foreign secret shows. -/
def Conceals (secrets : List String) (execution : ProviderUploadExecution) : Prop :=
  ∀ secret ∈ secrets, Foreign secret → ∀ text ∈ execution.texts, ¬ Within secret text

/-- The text of an error before the part that is redacted. -/
def ProviderHttpError.frame : ProviderHttpError → String
  | .httpStatus status _ => "provider HTTP status " ++ Nat.repr status.toNat ++ ": "
  | .transport _ => "provider HTTP transport failed: "
  | other => other.toString

/-- A secret that overlaps neither with the mark nor with the text of the
error before the redacted part. -/
structure Distinct (error : ProviderHttpError) (secret : String) : Prop where
  mark : Apart secret.toList "[REDACTED]".toList
  frame : ¬ Within secret error.frame
  starts : StartsApart secret.toList error.frame.toList

/-- What the request of an upload takes from the credential. -/
def requestSecrets (input : ProviderUploadInput) : Option RequestSecrets :=
  match input.providerId with
  | "clublog" => (clublogSecrets input.credentialFields).toOption
  | "qrz-logbook" => (qrzLogbookSecrets input.credentialFields).toOption
  | "eqsl" => (eqslSecrets input.credentialFields).toOption
  | _ => none

/-- A reading of responses that shows the trimmed body and fixed texts only. -/
def ShowsBody (parse : ProviderUploadInput → ProviderHttpResponse → ProviderUploadExecution) :
    Prop :=
  ∀ input response, trim response.body ∈ (parse input response).texts ∧
    ∀ text ∈ (parse input response).texts, text = trim response.body ∨ text ∈ fixedTexts

theorem texts_success (providerId : String) (qsoCount : Nat) (body : String) :
    body ∈ (providerUploadSuccess providerId qsoCount body).texts ∧
      ∀ text ∈ (providerUploadSuccess providerId qsoCount body).texts,
        text = body ∨ text ∈ fixedTexts :=
  ⟨List.mem_cons_self, fun _ hText => Or.inl (List.mem_singleton.mp hText)⟩

theorem texts_failure (providerId : String) (qsoCount : Nat) {summary : String} (body : String)
    (retryable : Bool) (hFixed : summary ∈ fixedTexts) :
    body ∈ (providerUploadFailure providerId qsoCount summary body retryable).texts ∧
      ∀ text ∈ (providerUploadFailure providerId qsoCount summary body retryable).texts,
        text = body ∨ text ∈ fixedTexts := by
  have hTexts : (providerUploadFailure providerId qsoCount summary body retryable).texts =
      [summary, summary, body] := rfl
  rw [hTexts]
  refine ⟨by simp, fun text hText => ?_⟩
  rcases List.mem_cons.mp hText with rfl | hRest
  · exact Or.inr hFixed
  · rcases List.mem_cons.mp hRest with rfl | hLast
    · exact Or.inr hFixed
    · exact Or.inl (List.mem_singleton.mp hLast)

theorem showsBody_clublog : ShowsBody parseClublogUploadResponse := by
  intro input response
  unfold parseClublogUploadResponse
  dsimp only
  repeat' split
  · exact texts_failure _ _ _ _ (by simp [fixedTexts])
  · exact texts_failure _ _ _ _ (by simp [fixedTexts])
  · exact texts_failure _ _ _ _ (by simp [fixedTexts])
  · exact texts_success _ _ _
  · exact texts_failure _ _ _ _ (by simp [fixedTexts])

theorem showsBody_qrzLogbook : ShowsBody parseQrzLogbookUploadResponse := by
  intro input response
  unfold parseQrzLogbookUploadResponse
  dsimp only
  repeat' split
  · exact texts_failure _ _ _ _ (by simp [fixedTexts])
  · exact texts_failure _ _ _ _ (by simp [fixedTexts])
  · exact texts_success _ _ _
  · exact texts_failure _ _ _ _ (by simp [fixedTexts])

theorem showsBody_eqsl : ShowsBody parseEqslUploadResponse := by
  intro input response
  unfold parseEqslUploadResponse
  dsimp only
  repeat' split
  · exact texts_failure _ _ _ _ (by simp [fixedTexts])
  · exact texts_failure _ _ _ _ (by simp [fixedTexts])
  · exact texts_success _ _ _
  · exact texts_failure _ _ _ _ (by simp [fixedTexts])

theorem requiredField_ok {fields : String → Option String} {names : List String} {value : String}
    (h : requiredField fields names = .ok value) : value ≠ "" := by
  unfold requiredField at h
  split at h
  · next found hFound =>
      cases h
      have hVisible := of_decide_eq_true (Option.filter_eq_some_iff.mp hFound).2
      rintro rfl
      exact hVisible rfl
  · cases h

/-- What is hidden is redacted, and not empty. -/
def RequestSecrets.Sound (secrets : RequestSecrets) : Prop :=
  ∀ secret ∈ secrets.hidden, secret ∈ secrets.redacted ∧ secret ≠ ""

theorem sound_clublogSecrets {fields : String → Option String} {secrets : RequestSecrets}
    (h : clublogSecrets fields = .ok secrets) : secrets.Sound := by
  obtain ⟨email, _, h⟩ := (except_bind_eq_ok_iff ..).mp h
  obtain ⟨password, hPassword, h⟩ := (except_bind_eq_ok_iff ..).mp h
  obtain ⟨_, _, h⟩ := (except_bind_eq_ok_iff ..).mp h
  obtain ⟨api, hApi, h⟩ := (except_bind_eq_ok_iff ..).mp h
  cases h
  intro secret hSecret
  simp only [List.mem_cons, List.not_mem_nil, or_false] at hSecret ⊢
  rcases hSecret with rfl | rfl
  · exact ⟨Or.inr (Or.inl rfl), requiredField_ok hPassword⟩
  · exact ⟨Or.inr (Or.inr rfl), requiredField_ok hApi⟩

theorem sound_qrzLogbookSecrets {fields : String → Option String} {secrets : RequestSecrets}
    (h : qrzLogbookSecrets fields = .ok secrets) : secrets.Sound := by
  obtain ⟨key, hKey, h⟩ := (except_bind_eq_ok_iff ..).mp h
  cases h
  intro secret hSecret
  obtain rfl := List.mem_singleton.mp hSecret
  exact ⟨List.mem_cons_self, requiredField_ok hKey⟩

theorem sound_eqslSecrets {fields : String → Option String} {secrets : RequestSecrets}
    (h : eqslSecrets fields = .ok secrets) : secrets.Sound := by
  obtain ⟨username, _, h⟩ := (except_bind_eq_ok_iff ..).mp h
  obtain ⟨password, hPassword, h⟩ := (except_bind_eq_ok_iff ..).mp h
  cases h
  intro secret hSecret
  obtain rfl := List.mem_singleton.mp hSecret
  exact ⟨List.mem_cons_of_mem _ List.mem_cons_self, requiredField_ok hPassword⟩

/-- With the secrets of its request an upload reads the response, or redacts
the error. -/
theorem dispatch_of_request {input : ProviderUploadInput} {secrets : RequestSecrets}
    (h : requestSecrets input = some secrets) : secrets.Sound ∧ ∃ parse, ShowsBody parse ∧
      (∀ response, dispatch input (.ok response) = .ok (parse input response)) ∧
      ∀ error, dispatch input (.error error) = .error (redactHttpError error secrets.redacted) := by
  unfold requestSecrets at h
  have hOk : ∀ {found : Except String RequestSecrets}, found.toOption = some secrets →
      found = .ok secrets := by
    intro found hFound
    cases found with
    | error => cases hFound
    | ok value => exact congrArg Except.ok (Option.some.inj hFound)
  split at h
  · next hId =>
      refine ⟨sound_clublogSecrets (hOk h), _, showsBody_clublog, fun response => ?_,
        fun error => ?_⟩
      all_goals
        unfold dispatch
        rw [hId]
        rw [executeClublogUpload, executeUpload, hOk h]
        rfl
  · next hId =>
      refine ⟨sound_qrzLogbookSecrets (hOk h), _, showsBody_qrzLogbook, fun response => ?_,
        fun error => ?_⟩
      all_goals
        unfold dispatch
        rw [hId]
        rw [executeQrzLogbookUpload, executeUpload, hOk h]
        rfl
  · next hId =>
      refine ⟨sound_eqslSecrets (hOk h), _, showsBody_eqsl, fun response => ?_, fun error => ?_⟩
      all_goals
        unfold dispatch
        rw [hId]
        rw [executeEqslUpload, executeUpload, hOk h]
        rfl
  · cases h

theorem requiredField_error {fields : String → Option String} {names : List String}
    {reason : String} (h : requiredField fields names = .error reason) :
    reason = "credential secret is missing " ++ "/".intercalate names := by
  unfold requiredField at h
  split at h
  · cases h
  · exact (Except.error.inj h).symm

theorem missing_clublogSecrets {fields : String → Option String} {reason : String}
    (h : clublogSecrets fields = .error reason) :
    (ProviderHttpError.unsupported reason).toString ∈ fixedTexts := by
  unfold clublogSecrets at h
  cases hEmail : requiredField fields ["email"] with
  | error => rw [hEmail] at h; cases h; rw [requiredField_error hEmail]; simp [fixedTexts]
  | ok email =>
  cases hPassword : requiredField fields ["password", "app_password"] with
  | error =>
      rw [hEmail, hPassword] at h; cases h; rw [requiredField_error hPassword]; simp [fixedTexts]
  | ok password =>
  cases hCallsign : requiredField fields ["callsign"] with
  | error =>
      rw [hEmail, hPassword, hCallsign] at h
      cases h
      rw [requiredField_error hCallsign]
      simp [fixedTexts]
  | ok callsign =>
  cases hApi : requiredField fields ["api", "api_key"] with
  | error =>
      rw [hEmail, hPassword, hCallsign, hApi] at h
      cases h
      rw [requiredField_error hApi]
      simp [fixedTexts]
  | ok api => rw [hEmail, hPassword, hCallsign, hApi] at h; cases h

theorem missing_qrzLogbookSecrets {fields : String → Option String} {reason : String}
    (h : qrzLogbookSecrets fields = .error reason) :
    (ProviderHttpError.unsupported reason).toString ∈ fixedTexts := by
  unfold qrzLogbookSecrets at h
  cases hKey : requiredField fields ["key", "api_key"] with
  | error => rw [hKey] at h; cases h; rw [requiredField_error hKey]; simp [fixedTexts]
  | ok key => rw [hKey] at h; cases h

theorem missing_eqslSecrets {fields : String → Option String} {reason : String}
    (h : eqslSecrets fields = .error reason) :
    (ProviderHttpError.unsupported reason).toString ∈ fixedTexts := by
  unfold eqslSecrets at h
  cases hUsername : requiredField fields ["username", "callsign"] with
  | error => rw [hUsername] at h; cases h; rw [requiredField_error hUsername]; simp [fixedTexts]
  | ok username =>
  cases hPassword : requiredField fields ["password"] with
  | error =>
      rw [hUsername, hPassword] at h; cases h; rw [requiredField_error hPassword]; simp [fixedTexts]
  | ok password => rw [hUsername, hPassword] at h; cases h

theorem limitation_fixed (providerId : String) :
    liveLimitationForProvider providerId ∈ fixedTexts ∧
      (ProviderHttpError.unsupported (liveLimitationForProvider providerId)).toString ∈
        fixedTexts := by
  have hKnown : ∃ known ∈ ["lotw", "dx-cluster", "pota-spots", "qrz-xml", "clublog", ""],
      liveLimitationForProvider providerId = liveLimitationForProvider known := by
    unfold liveLimitationForProvider
    split
    · exact ⟨"lotw", by simp, rfl⟩
    · exact ⟨"dx-cluster", by simp, rfl⟩
    · exact ⟨"pota-spots", by simp, rfl⟩
    · exact ⟨"pota-spots", by simp, rfl⟩
    · exact ⟨"qrz-xml", by simp, rfl⟩
    · exact ⟨"qrz-xml", by simp, rfl⟩
    · exact ⟨"clublog", by simp, rfl⟩
    · exact ⟨"clublog", by simp, rfl⟩
    · exact ⟨"clublog", by simp, rfl⟩
    · exact ⟨"", by simp, rfl⟩
  obtain ⟨known, hMem, hText⟩ := hKnown
  rw [hText]
  exact ⟨List.mem_append_left _ (List.mem_append_right _ (List.mem_map_of_mem hMem)),
    List.mem_append_right _ (List.mem_map.mpr ⟨known, hMem, rfl⟩)⟩

/-- Without the secrets of a request no answer is read. -/
theorem texts_fixed_without_request {input : ProviderUploadInput} (h : requestSecrets input = none)
    (answer : Except ProviderHttpError ProviderHttpResponse) :
    ∀ text ∈ (liveUpload input answer).texts, text ∈ fixedTexts := by
  have hTexts : ∀ {reason : String}, dispatch input answer = .error (.unsupported reason) →
      (ProviderHttpError.unsupported reason).toString ∈ fixedTexts →
      ∀ text ∈ (liveUpload input answer).texts, text ∈ fixedTexts := by
    intro reason hDispatch hFixed text hText
    rw [liveUpload, hDispatch] at hText
    rcases List.mem_cons.mp hText with rfl | hRest
    · simp [fixedTexts]
    · rcases List.mem_cons.mp hRest with rfl | hLast
      · simp [fixedTexts]
      · rw [List.mem_singleton.mp hLast]
        exact hFixed
  have hMissing : ∀ {found : Except String RequestSecrets}, found.toOption = none →
      ∃ reason, found = .error reason := by
    intro found hFound
    cases found with
    | error reason => exact ⟨reason, rfl⟩
    | ok => cases hFound
  unfold requestSecrets at h
  split at h
  · next hId =>
      obtain ⟨reason, hReason⟩ := hMissing h
      refine hTexts ?_ (missing_clublogSecrets hReason)
      unfold dispatch
      rw [hId]
      rw [executeClublogUpload, executeUpload, hReason]
      rfl
  · next hId =>
      obtain ⟨reason, hReason⟩ := hMissing h
      refine hTexts ?_ (missing_qrzLogbookSecrets hReason)
      unfold dispatch
      rw [hId]
      rw [executeQrzLogbookUpload, executeUpload, hReason]
      rfl
  · next hId =>
      obtain ⟨reason, hReason⟩ := hMissing h
      refine hTexts ?_ (missing_eqslSecrets hReason)
      unfold dispatch
      rw [hId]
      rw [executeEqslUpload, executeUpload, hReason]
      rfl
  · next hClublog hQrz hEqsl =>
      have hLimitation := limitation_fixed input.providerId
      by_cases hLotw : input.providerId = "lotw"
      · intro text hText
        have hAll : (liveUpload input answer).texts = [liveLimitationForProvider input.providerId,
            "tqsl signing flow not modeled", liveLimitationForProvider input.providerId] := by
          unfold liveUpload dispatch
          rw [hLotw]
          rfl
        rw [hAll] at hText
        rcases List.mem_cons.mp hText with rfl | hRest
        · exact hLimitation.1
        · rcases List.mem_cons.mp hRest with rfl | hLast
          · simp [fixedTexts]
          · rw [List.mem_singleton.mp hLast]
            exact hLimitation.1
      · refine hTexts ?_ hLimitation.2
        unfold dispatch
        split
        · next hId => exact (hClublog hId).elim
        · next hId => exact (hQrz hId).elim
        · next hId => exact (hEqsl hId).elim
        · next hId => exact (hLotw hId).elim
        · rfl

theorem toList_redactProviderText (value : String) (secrets : List String) :
    (redactProviderText value secrets).toList =
      ((secrets.filter (· ≠ "")).map String.toList).foldl
        (fun text pattern => replace pattern "[REDACTED]".toList text) value.toList := by
  induction secrets generalizing value with
  | nil => rfl
  | cons secret rest ih =>
      have hReplace : (strReplace value secret "[REDACTED]").toList =
          replace secret.toList "[REDACTED]".toList value.toList := String.toList_ofList
      unfold redactProviderText at ih ⊢
      rw [List.foldl_cons, ih]
      by_cases hEmpty : secret = ""
      · rw [if_pos hEmpty, List.filter_cons_of_neg (by simpa using hEmpty)]
      · rw [if_neg hEmpty, List.filter_cons_of_pos (by simpa using hEmpty), List.map_cons,
          List.foldl_cons, hReplace]

/-- A secret that does not overlap with the mark does not show in a text from
which it was redacted. -/
theorem not_within_redactProviderText {secret : String} {secrets : List String}
    (hApart : Apart secret.toList "[REDACTED]".toList) (hMem : secret ∈ secrets)
    (hEmpty : secret ≠ "") (value : String) :
    ¬ Within secret (redactProviderText value secrets) := by
  unfold Within
  rw [toList_redactProviderText]
  have hNil : secret.toList ≠ [] := fun h => hEmpty (String.toList_eq_nil_iff.mp h)
  refine Replacement.not_infix_foldl hApart hNil (Or.inl ?_)
  exact List.mem_map_of_mem (List.mem_filter.mpr ⟨hMem, by simpa using hEmpty⟩)

/-- Nor does it show in an error behind whose beginning the text stands. -/
theorem not_within_frame {secret frame text : String} (hFrame : ¬ Within secret frame)
    (hStarts : StartsApart secret.toList frame.toList) (hText : ¬ Within secret text) :
    ¬ Within secret (frame ++ text) := by
  intro h
  unfold Within at h
  rw [String.toList_append] at h
  rcases Replacement.infix_append_cases h with hLeft | hRight | ⟨left, right, hParts, hNil, hEnd, _⟩
  · exact hFrame hLeft
  · exact hText hRight
  · refine hStarts left ((List.mem_inits _ _).mpr ?_) hNil hEnd
    rw [hParts]
    exact List.prefix_append left right

theorem not_within_error {secret : String} {secrets : List String} {error : ProviderHttpError}
    (h : Distinct error secret) (hMem : secret ∈ secrets) (hEmpty : secret ≠ "") :
    ¬ Within secret (redactHttpError error secrets).toString := by
  have hRedacted := fun value => not_within_redactProviderText h.mark hMem hEmpty value
  cases error with
  | httpStatus status body => exact not_within_frame h.frame h.starts (hRedacted body)
  | transport message => exact not_within_frame h.frame h.starts (hRedacted message)
  | timeout => exact h.frame
  | responseTooLarge limitBytes => exact h.frame
  | unsupported message => exact h.frame

def qrzUpload : ProviderUploadInput where
  providerId := "qrz-logbook"
  qsoCount := 1
  credentialFields name := if name = "key" then some "K3Y-9981" else none

end HamLogger.LiveUpload
