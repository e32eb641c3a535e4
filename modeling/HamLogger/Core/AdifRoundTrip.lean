import HamLogger.Core.AdifExport

/-! An exported text is read back contact by contact: each contact leaves one
record with the announced values of its fields, and the first also has what
the header left. -/
namespace HamLogger

open ByteText

/-! Names and lengths. -/

theorem parseUsize_toDigits {value : Nat} (h : value < 2 ^ 64) :
    parseUsize (Nat.toDigits 10 value) = some value := by
  have hDigits : ∀ c ∈ Nat.toDigits 10 value, c.isDigit = true := fun c hMem =>
    Nat.isDigit_of_mem_toDigits (by decide) (by decide) hMem
  have hValue : Nat.ofDigitChars 10 (Nat.toDigits 10 value) 0 = value :=
    Nat.ofDigitChars_ten_toDigits
  have hPlus : stripPlus (Nat.toDigits 10 value) = Nat.toDigits 10 value := by
    unfold stripPlus
    split
    · rename_i rest hText
      have hSign := hDigits '+' (by rw [hText]; exact List.mem_cons_self)
      cases hSign
    · rfl
  unfold parseUsize
  rw [hPlus]
  dsimp only
  rw [hValue, if_pos ⟨Nat.toDigits_ne_nil, List.all_eq_true.mpr hDigits, h⟩]

/-- A name that a tag can hold and that is stored as it stands. -/
def PlainName (name : String) : Prop :=
  ':' ∉ name.toList ∧ '>' ∉ name.toList ∧ toAsciiUppercase name = name

instance (name : String) : Decidable (PlainName name) :=
  inferInstanceAs (Decidable (_ ∧ _ ∧ _))

theorem ne_of_colon {tag : List Char} {word : String} (h : ':' ∈ tag) (hWord : ':' ∉ word.toList) :
    toAsciiLowercase (String.ofList tag) ≠ word := by
  intro hSame
  apply hWord
  rw [← hSame, toAsciiLowercase, String.toList_ofList, String.toList_ofList]
  exact List.mem_map.mpr ⟨':', h, by decide⟩

theorem read_tag {name : String} {length : Nat} (hName : PlainName name)
    (hLength : length < 2 ^ 64) :
    AdifTag.read (name.toList ++ ':' :: Nat.toDigits 10 length) = .field name length := by
  obtain ⟨hColon, _, hUpper⟩ := hName
  have hMem : ':' ∈ name.toList ++ ':' :: Nat.toDigits 10 length := by simp
  have hDigits : (Nat.toDigits 10 length).takeWhile (· ≠ ':') = Nat.toDigits 10 length := by
    rw [List.takeWhile_eq_self_iff]
    intro c hDigit
    have hIsDigit := Nat.isDigit_of_mem_toDigits (by decide) (by decide) hDigit
    have hOther : c ≠ ':' := by
      rintro rfl
      revert hIsDigit
      decide
    exact decide_eq_true hOther
  unfold AdifTag.read
  rw [if_neg (ne_of_colon hMem (by decide)), if_neg (ne_of_colon hMem (by decide)),
    splitOnce_append hColon]
  dsimp only
  rw [hDigits, parseUsize_toDigits hLength, String.ofList_toList, hUpper]
  rfl

/-! Fields. -/

namespace ExportField

/-- The announced part of the value can be cut off, and what follows it opens
no tag. -/
structure Sound (field : ExportField) : Prop where
  plain : PlainName field.name
  cut : ∀ value, field.value = some value →
    ∃ front back, value.toList = front ++ back ∧ byteLength front = field.length ∧ '<' ∉ back

theorem byteLength_chars {field : ExportField} {value : String} (h : field.value = some value) :
    byteLength field.chars =
      byteLength (field.name.toList ++ ':' :: Nat.toDigits 10 field.length) + 2 +
        byteLength value.toList := by
  have hOpen : '<'.utf8Size = 1 := by decide
  have hClose : '>'.utf8Size = 1 := by decide
  unfold chars
  rw [h]
  dsimp only
  rw [toList_adifField]
  simp only [byteLength_cons, byteLength_append]
  omega

/-- The parser takes a field back, up to the announced length. -/
theorem Sound.parseFrom_chars {field : ExportField} (h : field.Sound) {index : Nat}
    (hBound : index + byteLength field.chars < 2 ^ 64) (text : List Char) (current : AdifRecord)
    (records : List AdifRecord) :
    parseFrom index (field.chars ++ text) current records =
      parseFrom (index + byteLength field.chars) text (field.fill current) records := by
  cases hValue : field.value with
  | none =>
      unfold chars fill announced
      rw [hValue]
      rfl
  | some value =>
      obtain ⟨front, back, hText, hLength, hBack⟩ := h.cut value hValue
      have hValueSize : byteLength value.toList = byteLength front + byteLength back := by
        rw [hText, byteLength_append]
      have hSize := byteLength_chars hValue
      have hDigits : '>' ∉ Nat.toDigits 10 field.length := by
        intro hMem
        cases Nat.isDigit_of_mem_toDigits (by decide) (by decide) hMem
      obtain ⟨tag, hTagText⟩ : ∃ tag, tag =
        field.name.toList ++ ':' :: Nat.toDigits 10 field.length := ⟨_, rfl⟩
      have hTag : '>' ∉ tag := by
        rw [hTagText, List.mem_append, List.mem_cons]
        rintro (hName | hColon | hDigit)
        · exact h.plain.2.1 hName
        · cases hColon
        · exact hDigits hDigit
      rw [← hTagText] at hSize
      have hRead : AdifTag.read tag = .field field.name (byteLength front) := by
        rw [hTagText, hLength]
        exact read_tag h.plain (by omega)
      have hChars : field.chars ++ text =
          '<' :: (tag ++ '>' :: (front ++ (back ++ text))) := by
        unfold chars
        rw [hValue]
        dsimp only
        rw [toList_adifField, hText, hTagText]
        simp
      have hFill : field.fill current = current.insert field.name (String.ofList front) := by
        unfold fill announced
        rw [hValue, Option.bind_some, ← hLength, hText, splitBytes_append]
        rfl
      have hIndex : index + byteLength tag + 2 + byteLength front + byteLength back =
          index + byteLength field.chars := by omega
      rw [hChars, parseFrom_field hTag hRead (by omega), parseFrom_skip hBack, hIndex, hFill]

end ExportField

theorem parseFrom_fields {fields : List ExportField} (h : ∀ field ∈ fields, field.Sound)
    {index : Nat} (hBound : index + byteLength (fields.flatMap ExportField.chars) < 2 ^ 64)
    (text : List Char) (current : AdifRecord) (records : List AdifRecord) :
    parseFrom index (fields.flatMap ExportField.chars ++ text) current records =
      parseFrom (index + byteLength (fields.flatMap ExportField.chars)) text
        (fields.foldl ExportField.fill current) records := by
  induction fields generalizing index current with
  | nil => rfl
  | cons field fields ih =>
      have hField := h field List.mem_cons_self
      have hRest := fun other hMem => h other (List.mem_cons_of_mem field hMem)
      rw [List.flatMap_cons, byteLength_append, ← Nat.add_assoc] at hBound
      rw [List.flatMap_cons, byteLength_append, ← Nat.add_assoc, List.append_assoc,
        hField.parseFrom_chars (by omega), ih hRest hBound]
      rfl

/-! The fields of a contact can be taken back. -/

theorem utf8Size_of_isDigit {c : Char} (h : c.isDigit = true) : c.utf8Size = 1 := by
  rw [Char.utf8Size_eq_one_iff]
  simp only [Char.isDigit, Bool.and_eq_true, decide_eq_true_eq] at h
  exact UInt32.le_trans h.2 (by decide)

theorem utf8Size_of_dateChar {c : Char} (h : c.isDigit ∨ c = '+' ∨ c = '-') :
    c.utf8Size = 1 ∧ c ≠ '<' := by
  rcases h with hDigit | rfl | rfl
  · refine ⟨utf8Size_of_isDigit hDigit, ?_⟩
    rintro rfl
    cases hDigit
  · decide
  · decide

namespace ExportField

theorem sound_text {name : String} (hName : PlainName name) (value : Option String) :
    (text name value).Sound where
  plain := hName
  cut written hWritten := by
    refine ⟨written.toList, [], (List.append_nil _).symm, ?_, List.not_mem_nil⟩
    have hSome : value.filter (fun value => value ≠ "") = some written := hWritten
    rw [byteLength_toList, text, hSome]
    rfl

/-- Plain characters, at least as many as are announced. -/
theorem sound_of_dateChars {name : String} {length : Nat} {value : Option String}
    (hName : PlainName name)
    (h : ∀ written, value = some written → length ≤ written.toList.length ∧
      ∀ c ∈ written.toList, c.isDigit ∨ c = '+' ∨ c = '-') :
    Sound { name := name, length := length, value := value } where
  plain := hName
  cut written hWritten := by
    obtain ⟨hLength, hChars⟩ := h written hWritten
    refine ⟨written.toList.take length, written.toList.drop length,
      (List.take_append_drop length _).symm, ?_, ?_⟩
    · rw [byteLength_of_ascii, List.length_take_of_le hLength]
      intro c hMem
      exact (utf8Size_of_dateChar (hChars c (List.mem_of_mem_take hMem))).1
    · intro hMem
      exact (utf8Size_of_dateChar (hChars '<' (List.mem_of_mem_drop hMem))).2 rfl

end ExportField

theorem sound_frequencyField [FloatText] (payload : Value) : (frequencyField payload).Sound where
  plain := (by decide : PlainName "FREQ")
  cut written hWritten := by
    refine ⟨written.toList, [], (List.append_nil _).symm, ?_, List.not_mem_nil⟩
    have hSome : ((payload.get "frequency_hz").bind Value.asU64).map FloatText.formatMegahertz =
        some written := hWritten
    rw [byteLength_toList, frequencyField]
    dsimp only
    rw [hSome]
    rfl

section Contacts
variable [ChronoCrate] [ChronoFormat] [LawfulChronoFormat]

theorem sound_dateTimeFields (payload : Value) :
    ∀ field ∈ dateTimeFields payload, field.Sound := by
  have hClock : ∀ instant : DateTime,
      6 ≤ (ChronoFormat.formatTime instant).toList.length ∧
        ∀ c ∈ (ChronoFormat.formatTime instant).toList, c.isDigit ∨ c = '+' ∨ c = '-' := by
    intro instant
    exact ⟨(LawfulChronoFormat.time_length instant).ge,
      fun c hMem => .inl (LawfulChronoFormat.time_chars instant c hMem)⟩
  unfold dateTimeFields
  simp only [List.forall_mem_cons]
  refine ⟨?_, ?_, ?_, List.forall_mem_nil _⟩
  · refine ExportField.sound_of_dateChars (by decide) fun written hWritten => ?_
    obtain ⟨instant, _, rfl⟩ := Option.map_eq_some_iff.mp hWritten
    exact ⟨LawfulChronoFormat.eight_le_date instant, LawfulChronoFormat.date_chars instant⟩
  · refine ExportField.sound_of_dateChars (by decide) fun written hWritten => ?_
    obtain ⟨instant, _, rfl⟩ := Option.map_eq_some_iff.mp hWritten
    exact hClock instant
  · refine ExportField.sound_of_dateChars (by decide) fun written hWritten => ?_
    obtain ⟨instant, _, rfl⟩ := Option.map_eq_some_iff.mp hWritten
    exact hClock instant

variable [FloatText]

theorem sound_exportFields (activation : Option ActivationRecord) (payload : Value) :
    ∀ field ∈ exportFields activation payload, field.Sound := by
  unfold exportFields
  simp (disch := decide) only [List.forall_mem_append, List.forall_mem_cons, List.not_mem_nil,
    ExportField.sound_text, sound_frequencyField, false_imp_iff, implies_true, true_and, and_true]
  exact sound_dateTimeFields payload

variable [UuidCrate]

/-- What has been read when the text of a contact ends: no record is open,
and the one of the contact is closed. -/
def closeContact (activations : Option ActivationProjection)
    (state : AdifRecord × List AdifRecord) (contact : QsoRecord) :
    AdifRecord × List AdifRecord :=
  (∅, pushRecord state.2 ((contactFields activations contact).foldl ExportField.fill state.1))

theorem parseFrom_contact (activations : Option ActivationProjection) (contact : QsoRecord)
    {index : Nat} (hBound : index + byteLength (contactChars activations contact) < 2 ^ 64)
    (text : List Char) (state : AdifRecord × List AdifRecord) :
    parseFrom index (contactChars activations contact ++ text) state.1 state.2 =
      parseFrom (index + byteLength (contactChars activations contact)) text
        (closeContact activations state contact).1 (closeContact activations state contact).2 := by
  have hEnd : "<EOR>\n".toList = '<' :: ("EOR".toList ++ '>' :: "\n".toList) := by decide
  have hTag : '>' ∉ "EOR".toList := by decide
  have hRead : AdifTag.read "EOR".toList = .endOfRecord := by decide
  have hNewline : '<' ∉ "\n".toList := by decide
  have hSound : ∀ field ∈ contactFields activations contact, field.Sound :=
    sound_exportFields _ contact.payload
  have hSize : byteLength "<EOR>\n".toList =
      byteLength "EOR".toList + 2 + byteLength "\n".toList := by decide
  unfold contactChars at hBound ⊢
  rw [byteLength_append] at hBound ⊢
  rw [List.append_assoc, parseFrom_fields hSound (by omega), hSize, hEnd]
  simp only [List.cons_append, List.append_assoc]
  rw [parseFrom_tag hTag, hRead]
  dsimp only
  rw [parseFrom_skip hNewline]
  rfl

theorem parseFrom_contacts (activations : Option ActivationProjection)
    (contacts : List QsoRecord) {index : Nat}
    (hBound : index + byteLength (contacts.flatMap (contactChars activations)) < 2 ^ 64)
    (state : AdifRecord × List AdifRecord) :
    parseFrom index (contacts.flatMap (contactChars activations)) state.1 state.2 =
      some (pushRecord (contacts.foldl (closeContact activations) state).2
        (contacts.foldl (closeContact activations) state).1) := by
  induction contacts generalizing index state with
  | nil => exact parseFrom_nil
  | cons contact contacts ih =>
      rw [List.flatMap_cons, byteLength_append, ← Nat.add_assoc] at hBound
      rw [List.flatMap_cons, parseFrom_contact activations contact (by omega), ih hBound]
      rfl

/-- What has been read when the header ends. -/
def headerState : AdifRecord × List AdifRecord :=
  ((∅ : AdifRecord).insert "ADIF_VER" "3.1.4", [])

/-- An export that fits into an index is read back contact by contact. -/
theorem parseAdif_exportContacts {activations : Option ActivationProjection}
    {contacts : List QsoRecord}
    (hSize : (exportContacts activations contacts).utf8ByteSize < 2 ^ 64) :
    parseAdif (exportContacts activations contacts) =
      some (pushRecord (contacts.foldl (closeContact activations) headerState).2
        (contacts.foldl (closeContact activations) headerState).1) := by
  rw [← byteLength_toList, toList_exportContacts, byteLength_append] at hSize
  rw [parseAdif, toList_exportContacts, parseFrom_header]
  exact parseFrom_contacts activations contacts hSize headerState

end Contacts
end HamLogger
