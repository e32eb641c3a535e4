import HamLogger.Core.Crates
import HamLogger.Core.JsonlStore
import Mathlib.Tactic.SplitIfs

/-! The JSON text of an event takes one line of a file: newlines are escaped
in strings and occur nowhere else. -/
namespace HamLogger.Crates

/-- The text has no newline of its own. -/
def OneLine (text : List Char) : Prop :=
  '\n' ∉ text

theorem OneLine.append {first second : List Char} (h : OneLine first) (h' : OneLine second) :
    OneLine (first ++ second) := by
  intro hMem
  rcases List.mem_append.mp hMem with hFirst | hSecond
  · exact h hFirst
  · exact h' hSecond

theorem OneLine.cons {c : Char} {text : List Char} (hChar : c ≠ '\n') (h : OneLine text) :
    OneLine (c :: text) := by
  intro hMem
  rcases List.mem_cons.mp hMem with hFirst | hRest
  · exact hChar hFirst.symm
  · exact h hRest

theorem hexDigit_ne_newline {value : Nat} (h : value < 16) : hexDigit value ≠ '\n' := by
  have hAll : ∀ digit < 16, hexDigit digit ≠ '\n' := by decide
  exact hAll value h

theorem oneLine_escapeChar (c : Char) : OneLine (escapeChar c) := by
  unfold escapeChar OneLine
  split_ifs with hQuote hBackslash hNewline hReturn hTab hBackspace hFeed hControl
  all_goals try decide
  · have hHigh := hexDigit_ne_newline (show c.toNat / 16 < 16 by omega)
    have hLow := hexDigit_ne_newline (show c.toNat % 16 < 16 by omega)
    simp [hHigh.symm, hLow.symm]
  · simpa using Ne.symm hNewline

theorem oneLine_writeString (text : String) : OneLine (writeString text) := by
  refine OneLine.append (OneLine.cons (by decide) ?_) (by unfold OneLine; decide)
  intro hMem
  obtain ⟨c, _, hChar⟩ := List.mem_flatMap.mp hMem
  exact oneLine_escapeChar c hChar

theorem oneLine_toDigits (value : Nat) : OneLine (Nat.toDigits 10 value) := by
  intro hMem
  have hDigit := Nat.isDigit_of_mem_toDigits (by decide) (by decide) hMem
  revert hDigit
  decide

theorem oneLine_null : OneLine ['n', 'u', 'l', 'l'] := by
  unfold OneLine
  decide

theorem oneLine_writeNumber (number : Number) : OneLine (writeNumber number) := by
  cases number with
  | posInt value => exact oneLine_toDigits _
  | negInt value =>
      simp only [writeNumber]
      split
      · exact OneLine.cons (by decide) (oneLine_toDigits _)
      · exact oneLine_toDigits _
  | float value => exact oneLine_null

theorem oneLine_commaSeparated {members : List (List Char)}
    (h : ∀ member ∈ members, OneLine member) : OneLine (commaSeparated members) := by
  induction members with
  | nil => unfold OneLine commaSeparated; decide
  | cons first rest ih =>
      have hRest := ih fun member hMem => h member (by simp [hMem])
      cases rest with
      | nil => exact h first (by simp)
      | cons second rest =>
          exact OneLine.append (h first (by simp)) (OneLine.cons (by decide) hRest)

theorem oneLine_writeMember (name : String) {value : List Char} (h : OneLine value) :
    OneLine (writeMember name value) :=
  OneLine.append (oneLine_writeString name) (OneLine.cons (by decide) h)

mutual

theorem oneLine_writeValue : (value : Value) → OneLine (writeValue value)
  | .null => by rw [writeValue]; exact oneLine_null
  | .bool true => by unfold OneLine writeValue; decide
  | .bool false => by unfold OneLine writeValue; decide
  | .number value => by rw [writeValue]; exact oneLine_writeNumber value
  | .string text => by rw [writeValue]; exact oneLine_writeString text
  | .array elements => by
      rw [writeValue]
      have hElements := oneLine_commaSeparated (oneLine_writeElements elements)
      exact OneLine.append (OneLine.cons (by decide) hElements) (by unfold OneLine; decide)
  | .object fields => by
      rw [writeValue]
      have hFields := oneLine_commaSeparated (oneLine_writeFields fields)
      exact OneLine.append (OneLine.cons (by decide) hFields) (by unfold OneLine; decide)

theorem oneLine_writeElements :
    (elements : List Value) → ∀ member ∈ writeElements elements, OneLine member
  | [] => by simp [writeElements]
  | value :: rest => by
      intro member hMem
      rw [writeElements] at hMem
      rcases List.mem_cons.mp hMem with rfl | hRest
      · exact oneLine_writeValue value
      · exact oneLine_writeElements rest member hRest

theorem oneLine_writeFields :
    (fields : List (String × Value)) → ∀ member ∈ writeFields fields, OneLine member
  | [] => by simp [writeFields]
  | (key, value) :: rest => by
      intro member hMem
      rw [writeFields] at hMem
      rcases List.mem_cons.mp hMem with rfl | hRest
      · exact OneLine.append (oneLine_writeString key)
          (OneLine.cons (by decide) (oneLine_writeValue value))
      · exact oneLine_writeFields rest member hRest

end

theorem oneLine_writeOption {α : Type} {write : α → List Char} (h : ∀ value, OneLine (write value))
    (value : Option α) : OneLine (writeOption write value) := by
  cases value with
  | none => exact oneLine_null
  | some value => exact h value

theorem oneLine_writeEvent (event : CoreEventEnvelope) : OneLine (writeEvent event) := by
  have hUuid : ∀ id, OneLine (writeUuid id) := fun id => oneLine_writeString _
  refine OneLine.append (OneLine.cons (by decide) (oneLine_commaSeparated ?_))
    (by unfold OneLine; decide)
  intro member hMem
  simp only [List.mem_append, List.mem_cons, List.not_mem_nil, or_false] at hMem
  rcases hMem with ((rfl | rfl | rfl | rfl | rfl) | rfl) |
    (rfl | rfl | rfl | rfl | rfl | rfl | rfl | rfl | rfl | rfl)
  · exact oneLine_writeMember _ (hUuid _)
  · exact oneLine_writeMember _ (oneLine_writeString _)
  · exact oneLine_writeMember _ (hUuid _)
  · exact oneLine_writeMember _ (oneLine_writeOption hUuid _)
  · exact oneLine_writeMember _ (oneLine_writeOption oneLine_writeString _)
  · exact oneLine_writeMember _ (oneLine_writeString _)
  · exact oneLine_writeMember _ (oneLine_writeString _)
  · exact oneLine_writeMember _ (oneLine_writeOption hUuid _)
  · exact oneLine_writeMember _ (oneLine_writeString _)
  · exact oneLine_writeMember _ (oneLine_writeOption oneLine_writeString _)
  · exact oneLine_writeMember _ (hUuid _)
  · exact oneLine_writeMember _ (hUuid _)
  · exact oneLine_writeMember _ (hUuid _)
  · exact oneLine_writeMember _ (oneLine_writeOption oneLine_writeString _)
  · exact oneLine_writeMember _ (oneLine_toDigits _)
  · exact oneLine_writeMember _ (oneLine_writeValue _)

/-- The encoding of any other character has no newline byte. -/
theorem newline_mem_utf8EncodeChar {c : Char} (h : 10 ∈ String.utf8EncodeChar c) : c = '\n' := by
  have hByte : ∀ value : Nat, (10 : UInt8) = UInt8.ofNat value → value % 256 = 10 := by
    intro value hValue
    have hNat := congrArg UInt8.toNat hValue
    simpa using hNat.symm
  have hCode : c.val.toNat = 10 := by
    unfold String.utf8EncodeChar at h
    dsimp only at h
    split_ifs at h
    all_goals
      simp only [List.mem_cons, List.not_mem_nil, or_false] at h
    · have h1 := hByte _ h
      omega
    · rcases h with h | h <;> have h1 := hByte _ h <;> omega
    · rcases h with h | h | h <;> have h1 := hByte _ h <;> omega
    · rcases h with h | h | h | h <;> have h1 := hByte _ h <;> omega
  exact Char.ext (UInt32.toNat_inj.mp hCode)

theorem newline_not_mem_toBytes {text : List Char} (h : OneLine text) : 10 ∉ toBytes text := by
  intro hMem
  obtain ⟨c, hChar, hByte⟩ := List.mem_flatMap.mp hMem
  rw [newline_mem_utf8EncodeChar hByte] at hChar
  exact h hChar

theorem fromUTF8?_toBytes (text : List Char) :
    String.fromUTF8? ⟨(toBytes text).toArray⟩ = some (String.ofList text) := by
  have hBytes : (⟨(toBytes text).toArray⟩ : ByteArray) = (String.ofList text).toByteArray := by
    rw [String.toByteArray_ofList, List.utf8Encode]
    exact ByteArray.ext List.data_toByteArray.symm
  rw [hBytes, String.fromUTF8?, dif_pos (String.ofList text).isValidUTF8]
  rfl

/-- Events with the same text have the same identifier text, since the texts
of identifiers are equally long. -/
theorem writeUuid_eq_of_writeEvent_eq {first second : CoreEventEnvelope}
    (hLength : (writeUuid first.eventId).length = (writeUuid second.eventId).length)
    (h : writeEvent first = writeEvent second) :
    writeUuid first.eventId = writeUuid second.eventId := by
  have hText : ∀ event, ∃ rest, writeEvent event =
      ('{' :: (writeString "event_id" ++ [':'])) ++ (writeUuid event.eventId ++ rest) := by
    intro event
    simp only [writeEvent, writeMembers, writeMember, List.cons_append, List.nil_append,
      commaSeparated, List.append_assoc]
    exact ⟨_, rfl⟩
  obtain ⟨firstRest, hFirst⟩ := hText first
  obtain ⟨secondRest, hSecond⟩ := hText second
  rw [hFirst, hSecond] at h
  exact (List.append_inj (List.append_cancel_left h) hLength).1

/-- The JSON text of events, read back among a list of known ones. -/
abbrev eventJson (known : List CoreEventEnvelope) : EventJson where
  toWriter event := toBytes (writeEvent event)
  fromStr text :=
    match known.find? fun event => writeEvent event = text.toList with
    | some event => .ok event
    | none => .error "expected value at line 1 column 1"

/-- Every known event with a text of its own reads back from its line. -/
theorem readsBack_of_known {known : List CoreEventEnvelope} {event : CoreEventEnvelope}
    (hMem : event ∈ known)
    (hOwn : ∀ other ∈ known, writeEvent other = writeEvent event → other = event) :
    @ReadsBack (eventJson known) event := by
  let _ := eventJson known
  obtain ⟨body, hBody⟩ : ∃ body, writeEvent event = '{' :: body ++ ['}'] := ⟨_, rfl⟩
  refine ⟨newline_not_mem_toBytes (oneLine_writeEvent event), ?_,
    String.ofList (writeEvent event), fromUTF8?_toBytes _, ?_, ?_⟩
  · have hBrace : String.utf8EncodeChar '}' = [125] := by decide
    have hLast : (toBytes (writeEvent event)).getLast? = some 125 := by
      rw [hBody, toBytes, List.flatMap_append]
      simp [hBrace]
    show (toBytes (writeEvent event)).getLast? ≠ some 13
    rw [hLast]
    decide
  · have hStart : isWhitespace '{' = false := by decide
    have hEnd : isWhitespace '}' = false := by decide
    rw [hBody, trim]
    simp [hStart, hEnd]
  · have hFind : (known.find? fun other => writeEvent other = writeEvent event) = some event := by
      cases hSearch : known.find? fun other => writeEvent other = writeEvent event with
      | none => simpa using List.find?_eq_none.mp hSearch event hMem
      | some other =>
          have hSame := List.find?_some hSearch
          rw [hOwn other (List.mem_of_find?_eq_some hSearch) (by simpa using hSame)]
    show (match known.find? fun other => writeEvent other =
      (String.ofList (writeEvent event)).toList with
      | some event => Except.ok event
      | none => .error "expected value at line 1 column 1") = .ok event
    rw [String.toList_ofList, hFind]

/-- Two known events with different texts both read back. -/
theorem readsBack_of_pair {first second : CoreEventEnvelope}
    (hTexts : writeEvent first ≠ writeEvent second) :
    @ReadsBack (eventJson [first, second]) first ∧
      @ReadsBack (eventJson [first, second]) second := by
  refine ⟨readsBack_of_known (by simp) fun other hOther hSame => ?_,
    readsBack_of_known (by simp) fun other hOther hSame => ?_⟩
  · rcases List.mem_pair.mp hOther with rfl | rfl
    · rfl
    · exact absurd hSame.symm hTexts
  · rcases List.mem_pair.mp hOther with rfl | rfl
    · exact absurd hSame hTexts
    · rfl

end HamLogger.Crates
