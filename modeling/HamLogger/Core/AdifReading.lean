import HamLogger.Core.Adif

/-! What the text of a log says, apart from how it is read: tags outside of
values, each field followed by as many bytes as it announces. The parser
returns on just these texts, and its records are the fields between the tags
that end a record. -/
namespace HamLogger

open ByteText

/-- What a tag adds to the records. -/
inductive AdifElement where
  | endOfRecord
  | field (name value : String)

/-- The text from an index on has the given elements. It may stop short: a
tag that is not closed and a value that is not complete end it. -/
inductive ReadsAs : Nat → List Char → List AdifElement → Prop where
  | done (index : Nat) : ReadsAs index [] []
  | outside {index : Nat} {c : Char} {text : List Char} {elements : List AdifElement}
      (hChar : c ≠ '<') (hRest : ReadsAs (index + c.utf8Size) text elements) :
      ReadsAs index (c :: text) elements
  | unclosed {index : Nat} {text : List Char} (hOpen : '>' ∉ text) :
      ReadsAs index ('<' :: text) []
  | ignored {index : Nat} {tag text : List Char} {elements : List AdifElement}
      (hTag : '>' ∉ tag)
      (hRead : AdifTag.read tag = .endOfHeader ∨ AdifTag.read tag = .noLength)
      (hRest : ReadsAs (index + byteLength tag + 2) text elements) :
      ReadsAs index ('<' :: (tag ++ '>' :: text)) elements
  | endOfRecord {index : Nat} {tag text : List Char} {elements : List AdifElement}
      (hTag : '>' ∉ tag) (hRead : AdifTag.read tag = .endOfRecord)
      (hRest : ReadsAs (index + byteLength tag + 2) text elements) :
      ReadsAs index ('<' :: (tag ++ '>' :: text)) (.endOfRecord :: elements)
  | field {index : Nat} {tag value text : List Char} {name : String}
      {elements : List AdifElement} (hTag : '>' ∉ tag)
      (hRead : AdifTag.read tag = .field name (byteLength value))
      (hBound : index + byteLength tag + 2 + byteLength value < 2 ^ 64)
      (hRest : ReadsAs (index + byteLength tag + 2 + byteLength value) text elements) :
      ReadsAs index ('<' :: (tag ++ '>' :: (value ++ text)))
        (.field name (String.ofList value) :: elements)
  | truncated {index length : Nat} {tag text : List Char} {name : String}
      (hTag : '>' ∉ tag) (hRead : AdifTag.read tag = .field name length)
      (hBound : index + byteLength tag + 2 + length < 2 ^ 64)
      (hShort : byteLength text < length) :
      ReadsAs index ('<' :: (tag ++ '>' :: text)) []

/-- The fields between the ends of records. A repeated field keeps its last
value, and a record without fields is left out. -/
def groupRecords : AdifRecord → List AdifElement → List AdifRecord
  | current, [] => pushRecord [] current
  | current, .endOfRecord :: rest => pushRecord [] current ++ groupRecords ∅ rest
  | current, .field name value :: rest => groupRecords (current.insert name value) rest

theorem pushRecord_eq (records : List AdifRecord) (current : AdifRecord) :
    pushRecord records current = records ++ pushRecord [] current := by
  unfold pushRecord
  split <;> simp

section Steps
variable {index : Nat} {text tag : List Char} {current : AdifRecord} {records : List AdifRecord}

@[simp] theorem parseFrom_nil :
    parseFrom index [] current records = some (pushRecord records current) := by
  rw [parseFrom]

theorem parseFrom_outside {c : Char} (h : c ≠ '<') :
    parseFrom index (c :: text) current records =
      parseFrom (index + c.utf8Size) text current records := by
  rw [parseFrom, if_pos h]

/-- Text outside of tags is skipped. -/
theorem parseFrom_skip {noise : List Char} (h : '<' ∉ noise) :
    parseFrom index (noise ++ text) current records =
      parseFrom (index + byteLength noise) text current records := by
  induction noise generalizing index with
  | nil => rfl
  | cons c rest ih =>
      have hFirst : c ≠ '<' := fun hSame => h (by simp [hSame])
      have hRest : '<' ∉ rest := fun hMem => h (List.mem_cons_of_mem c hMem)
      rw [List.cons_append, parseFrom_outside hFirst, ih hRest, byteLength_cons, Nat.add_assoc]

theorem parseFrom_unclosed (h : '>' ∉ text) :
    parseFrom index ('<' :: text) current records = some (pushRecord records current) := by
  rw [parseFrom, if_neg (by simp)]
  have hNone := splitOnce_eq_none_iff.mpr h
  split
  · rfl
  · rename_i hSome
    rw [hNone] at hSome
    cases hSome

/-- One tag, by what it says. -/
theorem parseFrom_tag (h : '>' ∉ tag) :
    parseFrom index ('<' :: (tag ++ '>' :: text)) current records =
      match AdifTag.read tag with
      | .endOfHeader => parseFrom (index + byteLength tag + 2) text current records
      | .endOfRecord =>
          parseFrom (index + byteLength tag + 2) text ∅ (pushRecord records current)
      | .noLength => parseFrom (index + byteLength tag + 2) text current records
      | .field name length =>
          if 2 ^ 64 ≤ index + byteLength tag + 2 + length then none
          else if byteLength text < length then some (pushRecord records current)
          else
            match splitBytes length text with
            | none => none
            | some (value, after) =>
                parseFrom (index + byteLength tag + 2 + length) after
                  (current.insert name (String.ofList value)) records := by
  rw [parseFrom, if_neg (by simp)]
  have hSome := splitOnce_append h text
  split
  · rename_i hNone
    rw [hSome] at hNone
    cases hNone
  · rename_i found rest hFound
    rw [hSome] at hFound
    obtain ⟨rfl, rfl⟩ := Prod.mk.inj (Option.some.inj hFound)
    cases AdifTag.read tag with
    | field name length =>
        dsimp only
        split
        · rfl
        · split
          · rfl
          · split <;> simp_all
    | _ => rfl

theorem parseFrom_field {name : String} {value : List Char} (h : '>' ∉ tag)
    (hRead : AdifTag.read tag = .field name (byteLength value))
    (hBound : index + byteLength tag + 2 + byteLength value < 2 ^ 64) :
    parseFrom index ('<' :: (tag ++ '>' :: (value ++ text))) current records =
      parseFrom (index + byteLength tag + 2 + byteLength value) text
        (current.insert name (String.ofList value)) records := by
  rw [parseFrom_tag h, hRead]
  dsimp only
  rw [if_neg (by omega), if_neg (by simp), splitBytes_append]

end Steps

/-- The parser returns on every text that reads, with its grouped fields. -/
theorem parseFrom_of_readsAs {index : Nat} {text : List Char} {elements : List AdifElement}
    (h : ReadsAs index text elements) (current : AdifRecord) (records : List AdifRecord) :
    parseFrom index text current records = some (records ++ groupRecords current elements) := by
  induction h generalizing current records with
  | done index =>
      rw [parseFrom_nil, pushRecord_eq]
      rfl
  | outside hChar hRest ih =>
      rw [parseFrom_outside hChar]
      exact ih current records
  | unclosed hOpen =>
      rw [parseFrom_unclosed hOpen, pushRecord_eq]
      rfl
  | ignored hTag hRead hRest ih =>
      rw [parseFrom_tag hTag]
      rcases hRead with hRead | hRead <;> rw [hRead] <;> exact ih current records
  | endOfRecord hTag hRead hRest ih =>
      rw [parseFrom_tag hTag, hRead]
      dsimp only
      rw [ih, pushRecord_eq, List.append_assoc]
      rfl
  | field hTag hRead hBound hRest ih =>
      rw [parseFrom_field hTag hRead hBound]
      exact ih _ records
  | truncated hTag hRead hBound hShort =>
      rw [parseFrom_tag hTag, hRead]
      dsimp only
      rw [if_neg (by omega), if_pos hShort, pushRecord_eq]
      rfl

/-- The parser returns on no other text. The induction is on the length of
the text, which every turn of the loop shortens. -/
theorem readsAs_of_parseFrom {index : Nat} {text : List Char} {current : AdifRecord}
    {records result : List AdifRecord}
    (h : parseFrom index text current records = some result) :
    ∃ elements, ReadsAs index text elements := by
  induction hLength : text.length using Nat.strong_induction_on
    generalizing index text current records with
  | _ size ih =>
      subst hLength
      cases text with
      | nil => exact ⟨[], .done index⟩
      | cons c inside =>
          by_cases hChar : c = '<'
          · subst hChar
            cases hTag : splitOnce '>' inside with
            | none => exact ⟨[], .unclosed (splitOnce_eq_none_iff.mp hTag)⟩
            | some cut =>
                obtain ⟨tag, rest⟩ := cut
                have hShorter := length_of_splitOnce hTag
                obtain ⟨rfl, hClosed⟩ := splitOnce_eq_some_iff.mp hTag
                have hLess : rest.length < ('<' :: (tag ++ '>' :: rest)).length := by
                  simp only [List.length_cons]
                  omega
                rw [parseFrom_tag hClosed] at h
                cases hRead : AdifTag.read tag with
                | endOfHeader =>
                    rw [hRead] at h
                    obtain ⟨elements, hRest⟩ := ih _ hLess h rfl
                    exact ⟨elements, .ignored hClosed (.inl hRead) hRest⟩
                | endOfRecord =>
                    rw [hRead] at h
                    obtain ⟨elements, hRest⟩ := ih _ hLess h rfl
                    exact ⟨_, .endOfRecord hClosed hRead hRest⟩
                | noLength =>
                    rw [hRead] at h
                    obtain ⟨elements, hRest⟩ := ih _ hLess h rfl
                    exact ⟨elements, .ignored hClosed (.inr hRead) hRest⟩
                | field name length =>
                    rw [hRead] at h
                    dsimp only at h
                    split at h
                    · cases h
                    · rename_i hBound
                      split at h
                      · rename_i hShort
                        exact ⟨[], .truncated hClosed hRead (by omega) hShort⟩
                      · split at h
                        · cases h
                        · rename_i value after hValue
                          obtain ⟨rfl, rfl⟩ := splitBytes_eq_some_iff.mp hValue
                          have hAfter : after.length <
                              ('<' :: (tag ++ '>' :: (value ++ after))).length := by
                            simp only [List.length_cons, List.length_append]
                            omega
                          obtain ⟨elements, hRest⟩ := ih _ hAfter h rfl
                          exact ⟨_, .field hClosed hRead (by omega) hRest⟩
          · rw [parseFrom_outside hChar] at h
            obtain ⟨elements, hRest⟩ := ih _ (by simp) h rfl
            exact ⟨elements, .outside hChar hRest⟩

theorem parseFrom_eq_some {index : Nat} {text : List Char} {current : AdifRecord}
    {records result : List AdifRecord}
    (h : parseFrom index text current records = some result) :
    ∃ elements, ReadsAs index text elements ∧
      result = records ++ groupRecords current elements := by
  obtain ⟨elements, hReads⟩ := readsAs_of_parseFrom h
  have hParsed := parseFrom_of_readsAs hReads current records
  exact ⟨elements, hReads, Option.some.inj (h.symm.trans hParsed)⟩

/-- What the parser returns is what the text says. -/
theorem parseAdif_eq_some_iff (input : String) (records : List AdifRecord) :
    parseAdif input = some records ↔
      ∃ elements, ReadsAs 0 input.toList elements ∧ records = groupRecords ∅ elements := by
  constructor
  · intro h
    exact parseFrom_eq_some h
  · rintro ⟨elements, hReads, rfl⟩
    exact parseFrom_of_readsAs hReads ∅ []

/-- A record with a field is not left out. -/
theorem pushRecord_of_field {current : AdifRecord} {name : String}
    (h : (current.lookup name).isSome) (records : List AdifRecord) :
    pushRecord records current = records ++ [current] := by
  unfold pushRecord
  rw [if_neg]
  intro hEmpty
  have hNone : current.lookup name = none := by
    rw [AList.lookup_eq_none, AList.mem_keys]
    simp [AList.keys, List.isEmpty_iff.mp hEmpty]
  rw [hNone] at h
  cases h

/-- A field of the current record ends up in some record. -/
theorem mem_groupRecords {current : AdifRecord} {name : String}
    (h : (current.lookup name).isSome) (elements : List AdifElement) :
    ∃ record ∈ groupRecords current elements, (record.lookup name).isSome := by
  induction elements generalizing current with
  | nil => exact ⟨current, by simp [groupRecords, pushRecord_of_field h], h⟩
  | cons element elements ih =>
      cases element with
      | endOfRecord => exact ⟨current, by simp [groupRecords, pushRecord_of_field h], h⟩
      | field other value =>
          refine ih ?_
          rw [KeyMap.lookup_insert_eq_ite]
          split
          · rfl
          · exact h

end HamLogger
