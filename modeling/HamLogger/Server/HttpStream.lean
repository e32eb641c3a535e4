import HamLogger.Server.HttpRoundTrip

/-! What a request that was read says about the connection it came from. The
request ends where its headers say, so nothing sent later can change it. -/
namespace HamLogger

/-- The length that the headers kept in a table announce. -/
def tableLength (headers : KeyMap String String) : Nat :=
  ((headers.lookup "content-length").elim 0 fun value => (parseUsize value.toList).getD 0)

/-- Names and values as the reader keeps them. -/
structure HeaderNormal (name value : String) : Prop where
  nameLower : toAsciiLowercase name = name
  nameTrim : trim name = name
  valueTrim : trim value = value

structure HeaderBlock.Kept (block : HeaderBlock) : Prop where
  length : block.contentLength = tableLength block.headers
  normal : ∀ name value, block.headers.lookup name = some value → HeaderNormal name value

theorem HeaderBlock.kept_empty : ({} : HeaderBlock).Kept where
  length := rfl
  normal := fun _ _ h => by cases h

theorem HeaderBlock.Kept.add {block : HeaderBlock} (h : block.Kept) (header : String) :
    (block.add header).Kept := by
  unfold HeaderBlock.add
  split
  · exact h
  · rename_i front back _
    have hName : toAsciiLowercase (toAsciiLowercase (trim (String.ofList front))) =
        toAsciiLowercase (trim (String.ofList front)) := toAsciiLowercase_twice _
    have hPlain : toAsciiLowercase "content-length" = "content-length" := by decide
    refine ⟨?_, fun name value hLookup => ?_⟩
    · dsimp only
      unfold eqIgnoreAsciiCase
      rw [hName, hPlain]
      by_cases hLength : toAsciiLowercase (trim (String.ofList front)) = "content-length"
      · simp [hLength, tableLength]
      · have hOther : "content-length" ≠ toAsciiLowercase (trim (String.ofList front)) :=
          fun hSame => hLength hSame.symm
        simp [hLength, tableLength, AList.lookup_insert_ne hOther, h.length]
    · by_cases hSame : name = toAsciiLowercase (trim (String.ofList front))
      · subst hSame
        obtain rfl := Option.some.inj ((AList.lookup_insert _).symm.trans hLookup)
        exact ⟨hName, by rw [trim_toAsciiLowercase, trim_trim], trim_trim _⟩
      · rw [AList.lookup_insert_ne hSame] at hLookup
        exact h.normal name value hLookup

/-! One step of the reader. -/

theorem readTextLine_eq_ok {connection rest : List UInt8} {text : String}
    (h : readTextLine connection = .ok (text, rest)) :
    rest = (LineStream.readLine 10 connection).2 ∧
      String.fromUTF8? ⟨(LineStream.readLine 10 connection).1.toArray⟩ = some text := by
  unfold readTextLine at h
  split at h
  · cases h
  · rename_i found hFound
    obtain ⟨rfl, rfl⟩ := Prod.mk.inj (Except.ok.inj h)
    exact ⟨rfl, hFound⟩

/-- A line is taken off the front of the connection. -/
theorem readTextLine_suffix {connection rest : List UInt8} {text : String}
    (h : readTextLine connection = .ok (text, rest)) : ∃ front, connection = front ++ rest := by
  obtain ⟨rfl, _⟩ := readTextLine_eq_ok h
  exact ⟨_, (LineStream.readLine_append connection).symm⟩

/-- Either the line is complete or the connection ended. -/
theorem readTextLine_extend {connection rest : List UInt8} {text : String}
    (h : readTextLine connection = .ok (text, rest)) :
    (∀ more, readTextLine (connection ++ more) = .ok (text, rest ++ more)) ∨ rest = [] := by
  obtain ⟨rfl, hText⟩ := readTextLine_eq_ok h
  by_cases hEnd : (10 : UInt8) ∈ (LineStream.readLine 10 connection).1
  · refine .inl fun more => ?_
    rw [readTextLine, LineStream.readLine_append_of_mem hEnd more, hText]
  · exact .inr (LineStream.readLine_of_not_mem hEnd)

theorem readTextLine_nil : readTextLine [] = .ok ("", []) := by
  have hBlank : String.fromUTF8? ⟨([] : List UInt8).toArray⟩ = some "" :=
    Crates.fromUTF8?_toBytes []
  rw [readTextLine]
  simp only [LineStream.readLine, hBlank]

/-- At the end of the connection the loop stops. -/
theorem readHeaders_nil (block : HeaderBlock) : readHeaders block [] = .ok (block, []) := by
  rw [readHeaders_of_line readTextLine_nil, if_pos (by decide)]

/-- The loop reads a line, then stops or goes on. -/
theorem readHeaders_cases {block found : HeaderBlock} {connection rest : List UInt8}
    (h : readHeaders block connection = .ok (found, rest)) :
    ∃ text middle, readTextLine connection = .ok (text, middle) ∧
      ((trimEnd text = "" ∧ found = block ∧ rest = middle) ∨
        (trimEnd text ≠ "" ∧
          readHeaders (block.add (trimEnd text)) middle = .ok (found, rest))) := by
  cases hLine : readTextLine connection with
  | error fault =>
      rw [readHeaders] at h
      split at h
      · cases h
      · rename_i text middle hRead
        exact absurd (hRead.symm.trans hLine) (by simp)
  | ok pair =>
      obtain ⟨text, middle⟩ := pair
      rw [readHeaders_of_line hLine] at h
      refine ⟨text, middle, rfl, ?_⟩
      split_ifs at h with hBlank
      · obtain ⟨rfl, rfl⟩ := Prod.mk.inj (Except.ok.inj h)
        exact .inl ⟨hBlank, rfl, rfl⟩
      · exact .inr ⟨hBlank, h⟩

/-! The loop over the headers. -/

/-- What the loop over the headers keeps: the block, the front of the
connection, and its end. -/
structure HeadersRead (block found : HeaderBlock) (connection rest : List UInt8) : Prop where
  kept : block.Kept → found.Kept
  suffix : ∃ front, connection = front ++ rest
  extend : (∀ more, readHeaders block (connection ++ more) = .ok (found, rest ++ more)) ∨ rest = []

theorem headersRead {block found : HeaderBlock} {connection rest : List UInt8}
    (h : readHeaders block connection = .ok (found, rest)) :
    HeadersRead block found connection rest := by
  induction hLength : connection.length using Nat.strongRecOn generalizing block connection with
  | ind length ih =>
      obtain ⟨text, middle, hLine, ⟨hBlank, rfl, rfl⟩ | ⟨hText, hLater⟩⟩ := readHeaders_cases h
      · refine ⟨id, readTextLine_suffix hLine, ?_⟩
        rcases readTextLine_extend hLine with hMore | hEnd
        · refine .inl fun more => ?_
          rw [readHeaders_of_line (hMore more), if_pos hBlank]
        · exact .inr hEnd
      · have hShorter := length_of_readTextLine hLine hText
        have hRest := ih middle.length (hLength ▸ hShorter) hLater rfl
        obtain ⟨front, hFront⟩ := readTextLine_suffix hLine
        obtain ⟨others, hOthers⟩ := hRest.suffix
        refine ⟨fun hKept => hRest.kept (hKept.add _),
          ⟨front ++ others, by rw [hFront, hOthers, List.append_assoc]⟩, ?_⟩
        rcases readTextLine_extend hLine with hMore | rfl
        · refine hRest.extend.imp_left fun hExtend more => ?_
          rw [readHeaders_of_line (hMore more), if_neg hText, hExtend more]
        · rw [readHeaders_nil] at hLater
          exact .inr (Prod.mk.inj (Except.ok.inj hLater)).2.symm

theorem readBody_eq_ok_iff {count : Nat} {connection body rest : List UInt8} :
    readBody count connection = .ok (body, rest) ↔
      count < 2 ^ 63 ∧ body.length = count ∧ connection = body ++ rest := by
  unfold readBody
  split_ifs with hLarge hShort
  · constructor
    · intro h
      cases h
    · rintro ⟨hSmall, _⟩
      omega
  · constructor
    · intro h
      cases h
    · rintro ⟨_, hLength, rfl⟩
      rw [List.length_append] at hShort
      omega
  · constructor
    · intro h
      obtain ⟨rfl, rfl⟩ := Prod.mk.inj (Except.ok.inj h)
      refine ⟨by omega, ?_, (List.take_append_drop count connection).symm⟩
      rw [List.length_take]
      omega
    · rintro ⟨_, rfl, rfl⟩
      rw [List.take_left, List.drop_left]

/-! The request. -/

/-- A request is read in three steps. -/
theorem readHttpRequest_eq_ok_iff {connection rest : List UInt8} {request : ApiRequest} :
    readHttpRequest connection = .ok (request, rest) ↔
      ∃ line afterLine block afterHeaders body, readTextLine connection = .ok (line, afterLine) ∧
        readHeaders {} afterLine = .ok (block, afterHeaders) ∧
        readBody block.contentLength afterHeaders = .ok (body, rest) ∧
        ApiRequest.ofParts line block.headers body = request := by
  constructor
  · intro h
    obtain ⟨⟨line, afterLine⟩, hLine, h⟩ := (except_bind_eq_ok_iff _ _ _).mp h
    obtain ⟨⟨block, afterHeaders⟩, hBlock, h⟩ := (except_bind_eq_ok_iff _ _ _).mp h
    obtain ⟨⟨body, afterBody⟩, hBody, h⟩ := (except_bind_eq_ok_iff _ _ _).mp h
    obtain ⟨rfl, rfl⟩ := Prod.mk.inj (Except.ok.inj h)
    exact ⟨line, afterLine, block, afterHeaders, body, hLine, hBlock, hBody, rfl⟩
  · rintro ⟨line, afterLine, block, afterHeaders, body, hLine, hBlock, hBody, rfl⟩
    simp only [readHttpRequest, hLine, bind, Except.bind, hBlock, hBody]
    rfl

/-- The bytes of a request are a front of the connection that ends with its
body. The body has the announced length, and names and values are kept in
their normal form. -/
theorem readHttpRequest_framed {connection rest : List UInt8} {request : ApiRequest}
    (h : readHttpRequest connection = .ok (request, rest)) :
    (∃ head, connection = head ++ request.body ++ rest) ∧
      request.body.length = tableLength request.headers ∧
      ∀ name value, request.headers.lookup name = some value → HeaderNormal name value := by
  obtain ⟨line, afterLine, block, afterHeaders, body, hLine, hBlock, hBody, rfl⟩ :=
    readHttpRequest_eq_ok_iff.mp h
  obtain ⟨_, hLength, rfl⟩ := readBody_eq_ok_iff.mp hBody
  obtain ⟨front, rfl⟩ := readTextLine_suffix hLine
  have hRead := headersRead hBlock
  obtain ⟨others, rfl⟩ := hRead.suffix
  have hKept := hRead.kept HeaderBlock.kept_empty
  exact ⟨⟨front ++ others, by simp [ApiRequest.ofParts]⟩, hLength.trans hKept.length,
    hKept.normal⟩

/-- What is sent later does not change a request, unless the connection ended
inside its head: then it has no body and nothing is left. -/
theorem readHttpRequest_extend {connection rest : List UInt8} {request : ApiRequest}
    (h : readHttpRequest connection = .ok (request, rest)) :
    (∀ more, readHttpRequest (connection ++ more) = .ok (request, rest ++ more)) ∨
      request.body = [] ∧ rest = [] := by
  obtain ⟨line, afterLine, block, afterHeaders, body, hLine, hBlock, hBody, rfl⟩ :=
    readHttpRequest_eq_ok_iff.mp h
  obtain ⟨hFits, hLength, rfl⟩ := readBody_eq_ok_iff.mp hBody
  rcases readTextLine_extend hLine with hMoreLine | rfl
  · rcases (headersRead hBlock).extend with hMoreHeaders | hEnd
    · refine .inl fun more => readHttpRequest_eq_ok_iff.mpr ?_
      exact ⟨line, _, block, _, body, hMoreLine more, hMoreHeaders more,
        readBody_eq_ok_iff.mpr ⟨hFits, hLength, List.append_assoc _ _ _⟩, rfl⟩
    · exact .inr (List.append_eq_nil_iff.mp hEnd)
  · rw [readHeaders_nil] at hBlock
    have hEnd := (Prod.mk.inj (Except.ok.inj hBlock)).2.symm
    exact .inr (List.append_eq_nil_iff.mp hEnd)

end HamLogger
