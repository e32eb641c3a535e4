import HamLogger.Library.Transition

/-! A document that is kept in one file and replaced by writing a second file
and renaming it over the first. A replacement can be cut off between any two
of its steps, by a crash or by an error of the file system. The rules below
say when a store still shows, after a cut, the old document or the new one. -/
namespace HamLogger.FileReplace

open Transition (Run System)

/-- What the bytes of a file are to the code that decodes them. -/
inductive Content (Doc : Type) where
  | blank
  | unreadable (bytes : List UInt8)
  | document (value : Doc)
  deriving DecidableEq

/-- The file, the temporary file next to it, and the files that were moved
aside, the last one first. -/
structure Disk (Doc : Type) where
  file : Option (Content Doc) := none
  temp : Option (Content Doc) := none
  quarantined : List (Content Doc) := []
  deriving DecidableEq

/-- How far a call came that was cut off. -/
inductive Cut where
  | notStarted
  | beforeTemp
  | tempCreated
  | tempPartial (bytes : List UInt8)
  | tempWritten
  | oldRemoved
  deriving DecidableEq

variable {Doc Call Reply Failure : Type}

namespace Disk

/-- Write the temporary file, remove the old file, rename. Removing does
nothing where there is no old file. -/
def replace (disk : Disk Doc) (value : Doc) : Option Cut → Disk Doc
  | some .notStarted => disk
  | some .beforeTemp => disk
  | some .tempCreated => { disk with temp := some .blank }
  | some (.tempPartial bytes) => { disk with temp := some (.unreadable bytes) }
  | some .tempWritten => { disk with temp := some (.document value) }
  | some .oldRemoved => { disk with file := none, temp := some (.document value) }
  | none => { disk with file := some (.document value), temp := none }

/-- A disk whose file holds a document. -/
def holding (value : Doc) : Disk Doc where
  file := some (.document value)

/-- The document of the file, where a missing or blank file stands for the
empty document. -/
def contents (empty : Doc) (disk : Disk Doc) : Option Doc :=
  match disk.file with
  | none => some empty
  | some .blank => some empty
  | some (.unreadable _) => none
  | some (.document value) => some value

theorem contents_of_file {empty : Doc} {disk other : Disk Doc} (h : disk.file = other.file) :
    disk.contents empty = other.contents empty := by
  unfold contents
  rw [h]

/-- A missing file stands for the empty document. -/
theorem contents_of_missing (empty : Doc) {disk : Disk Doc} (h : disk.file = none) :
    disk.contents empty = (Disk.holding empty).contents empty := by
  simp [contents, holding, h]

/-- A cut leaves the file as it was unless it came between the removal and
the renaming. -/
theorem file_replace_of_cut (disk : Disk Doc) (value : Doc) {cut : Cut} (h : cut ≠ .oldRemoved) :
    (disk.replace value (some cut)).file = disk.file := by
  cases cut with
  | oldRemoved => exact absurd rfl h
  | notStarted | beforeTemp | tempCreated | tempPartial | tempWritten => rfl

/-- A temporary file after a cut is the one from before, or what was written
of the new document. -/
theorem temp_replace (disk : Disk Doc) (value other : Doc) (cut : Option Cut)
    (h : (disk.replace value cut).temp = some (.document other)) :
    disk.temp = some (.document other) ∨ other = value := by
  rcases cut with _ | cut
  · cases h
  · cases cut with
    | notStarted => exact Or.inl h
    | beforeTemp => exact Or.inl h
    | tempCreated => cases h
    | tempPartial => cases h
    | tempWritten =>
        cases h
        exact Or.inr rfl
    | oldRemoved =>
        cases h
        exact Or.inr rfl

/-- The file can be read, and every document on the disk has a property. -/
structure Holds (P : Doc → Prop) (disk : Disk Doc) : Prop where
  readable : ∀ bytes, disk.file ≠ some (.unreadable bytes)
  file : ∀ value, disk.file = some (.document value) → P value
  temp : ∀ value, disk.temp = some (.document value) → P value

theorem holds_empty (P : Doc → Prop) : Holds P ({} : Disk Doc) where
  readable := nofun
  file := nofun
  temp := nofun

theorem Holds.mono {P Q : Doc → Prop} {disk : Disk Doc} (h : disk.Holds P)
    (hImp : ∀ value, P value → Q value) : disk.Holds Q where
  readable := h.readable
  file value hValue := hImp value (h.file value hValue)
  temp value hValue := hImp value (h.temp value hValue)

theorem Holds.replace {P : Doc → Prop} {disk : Disk Doc} (h : disk.Holds P) {value : Doc}
    (hValue : P value) (cut : Option Cut) : (disk.replace value cut).Holds P := by
  refine ⟨?_, ?_, ?_⟩
  · rcases cut with _ | cut
    · exact nofun
    · cases cut with
      | oldRemoved => exact nofun
      | notStarted | beforeTemp | tempCreated | tempPartial | tempWritten => exact h.readable
  · intro other hOther
    rcases cut with _ | cut
    · cases hOther
      exact hValue
    · cases cut with
      | oldRemoved => cases hOther
      | notStarted | beforeTemp | tempCreated | tempPartial | tempWritten =>
          exact h.file other hOther
  · intro other hOther
    rcases disk.temp_replace value other cut hOther with hOld | rfl
    · exact h.temp other hOld
    · exact hValue

/-- The document of a disk that holds only documents with a property. -/
theorem Holds.contents {P : Doc → Prop} {empty : Doc} (hEmpty : P empty) {disk : Disk Doc}
    (h : disk.Holds P) : ∃ value, disk.contents empty = some value ∧ P value := by
  unfold Disk.contents
  cases hFile : disk.file with
  | none => exact ⟨empty, rfl, hEmpty⟩
  | some content =>
      cases content with
      | blank => exact ⟨empty, rfl, hEmpty⟩
      | unreadable bytes => exact absurd hFile (h.readable bytes)
      | document value => exact ⟨value, rfl, h.file value hFile⟩

end Disk

/-- What a call does to the disk: renames that come first, and then its
outcome, with the document it saves if it saves one. -/
structure Plan (Doc Reply Failure : Type) where
  prepared : Disk Doc
  outcome : Except Failure (Reply × Option Doc)

namespace Plan

/-- A call that changes no file before it saves. -/
def onDisk (disk : Disk Doc) (outcome : Except Failure (Reply × Option Doc)) :
    Plan Doc Reply Failure where
  prepared := disk
  outcome := outcome

/-- The disk after the call. -/
def carryOut (plan : Plan Doc Reply Failure) (disk : Disk Doc) (cut : Option Cut) : Disk Doc :=
  if cut = some .notStarted then disk
  else match plan.outcome with
    | .ok (_, some value) => plan.prepared.replace value cut
    | _ => plan.prepared

/-- The reply of the call. A call that is cut off does not succeed. -/
def response (io : Failure) (plan : Plan Doc Reply Failure) (cut : Option Cut) :
    Except Failure Reply :=
  match plan.outcome, cut with
  | .error failure, _ => .error failure
  | .ok _, some _ => .error io
  | .ok (reply, _), none => .ok reply

theorem response_eq_ok {io : Failure} {plan : Plan Doc Reply Failure} {cut : Option Cut}
    {reply : Reply} (h : plan.response io cut = .ok reply) :
    cut = none ∧ ∃ saved, plan.outcome = .ok (reply, saved) := by
  unfold response at h
  split at h
  · cases h
  · cases h
  · rename_i reply' saved hOutcome
    cases h
    exact ⟨rfl, saved, hOutcome⟩

theorem response_of_ok (io : Failure) {plan : Plan Doc Reply Failure} {reply : Reply}
    {saved : Option Doc} (h : plan.outcome = .ok (reply, saved)) :
    plan.response io none = .ok reply := by
  simp only [response, h]

/-- A call that fails, or has nothing to save, leaves its renames. -/
theorem carryOut_of_unsaved {plan : Plan Doc Reply Failure} (disk : Disk Doc)
    (h : ∀ reply value, plan.outcome ≠ .ok (reply, some value)) :
    plan.carryOut disk none = plan.prepared := by
  unfold carryOut
  rw [if_neg (by decide)]
  split
  · rename_i reply value hOutcome
    exact absurd hOutcome (h reply value)
  · rfl

theorem carryOut_of_saved {plan : Plan Doc Reply Failure} (disk : Disk Doc) {reply : Reply}
    {value : Doc} (h : plan.outcome = .ok (reply, some value)) {cut : Option Cut}
    (hCut : cut ≠ some .notStarted) :
    plan.carryOut disk cut = plan.prepared.replace value cut := by
  unfold carryOut
  rw [if_neg hCut, h]

/-- What a call can do to the disk. -/
theorem carryOut_cases (plan : Plan Doc Reply Failure) (disk : Disk Doc) (cut : Option Cut) :
    plan.carryOut disk cut = disk ∨ plan.carryOut disk cut = plan.prepared ∨
    ∃ reply value, plan.outcome = .ok (reply, some value) ∧
      plan.carryOut disk cut = plan.prepared.replace value cut := by
  unfold carryOut
  split
  · exact Or.inl rfl
  · split
    · rename_i reply value hOutcome
      exact Or.inr (Or.inr ⟨reply, value, hOutcome, rfl⟩)
    · exact Or.inr (Or.inl rfl)

theorem holds_carryOut {P : Doc → Prop} {plan : Plan Doc Reply Failure} {disk : Disk Doc}
    (hDisk : disk.Holds P) (hPrepared : plan.prepared.Holds P)
    (hSaved : ∀ reply value, plan.outcome = .ok (reply, some value) → P value)
    (cut : Option Cut) : (plan.carryOut disk cut).Holds P := by
  rcases plan.carryOut_cases disk cut with hSame | hSame | ⟨reply, value, hOutcome, hSame⟩
  · rw [hSame]
    exact hDisk
  · rw [hSame]
    exact hPrepared
  · rw [hSame]
    exact hPrepared.replace (hSaved reply value hOutcome) cut

end Plan

/-- A store of one document. A call loads the document, except for the calls
that first recover from a cut and work from what they have recovered. -/
structure Store (Doc Call Reply Failure : Type) where
  empty : Doc
  io : Failure
  load : Disk Doc → Except Failure Doc
  recovers : Call → Bool
  recovered : Disk Doc → Call → Except Failure Doc
  plan : Disk Doc → Call → Plan Doc Reply Failure

namespace Store
variable (store : Store Doc Call Reply Failure)

/-- The document that a call works from. -/
def observes (disk : Disk Doc) (call : Call) : Except Failure Doc :=
  if store.recovers call then store.recovered disk call else store.load disk

def next (disk : Disk Doc) (call : Call) (cut : Option Cut) : Disk Doc :=
  (store.plan disk call).carryOut disk cut

def answer (disk : Disk Doc) (call : Call) (cut : Option Cut) : Except Failure Reply :=
  (store.plan disk call).response store.io cut

/-- Calls one after the other, each carried out or cut off. -/
def system : System (Disk Doc) (Call × Option Cut) where
  step disk label later := later = store.next disk label.1 label.2

/-- The documents that calls work from, none of them cut off. -/
def observations : Disk Doc → List Call → List (Except Failure Doc)
  | _, [] => []
  | disk, call :: rest =>
      store.observes disk call :: observations (store.next disk call none) rest

def finish : Disk Doc → List Call → Disk Doc
  | disk, [] => disk
  | disk, call :: rest => finish (store.next disk call none) rest

/-- The calls see the old document up to some point, and change nothing until
then, and the new document from there on. -/
def Atomic (old new : Doc) (disk : Disk Doc) (calls : List Call) : Prop :=
  ∃ before after, calls = before ++ after ∧
    store.observations disk calls =
      store.observations (.holding old) before ++ store.observations (.holding new) after ∧
    (after = [] ∨ (store.finish (.holding old) before).file = some (.document old))

/-- A recovering call works from this document, where it is in the temporary
file and there is no file, as if it had been renamed. -/
def Promotes (value : Doc) : Prop :=
  ∀ (disk : Disk Doc) (call : Call), store.recovers call = true → disk.file = none →
    disk.temp = some (.document value) →
    store.recovered disk call = store.recovered (.holding value) call ∧
    (store.next disk call none).file = (store.next (.holding value) call none).file

/-- A call comes to replacing a document of the file by a new one, and goes
on to this point. It may have put the old document there itself, unless it was
cut off before it did anything. -/
structure SavesOver (disk : Disk Doc) (call : Call) (old value : Doc) (cut : Option Cut) :
    Prop where
  file : (store.plan disk call).prepared.file = some (.document old)
  started : cut = some .notStarted → disk.file = some (.document old)
  readable : ∃ loaded, store.load (.holding old) = .ok loaded
  saved : ∃ reply, (store.plan disk call).outcome = .ok (reply, some value)

namespace SavesOver
variable {store} {disk : Disk Doc} {call : Call} {old value : Doc}

/-- A call that is not cut off leaves the new document in the file. -/
theorem file_next (h : store.SavesOver disk call old value none) :
    (store.next disk call none).file = some (.document value) := by
  obtain ⟨reply, hSaved⟩ := h.saved
  rw [next, Plan.carryOut_of_saved disk hSaved (by decide)]
  rfl

/-- A cut that does not come between the removal and the renaming leaves the
old document in the file. -/
theorem file_of_cut {cut : Cut} (h : store.SavesOver disk call old value (some cut))
    (hCut : cut ≠ .oldRemoved) :
    (store.next disk call (some cut)).file = some (.document old) := by
  obtain ⟨reply, hSaved⟩ := h.saved
  by_cases hStarted : cut = .notStarted
  · rw [next, Plan.carryOut, if_pos (by rw [hStarted]), h.started (by rw [hStarted])]
  · rw [next, Plan.carryOut_of_saved disk hSaved (by simpa using hStarted),
      Disk.file_replace_of_cut _ _ hCut, h.file]

end SavesOver

/-- What a store owes to be judged by its documents alone. A call that does
not recover looks at the document only, and changes no file before it saves. A
call that recovers looks at the file if there is one, and otherwise works from
a saved document in the temporary file as if it had been renamed. -/
structure Lawful : Prop where
  load_of_contents : ∀ disk other : Disk Doc,
    disk.contents store.empty = other.contents store.empty → store.load disk = store.load other
  load_eq_empty_iff : ∀ value : Doc,
    store.load (.holding value) = .ok store.empty ↔ value = store.empty
  ordinary_outcome : ∀ (disk other : Disk Doc) (call : Call), store.recovers call = false →
    disk.contents store.empty = other.contents store.empty →
    (store.plan disk call).outcome = (store.plan other call).outcome
  ordinary_prepared : ∀ (disk : Disk Doc) (call : Call), store.recovers call = false →
    (store.plan disk call).prepared = disk
  recovering_of_file : ∀ (disk other : Disk Doc) (call : Call), store.recovers call = true →
    disk.file = other.file → disk.file ≠ none →
    store.recovered disk call = store.recovered other call ∧
    (store.next disk call none).file = (store.next other call none).file ∧
    (store.next disk call none).file ≠ none
  saves : ∀ (disk : Disk Doc) (call : Call) (old value : Doc) (cut : Option Cut),
    store.SavesOver disk call old value cut → (value = store.empty → old = store.empty) ∧
      store.Promotes value

namespace Lawful
variable {store} (lawful : store.Lawful)
include lawful

theorem observes_of_file {disk other : Disk Doc} (call : Call) (h : disk.file = other.file)
    (hFile : disk.file ≠ none) : store.observes disk call = store.observes other call := by
  unfold observes
  cases hCall : store.recovers call with
  | true => exact (lawful.recovering_of_file disk other call hCall h hFile).1
  | false => exact lawful.load_of_contents disk other (Disk.contents_of_file h)

/-- An ordinary call on two disks that hold the same document either changes
neither file or saves the same document on both. -/
theorem ordinary_next {disk other : Disk Doc} {call : Call} (hCall : store.recovers call = false)
    (h : disk.contents store.empty = other.contents store.empty) :
    (store.next disk call none = disk ∧ store.next other call none = other) ∨
    ∃ value, (store.next disk call none).file = some (.document value) ∧
      (store.next other call none).file = some (.document value) := by
  have hOutcome := lawful.ordinary_outcome disk other call hCall h
  have hPrepared := lawful.ordinary_prepared disk call hCall
  have hOther := lawful.ordinary_prepared other call hCall
  by_cases hSaves : ∃ reply value, (store.plan disk call).outcome = .ok (reply, some value)
  · obtain ⟨reply, value, hSaved⟩ := hSaves
    refine Or.inr ⟨value, ?_, ?_⟩
    · rw [next, Plan.carryOut_of_saved disk hSaved (by decide)]
      rfl
    · rw [hOutcome] at hSaved
      rw [next, Plan.carryOut_of_saved other hSaved (by decide)]
      rfl
  · have hUnsaved : ∀ reply value, (store.plan disk call).outcome ≠ .ok (reply, some value) :=
      fun reply value hSaved => hSaves ⟨reply, value, hSaved⟩
    refine Or.inl ⟨?_, ?_⟩
    · rw [next, Plan.carryOut_of_unsaved disk hUnsaved, hPrepared]
    · rw [hOutcome] at hUnsaved
      rw [next, Plan.carryOut_of_unsaved other hUnsaved, hOther]

/-- Two disks with the same file stay so under every call. -/
theorem next_of_file {disk other : Disk Doc} (call : Call) (h : disk.file = other.file)
    (hFile : disk.file ≠ none) :
    (store.next disk call none).file = (store.next other call none).file ∧
      (store.next disk call none).file ≠ none := by
  cases hCall : store.recovers call with
  | true => exact (lawful.recovering_of_file disk other call hCall h hFile).2
  | false =>
      rcases lawful.ordinary_next hCall (Disk.contents_of_file h) with
        ⟨hDisk, hOther⟩ | ⟨value, hDisk, hOther⟩
      · rw [hDisk, hOther]
        exact ⟨h, hFile⟩
      · rw [hDisk, hOther]
        exact ⟨rfl, by simp⟩

/-- What calls see depends on the file alone, as long as there is one. -/
theorem observations_of_file (calls : List Call) {disk other : Disk Doc}
    (h : disk.file = other.file) (hFile : disk.file ≠ none) :
    store.observations disk calls = store.observations other calls := by
  induction calls generalizing disk other with
  | nil => rfl
  | cons call rest ih =>
      obtain ⟨hNext, hSome⟩ := lawful.next_of_file call h hFile
      show store.observes disk call :: _ = store.observes other call :: _
      rw [lawful.observes_of_file call h hFile, ih hNext hSome]

/-- A store that holds a document shows it, and a store with another file
that is the same shows the same. -/
theorem observations_of_holding {value : Doc} {disk : Disk Doc}
    (h : disk.file = some (.document value)) (calls : List Call) :
    store.observations disk calls = store.observations (.holding value) calls :=
  lawful.observations_of_file calls h (by simp [h])

/-- If the first call recovers, the new document is shown from the start. -/
theorem atomic_of_recovering {old value : Doc} (hPromotes : store.Promotes value)
    {disk : Disk Doc} (hFile : disk.file = none) (hTemp : disk.temp = some (.document value))
    {first : Call} (hFirst : store.recovers first = true) (rest : List Call) :
    store.Atomic old value disk (first :: rest) := by
  obtain ⟨hSeen, hSame⟩ := hPromotes disk first hFirst hFile hTemp
  have hKept : (store.next (.holding value) first none).file ≠ none :=
    (lawful.next_of_file first (Eq.refl (Disk.holding value).file) (by simp [Disk.holding])).2
  rw [← hSame] at hKept
  refine ⟨[], first :: rest, rfl, ?_, Or.inr rfl⟩
  show store.observes disk first :: _ = store.observes (.holding value) first :: _
  rw [lawful.observations_of_file rest hSame hKept, observes, observes, hFirst, hSeen]
  rfl

/-- A store whose file was removed while the empty document was replaced
shows the empty document until a call recovers the new one. -/
theorem atomic_of_empty {value : Doc} (hPromotes : store.Promotes value) (calls : List Call)
    {disk : Disk Doc} (hFile : disk.file = none) (hTemp : disk.temp = some (.document value)) :
    store.Atomic store.empty value disk calls := by
  induction calls with
  | nil => exact ⟨[], [], rfl, rfl, Or.inl rfl⟩
  | cons call rest ih =>
      cases hCall : store.recovers call with
      | true => exact lawful.atomic_of_recovering hPromotes hFile hTemp hCall rest
      | false =>
          have hContents := Disk.contents_of_missing store.empty hFile
          have hSeen : store.observes disk call = store.observes (.holding store.empty) call := by
            rw [observes, observes, hCall]
            exact lawful.load_of_contents _ _ hContents
          rcases lawful.ordinary_next hCall hContents with
            ⟨hDisk, hEmpty⟩ | ⟨saved, hDisk, hEmpty⟩
          · -- nothing was saved, so the temporary file is still there
            obtain ⟨before, after, rfl, hRest, hKept⟩ := ih
            refine ⟨call :: before, after, rfl, ?_, ?_⟩
            · show store.observes disk call :: store.observations (store.next disk call none) _ =
                store.observes (.holding store.empty) call ::
                  (store.observations (store.next (.holding store.empty) call none) before ++ _)
              rw [hDisk, hEmpty, hSeen, hRest]
            · show after = [] ∨ (store.finish (store.next (.holding store.empty) call none)
                before).file = _
              rw [hEmpty]
              exact hKept
          · refine ⟨call :: rest, [], by simp, ?_, Or.inl rfl⟩
            show store.observes disk call :: store.observations (store.next disk call none) rest =
              store.observes (.holding store.empty) call ::
                store.observations (store.next (.holding store.empty) call none) rest ++ []
            rw [List.append_nil, hSeen,
              lawful.observations_of_file rest (hDisk.trans hEmpty.symm) (by simp [hDisk])]

/-- An ordinary call that finds no file shows that the old document is lost,
unless it was empty. -/
theorem empty_of_atomic {old value : Doc} (hEmpty : value = store.empty → old = store.empty)
    {disk : Disk Doc} (hFile : disk.file = none) {first : Call} {rest : List Call}
    (hFirst : store.recovers first = false) (h : store.Atomic old value disk (first :: rest)) :
    old = store.empty := by
  obtain ⟨before, after, hCalls, hSeen, _⟩ := h
  have hNothing : store.observes disk first = .ok store.empty := by
    rw [observes, hFirst]
    have hLoad := (lawful.load_eq_empty_iff store.empty).mpr rfl
    rw [← lawful.load_of_contents _ _ (Disk.contents_of_missing store.empty hFile)] at hLoad
    exact hLoad
  cases before with
  | nil =>
      obtain rfl : first :: rest = after := hCalls
      have hHead := (List.cons.inj hSeen).1
      rw [hNothing, observes, hFirst] at hHead
      exact hEmpty ((lawful.load_eq_empty_iff value).mp hHead.symm)
  | cons early others =>
      obtain ⟨rfl, _⟩ := List.cons.inj hCalls
      have hHead := (List.cons.inj hSeen).1
      rw [hNothing, observes, hFirst] at hHead
      exact (lawful.load_eq_empty_iff old).mp hHead.symm

/-- A call that saves a new document over an old one is atomic under cuts,
but for the cut between the removal of the old file and the renaming. There
it is atomic only if nothing is called any more, or the next call recovers, or
there was nothing to lose. -/
theorem atomic_iff {disk : Disk Doc} {call : Call} {old value : Doc} {cut : Option Cut}
    (h : store.SavesOver disk call old value cut) (calls : List Call) :
    store.Atomic old value (store.next disk call cut) calls ↔
      cut ≠ some .oldRemoved ∨ calls = [] ∨
        (∃ first ∈ calls.head?, store.recovers first = true) ∨ old = store.empty := by
  obtain ⟨hEmpty, hPromotes⟩ := lawful.saves disk call old value cut h
  by_cases hCut : cut = some .oldRemoved
  · obtain ⟨reply, hSaved⟩ := h.saved
    have hNext : store.next disk call cut =
        (store.plan disk call).prepared.replace value (some .oldRemoved) := by
      rw [next, Plan.carryOut_of_saved disk hSaved (by simp [hCut]), hCut]
    have hMissing : (store.next disk call cut).file = none := by
      rw [hNext]
      rfl
    have hTemp : (store.next disk call cut).temp = some (.document value) := by
      rw [hNext]
      rfl
    constructor
    · intro hAtomic
      cases calls with
      | nil => exact Or.inr (Or.inl rfl)
      | cons first rest =>
          cases hFirst : store.recovers first with
          | true => exact Or.inr (Or.inr (Or.inl ⟨first, rfl, hFirst⟩))
          | false =>
              exact Or.inr (Or.inr (Or.inr (lawful.empty_of_atomic hEmpty hMissing hFirst hAtomic)))
    · rintro (hOther | rfl | ⟨first, hFirst, hRecovers⟩ | rfl)
      · exact absurd hCut hOther
      · exact ⟨[], [], rfl, rfl, Or.inl rfl⟩
      · obtain ⟨rest, rfl⟩ := List.head?_eq_some_iff.mp hFirst
        exact lawful.atomic_of_recovering hPromotes hMissing hTemp hRecovers rest
      · exact lawful.atomic_of_empty hPromotes calls hMissing hTemp
  · refine ⟨fun _ => Or.inl hCut, fun _ => ?_⟩
    rcases cut with _ | cut
    · refine ⟨[], calls, rfl, ?_, Or.inr rfl⟩
      rw [observations, List.nil_append, lawful.observations_of_holding h.file_next]
    · have hOther : cut ≠ .oldRemoved := by simpa using hCut
      refine ⟨calls, [], by simp, ?_, Or.inl rfl⟩
      rw [observations, List.append_nil, lawful.observations_of_holding (h.file_of_cut hOther)]

end Lawful

/-- A save survives the point that it came to: later calls see the old
document or the new one, and the new one once the save is acknowledged. -/
structure Survives (disk : Disk Doc) (call : Call) (old value : Doc) (cut : Option Cut)
    (calls : List Call) : Prop where
  atomic : store.Atomic old value (store.next disk call cut) calls
  acknowledged : cut = none → store.observations (store.next disk call cut) calls =
    store.observations (.holding value) calls

theorem survives_iff (lawful : store.Lawful) {disk : Disk Doc} {call : Call} {old value : Doc}
    {cut : Option Cut} (h : store.SavesOver disk call old value cut) (calls : List Call) :
    store.Survives disk call old value cut calls ↔
      cut ≠ some .oldRemoved ∨ calls = [] ∨
        (∃ first ∈ calls.head?, store.recovers first = true) ∨ old = store.empty := by
  rw [← lawful.atomic_iff h calls]
  refine ⟨Survives.atomic, fun hAtomic => ⟨hAtomic, ?_⟩⟩
  rintro rfl
  exact lawful.observations_of_holding h.file_next calls

/-- Calls on a document that can be read see it, and a document that they save
can be read again and is an extension of it. -/
structure Grows (Extends : Doc → Doc → Prop) : Prop where
  refl : ∀ value, Extends value value
  trans : ∀ first second third, Extends first second → Extends second third → Extends first third
  observes : ∀ value loaded call, store.load (.holding value) = .ok loaded →
    ∃ seen, store.observes (.holding value) call = .ok seen ∧ Extends value seen
  prepared : ∀ value loaded call, store.load (.holding value) = .ok loaded →
    (store.plan (.holding value) call).prepared.file = some (.document value)
  saves : ∀ disk call old value cut, store.SavesOver disk call old value cut →
    Extends old value ∧ ∃ loaded, store.load (.holding value) = .ok loaded

section Grows
variable {Extends : Doc → Doc → Prop} {store}

/-- A call on a document leaves that document or an extension of it. -/
theorem Grows.next (grows : store.Grows Extends) {value loaded : Doc}
    (hLoad : store.load (.holding value) = .ok loaded) (call : Call) :
    ∃ after, (store.next (.holding value) call none).file = some (.document after) ∧
      Extends value after ∧ ∃ loaded, store.load (.holding after) = .ok loaded := by
  have hPrepared := grows.prepared value loaded call hLoad
  by_cases hSaves : ∃ reply after, (store.plan (.holding value) call).outcome =
      .ok (reply, some after)
  · obtain ⟨reply, after, hSaved⟩ := hSaves
    have hOver : store.SavesOver (.holding value) call value after none :=
      ⟨hPrepared, nofun, ⟨loaded, hLoad⟩, reply, hSaved⟩
    exact ⟨after, hOver.file_next, grows.saves _ _ _ _ _ hOver⟩
  · have hUnsaved := Plan.carryOut_of_unsaved (.holding value)
      fun reply after hSaved => hSaves ⟨reply, after, hSaved⟩
    refine ⟨value, ?_, grows.refl value, loaded, hLoad⟩
    rw [Store.next, hUnsaved, hPrepared]

/-- Calls on a document see extensions of it. -/
theorem Grows.observations (grows : store.Grows Extends) (lawful : store.Lawful)
    (calls : List Call) {value loaded : Doc} (hLoad : store.load (.holding value) = .ok loaded) :
    ∀ seen ∈ store.observations (.holding value) calls,
      ∃ doc, seen = .ok doc ∧ Extends value doc := by
  induction calls generalizing value loaded with
  | nil => exact nofun
  | cons call rest ih =>
      intro seen hSeen
      rcases List.mem_cons.mp hSeen with rfl | hLater
      · exact grows.observes value loaded call hLoad
      · obtain ⟨after, hFile, hExtends, others, hAfter⟩ := grows.next hLoad call
        rw [lawful.observations_of_holding hFile] at hLater
        obtain ⟨doc, rfl, hDoc⟩ := ih hAfter seen hLater
        exact ⟨doc, rfl, grows.trans _ _ _ hExtends hDoc⟩

/-- Calls after a save that survives see extensions of what was acknowledged:
the new document if the save was, and otherwise the old one. -/
theorem Survives.extends (grows : store.Grows Extends) (lawful : store.Lawful) {disk : Disk Doc}
    {call : Call} {old value : Doc} {cut : Option Cut} {calls : List Call}
    (hOver : store.SavesOver disk call old value cut)
    (h : store.Survives disk call old value cut calls) :
    ∀ seen ∈ store.observations (store.next disk call cut) calls,
      ∃ doc, seen = .ok doc ∧ Extends (if cut = none then value else old) doc := by
  intro seen hSeen
  obtain ⟨hExtends, loaded, hLoad⟩ := grows.saves _ _ _ _ _ hOver
  obtain ⟨oldLoaded, hOld⟩ := hOver.readable
  by_cases hCut : cut = none
  · rw [h.acknowledged hCut] at hSeen
    rw [if_pos hCut]
    exact grows.observations lawful calls hLoad seen hSeen
  · rw [if_neg hCut]
    obtain ⟨before, after, _, hAtomic, _⟩ := h.atomic
    rw [hAtomic] at hSeen
    rcases List.mem_append.mp hSeen with hBefore | hAfter
    · exact grows.observations lawful before hOld seen hBefore
    · obtain ⟨doc, rfl, hDoc⟩ := grows.observations lawful after hLoad seen hAfter
      exact ⟨doc, rfl, grows.trans _ _ _ hExtends hDoc⟩

end Grows

end Store

end HamLogger.FileReplace
