import HamLogger.Library.FileReplace

/-! Stores whose calls read the document, work on what was read, and save a
new document or nothing. None of their calls looks at the temporary file of a
save that was cut off. -/
namespace HamLogger.FileReplace

open Transition (Run System)

variable {Doc Call Reply Failure : Type}

/-- Reading says what a file holds, or why it cannot be read. A call works on
the outcome of reading. -/
structure DocumentStore (Doc Call Reply Failure : Type) where
  empty : Doc
  io : Failure
  read : Option Doc → Except Failure Doc
  perform : Call → Except Failure Doc → Except Failure (Reply × Option Doc)

namespace DocumentStore
variable (plain : DocumentStore Doc Call Reply Failure)

def load (disk : Disk Doc) : Except Failure Doc :=
  plain.read (disk.contents plain.empty)

def store : Store Doc Call Reply Failure where
  empty := plain.empty
  io := plain.io
  load := plain.load
  recovers _ := false
  recovered disk _ := plain.load disk
  plan disk call := Plan.onDisk disk (plain.perform call (plain.load disk))

/-- The store can tell the empty document from others, and no call saves the
empty document. -/
structure Lawful : Prop where
  read_eq_empty_iff : ∀ value, plain.read (some value) = .ok plain.empty ↔ value = plain.empty
  perform_ne_empty : ∀ call loaded reply,
    plain.perform call loaded ≠ .ok (reply, some plain.empty)

theorem load_of_contents {disk other : Disk Doc}
    (h : disk.contents plain.empty = other.contents plain.empty) :
    plain.load disk = plain.load other :=
  congrArg plain.read h

/-- Such a store can be judged by its documents. -/
theorem lawful_store (lawful : plain.Lawful) : plain.store.Lawful where
  load_of_contents _ _ h := plain.load_of_contents h
  load_eq_empty_iff := lawful.read_eq_empty_iff
  ordinary_outcome _ _ call _ h := congrArg (plain.perform call) (plain.load_of_contents h)
  ordinary_prepared _ _ _ := rfl
  recovering_of_file _ _ _ h := by cases h
  saves disk call old value cut h := by
    refine ⟨fun hEmpty => ?_, fun _ _ h => by cases h⟩
    obtain ⟨reply, hSaved⟩ := h.saved
    rw [hEmpty] at hSaved
    exact absurd hSaved (lawful.perform_ne_empty call _ reply)

/-- No call of such a store completes a save that was cut off. -/
theorem survives_iff (lawful : plain.Lawful) {disk : Disk Doc} {call : Call} {old value : Doc}
    {cut : Option Cut} (h : plain.store.SavesOver disk call old value cut) (calls : List Call) :
    plain.store.Survives disk call old value cut calls ↔
      cut ≠ some .oldRemoved ∨ calls = [] ∨ old = plain.empty := by
  have hRecovers : ¬ ∃ first ∈ calls.head?, plain.store.recovers first = true := by
    rintro ⟨first, _, hFirst⟩
    cases hFirst
  rw [Store.survives_iff plain.store (plain.lawful_store lawful) h calls]
  simp only [hRecovers, false_or]
  rfl

/-! What follows for one call from what the calls do to the document. -/

section Calls
variable {plain} {P : Doc → Prop}

/-- Documents with a property can be read, and reading keeps the property. -/
structure Readable (plain : DocumentStore Doc Call Reply Failure) (P : Doc → Prop) : Prop where
  empty : P plain.empty
  read : ∀ value, P value → ∃ doc, plain.read (some value) = .ok doc ∧ P doc

theorem Readable.load (readable : Readable plain P) {disk : Disk Doc} (hDisk : disk.Holds P) :
    ∃ doc, plain.load disk = .ok doc ∧ P doc := by
  obtain ⟨value, hContents, hValue⟩ := hDisk.contents readable.empty
  rw [DocumentStore.load, hContents]
  exact readable.read value hValue

theorem holds_next (readable : Readable plain P) {disk : Disk Doc} (hDisk : disk.Holds P)
    {call : Call}
    (hSaves : ∀ doc reply next, P doc → plain.load disk = .ok doc →
      plain.perform call (.ok doc) = .ok (reply, some next) → P next)
    (cut : Option Cut) : (plain.store.next disk call cut).Holds P := by
  refine Plan.holds_carryOut hDisk hDisk ?_ cut
  intro reply next hOutcome
  obtain ⟨doc, hLoad, hDoc⟩ := readable.load hDisk
  have hPerform : plain.perform call (plain.load disk) = .ok (reply, some next) := hOutcome
  rw [hLoad] at hPerform
  exact hSaves doc reply next hDoc hLoad hPerform

/-- The file after a call is the one from before, the one it saved, or none
if it was cut off between the removal and the renaming. -/
theorem file_next (disk : Disk Doc) (call : Call) (cut : Option Cut) :
    (plain.store.next disk call cut).file = disk.file ∨
    (∃ reply value, cut = none ∧
      plain.perform call (plain.load disk) = .ok (reply, some value) ∧
      (plain.store.next disk call cut).file = some (.document value)) ∨
    (cut = some .oldRemoved ∧ (plain.store.next disk call cut).file = none) := by
  rcases (plain.store.plan disk call).carryOut_cases disk cut with hSame | hSame |
    ⟨reply, value, hOutcome, hSame⟩
  · exact Or.inl (congrArg Disk.file hSame)
  · exact Or.inl (congrArg Disk.file hSame)
  · rcases cut with _ | cut
    · exact Or.inr (Or.inl ⟨reply, value, rfl, hOutcome, congrArg Disk.file hSame⟩)
    · by_cases hRemoved : cut = .oldRemoved
      · subst hRemoved
        exact Or.inr (Or.inr ⟨rfl, congrArg Disk.file hSame⟩)
      · exact Or.inl ((congrArg Disk.file hSame).trans
          (Disk.file_replace_of_cut _ value hRemoved))

/-- A call that does not succeed leaves the file, unless it was cut off
between the removal and the renaming. -/
theorem file_of_error {disk : Disk Doc} {call : Call} {cut : Option Cut} {failure : Failure}
    (hCut : cut = some .oldRemoved → disk.file = none)
    (h : plain.store.answer disk call cut = .error failure) :
    (plain.store.next disk call cut).file = disk.file := by
  rcases file_next disk call cut with hSame | ⟨reply, value, rfl, hPerform, _⟩ |
    ⟨hRemoved, hMissing⟩
  · exact hSame
  · have hOutcome : (plain.store.plan disk call).outcome = .ok (reply, some value) := hPerform
    have hSuccess := Plan.response_of_ok plain.store.io hOutcome
    cases h.symm.trans hSuccess
  · exact hMissing.trans (hCut hRemoved).symm

/-- What the document becomes under a call: it stays, or it is what the call
saved. -/
theorem load_next {disk : Disk Doc} {doc : Doc} (hLoad : plain.load disk = .ok doc) (call : Call)
    {cut : Option Cut} (hCut : cut = some .oldRemoved → disk.file = none) :
    plain.load (plain.store.next disk call cut) = .ok doc ∨
    ∃ reply value, cut = none ∧ plain.perform call (.ok doc) = .ok (reply, some value) ∧
      plain.load (plain.store.next disk call cut) = plain.read (some value) := by
  rcases file_next disk call cut with hSame | ⟨reply, value, hNone, hPerform, hFile⟩ |
    ⟨hRemoved, hMissing⟩
  · exact Or.inl ((plain.load_of_contents (Disk.contents_of_file hSame)).trans hLoad)
  · rw [hLoad] at hPerform
    refine Or.inr ⟨reply, value, hNone, hPerform, ?_⟩
    rw [DocumentStore.load, Disk.contents, hFile]
  · have hSame := hMissing.trans (hCut hRemoved).symm
    exact Or.inl ((plain.load_of_contents (Disk.contents_of_file hSame)).trans hLoad)

theorem load_of_saved {disk : Disk Doc} {call : Call} {reply : Reply} {value : Doc}
    (h : plain.perform call (plain.load disk) = .ok (reply, some value)) :
    plain.load (plain.store.next disk call none) = plain.read (some value) := by
  have hNotCut : (none : Option Cut) ≠ some .notStarted := by decide
  have hOutcome : (plain.store.plan disk call).outcome = .ok (reply, some value) := h
  have hDisk := Plan.carryOut_of_saved disk hOutcome hNotCut
  exact congrArg plain.load hDisk

theorem next_of_unsaved {disk : Disk Doc} {call : Call} {reply : Reply}
    (h : plain.perform call (plain.load disk) = .ok (reply, none)) :
    plain.store.next disk call none = disk := by
  refine Plan.carryOut_of_unsaved disk fun other value hOther => ?_
  have hSame := h.symm.trans hOther
  cases hSame

/-- A call that succeeds answers what the work on the document answered. -/
theorem perform_of_answer {disk : Disk Doc} {call : Call} {cut : Option Cut} {reply : Reply}
    (h : plain.store.answer disk call cut = .ok reply) :
    cut = none ∧ ∃ saved, plain.perform call (plain.load disk) = .ok (reply, saved) :=
  Plan.response_eq_ok h

end Calls
end DocumentStore
end HamLogger.FileReplace
