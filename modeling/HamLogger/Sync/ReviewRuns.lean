import HamLogger.Sync.ConflictReview

/-! Conflict reviews over whole runs: one open review for each conflict, no
review lost, and decisions that stay as they were made. -/
namespace HamLogger

open FileReplace (Cut Disk DocumentStore)
open Transition (Run System)
open JsonConflictReviewStore

/-- A review file with distinct reviews, and at most one open review for each
conflict of a logbook. -/
structure ConflictReviewFile.OpenOnce (file : ConflictReviewFile) : Prop where
  valid : file.validate = .ok ()
  distinct : (file.reviews.map ManualConflictReview.reviewId).Nodup
  opened : ∀ left ∈ file.reviews, ∀ right ∈ file.reviews, left.status = .opened →
    right.status = .opened → left.report.logbookId = right.report.logbookId →
    left.reportFingerprint = right.reportFingerprint → left = right

/-- A review keeps its report, and everything once it is resolved. -/
structure ManualConflictReview.Kept (old new : ManualConflictReview) : Prop where
  reviewId : new.reviewId = old.reviewId
  report : new.report = old.report
  fingerprint : new.reportFingerprint = old.reportFingerprint
  resolved : old.status = .resolved → new = old

theorem ManualConflictReview.Kept.refl (review : ManualConflictReview) : review.Kept review :=
  ⟨rfl, rfl, rfl, fun _ => rfl⟩

theorem ManualConflictReview.Kept.trans {first second third : ManualConflictReview}
    (h : first.Kept second) (h' : second.Kept third) : first.Kept third where
  reviewId := h'.reviewId.trans h.reviewId
  report := h'.report.trans h.report
  fingerprint := h'.fingerprint.trans h.fingerprint
  resolved hFirst := by
    have hSecond := h.resolved hFirst
    rw [← hSecond] at hFirst
    exact (h'.resolved hFirst).trans hSecond

/-- Every review of the file is kept in the next one. -/
def ConflictReviewFile.Keeps (file next : ConflictReviewFile) : Prop :=
  ∀ old ∈ file.reviews, ∃ new ∈ next.reviews, old.Kept new

theorem ConflictReviewFile.Keeps.refl (file : ConflictReviewFile) : file.Keeps file :=
  fun old hOld => ⟨old, hOld, .refl old⟩

theorem ConflictReviewFile.Keeps.trans {first second third : ConflictReviewFile}
    (h : first.Keeps second) (h' : second.Keeps third) : first.Keeps third := by
  intro old hOld
  obtain ⟨middle, hMiddle, hFirst⟩ := h old hOld
  obtain ⟨new, hNew, hSecond⟩ := h' middle hMiddle
  exact ⟨new, hNew, hFirst.trans hSecond⟩

theorem ConflictReviewFile.OpenOnce.sorted {file : ConflictReviewFile} (h : file.OpenOnce) :
    file.sorted.OpenOnce where
  valid := h.valid
  distinct := (file.perm_sorted.map _).nodup_iff.mpr h.distinct
  opened left hLeft right hRight :=
    h.opened left ((file.mem_sorted left).mp hLeft) right ((file.mem_sorted right).mp hRight)

/-! What a call does to the reviews. -/

/-- The call resolves an open review only, if it resolves one. -/
def ReviewCall.ResolvesOpen (file : ConflictReviewFile) : ReviewCall → Prop
  | .resolveReview reviewId _ _ => ∀ review, findReview file reviewId = some review →
      review.status = .opened
  | _ => True

/-- The random identifier of a call is one that no review has. -/
def ReviewCall.Fresh (file : ConflictReviewFile) : ReviewCall → Prop
  | .createReview _ _ random => ∀ review ∈ file.reviews, review.reviewId ≠ random
  | _ => True

theorem openOnce_of_setReview {file : ConflictReviewFile} (h : file.OpenOnce) {reviewId : Uuid}
    {review : ManualConflictReview} (hFound : findReview file reviewId = some review)
    (resolution : ManualConflictResolution) (now : DateTime) :
    (setReview file reviewId (review.resolve resolution now)).OpenOnce := by
  refine ⟨h.valid, ?_, ?_⟩
  · have hIds : (setReview file reviewId (review.resolve resolution now)).reviews.map
        ManualConflictReview.reviewId = file.reviews.map ManualConflictReview.reviewId := by
      refine map_updateFirst fun found hFirst => ?_
      obtain rfl := Option.some.inj (hFound.symm.trans hFirst)
      rfl
    rw [hIds]
    exact h.distinct
  · have hOld : ∀ new ∈ (setReview file reviewId (review.resolve resolution now)).reviews,
        new.status = .opened → new ∈ file.reviews := by
      intro new hNew hOpen
      obtain ⟨old, hMem, rfl | ⟨_, rfl⟩⟩ := exists_left_of_forall₂ (forall₂_updateFirst _) hNew
      · exact hMem
      · cases hOpen
    intro left hLeft right hRight hLeftOpen hRightOpen
    exact h.opened left (hOld left hLeft hLeftOpen) right (hOld right hRight hRightOpen)
      hLeftOpen hRightOpen

theorem keeps_setReview {file : ConflictReviewFile} {reviewId : Uuid}
    {review : ManualConflictReview} (hFound : findReview file reviewId = some review)
    (hOpen : review.status = .opened) (resolution : ManualConflictResolution) (now : DateTime) :
    file.Keeps (setReview file reviewId (review.resolve resolution now)) := by
  intro old hOld
  obtain ⟨new, hNew, rfl | ⟨hFirst, rfl⟩⟩ := exists_right_of_forall₂
    (@forall₂_updateFirst _ (fun existing => existing.reviewId = reviewId)
      (fun _ => review.resolve resolution now) file.reviews) hOld
  · exact ⟨new, hNew, .refl new⟩
  · obtain rfl := Option.some.inj (hFound.symm.trans hFirst)
    refine ⟨_, hNew, rfl, rfl, rfl, fun hResolved => ?_⟩
    rw [hOpen] at hResolved
    cases hResolved

section Runs
variable [Sha2Crate] [ConflictReportJson]

theorem openOnce_of_created {file : ConflictReviewFile} (h : file.OpenOnce)
    {report : SyncConflictReport} {now : DateTime} {random : Uuid}
    (hFresh : ∀ review ∈ file.reviews, review.reviewId ≠ random)
    (hNew : ∀ review ∈ file.reviews, review.report.logbookId = report.logbookId →
      review.reportFingerprint = conflictReportFingerprint report → review.status ≠ .opened) :
    ConflictReviewFile.OpenOnce
      { file with reviews := file.reviews ++ [.new report now random] } := by
  have hNotOpen : ∀ old ∈ file.reviews, old.status = .opened →
      old.report.logbookId = report.logbookId →
      old.reportFingerprint ≠ conflictReportFingerprint report :=
    fun old hOld hOpen hLogbook hSame => hNew old hOld hLogbook hSame hOpen
  refine ⟨h.valid, ?_, ?_⟩
  · have hIds : (file.reviews ++ [ManualConflictReview.new report now random]).map
        ManualConflictReview.reviewId =
          file.reviews.map ManualConflictReview.reviewId ++ [random] := List.map_append
    rw [hIds, List.nodup_append]
    refine ⟨h.distinct, List.nodup_singleton random, ?_⟩
    intro id hId other hOther
    obtain ⟨review, hMem, rfl⟩ := List.mem_map.mp hId
    rw [List.mem_singleton.mp hOther]
    exact hFresh review hMem
  · intro left hLeft right hRight hLeftOpen hRightOpen hLogbook hFingerprint
    rcases List.mem_append.mp hLeft with hLeftOld | hLeftNew
    · rcases List.mem_append.mp hRight with hRightOld | hRightNew
      · exact h.opened left hLeftOld right hRightOld hLeftOpen hRightOpen hLogbook hFingerprint
      · obtain rfl := List.mem_singleton.mp hRightNew
        exact absurd hFingerprint (hNotOpen left hLeftOld hLeftOpen hLogbook)
    · obtain rfl := List.mem_singleton.mp hLeftNew
      rcases List.mem_append.mp hRight with hRightOld | hRightNew
      · exact absurd hFingerprint.symm (hNotOpen right hRightOld hRightOpen hLogbook.symm)
      · exact (List.mem_singleton.mp hRightNew).symm

theorem openOnce_of_onFile {file next : ConflictReviewFile} (h : file.OpenOnce) {call : ReviewCall}
    (hFresh : call.Fresh file) {reply : ReviewReply}
    (hCall : call.onFile file = .ok (reply, some next)) : next.OpenOnce := by
  rcases onFile_eq_ok hCall with ⟨report, now, random, value, rfl, hCreate⟩ |
    ⟨reviewId, resolution, now, value, rfl, hResolve⟩
  · obtain ⟨hNew, rfl, _⟩ := createReview_eq_ok hCreate
    exact (openOnce_of_created h hFresh hNew).sorted
  · obtain ⟨review, hFound, rfl, _⟩ := resolveReview_eq_ok hResolve
    exact (openOnce_of_setReview h hFound resolution now).sorted

theorem keeps_of_onFile {file next : ConflictReviewFile} {call : ReviewCall}
    (hOpen : call.ResolvesOpen file) {reply : ReviewReply}
    (hCall : call.onFile file = .ok (reply, some next)) : file.Keeps next := by
  rcases onFile_eq_ok hCall with ⟨report, now, random, value, rfl, hCreate⟩ |
    ⟨reviewId, resolution, now, value, rfl, hResolve⟩
  · obtain ⟨_, rfl, _⟩ := createReview_eq_ok hCreate
    intro old hOld
    refine ⟨old, ?_, .refl old⟩
    exact (ConflictReviewFile.mem_sorted _ old).mpr (List.mem_append_left _ hOld)
  · obtain ⟨review, hFound, rfl, _⟩ := resolveReview_eq_ok hResolve
    intro old hOld
    have hKeeps := keeps_setReview hFound (hOpen review hFound) resolution now
    obtain ⟨new, hNew, hKept⟩ := hKeeps old hOld
    exact ⟨new, (ConflictReviewFile.mem_sorted _ new).mpr hNew, hKept⟩

/-- Calls one after the other, each carried out, cut off by a crash, or ended
by an error of the file system. -/
def reviewSystem : System (Disk ConflictReviewFile) (ReviewCall × Option Cut) where
  step disk label later :=
    (∀ file, reviewStore.load disk = .ok file → label.1.Fresh file) ∧
      later = reviewStore.store.next disk label.1 label.2

/-- The step resolves no review that is resolved already, and is not cut off
between the removal of the review file and the renaming. -/
structure KeepsDecisions (disk : Disk ConflictReviewFile) (label : ReviewCall × Option Cut) :
    Prop where
  opened : ∀ file, reviewStore.load disk = .ok file → label.1.ResolvesOpen file
  whole : label.2 = some .oldRemoved → disk.file = none

theorem readable_openOnce : DocumentStore.Readable reviewStore ConflictReviewFile.OpenOnce where
  empty := ⟨rfl, List.nodup_nil, fun _ hMem => absurd hMem List.not_mem_nil⟩
  read value h := ⟨value.sorted, readFile_eq_ok_iff.mpr ⟨value, rfl, h.valid, rfl⟩, h.sorted⟩

theorem openOnce_next {disk later : Disk ConflictReviewFile} {label : ReviewCall × Option Cut}
    (hDisk : disk.Holds ConflictReviewFile.OpenOnce) (hStep : reviewSystem.step disk label later) :
    later.Holds ConflictReviewFile.OpenOnce := by
  obtain ⟨hFresh, rfl⟩ := hStep
  refine DocumentStore.holds_next readable_openOnce hDisk ?_ label.2
  intro file reply next hFile hLoad hCall
  exact openOnce_of_onFile hFile (hFresh file hLoad) hCall

/-- The reviews that a load shows are kept by a step. -/
theorem keeps_next {disk later : Disk ConflictReviewFile} {label : ReviewCall × Option Cut}
    (hStep : (reviewSystem.restrict KeepsDecisions).step disk label later)
    {file : ConflictReviewFile} (hLoad : reviewStore.load disk = .ok file) :
    ∃ next, reviewStore.load later = .ok next ∧ file.Keeps next := by
  obtain ⟨hAllowed, _, rfl⟩ := hStep
  rcases DocumentStore.load_next hLoad label.1 hAllowed.whole with hSame |
    ⟨reply, value, _, hCall, hLater⟩
  · exact ⟨file, hSame, .refl file⟩
  · have hKeeps := keeps_of_onFile (hAllowed.opened file hLoad) hCall
    have hValid : value.validate = .ok () := by
      rcases onFile_eq_ok hCall with ⟨_, _, _, _, _, hCreate⟩ | ⟨_, _, _, _, _, hResolve⟩
      · exact (createReview_eq_ok hCreate).2.2
      · obtain ⟨_, _, _, hValid⟩ := resolveReview_eq_ok hResolve
        exact hValid
    have hRead : reviewStore.read (some value) = .ok value.sorted :=
      readFile_eq_ok_iff.mpr ⟨value, rfl, hValid, rfl⟩
    refine ⟨value.sorted, hLater.trans hRead, ?_⟩
    intro old hOld
    obtain ⟨new, hNew, hKept⟩ := hKeeps old hOld
    exact ⟨new, (value.mem_sorted new).mpr hNew, hKept⟩

/-- In every run that resolves open reviews only, there is one open review for
each conflict, and reviews and decisions are kept. -/
theorem decisions_kept {labels : List (ReviewCall × Option Cut)} {disk : Disk ConflictReviewFile}
    (run : Run (reviewSystem.restrict KeepsDecisions) {} labels disk) :
    ∃ file, reviewStore.load disk = .ok file ∧ file.OpenOnce ∧
      ∀ (further : List (ReviewCall × Option Cut)) (later : Disk ConflictReviewFile),
        Run (reviewSystem.restrict KeepsDecisions) disk further later →
        ∃ next, reviewStore.load later = .ok next ∧ next.OpenOnce ∧ file.Keeps next := by
  have hKeep : ∀ before label after, before.Holds ConflictReviewFile.OpenOnce →
      (reviewSystem.restrict KeepsDecisions).step before label after →
      after.Holds ConflictReviewFile.OpenOnce :=
    fun _ _ _ hBefore hStep => openOnce_next hBefore hStep.2
  have hDisk := run.invariant hKeep (Disk.holds_empty _)
  obtain ⟨file, hLoad, hFile⟩ := readable_openOnce.load hDisk
  refine ⟨file, hLoad, hFile, ?_⟩
  intro further later hLater
  obtain ⟨next, hNext, hKeeps⟩ : ∃ next, reviewStore.load later = .ok next ∧ file.Keeps next := by
    refine hLater.invariant (P := fun state => ∃ next, reviewStore.load state = .ok next ∧
      file.Keeps next) ?_ ⟨file, hLoad, .refl file⟩
    rintro before label after ⟨middle, hMiddle, hFirst⟩ hStep
    obtain ⟨next, hNext, hSecond⟩ := keeps_next hStep hMiddle
    exact ⟨next, hNext, hFirst.trans hSecond⟩
  obtain ⟨loaded, hLoaded, hOnce⟩ := readable_openOnce.load (hLater.invariant hKeep hDisk)
  obtain rfl : loaded = next := Except.ok.inj (hLoaded.symm.trans hNext)
  exact ⟨loaded, hLoaded, hOnce, hKeeps⟩

end Runs

section
open Crates

theorem decisions_kept_diverged :
    let created := reviewStore.store.next {} (.createReview (sampleReport 1) epoch 7) none
    let resolved := reviewStore.store.next created
      (.resolveReview 7 { choice := .keepLocalHistory } epoch) none
    ∃ file, reviewStore.load resolved = .ok file ∧ file.OpenOnce ∧
      ∃ next, reviewStore.load (reviewStore.store.next resolved
        (.createReview (sampleReport 1) epoch 8) none) = .ok next ∧ file.Keeps next := by
  intro created resolved
  have hCreated : (reviewSystem.restrict KeepsDecisions).step {}
      (.createReview (sampleReport 1) epoch 7, none) created := by
    refine ⟨⟨fun _ _ => trivial, fun h => by cases h⟩, ?_, rfl⟩
    intro file hFile review hMem
    cases hFile
    cases hMem
  have hResolved : (reviewSystem.restrict KeepsDecisions).step created
      (.resolveReview 7 { choice := .keepLocalHistory } epoch, none) resolved := by
    refine ⟨⟨?_, fun h => by cases h⟩, fun _ _ => trivial, rfl⟩
    intro file hFile review hFound
    cases hFile
    cases hFound
    rfl
  have hAgain : (reviewSystem.restrict KeepsDecisions).step resolved
      (.createReview (sampleReport 1) epoch 8, none)
      (reviewStore.store.next resolved (.createReview (sampleReport 1) epoch 8) none) := by
    refine ⟨⟨fun _ _ => trivial, fun h => by cases h⟩, ?_, rfl⟩
    intro file hFile review hMem
    cases hFile
    obtain rfl := List.mem_singleton.mp hMem
    show (7 : Uuid) ≠ 8
    decide
  obtain ⟨file, hLoad, hOnce, hKept⟩ :=
    decisions_kept (Run.snoc (Run.single hCreated) hResolved)
  obtain ⟨next, hNext, _, hKeeps⟩ := hKept _ _ (Run.single hAgain)
  exact ⟨file, hLoad, hOnce, next, hNext, hKeeps⟩

/-- A review that is resolved is resolved a second time, and the first
decision is gone. -/
theorem resolved_review_overwritten :
    let minute : DateTime := ⟨60000000000, by decide, by decide⟩
    let created := reviewStore.store.next {} (.createReview (sampleReport 1) epoch 7) none
    let resolved := reviewStore.store.next created
      (.resolveReview 7 { choice := .keepLocalHistory } epoch) none
    let later := reviewStore.store.next resolved
      (.resolveReview 7 { choice := .markUserActionRequired } minute) none
    Run reviewSystem {} [(.createReview (sampleReport 1) epoch 7, none),
      (.resolveReview 7 { choice := .keepLocalHistory } epoch, none),
      (.resolveReview 7 { choice := .markUserActionRequired } minute, none)] later ∧
    (∃ file, reviewStore.load resolved = .ok file ∧
      file.reviews.map (fun review => (review.status, review.selectedResolution,
        review.resolvedAt)) =
          [(.resolved, some { choice := .keepLocalHistory }, some epoch)]) ∧
    ∃ file, reviewStore.load later = .ok file ∧
      file.reviews.map (fun review => (review.status, review.selectedResolution,
        review.resolvedAt)) =
          [(.resolved, some { choice := .markUserActionRequired }, some minute)] := by
  intro minute created resolved later
  have hCreated : reviewSystem.step {} (.createReview (sampleReport 1) epoch 7, none) created := by
    refine ⟨?_, rfl⟩
    intro file hFile review hMem
    cases hFile
    cases hMem
  have hResolved : reviewSystem.step created
      (.resolveReview 7 { choice := .keepLocalHistory } epoch, none) resolved :=
    ⟨fun _ _ => trivial, rfl⟩
  have hLater : reviewSystem.step resolved
      (.resolveReview 7 { choice := .markUserActionRequired } minute, none) later :=
    ⟨fun _ _ => trivial, rfl⟩
  exact ⟨Run.snoc (Run.snoc (Run.single hCreated) hResolved) hLater, ⟨_, rfl, rfl⟩, _, rfl, rfl⟩

end

end HamLogger
