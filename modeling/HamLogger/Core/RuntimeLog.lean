import HamLogger.Core.Bus
import HamLogger.Library.BlockRotation
import Mathlib.Data.Set.Card

/-! The log of runtime events: lines are appended to one active file, which is
renamed along a chain of numbered files when it grows too large. The directory
does what it is asked to do, and the sum of a file's length and a line's stays
below 2^64. -/
namespace HamLogger

/-- The files of the log directory, by their names. -/
abbrev LogDirectory := String → Option (List UInt8)

structure RuntimeLogConfig where
  maxBytes : Nat
  retainedFiles : Nat

/-- `serde_json::to_vec` of an event. -/
class RuntimeEventJson where
  toVec : RuntimeEventEnvelope → Except String (List UInt8)

namespace RuntimeJsonlLogWriter

def runtimeLogFileName : String := "runtime-events.jsonl"

def rotatedPath (index : Nat) : String :=
  runtimeLogFileName ++ "." ++ Nat.repr index

/-! ### The file system -/

def removeFile (directory : LogDirectory) (path : String) : LogDirectory :=
  Function.update directory path none

/-- A file is renamed if it exists, over a file of the new name. -/
def renameExisting (directory : LogDirectory) (source target : String) : LogDirectory :=
  match directory source with
  | none => directory
  | some bytes => Function.update (Function.update directory source none) target (some bytes)

def appendToFile (directory : LogDirectory) (path : String) (line : List UInt8) : LogDirectory :=
  Function.update directory path (some ((directory path).getD [] ++ line))

/-! ### The writer -/

def shouldRotate (config : RuntimeLogConfig) (directory : LogDirectory) (incomingBytes : Nat) :
    Bool :=
  match directory runtimeLogFileName with
  | none => false
  | some bytes => 0 < bytes.length ∧ config.maxBytes < bytes.length + incomingBytes

/-- The loop over the numbered files, from the given index down to 1. -/
def renameRotated (directory : LogDirectory) : Nat → LogDirectory
  | 0 => directory
  | index + 1 =>
      renameRotated
        (renameExisting directory (rotatedPath (index + 1)) (rotatedPath (index + 2))) index

def rotate (config : RuntimeLogConfig) (directory : LogDirectory) : LogDirectory :=
  if config.retainedFiles = 0 then removeFile directory runtimeLogFileName
  else
    let directory := removeFile directory (rotatedPath config.retainedFiles)
    let directory := renameRotated directory (config.retainedFiles - 1)
    renameExisting directory runtimeLogFileName (rotatedPath 1)

def appendLine (config : RuntimeLogConfig) (directory : LogDirectory) (line : List UInt8) :
    LogDirectory :=
  let directory :=
    if shouldRotate config directory line.length then rotate config directory else directory
  appendToFile directory runtimeLogFileName line

def append [RuntimeEventJson] (config : RuntimeLogConfig) (directory : LogDirectory)
    (event : RuntimeEventEnvelope) : Except String LogDirectory :=
  match RuntimeEventJson.toVec event with
  | .error error => .error error
  | .ok text => .ok (appendLine config directory (text ++ [10]))

/-! ### Names of files -/

/-- The active file, then the numbered files from the newest on. -/
def slotName : Nat → String
  | 0 => runtimeLogFileName
  | index + 1 => rotatedPath (index + 1)

theorem rotatedPath_toList (index : Nat) :
    (rotatedPath index).toList =
      runtimeLogFileName.toList ++ '.' :: (Nat.repr index).toList := by
  simp [rotatedPath]

theorem rotatedPath_injective : Function.Injective rotatedPath := by
  intro index other h
  have hText := congrArg String.toList h
  rw [rotatedPath_toList, rotatedPath_toList] at hText
  have hDigits := (List.cons.inj (List.append_cancel_left hText)).2
  have hNumber := congrArg (fun digits => Nat.ofDigitChars 10 digits 0) hDigits
  simpa using hNumber

theorem active_ne_rotatedPath (index : Nat) : runtimeLogFileName ≠ rotatedPath index := by
  intro h
  have hLength := congrArg (fun name : String => name.toList.length) h
  simp only [rotatedPath_toList, List.length_append, List.length_cons] at hLength
  omega

theorem slotName_injective : Function.Injective slotName := by
  intro slot other h
  match slot, other with
  | 0, 0 => rfl
  | 0, index + 1 => exact absurd h (active_ne_rotatedPath _)
  | index + 1, 0 => exact absurd h.symm (active_ne_rotatedPath _)
  | index + 1, next + 1 => exact rotatedPath_injective h

@[simp] theorem slotName_inj {slot other : Nat} : slotName slot = slotName other ↔ slot = other :=
  slotName_injective.eq_iff

/-! ### What one rotation does -/

/-- Over a free name a file is moved, whether it exists or not. -/
theorem renameExisting_of_free {directory : LogDirectory} {source target : String}
    (hFree : directory target = none) :
    renameExisting directory source target =
      Function.update (Function.update directory source none) target (directory source) := by
  unfold renameExisting
  cases h : directory source with
  | some bytes => rfl
  | none =>
      change directory = _
      funext name
      by_cases hTarget : name = target
      · rw [hTarget, Function.update_self, hFree]
      · by_cases hSource : name = source
        · rw [Function.update_of_ne hTarget, hSource, Function.update_self, h]
        · rw [Function.update_of_ne hTarget, Function.update_of_ne hSource]

/-- A directory in which the files up to a slot have moved one slot on. -/
structure Shifted (before after : LogDirectory) (last : Nat) : Prop where
  moved : ∀ slot, slot < last → after (slotName (slot + 1)) = before (slotName slot)
  freed : after (slotName 0) = none
  beyond : ∀ slot, last < slot → after (slotName slot) = before (slotName slot)
  foreign : ∀ name, (∀ slot, name ≠ slotName slot) → after name = before name

/-- The loop leaves slot 1 free if the slot that it moves into first was free. -/
theorem renameRotated_spec (count : Nat) (directory : LogDirectory)
    (hFree : directory (slotName (count + 1)) = none) :
    (∀ slot, slot < count →
      renameRotated directory count (slotName (slot + 2)) = directory (slotName (slot + 1))) ∧
    renameRotated directory count (slotName 1) = none ∧
    (∀ name, (∀ slot, slot ≤ count → name ≠ slotName (slot + 1)) →
      renameRotated directory count name = directory name) := by
  induction count generalizing directory with
  | zero => exact ⟨fun slot h => absurd h (Nat.not_lt_zero slot), hFree, fun _ _ => rfl⟩
  | succ count ih =>
      have hDistinct : slotName (count + 1) ≠ slotName (count + 2) := by simp
      have hMove : renameExisting directory (slotName (count + 1)) (slotName (count + 2)) = _ :=
        renameExisting_of_free hFree
      obtain ⟨hMoved, hFreed, hOther⟩ :=
        ih (renameExisting directory (slotName (count + 1)) (slotName (count + 2))) (by
          rw [hMove, Function.update_of_ne hDistinct, Function.update_self])
      refine ⟨?_, hFreed, ?_⟩
      · intro slot hSlot
        change renameRotated (renameExisting directory (slotName (count + 1))
          (slotName (count + 2))) count _ = _
        rcases Nat.lt_succ_iff_lt_or_eq.mp hSlot with hEarlier | rfl
        · rw [hMoved slot hEarlier, hMove, Function.update_of_ne (by simp; omega),
            Function.update_of_ne (by simp; omega)]
        · rw [hOther _ (by intro other h; simp; omega), hMove, Function.update_self]
      · intro name hName
        change renameRotated (renameExisting directory (slotName (count + 1))
          (slotName (count + 2))) count _ = _
        rw [hOther name fun slot h => hName slot (Nat.le_succ_of_le h), hMove,
          Function.update_of_ne (hName (count + 1) le_rfl),
          Function.update_of_ne (hName count (Nat.le_succ count))]

/-- With files to retain, a rotation clears the last slot, moves the numbered
files and then the active one. -/
theorem rotate_eq {config : RuntimeLogConfig} {count : Nat}
    (hCount : config.retainedFiles = count + 1) (directory : LogDirectory) :
    rotate config directory = renameExisting
      (renameRotated (removeFile directory (slotName (count + 1))) count)
      (slotName 0) (slotName 1) := by
  unfold rotate
  rw [hCount, if_neg (Nat.succ_ne_zero count)]
  rfl

theorem rotate_shifted_none {config : RuntimeLogConfig} (hNone : config.retainedFiles = 0)
    (directory : LogDirectory) : Shifted directory (rotate config directory) 0 := by
  have hRotate : rotate config directory = Function.update directory (slotName 0) none := by
    unfold rotate
    rw [if_pos hNone]
    rfl
  rw [hRotate]
  refine ⟨fun slot h => absurd h (Nat.not_lt_zero slot), Function.update_self .., ?_, ?_⟩
  · intro slot hSlot
    exact Function.update_of_ne (slotName_injective.ne (Nat.ne_of_gt hSlot)) ..
  · intro name hName
    exact Function.update_of_ne (hName 0) ..

theorem rotate_shifted_succ {config : RuntimeLogConfig} {count : Nat}
    (hCount : config.retainedFiles = count + 1) (directory : LogDirectory) :
    Shifted directory (rotate config directory) (count + 1) := by
  have hOldest (slot : Nat) (h : slot ≠ count + 1) :
      removeFile directory (slotName (count + 1)) (slotName slot) = directory (slotName slot) :=
    Function.update_of_ne (slotName_injective.ne h) ..
  obtain ⟨hMoved, hFreed, hOther⟩ := renameRotated_spec count
    (removeFile directory (slotName (count + 1))) (Function.update_self ..)
  have hActive : renameRotated (removeFile directory (slotName (count + 1))) count
      (slotName 0) = directory (slotName 0) := by
    rw [hOther _ (by intro slot h; simp), hOldest 0 (by omega)]
  rw [rotate_eq hCount, renameExisting_of_free hFreed]
  refine ⟨?_, ?_, ?_, ?_⟩
  · intro slot hSlot
    cases slot with
    | zero => rw [Function.update_self, hActive]
    | succ slot =>
        rw [Function.update_of_ne (by simp), Function.update_of_ne (by simp),
          hMoved slot (by omega), hOldest _ (by omega)]
  · rw [Function.update_of_ne (by simp), Function.update_self]
  · intro slot hSlot
    rw [Function.update_of_ne (by simp; omega), Function.update_of_ne (by simp; omega),
      hOther _ (by intro other h; simp; omega), hOldest _ (by omega)]
  · intro name hName
    rw [Function.update_of_ne (hName 1), Function.update_of_ne (hName 0),
      hOther _ (fun slot _ => hName (slot + 1))]
    exact Function.update_of_ne (hName (count + 1)) ..

theorem rotate_shifted (config : RuntimeLogConfig) (directory : LogDirectory) :
    Shifted directory (rotate config directory) config.retainedFiles := by
  cases hCount : config.retainedFiles with
  | zero => exact rotate_shifted_none hCount directory
  | succ count => exact rotate_shifted_succ hCount directory

/-! ### The directory as blocks of lines -/

open BlockRotation (push kept Overflows Bounded blockSize)

/-- The files are these blocks of lines, the active file first. -/
structure Holds (directory : LogDirectory) (blocks : List (List (List UInt8))) : Prop where
  slots : ∀ slot, directory (slotName slot) = blocks[slot]?.map List.flatten
  foreign : ∀ name, (∀ slot, name ≠ slotName slot) → directory name = none

theorem holds_empty : Holds (fun _ => none) [] :=
  ⟨fun _ => rfl, fun _ _ => rfl⟩

theorem blockSize_length (block : List (List UInt8)) :
    blockSize List.length block = block.flatten.length :=
  List.length_flatten.symm

/-- A line is appended to the block of the active file, which may be new. -/
theorem Holds.appendToFile {directory : LogDirectory} {newest : List (List UInt8)}
    {older : List (List (List UInt8))} (line : List UInt8)
    (hActive : (directory (slotName 0)).getD [] = newest.flatten)
    (hOlder : ∀ slot, directory (slotName (slot + 1)) = older[slot]?.map List.flatten)
    (hForeign : ∀ name, (∀ slot, name ≠ slotName slot) → directory name = none) :
    Holds (appendToFile directory runtimeLogFileName line) ((newest ++ [line]) :: older) where
  slots := by
    intro slot
    change Function.update directory (slotName 0) _ _ = _
    cases slot with
    | zero =>
        change Function.update directory (slotName 0)
          (some ((directory (slotName 0)).getD [] ++ line)) (slotName 0) = _
        rw [Function.update_self, hActive]
        simp
    | succ slot => rw [Function.update_of_ne (by simp), hOlder slot, List.getElem?_cons_succ]
  foreign := by
    intro name hName
    change Function.update directory (slotName 0) _ _ = _
    rw [Function.update_of_ne (hName 0), hForeign name hName]

theorem shouldRotate_iff {directory : LogDirectory} {newest : List (List UInt8)}
    (config : RuntimeLogConfig) (line : List UInt8)
    (hActive : directory runtimeLogFileName = some newest.flatten) :
    shouldRotate config directory line.length = true ↔
      Overflows List.length config.maxBytes newest line := by
  unfold shouldRotate Overflows
  rw [hActive, blockSize_length]
  exact decide_eq_true_iff

/-- Moving every file one slot on makes room for an empty newest block. -/
theorem Holds.rotated {directory : LogDirectory} {blocks : List (List (List UInt8))}
    {retained : Nat} {after : LogDirectory} (h : Holds directory blocks)
    (hShift : Shifted directory after retained) (hLength : blocks.length ≤ retained + 1)
    (slot : Nat) :
    after (slotName (slot + 1)) = (blocks.take retained)[slot]?.map List.flatten := by
  rw [List.getElem?_take]
  split
  · rename_i hKept
    rw [hShift.moved slot hKept, h.slots slot]
  · rename_i hBeyond
    rw [hShift.beyond (slot + 1) (by omega), h.slots (slot + 1),
      List.getElem?_eq_none (by omega)]

theorem Holds.appendLine {config : RuntimeLogConfig} {directory : LogDirectory}
    {blocks : List (List (List UInt8))} (h : Holds directory blocks)
    (hLength : blocks.length ≤ config.retainedFiles + 1) (line : List UInt8) :
    Holds (appendLine config directory line)
      (push List.length config.maxBytes config.retainedFiles blocks line) := by
  have hActive : directory runtimeLogFileName = blocks[0]?.map List.flatten := h.slots 0
  cases blocks with
  | nil =>
      have hKeep : shouldRotate config directory line.length = false := by
        simp [shouldRotate, hActive]
      rw [push, RuntimeJsonlLogWriter.appendLine, hKeep]
      exact @Holds.appendToFile _ [] _ line (by simp [h.slots 0])
        (fun slot => h.slots (slot + 1)) h.foreign
  | cons newest older =>
      have hRotate : shouldRotate config directory line.length = true ↔ _ :=
        shouldRotate_iff config line hActive
      rw [push, RuntimeJsonlLogWriter.appendLine]
      by_cases hFull : Overflows List.length config.maxBytes newest line
      · have hShift := rotate_shifted config directory
        rw [if_pos hFull, if_pos (hRotate.mpr hFull)]
        refine @Holds.appendToFile _ [] _ line ?_ (h.rotated hShift hLength) ?_
        · rw [hShift.freed]
          rfl
        · intro name hName
          rw [hShift.foreign name hName, h.foreign name hName]
      · rw [if_neg hFull, if_neg (fun hYes => hFull (hRotate.mp hYes))]
        exact Holds.appendToFile line (by simp [h.slots 0])
          (fun slot => by simpa using h.slots (slot + 1)) h.foreign

/-! ### What a reader finds -/

/-- The names of the files from the oldest to the newest. -/
def readingOrder (config : RuntimeLogConfig) : List String :=
  (List.range' 1 config.retainedFiles).reverse.map rotatedPath ++ [runtimeLogFileName]

/-- The directory holds the newest of the lines, each of them whole. -/
structure KeepsNewest (config : RuntimeLogConfig) (lines : List (List UInt8))
    (directory : LogDirectory) : Prop where
  /-- Read in order, the files are blocks of lines that make up a suffix of
  all lines, with the last one. -/
  newest : ∃ blocks : List (List (List UInt8)),
    (readingOrder config).filterMap directory = blocks.map List.flatten ∧
    blocks.flatten <:+ lines ∧ blocks.flatten.getLast? = lines.getLast? ∧
    ∀ block ∈ blocks, block.flatten.length ≤ config.maxBytes ∨
      ∃ line ∈ block, block.flatten.length ≤ line.length
  /-- There are no other files. -/
  listed : ∀ name, directory name ≠ none → name ∈ readingOrder config
  rotatedFiles :
    {name | directory name ≠ none ∧ name ≠ runtimeLogFileName}.ncard ≤ config.retainedFiles

theorem readingOrder_eq (config : RuntimeLogConfig) :
    readingOrder config = ((List.range (config.retainedFiles + 1)).map slotName).reverse := by
  rw [List.range_succ_eq_map, List.map_cons, List.reverse_cons, List.map_map,
    ← List.map_reverse]
  unfold readingOrder
  rw [List.range'_eq_map_range, ← List.map_reverse, List.map_map]
  congr 1
  refine List.map_congr_left fun index _ => ?_
  simp [slotName, Nat.add_comm]

/-- The elements of a list, read by their positions in a range that is long enough. -/
theorem filterMap_range_getElem? {α : Type} (values : List α) {count : Nat}
    (h : values.length ≤ count) : (List.range count).filterMap (values[·]?) = values := by
  induction values generalizing count with
  | nil => simp
  | cons value rest ih =>
      obtain ⟨less, rfl⟩ := Nat.exists_eq_add_of_lt (Nat.lt_of_lt_of_le (Nat.succ_pos _) h)
      rw [Nat.zero_add, List.range_succ_eq_map, List.filterMap_cons, List.filterMap_map]
      have hLess : rest.length ≤ less := by simpa using h
      simpa [Function.comp_def] using ih hLess

theorem Holds.reading {config : RuntimeLogConfig} {directory : LogDirectory}
    {blocks : List (List (List UInt8))} (h : Holds directory blocks)
    (hLength : blocks.length ≤ config.retainedFiles + 1) :
    (readingOrder config).filterMap directory = blocks.reverse.map List.flatten := by
  have hSlots : (List.range (config.retainedFiles + 1)).filterMap
      (directory ∘ slotName) = blocks.map List.flatten := by
    have hRead := @filterMap_range_getElem? _ (blocks.map List.flatten)
      (config.retainedFiles + 1) (by simpa using hLength)
    refine Eq.trans (List.filterMap_congr fun slot _ => ?_) hRead
    rw [Function.comp_apply, h.slots slot, List.getElem?_map]
  rw [readingOrder_eq, List.filterMap_reverse, List.filterMap_map, hSlots, List.map_reverse]

theorem Holds.listed {config : RuntimeLogConfig} {directory : LogDirectory}
    {blocks : List (List (List UInt8))} (h : Holds directory blocks)
    (hLength : blocks.length ≤ config.retainedFiles + 1) {name : String}
    (hName : directory name ≠ none) :
    ∃ slot, slot ≤ config.retainedFiles ∧ name = slotName slot := by
  by_contra hNone
  refine hName (h.foreign name fun slot hSlot => hNone ⟨slot, ?_, hSlot⟩)
  by_contra hBeyond
  refine hName ?_
  rw [hSlot, h.slots slot, List.getElem?_eq_none (by omega)]
  rfl

theorem Holds.keepsNewest {config : RuntimeLogConfig} {directory : LogDirectory}
    {lines : List (List UInt8)} {blocks : List (List (List UInt8))} (h : Holds directory blocks)
    (hTracks : BlockRotation.Tracks List.length config.maxBytes config.retainedFiles lines
      blocks) : KeepsNewest config lines directory where
  newest := by
    refine ⟨blocks.reverse, h.reading hTracks.length_le, hTracks.suffix, hTracks.last, ?_⟩
    intro block hMem
    have hBounded := hTracks.bounded block (List.mem_reverse.mp hMem)
    rwa [Bounded, blockSize_length] at hBounded
  listed := by
    intro name hName
    obtain ⟨slot, hSlot, rfl⟩ := h.listed hTracks.length_le hName
    rw [readingOrder_eq]
    exact List.mem_reverse.mpr
      (List.mem_map_of_mem (List.mem_range.mpr (Nat.lt_succ_of_le hSlot)))
  rotatedFiles := by
    have hSubset : {name | directory name ≠ none ∧ name ≠ runtimeLogFileName} ⊆
        ((Finset.range config.retainedFiles).image fun index => slotName (index + 1) :
          Finset String) := by
      rintro name ⟨hName, hRotated⟩
      obtain ⟨slot, hSlot, rfl⟩ := h.listed hTracks.length_le hName
      cases slot with
      | zero => exact absurd rfl hRotated
      | succ index =>
          exact Finset.mem_coe.mpr (Finset.mem_image_of_mem _ (Finset.mem_range.mpr hSlot))
    calc _ ≤ ((Finset.range config.retainedFiles).image fun index => slotName (index + 1)).card :=
          (Set.ncard_le_ncard hSubset (Finset.finite_toSet _)).trans_eq (Set.ncard_coe_finset _)
      _ ≤ (Finset.range config.retainedFiles).card := Finset.card_image_le
      _ = config.retainedFiles := Finset.card_range _

section Runs
variable [RuntimeEventJson]

/-- The directory after a sequence of calls; one that fails changes no file. -/
def appendAll (config : RuntimeLogConfig) (directory : LogDirectory)
    (events : List RuntimeEventEnvelope) : LogDirectory :=
  events.foldl (fun directory event =>
    match append config directory event with
    | .ok directory => directory
    | .error _ => directory) directory

/-- The line of an event, unless it has no JSON text. -/
def lineOf (event : RuntimeEventEnvelope) : Option (List UInt8) :=
  match RuntimeEventJson.toVec event with
  | .error _ => none
  | .ok text => some (text ++ [10])

/-- The files stay blocks of the lines that were appended. -/
theorem appendAll_tracks (config : RuntimeLogConfig) (events : List RuntimeEventEnvelope) :
    ∃ blocks, Holds (appendAll config (fun _ => none) events) blocks ∧
      BlockRotation.Tracks List.length config.maxBytes config.retainedFiles
        (events.filterMap lineOf) blocks := by
  induction events using List.reverseRecOn with
  | nil => exact ⟨[], holds_empty, BlockRotation.Tracks.nil⟩
  | append_singleton prior event ih =>
      obtain ⟨blocks, hHolds, hTracks⟩ := ih
      unfold appendAll at hHolds ⊢
      rw [List.foldl_append, List.filterMap_append, List.foldl_cons, List.foldl_nil,
        List.filterMap_cons, List.filterMap_nil, append, lineOf]
      cases RuntimeEventJson.toVec event with
      | error error => exact ⟨blocks, hHolds, by simpa using hTracks⟩
      | ok text =>
          exact ⟨_, hHolds.appendLine hTracks.length_le (text ++ [10]), hTracks.push _⟩

/-- Whatever events are logged into an empty directory, its files hold the
newest lines in order and whole, there are at most as many numbered files as
are retained, and a file is within the bound or no larger than one line. -/
theorem runtime_log_keeps_newest (config : RuntimeLogConfig)
    (events : List RuntimeEventEnvelope) :
    KeepsNewest config (events.filterMap lineOf)
      (appendAll config (fun _ => none) events) := by
  obtain ⟨blocks, hHolds, hTracks⟩ := appendAll_tracks config events
  exact hHolds.keepsNewest hTracks

end Runs

end RuntimeJsonlLogWriter
end HamLogger
