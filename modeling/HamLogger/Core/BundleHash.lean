import HamLogger.Core.Crates
import HamLogger.Library.SeparatorFraming
import Mathlib.Data.List.Sort
import Mathlib.Data.String.Basic

/-! The hash over the contents of a diagnostic bundle, which its manifest
records. Names and contents are hashed with a zero byte after each. Here a file
of a bundle is its bytes. -/
namespace HamLogger.BundleBytes

structure DiagnosticBundleFile where
  name : String
  bytes : List UInt8
  deriving DecidableEq

def asBytes (text : String) : List UInt8 := text.toUTF8.data.toList

theorem asBytes_injective : Function.Injective asBytes := by
  intro text other h
  exact String.toByteArray_inj.mp (ByteArray.ext (Array.toList_inj.mp h))

/-- Files in the order of their names. -/
def sorted (files : List DiagnosticBundleFile) : List DiagnosticBundleFile :=
  files.insertionSort fun left right => left.name ≤ right.name

def hashedBytes (files : List DiagnosticBundleFile) : List UInt8 :=
  (sorted files).flatMap fun file => asBytes file.name ++ [0] ++ file.bytes ++ [0]

def bundleContentHash [Sha2Crate] (files : List DiagnosticBundleFile) : String :=
  bytesToHex (Sha2Crate.digest (hashedBytes files))

/-- The maps from names to contents are equal. -/
def SameContents (files others : List DiagnosticBundleFile) : Prop :=
  ∀ file, file ∈ files ↔ file ∈ others

/-- The digest tells the bytes of the two bundles apart. -/
def NoCollision [Sha2Crate] (files others : List DiagnosticBundleFile) : Prop :=
  Sha2Crate.digest (hashedBytes files) = Sha2Crate.digest (hashedBytes others) →
    hashedBytes files = hashedBytes others

/-- The numbers of zero bytes in the names and contents, file by file. -/
def zeroProfile (files : List DiagnosticBundleFile) : List (Nat × Nat) :=
  (sorted files).map fun file => ((asBytes file.name).count 0, file.bytes.count 0)

/-! ### Hexadecimal text -/

theorem hexDigit_injective {first second : Nat} (hFirst : first < 16) (hSecond : second < 16)
    (h : hexDigit first = hexDigit second) : first = second := by
  have hAll : ∀ value < 16, ∀ other < 16, hexDigit value = hexDigit other → value = other := by
    decide
  exact hAll first hFirst second hSecond h

theorem bytesToHex_injective : Function.Injective bytesToHex := by
  intro bytes others h
  have hText := String.ofList_injective h
  clear h
  induction bytes generalizing others with
  | nil =>
      cases others with
      | nil => rfl
      | cons other rest => simp at hText
  | cons byte rest ih =>
      cases others with
      | nil => simp at hText
      | cons other more =>
          simp only [List.flatMap_cons, List.cons_append, List.nil_append, List.cons.injEq]
            at hText
          obtain ⟨hHigh, hLow, hRest⟩ := hText
          have hByte := byte.toNat_lt
          have hOther := other.toNat_lt
          have hDiv := hexDigit_injective (by omega) (by omega) hHigh
          have hMod := hexDigit_injective (by omega) (by omega) hLow
          have hSame : byte = other := UInt8.toNat_inj.mp (by omega)
          rw [hSame, ih hRest]

/-! ### Sorting -/

theorem perm_sorted (files : List DiagnosticBundleFile) : (sorted files).Perm files :=
  List.perm_insertionSort _ files

theorem mem_sorted {files : List DiagnosticBundleFile} {file : DiagnosticBundleFile} :
    file ∈ sorted files ↔ file ∈ files :=
  (perm_sorted files).mem_iff

theorem pairwise_sorted (files : List DiagnosticBundleFile) :
    (sorted files).Pairwise fun left right => left.name ≤ right.name := by
  have hTotal : Std.Total fun left right : DiagnosticBundleFile => left.name ≤ right.name :=
    ⟨fun left right => le_total left.name right.name⟩
  have hTrans : IsTrans DiagnosticBundleFile fun left right => left.name ≤ right.name :=
    ⟨fun _ _ _ => le_trans⟩
  exact List.pairwise_insertionSort _ files

/-- With distinct names the order of a list does not matter. -/
theorem sorted_eq_iff {files others : List DiagnosticBundleFile}
    (hFiles : (files.map DiagnosticBundleFile.name).Nodup)
    (hOthers : (others.map DiagnosticBundleFile.name).Nodup) :
    sorted files = sorted others ↔ SameContents files others := by
  constructor
  · intro h file
    rw [← mem_sorted, h, mem_sorted]
  · intro h
    have hPerm : files.Perm others :=
      (List.perm_ext_iff_of_nodup (hFiles.of_map DiagnosticBundleFile.name)
        (hOthers.of_map DiagnosticBundleFile.name)).mpr h
    have hSorted := (perm_sorted files).trans (hPerm.trans (perm_sorted others).symm)
    refine hSorted.eq_of_pairwise ?_ (pairwise_sorted files) (pairwise_sorted others)
    intro first second hFirst hSecond hLe hGe
    exact List.inj_on_of_nodup_map hFiles (mem_sorted.mp hFirst)
      (hPerm.mem_iff.mpr (mem_sorted.mp hSecond)) (le_antisymm hLe hGe)

/-! ### The fields that are hashed -/

open SeparatorFraming (frame profile)

/-- The name and the content of each file. -/
def fields (files : List DiagnosticBundleFile) : List (List UInt8) :=
  files.flatMap fun file => [asBytes file.name, file.bytes]

@[simp] theorem fields_cons (file : DiagnosticBundleFile) (rest : List DiagnosticBundleFile) :
    fields (file :: rest) = asBytes file.name :: file.bytes :: fields rest := rfl

theorem hashedBytes_eq_frame (files : List DiagnosticBundleFile) :
    hashedBytes files = frame 0 (fields (sorted files)) := by
  unfold hashedBytes
  induction sorted files with
  | nil => rfl
  | cons file rest ih =>
      rw [List.flatMap_cons, ih, fields_cons, SeparatorFraming.frame_cons,
        SeparatorFraming.frame_cons]
      simp

theorem fields_injective : Function.Injective fields := by
  intro files others h
  induction files generalizing others with
  | nil =>
      cases others with
      | nil => rfl
      | cons other rest => simp [fields] at h
  | cons file rest ih =>
      cases others with
      | nil => simp [fields] at h
      | cons other more =>
          obtain ⟨hName, hBytes, hRest⟩ : asBytes file.name = asBytes other.name ∧
              file.bytes = other.bytes ∧ fields rest = fields more := by
            simpa [fields] using h
          have hFile : file = other := by
            cases file
            cases other
            simp_all [asBytes_injective.eq_iff]
          rw [hFile, ih hRest]

theorem zeroProfile_eq_iff {files others : List DiagnosticBundleFile} :
    zeroProfile files = zeroProfile others ↔
      profile 0 (fields (sorted files)) = profile 0 (fields (sorted others)) := by
  unfold zeroProfile
  generalize sorted files = left
  generalize sorted others = right
  induction left generalizing right with
  | nil => cases right <;> simp [fields, profile]
  | cons file rest ih =>
      cases right with
      | nil => simp [fields, profile]
      | cons other more =>
          have hRest := ih more
          simp only [fields, profile, List.map_cons, List.cons.injEq, Prod.mk.injEq,
            List.flatMap_cons, List.cons_append, List.nil_append] at hRest ⊢
          rw [hRest, and_assoc]

/-! ### What the hash identifies -/

/-- Two bundles with one hash have the same contents exactly when the zero
bytes in their names and contents are distributed in the same way. -/
theorem bundle_hash_identifies_iff [Sha2Crate] {files others : List DiagnosticBundleFile}
    (hFiles : (files.map DiagnosticBundleFile.name).Nodup)
    (hOthers : (others.map DiagnosticBundleFile.name).Nodup)
    (hCollision : NoCollision files others)
    (hHash : bundleContentHash files = bundleContentHash others) :
    SameContents files others ↔ zeroProfile files = zeroProfile others := by
  have hBytes := hCollision (bytesToHex_injective hHash)
  rw [hashedBytes_eq_frame, hashedBytes_eq_frame] at hBytes
  rw [← sorted_eq_iff hFiles hOthers, zeroProfile_eq_iff, ← fields_injective.eq_iff]
  exact SeparatorFraming.eq_iff_profile_eq hBytes

/-- Bundles without zero bytes are identified by their hash. -/
theorem sameContents_of_zero_free [Sha2Crate] {files others : List DiagnosticBundleFile}
    (hFiles : (files.map DiagnosticBundleFile.name).Nodup)
    (hOthers : (others.map DiagnosticBundleFile.name).Nodup)
    (hCollision : NoCollision files others)
    (hHash : bundleContentHash files = bundleContentHash others)
    (hFree : ∀ file ∈ files ++ others, 0 ∉ asBytes file.name ∧ 0 ∉ file.bytes) :
    SameContents files others := by
  have hBytes := hCollision (bytesToHex_injective hHash)
  rw [hashedBytes_eq_frame, hashedBytes_eq_frame] at hBytes
  have hFields (list : List DiagnosticBundleFile) (hList : list ⊆ files ++ others) :
      ∀ field ∈ fields (sorted list), 0 ∉ field := by
    intro field hMem
    obtain ⟨file, hFile, hField⟩ := List.mem_flatMap.mp hMem
    have hZero := hFree file (hList (mem_sorted.mp hFile))
    rcases List.mem_cons.mp hField with rfl | hContent
    · exact hZero.1
    · rw [List.mem_singleton.mp hContent]
      exact hZero.2
  rw [← sorted_eq_iff hFiles hOthers]
  exact fields_injective (SeparatorFraming.eq_of_free hBytes
    (hFields files (List.subset_append_left _ _)) (hFields others (List.subset_append_right _ _)))

section Samples
open Crates

/-- A note, and a log file. -/
def noteAndLog : List DiagnosticBundleFile := [⟨"b", [121]⟩, ⟨"a", [120]⟩]

/-- One file whose content imitates the note after the log file. -/
def imitation : List DiagnosticBundleFile := [⟨"a", [120, 0, 98, 0, 121]⟩]

theorem bundle_hash_identifies_reordered :
    SameContents noteAndLog noteAndLog.reverse ↔
      zeroProfile noteAndLog = zeroProfile noteAndLog.reverse := by
  have hBytes : hashedBytes noteAndLog = hashedBytes noteAndLog.reverse := by decide
  exact bundle_hash_identifies_iff (by decide) (by decide) (fun _ => hBytes)
    (congrArg (fun bytes => bytesToHex (Sha2Crate.digest bytes)) hBytes)

/-- Two bundles with distinct contents and one hash, without any collision. -/
theorem imitated_file_has_same_hash :
    (noteAndLog.map DiagnosticBundleFile.name).Nodup ∧
      (imitation.map DiagnosticBundleFile.name).Nodup ∧
      NoCollision noteAndLog imitation ∧
      bundleContentHash noteAndLog = bundleContentHash imitation ∧
      ¬ SameContents noteAndLog imitation := by
  have hBytes : hashedBytes noteAndLog = hashedBytes imitation := by decide
  refine ⟨by decide, by decide, fun _ => hBytes,
    congrArg (fun bytes => bytesToHex (Sha2Crate.digest bytes)) hBytes, ?_⟩
  intro h
  exact absurd ((h ⟨"b", [121]⟩).mp (by decide)) (by decide)

end Samples
end HamLogger.BundleBytes
