import HamLogger.Core.BundleHash
import HamLogger.Library.CyclicRedundancy
import HamLogger.Library.LittleEndian

/-! The archive of a diagnostic bundle, written in the ZIP format without
compression, and a reader of that format that starts from the end record. -/
namespace HamLogger.BundleBytes

open LittleEndian (encodeAll readAll readBytes)

/-! ### The writer -/

def crc32 (bytes : List UInt8) : BitVec 32 :=
  ~~~ bytes.foldl (fun crc byte =>
    (List.range 8).foldl (fun crc _ =>
      if crc &&& 1 = 1 then (crc >>> 1) ^^^ 0xedb88320 else crc >>> 1)
      (crc ^^^ byte.toBitVec.setWidth 32)) 0xffffffff

/-- The header before a file, with the counts of bytes of its numbers. A
number is cut to its count of bytes, as by `as u16` and `as u32`. -/
def localHeader (file : DiagnosticBundleFile) : List (Nat × Nat) :=
  [(4, 0x04034b50), (2, 20), (2, 0), (2, 0), (2, 0), (2, 0), (4, (crc32 file.bytes).toNat),
    (4, file.bytes.length), (4, file.bytes.length), (2, (asBytes file.name).length), (2, 0)]

def centralHeader (file : DiagnosticBundleFile) (offset : Nat) : List (Nat × Nat) :=
  [(4, 0x02014b50), (2, 20), (2, 20), (2, 0), (2, 0), (2, 0), (2, 0),
    (4, (crc32 file.bytes).toNat), (4, file.bytes.length), (4, file.bytes.length),
    (2, (asBytes file.name).length), (2, 0), (2, 0), (2, 0), (2, 0), (4, 0), (4, offset)]

def endRecord (entries centralLength centralOffset : Nat) : List (Nat × Nat) :=
  [(4, 0x06054b50), (2, 0), (2, 0), (2, entries), (2, entries), (4, centralLength),
    (4, centralOffset), (2, 0)]

def localRecord (file : DiagnosticBundleFile) : List UInt8 :=
  encodeAll (localHeader file) ++ asBytes file.name ++ file.bytes

def centralRecord (file : DiagnosticBundleFile) (offset : Nat) : List UInt8 :=
  encodeAll (centralHeader file offset) ++ asBytes file.name

/-- One round of the loop over the files, on the output and the directory. -/
def writeFile (written : List UInt8 × List UInt8) (file : DiagnosticBundleFile) :
    List UInt8 × List UInt8 :=
  (written.1 ++ localRecord file, written.2 ++ centralRecord file written.1.length)

def writeZip (files : List DiagnosticBundleFile) : List UInt8 :=
  let (output, central) := files.foldl writeFile ([], [])
  output ++ central ++ encodeAll (endRecord files.length central.length output.length)

/-! ### The format -/

structure EndRecord where
  entries : Nat
  directorySize : Nat
  directoryOffset : Nat

structure DirectoryEntry where
  crc : Nat
  compressedSize : Nat
  size : Nat
  localOffset : Nat
  name : List UInt8

/-- An end record of an archive in one part, with the comment that ends the
archive. -/
def readEnd (bytes : List UInt8) : Option EndRecord :=
  match readAll [4, 2, 2, 2, 2, 4, 4, 2] bytes with
  | some ([signature, disk, startDisk, diskEntries, entries, directorySize, directoryOffset,
      commentLength], comment) =>
      if signature = 0x06054b50 ∧ disk = 0 ∧ startDisk = 0 ∧ diskEntries = entries ∧
          comment.length = commentLength then
        some { entries, directorySize, directoryOffset }
      else none
  | _ => none

/-- The last end record at or before a position. -/
def findEnd (bytes : List UInt8) : Nat → Option (Nat × EndRecord)
  | 0 => (readEnd bytes).map fun record => (0, record)
  | position + 1 =>
      match readEnd (bytes.drop (position + 1)) with
      | some record => some (position + 1, record)
      | none => findEnd bytes position

/-- An entry of the directory, for a file that is stored as it is. -/
def readDirectoryEntry (bytes : List UInt8) : Option (DirectoryEntry × List UInt8) :=
  match readAll [4, 2, 2, 2, 2, 2, 2, 4, 4, 4, 2, 2, 2, 2, 2, 4, 4] bytes with
  | some ([signature, _, _, flags, method, _, _, crc, compressedSize, size, nameLength,
      extraLength, commentLength, _, _, _, localOffset], rest) =>
      if signature = 0x02014b50 ∧ flags = 0 ∧ method = 0 then
        (readBytes nameLength rest).bind fun (name, rest) =>
          (readBytes (extraLength + commentLength) rest).map fun (_, rest) =>
            ({ crc, compressedSize, size, localOffset, name }, rest)
      else none
  | _ => none

def readDirectory : Nat → List UInt8 → Option (List DirectoryEntry)
  | 0, bytes => if bytes = [] then some [] else none
  | count + 1, bytes =>
      (readDirectoryEntry bytes).bind fun (entry, rest) =>
        (readDirectory count rest).map fun entries => entry :: entries

/-- The file of an entry, whose local header agrees with the entry and whose
content has the stated size and checksum. -/
def readLocal (checksum : List UInt8 → BitVec 32) (bytes : List UInt8) (entry : DirectoryEntry) :
    Option (List UInt8 × List UInt8) :=
  match readAll [4, 2, 2, 2, 2, 2, 4, 4, 4, 2, 2] (bytes.drop entry.localOffset) with
  | some ([signature, _, flags, method, _, _, crc, compressedSize, size, nameLength,
      extraLength], rest) =>
      (readBytes nameLength rest).bind fun (name, rest) =>
        (readBytes extraLength rest).bind fun (_, rest) =>
          (readBytes compressedSize rest).bind fun (content, _) =>
            if signature = 0x04034b50 ∧ flags = 0 ∧ method = 0 ∧ crc = entry.crc ∧
                compressedSize = entry.compressedSize ∧ size = entry.size ∧
                name = entry.name ∧ content.length = size ∧ (checksum content).toNat = crc then
              some (name, content)
            else none
  | _ => none

/-- The names and contents of an archive whose directory ends where its end
record starts. -/
def readZip (checksum : List UInt8 → BitVec 32) (bytes : List UInt8) :
    Option (List (List UInt8 × List UInt8)) :=
  (findEnd bytes (bytes.length - 22)).bind fun (position, record) =>
    if record.directoryOffset + record.directorySize = position then
      (readDirectory record.entries
        ((bytes.drop record.directoryOffset).take record.directorySize)).bind fun entries =>
          entries.mapM (readLocal checksum bytes)
    else none

/-! ### What the reader makes of the writer's records -/

/-- The sizes of a file fit into its headers. -/
structure Fits (file : DiagnosticBundleFile) : Prop where
  name : (asBytes file.name).length < 65536
  content : file.bytes.length < 2 ^ 32

def entryOf (file : DiagnosticBundleFile) (offset : Nat) : DirectoryEntry where
  crc := (crc32 file.bytes).toNat
  compressedSize := file.bytes.length
  size := file.bytes.length
  localOffset := offset
  name := asBytes file.name

theorem readAll_localHeader {file : DiagnosticBundleFile} (h : Fits file) (rest : List UInt8) :
    readAll [4, 2, 2, 2, 2, 2, 4, 4, 4, 2, 2] (encodeAll (localHeader file) ++ rest) =
      some ([0x04034b50, 20, 0, 0, 0, 0, (crc32 file.bytes).toNat, file.bytes.length,
        file.bytes.length, (asBytes file.name).length, 0], rest) := by
  refine @LittleEndian.readAll_encodeAll (localHeader file) ?_ rest
  have hName := h.name
  have hContent := h.content
  have hCrc := (crc32 file.bytes).isLt
  simp only [localHeader, List.forall_mem_cons]
  norm_num
  omega

theorem readAll_centralHeader {file : DiagnosticBundleFile} (h : Fits file) {offset : Nat}
    (hOffset : offset < 2 ^ 32) (rest : List UInt8) :
    readAll [4, 2, 2, 2, 2, 2, 2, 4, 4, 4, 2, 2, 2, 2, 2, 4, 4]
        (encodeAll (centralHeader file offset) ++ rest) =
      some ([0x02014b50, 20, 20, 0, 0, 0, 0, (crc32 file.bytes).toNat, file.bytes.length,
        file.bytes.length, (asBytes file.name).length, 0, 0, 0, 0, 0, offset], rest) := by
  refine @LittleEndian.readAll_encodeAll (centralHeader file offset) ?_ rest
  have hName := h.name
  have hContent := h.content
  have hCrc := (crc32 file.bytes).isLt
  simp only [centralHeader, List.forall_mem_cons]
  norm_num
  omega

theorem readAll_endRecord {entries centralLength centralOffset : Nat} (hEntries : entries < 65536)
    (hLength : centralLength < 2 ^ 32) (hOffset : centralOffset < 2 ^ 32) :
    readAll [4, 2, 2, 2, 2, 4, 4, 2] (encodeAll (endRecord entries centralLength centralOffset)) =
      some ([0x06054b50, 0, 0, entries, entries, centralLength, centralOffset, 0], []) := by
  rw [← List.append_nil (encodeAll _)]
  refine @LittleEndian.readAll_encodeAll (endRecord entries centralLength centralOffset) ?_ []
  simp only [endRecord, List.forall_mem_cons]
  norm_num
  omega

theorem readBytes_zero (rest : List UInt8) : readBytes 0 rest = some ([], rest) :=
  LittleEndian.readBytes_append [] rest

/-- The record of a file is found at its offset, whatever surrounds it. -/
theorem readLocal_localRecord {file : DiagnosticBundleFile} (h : Fits file)
    (before after : List UInt8) :
    readLocal crc32 (before ++ localRecord file ++ after) (entryOf file before.length) =
      some (asBytes file.name, file.bytes) := by
  have hDrop : (before ++ localRecord file ++ after).drop (entryOf file before.length).localOffset =
      encodeAll (localHeader file) ++ (asBytes file.name ++ (file.bytes ++ after)) := by
    change List.drop before.length _ = _
    rw [List.append_assoc, List.drop_left, localRecord, List.append_assoc, List.append_assoc]
  unfold readLocal
  rw [hDrop, readAll_localHeader h]
  simp only [LittleEndian.readBytes_append, readBytes_zero, Option.bind_some]
  rw [if_pos]
  simp [entryOf]

theorem readDirectoryEntry_centralRecord {file : DiagnosticBundleFile} (h : Fits file)
    {offset : Nat} (hOffset : offset < 2 ^ 32) (rest : List UInt8) :
    readDirectoryEntry (centralRecord file offset ++ rest) =
      some (entryOf file offset, rest) := by
  unfold readDirectoryEntry
  rw [centralRecord, List.append_assoc, readAll_centralHeader h hOffset]
  simp only [LittleEndian.readBytes_append, readBytes_zero, Option.bind_some, Option.map_some,
    Nat.add_zero, true_and, if_true]
  rfl

/-- Nothing follows the end record, so it is the last one of the archive. -/
theorem findEnd_endRecord {entries centralLength centralOffset : Nat} (hEntries : entries < 65536)
    (hLength : centralLength < 2 ^ 32) (hOffset : centralOffset < 2 ^ 32) (before : List UInt8) :
    findEnd (before ++ encodeAll (endRecord entries centralLength centralOffset)) before.length =
      some (before.length, ⟨entries, centralLength, centralOffset⟩) := by
  have hEnd : readEnd (encodeAll (endRecord entries centralLength centralOffset)) =
      some ⟨entries, centralLength, centralOffset⟩ := by
    unfold readEnd
    rw [readAll_endRecord hEntries hLength hOffset]
    simp
  have hDrop : (before ++ encodeAll (endRecord entries centralLength centralOffset)).drop
      before.length = encodeAll (endRecord entries centralLength centralOffset) :=
    List.drop_left
  cases hPosition : before.length with
  | zero =>
      rw [hPosition, List.drop_zero] at hDrop
      rw [findEnd, hDrop, hEnd]
      rfl
  | succ position =>
      rw [hPosition] at hDrop
      rw [findEnd, hDrop, hEnd]

/-! ### The whole archive -/

/-- The directory of files whose records start at an offset. -/
def directory : Nat → List DiagnosticBundleFile → List UInt8
  | _, [] => []
  | offset, file :: rest =>
      centralRecord file offset ++ directory (offset + (localRecord file).length) rest

def entriesOf : Nat → List DiagnosticBundleFile → List DirectoryEntry
  | _, [] => []
  | offset, file :: rest =>
      entryOf file offset :: entriesOf (offset + (localRecord file).length) rest

theorem foldl_writeFile (files : List DiagnosticBundleFile) (output central : List UInt8) :
    files.foldl writeFile (output, central) =
      (output ++ files.flatMap localRecord, central ++ directory output.length files) := by
  induction files generalizing output central with
  | nil => simp [directory]
  | cons file rest ih =>
      rw [List.foldl_cons, writeFile, ih, List.flatMap_cons, directory]
      simp

theorem writeZip_eq (files : List DiagnosticBundleFile) :
    writeZip files = files.flatMap localRecord ++ directory 0 files ++
      encodeAll (endRecord files.length (directory 0 files).length
        (files.flatMap localRecord).length) := by
  unfold writeZip
  rw [foldl_writeFile]
  simp

theorem readDirectory_directory {files : List DiagnosticBundleFile}
    (hFits : ∀ file ∈ files, Fits file) {offset : Nat}
    (hEnd : offset + (files.flatMap localRecord).length < 2 ^ 32) :
    readDirectory files.length (directory offset files) = some (entriesOf offset files) := by
  induction files generalizing offset with
  | nil => rfl
  | cons file rest ih =>
      rw [List.flatMap_cons, List.length_append] at hEnd
      have hRest := @ih (fun other hMem => hFits other (List.mem_cons_of_mem file hMem))
        (offset + (localRecord file).length) (by omega)
      rw [directory, List.length_cons, readDirectory,
        readDirectoryEntry_centralRecord (hFits file List.mem_cons_self) (by omega),
        Option.bind_some]
      change (readDirectory rest.length (directory _ rest)).map _ = _
      rw [hRest]
      rfl

theorem mapM_readLocal {files : List DiagnosticBundleFile} (hFits : ∀ file ∈ files, Fits file)
    (before after : List UInt8) :
    (entriesOf before.length files).mapM
        (readLocal crc32 (before ++ files.flatMap localRecord ++ after)) =
      some (files.map fun file => (asBytes file.name, file.bytes)) := by
  induction files generalizing before with
  | nil => rfl
  | cons file rest ih =>
      have hSplit : before ++ (file :: rest).flatMap localRecord ++ after =
          before ++ localRecord file ++ (rest.flatMap localRecord ++ after) := by simp
      have hNext : before ++ (file :: rest).flatMap localRecord ++ after =
          (before ++ localRecord file) ++ rest.flatMap localRecord ++ after := by simp
      have hFile := readLocal_localRecord (hFits file List.mem_cons_self) before
        (rest.flatMap localRecord ++ after)
      have hRest := ih (fun other hMem => hFits other (List.mem_cons_of_mem file hMem))
        (before ++ localRecord file)
      rw [← hNext, List.length_append] at hRest
      rw [← hSplit] at hFile
      rw [entriesOf, List.mapM_cons, hFile, hRest]
      rfl

/-- The archive is read back as the files that were written. -/
theorem readZip_writeZip {files : List DiagnosticBundleFile} (hCount : files.length < 65536)
    (hNames : ∀ file ∈ files, (asBytes file.name).length < 65536)
    (hSize : (writeZip files).length < 2 ^ 32) :
    readZip crc32 (writeZip files) =
      some (files.map fun file => (asBytes file.name, file.bytes)) := by
  have hEnd : (encodeAll (endRecord files.length (directory 0 files).length
      (files.flatMap localRecord).length)).length = 22 := by
    simp [endRecord]
  rw [writeZip_eq, List.length_append, List.length_append, hEnd] at hSize
  have hFits : ∀ file ∈ files, Fits file := by
    intro file hMem
    refine ⟨hNames file hMem, ?_⟩
    have hRecord : (localRecord file).length ≤ (files.flatMap localRecord).length :=
      (List.sublist_flatten_of_mem (List.mem_map_of_mem hMem)).length_le
    rw [localRecord, List.length_append] at hRecord
    omega
  have hFind := findEnd_endRecord hCount (by omega : (directory 0 files).length < 2 ^ 32)
    (by omega : (files.flatMap localRecord).length < 2 ^ 32)
    (files.flatMap localRecord ++ directory 0 files)
  have hPosition : (writeZip files).length - 22 =
      (files.flatMap localRecord ++ directory 0 files).length := by
    rw [writeZip_eq, List.length_append, hEnd]
    omega
  have hDirectory : ((writeZip files).drop (files.flatMap localRecord).length).take
      (directory 0 files).length = directory 0 files := by
    rw [writeZip_eq, List.append_assoc, List.drop_left, List.take_left]
  have hLocals := mapM_readLocal hFits [] (directory 0 files ++ encodeAll
    (endRecord files.length (directory 0 files).length (files.flatMap localRecord).length))
  rw [List.nil_append, ← List.append_assoc, ← writeZip_eq] at hLocals
  unfold readZip
  rw [hPosition]
  rw [← writeZip_eq] at hFind
  rw [hFind, Option.bind_some]
  simp only [List.length_append, if_true]
  rw [hDirectory, readDirectory_directory hFits (by omega), Option.bind_some]
  exact hLocals

/-! ### The checksum -/

open CyclicRedundancy Polynomial

noncomputable def crc32Generator : (ZMod 2)[X] :=
  X ^ 32 + X ^ 26 + X ^ 23 + X ^ 22 + X ^ 16 + X ^ 12 + X ^ 11 + X ^ 10 + X ^ 8 + X ^ 7 + X ^ 5 +
    X ^ 4 + X ^ 2 + X + 1

/-- The bits of a text, the lowest of each byte first. -/
def messageBits (bytes : List UInt8) : List Bool :=
  bytes.flatMap fun byte => byteBits byte.toBitVec

/-- The CRC-32 by its definition: the first 32 bits of the message are
inverted, it is followed by 32 zeros and divided by the generator, and the
remainder is inverted. -/
noncomputable def standardCrc32 (bytes : List UInt8) : BitVec 32 :=
  ~~~ polyRegister ((X ^ (messageBits bytes).length * ∑ i ∈ Finset.range 32, X ^ i +
    X ^ 32 * messagePoly (messageBits bytes)) %ₘ crc32Generator)

theorem generator_crc32 : generator (m := 31) (0xedb88320 : BitVec 32) = crc32Generator := by
  unfold generator registerPoly crc32Generator
  simp only [Finset.sum_range_succ, Finset.sum_range_zero, bitPoly]
  simp
  ring

theorem registerPoly_ones :
    registerPoly (m := 31) (0xffffffff : BitVec 32) = ∑ i ∈ Finset.range 32, X ^ i := by
  have hOnes : ∀ i < 32, (0xffffffff : BitVec 32).getLsbD i = true := by decide
  unfold registerPoly
  rw [← Finset.sum_range_reflect]
  refine Finset.sum_congr rfl fun i hMem => ?_
  have hIndex := Finset.mem_range.mp hMem
  rw [hOnes _ (by omega), bitPoly_true, one_mul, show 31 - (32 - 1 - i) = i by omega]

theorem crc32_eq_standardCrc32 (bytes : List UInt8) : crc32 bytes = standardCrc32 bytes := by
  have hStep (crc : BitVec 32) (byte : UInt8) :
      (List.range 8).foldl (fun (crc : BitVec 32) _ =>
        if crc &&& 1 = 1 then (crc >>> 1) ^^^ 0xedb88320 else crc >>> 1)
        (crc ^^^ byte.toBitVec.setWidth 32) =
      absorb (m := 31) (0xedb88320 : BitVec 32) crc byte.toBitVec := rfl
  have hLength : (messageBits bytes).length = 8 * (bytes.map UInt8.toBitVec).length := by
    simp [messageBits, byteBits, Nat.mul_comm]
  have hBits : messageBits bytes = (bytes.map UInt8.toBitVec).flatMap byteBits := by
    rw [messageBits, List.flatMap_map]
  have hRegister := foldl_absorb_eq (m := 31) (by omega) (0xedb88320 : BitVec 32)
    (0xffffffff : BitVec 32) (bytes.map UInt8.toBitVec)
  rw [generator_crc32, registerPoly_ones, ← hBits, ← hLength, List.foldl_map] at hRegister
  unfold crc32 standardCrc32
  simp only [hStep]
  rw [hRegister]

/-- An archive that is not too large is read back, from its end record on, as
the files it was written from, with the checksums of the standard. -/
theorem zip_reads_back {files : List DiagnosticBundleFile} (hCount : files.length < 65536)
    (hNames : ∀ file ∈ files, (asBytes file.name).length < 65536)
    (hSize : (writeZip files).length < 2 ^ 32) :
    readZip standardCrc32 (writeZip files) =
        some (files.map fun file => (asBytes file.name, file.bytes)) ∧
      ∀ bytes, crc32 bytes = standardCrc32 bytes := by
  rw [← funext crc32_eq_standardCrc32]
  exact ⟨readZip_writeZip hCount hNames hSize, fun _ => rfl⟩

theorem zip_reads_back_imitation :
    readZip standardCrc32 (writeZip imitation) = some [([97], [120, 0, 98, 0, 121])] ∧
      ∀ bytes, crc32 bytes = standardCrc32 bytes :=
  @zip_reads_back imitation (by decide) (by decide) (by decide)

end HamLogger.BundleBytes
