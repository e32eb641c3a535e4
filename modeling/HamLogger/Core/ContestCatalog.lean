import HamLogger.Core.ContestExchange
import HamLogger.Core.Crates
import HamLogger.Library.KeepHighest

/-! The contests an application knows: the definitions of its own build and,
on top of them, the packs installed at runtime. -/
namespace HamLogger

/-- The JSON reader of definition packs and the asset compiled into the build. -/
class ContestAssets where
  packFromJson : String → Except String ContestDefinitionPack
  builtinPackJson : String

inductive ContestDefinitionOrigin where
  | builtin
  | pack (packId : String) (packVersion : UInt32)
  deriving DecidableEq

structure ContestCatalogEntry where
  definition : ContestDefinition
  origin : ContestDefinitionOrigin
  deriving DecidableEq

namespace ContestCatalogEntry

def contestId (entry : ContestCatalogEntry) : String := entry.definition.contestId

def ruleVersion (entry : ContestCatalogEntry) : Nat := entry.definition.ruleVersion.toNat

end ContestCatalogEntry

section Loading
variable [ContestAssets]

def loadDefinitionPack (json : String) : Except ContestSchemaError ContestDefinitionPack :=
  match ContestAssets.packFromJson json with
  | .error message => .error (.invalidJson message)
  | .ok pack => do
      pack.validate
      return pack

/-- The build panics when its own pack is not accepted. -/
def builtinDefinitionPack : Outcome ContestSchemaError ContestDefinitionPack :=
  match loadDefinitionPack ContestAssets.builtinPackJson with
  | .ok pack => .ok pack
  | .error _ => .error .panic

theorem validate_of_loadDefinitionPack {json : String} {pack : ContestDefinitionPack}
    (h : loadDefinitionPack json = .ok pack) : pack.validate = .ok () := by
  unfold loadDefinitionPack at h
  split at h
  · cases h
  · obtain ⟨_, hValid, hPure⟩ := (except_bind_eq_ok_iff _ _ _).mp h
    obtain rfl := Except.ok.inj hPure
    exact hValid

end Loading

structure ContestDefinitionCatalog where
  entries : KeyMap String ContestCatalogEntry := ∅

namespace ContestDefinitionCatalog

/-- One step of an installation: a definition replaces an older one, and the
contests changed so far are collected. -/
def installDefinition (origin : ContestDefinitionOrigin)
    (state : List String × ContestDefinitionCatalog) (definition : ContestDefinition) :
    List String × ContestDefinitionCatalog :=
  let (applied, catalog) := state
  let replace := (catalog.entries.lookup definition.contestId).all fun entry =>
    decide (entry.definition.ruleVersion < definition.ruleVersion)
  if replace then
    (applied ++ [definition.contestId],
      { entries := catalog.entries.insert definition.contestId ⟨definition, origin⟩ })
  else (applied, catalog)

def install (catalog : ContestDefinitionCatalog) (pack : ContestDefinitionPack)
    (origin : ContestDefinitionOrigin) : List String × ContestDefinitionCatalog :=
  pack.definitions.foldl (installDefinition origin) ([], catalog)

/-- The contests the pack changed, and the catalog after it. -/
def installPack (catalog : ContestDefinitionCatalog) (pack : ContestDefinitionPack) :
    List String × ContestDefinitionCatalog :=
  catalog.install pack (.pack pack.packId pack.packVersion)

def withBuiltin [ContestAssets] : Outcome ContestSchemaError ContestDefinitionCatalog :=
  builtinDefinitionPack.map fun pack => (install {} pack .builtin).2

/-- A sequence of installations. -/
def installPacks (catalog : ContestDefinitionCatalog) (packs : List ContestDefinitionPack) :
    ContestDefinitionCatalog :=
  packs.foldl (fun catalog pack => (catalog.installPack pack).2) catalog

end ContestDefinitionCatalog

/-! Installing is offering the entries of a pack to a map that keeps the highest
rule version. -/

open ContestCatalogEntry (contestId ruleVersion)
open KeepHighest (Raised offer taken)

namespace ContestDefinitionPack

def entriesFrom (pack : ContestDefinitionPack) (origin : ContestDefinitionOrigin) :
    List ContestCatalogEntry :=
  pack.definitions.map fun definition => ⟨definition, origin⟩

/-- The entries of an installed pack. -/
def entries (pack : ContestDefinitionPack) : List ContestCatalogEntry :=
  pack.entriesFrom (.pack pack.packId pack.packVersion)

end ContestDefinitionPack

namespace ContestDefinitionCatalog

theorem installDefinition_eq (origin : ContestDefinitionOrigin)
    (state : List String × ContestDefinitionCatalog) (definition : ContestDefinition) :
    installDefinition origin state definition =
      (state.1 ++ if taken contestId ruleVersion state.2.entries ⟨definition, origin⟩ then
          [definition.contestId] else [],
        { entries := offer contestId ruleVersion state.2.entries ⟨definition, origin⟩ }) := by
  have hReplace : ((state.2.entries.lookup definition.contestId).all fun entry =>
      decide (entry.definition.ruleVersion < definition.ruleVersion)) =
      taken contestId ruleVersion state.2.entries ⟨definition, origin⟩ := rfl
  unfold installDefinition offer
  dsimp only
  rw [hReplace]
  split
  · rfl
  · rw [List.append_nil]

theorem foldl_installDefinition (origin : ContestDefinitionOrigin)
    (definitions : List ContestDefinition) (state : List String × ContestDefinitionCatalog) :
    (definitions.foldl (installDefinition origin) state).2.entries =
      (definitions.map fun definition => (⟨definition, origin⟩ : ContestCatalogEntry)).foldl
        (offer contestId ruleVersion) state.2.entries := by
  induction definitions generalizing state with
  | nil => rfl
  | cons definition rest ih =>
      rw [List.foldl_cons, List.map_cons, List.foldl_cons, ih, installDefinition_eq]

theorem entries_install (catalog : ContestDefinitionCatalog) (pack : ContestDefinitionPack)
    (origin : ContestDefinitionOrigin) :
    (catalog.install pack origin).2.entries =
      (pack.entriesFrom origin).foldl (offer contestId ruleVersion) catalog.entries :=
  foldl_installDefinition origin pack.definitions ([], catalog)

theorem entries_installPacks (catalog : ContestDefinitionCatalog)
    (packs : List ContestDefinitionPack) :
    (catalog.installPacks packs).entries =
      (packs.flatMap ContestDefinitionPack.entries).foldl (offer contestId ruleVersion)
        catalog.entries := by
  unfold installPacks
  induction packs generalizing catalog with
  | nil => rfl
  | cons pack rest ih =>
      rw [List.foldl_cons, List.flatMap_cons, List.foldl_append, ih]
      unfold installPack
      rw [entries_install]
      rfl

/-- A pack none of whose definitions is newer changes nothing. -/
theorem install_of_not_taken {catalog : ContestDefinitionCatalog} {pack : ContestDefinitionPack}
    {origin : ContestDefinitionOrigin}
    (h : ∀ definition ∈ pack.definitions,
      taken contestId ruleVersion catalog.entries ⟨definition, origin⟩ = false) :
    catalog.install pack origin = ([], catalog) := by
  unfold install
  generalize pack.definitions = definitions at h
  induction definitions with
  | nil => rfl
  | cons definition rest ih =>
      have hSkip : installDefinition origin ([], catalog) definition = ([], catalog) := by
        have hNot := h definition List.mem_cons_self
        rw [installDefinition_eq]
        dsimp only
        rw [offer, if_neg (by simp [hNot]), if_neg (by simp [hNot])]
        rfl
      rw [List.foldl_cons, hSkip]
      exact ih fun other hOther => h other (List.mem_cons_of_mem _ hOther)

theorem raised_installPacks (catalog : ContestDefinitionCatalog)
    (packs : List ContestDefinitionPack) :
    Raised contestId ruleVersion catalog.entries (packs.flatMap ContestDefinitionPack.entries)
      (catalog.installPacks packs).entries := by
  have hStart : Raised contestId ruleVersion catalog.entries [] catalog.entries := Raised.nil _
  have hRaised := hStart.foldl (packs.flatMap ContestDefinitionPack.entries)
  rwa [List.nil_append, ← entries_installPacks] at hRaised

/-- Everything the catalog was ever offered, with the build's own definitions first. -/
def offered (builtin : ContestDefinitionPack) (packs : List ContestDefinitionPack) :
    List ContestCatalogEntry :=
  builtin.entriesFrom .builtin ++ packs.flatMap ContestDefinitionPack.entries

theorem raised_withBuiltin (builtin : ContestDefinitionPack)
    (packs : List ContestDefinitionPack) :
    Raised contestId ruleVersion ∅ (offered builtin packs)
      ((install {} builtin .builtin).2.installPacks packs).entries := by
  have hStart : Raised contestId ruleVersion ∅ [] (∅ : KeyMap String ContestCatalogEntry) :=
    Raised.nil _
  have hRaised := hStart.foldl (offered builtin packs)
  rw [List.nil_append, offered, List.foldl_append, ← offered] at hRaised
  rw [entries_installPacks, entries_install]
  exact hRaised

/-- Being taken does not depend on where a definition comes from. -/
theorem taken_origin (entries : KeyMap String ContestCatalogEntry)
    (definition : ContestDefinition) (first second : ContestDefinitionOrigin) :
    taken contestId ruleVersion entries ⟨definition, first⟩ =
      taken contestId ruleVersion entries ⟨definition, second⟩ := rfl

theorem mem_flatMap_entries {packs : List ContestDefinitionPack} {entry : ContestCatalogEntry} :
    entry ∈ packs.flatMap ContestDefinitionPack.entries ↔
      ∃ pack ∈ packs, ∃ definition ∈ pack.definitions,
        entry = ⟨definition, .pack pack.packId pack.packVersion⟩ := by
  simp only [List.mem_flatMap, ContestDefinitionPack.entries, ContestDefinitionPack.entriesFrom,
    List.mem_map]
  constructor
  · rintro ⟨pack, hPack, definition, hDefinition, rfl⟩
    exact ⟨pack, hPack, definition, hDefinition, rfl⟩
  · rintro ⟨pack, hPack, definition, hDefinition, rfl⟩
    exact ⟨pack, hPack, definition, hDefinition, rfl⟩

/-- A definition was offered exactly when it is one of the build's or of a pack's. -/
theorem exists_offered_iff {builtin : ContestDefinitionPack} {packs : List ContestDefinitionPack}
    {definition : ContestDefinition} :
    (∃ entry ∈ offered builtin packs, entry.definition = definition) ↔
      ∃ pack ∈ builtin :: packs, definition ∈ pack.definitions := by
  constructor
  · rintro ⟨entry, hMem, rfl⟩
    rcases List.mem_append.mp hMem with hBuiltin | hInstalled
    · obtain ⟨own, hOwn, rfl⟩ := List.mem_map.mp hBuiltin
      exact ⟨builtin, List.mem_cons_self, hOwn⟩
    · obtain ⟨pack, hPack, own, hOwn, rfl⟩ := mem_flatMap_entries.mp hInstalled
      exact ⟨pack, List.mem_cons_of_mem _ hPack, hOwn⟩
  · rintro ⟨pack, hPack, hOwn⟩
    rcases List.mem_cons.mp hPack with rfl | hInstalled
    · exact ⟨⟨definition, .builtin⟩,
        List.mem_append_left _ (List.mem_map.mpr ⟨definition, hOwn, rfl⟩), rfl⟩
    · exact ⟨_, List.mem_append_right _
        (mem_flatMap_entries.mpr ⟨pack, hInstalled, definition, hOwn, rfl⟩), rfl⟩

/-- What was offered once is not installed again. -/
theorem installPack_again {builtin : ContestDefinitionPack} {packs : List ContestDefinitionPack}
    {pack : ContestDefinitionPack} (hPack : pack ∈ builtin :: packs) :
    ((install {} builtin .builtin).2.installPacks packs).installPack pack =
      ([], (install {} builtin .builtin).2.installPacks packs) := by
  refine install_of_not_taken fun definition hDefinition => ?_
  obtain ⟨entry, hMem, rfl⟩ := exists_offered_iff.mpr ⟨pack, hPack, hDefinition⟩
  have hNot := (raised_withBuiltin builtin packs).not_taken hMem
  rwa [← taken_origin _ entry.definition entry.origin]

/-- No two packs carry different definitions of one contest and one rule version. -/
def Consistent (packs : List ContestDefinitionPack) : Prop :=
  ∀ first ∈ packs, ∀ second ∈ packs, first ≠ second →
    ∀ left ∈ first.definitions, ∀ right ∈ second.definitions,
      left.contestId = right.contestId → left.ruleVersion = right.ruleVersion → left = right

theorem definition_unique {packs : List ContestDefinitionPack} (hConsistent : Consistent packs)
    (hValid : ∀ pack ∈ packs, pack.validate = .ok ()) :
    ∀ first ∈ packs.flatMap ContestDefinitionPack.entries,
      ∀ second ∈ packs.flatMap ContestDefinitionPack.entries,
        contestId first = contestId second → ruleVersion first = ruleVersion second →
          first.definition = second.definition := by
  intro first hFirst second hSecond hId hVersion
  obtain ⟨pack, hPack, left, hLeft, rfl⟩ := mem_flatMap_entries.mp hFirst
  obtain ⟨other, hOther, right, hRight, rfl⟩ := mem_flatMap_entries.mp hSecond
  by_cases hSame : pack = other
  · subst hSame
    exact List.inj_on_of_nodup_map (ContestDefinitionPack.of_validate (hValid pack hPack)).1
      hLeft hRight hId
  · exact hConsistent pack hPack other hOther hSame left hLeft right hRight hId
      (UInt32.toNat_inj.mp hVersion)

/-- After the build's own definitions and any sequence of accepted packs, the
catalog has an entry for exactly the contests it was offered, each a definition
that was offered and of the highest rule version; no pack changes anything a
second time; and when no two packs disagree about a version, the definitions do
not depend on the order of the installations. -/
theorem installPacks_keep_highest [ContestAssets] {builtin : ContestDefinitionPack}
    (hBuiltin : builtinDefinitionPack = .ok builtin) {catalog : ContestDefinitionCatalog}
    (hCatalog : withBuiltin = .ok catalog) {packs : List ContestDefinitionPack}
    (hLoaded : ∀ pack ∈ packs, ∃ json, loadDefinitionPack json = .ok pack) :
    (∀ pack ∈ builtin :: packs, ∀ definition ∈ pack.definitions,
      ∃ entry, (catalog.installPacks packs).entries.lookup definition.contestId = some entry ∧
        definition.ruleVersion ≤ entry.definition.ruleVersion) ∧
    (∀ id entry, (catalog.installPacks packs).entries.lookup id = some entry →
      entry.definition.contestId = id ∧
        ∃ pack ∈ builtin :: packs, entry.definition ∈ pack.definitions) ∧
    (∀ pack ∈ builtin :: packs, (catalog.installPacks packs).installPack pack =
      ([], catalog.installPacks packs)) ∧
    ∀ order, order.Perm packs → Consistent packs → ∀ id,
      ((catalog.installPacks order).entries.lookup id).map ContestCatalogEntry.definition =
        ((catalog.installPacks packs).entries.lookup id).map ContestCatalogEntry.definition := by
  obtain rfl : (install {} builtin .builtin).2 = catalog := by
    rw [withBuiltin, hBuiltin] at hCatalog
    exact Except.ok.inj hCatalog
  have hRaised := raised_withBuiltin builtin packs
  refine ⟨fun pack hPack definition hDefinition => ?_, fun id entry hLookup => ?_,
    fun pack hPack => installPack_again hPack, fun order hPerm hConsistent id => ?_⟩
  · obtain ⟨entry, hMem, rfl⟩ := exists_offered_iff.mpr ⟨pack, hPack, hDefinition⟩
    rcases hRaised.highest (contestId entry) with ⟨_, hNone⟩ | ⟨best, _, hBest, _, _, hHighest⟩
    · obtain ⟨old, hOld, _⟩ := hNone entry hMem rfl
      rw [AList.lookup_empty] at hOld
      cases hOld
    · exact ⟨best, hBest, UInt32.le_iff_toNat_le.mpr (hHighest entry hMem rfl)⟩
  · rcases hRaised.highest id with ⟨hSame, _⟩ | ⟨best, hMem, hBest, hKey, _, _⟩
    · rw [hSame, AList.lookup_empty] at hLookup
      cases hLookup
    · obtain rfl : best = entry := Option.some.inj (hBest.symm.trans hLookup)
      exact ⟨hKey, exists_offered_iff.mp ⟨best, hMem, rfl⟩⟩
  · have hValid : ∀ pack ∈ order, pack.validate = .ok () := fun pack hPack => by
      obtain ⟨json, hJson⟩ := hLoaded pack (hPerm.subset hPack)
      exact validate_of_loadDefinitionPack hJson
    have hOrder : Consistent order := fun first hFirst second hSecond =>
      hConsistent first (hPerm.subset hFirst) second (hPerm.subset hSecond)
    exact (raised_installPacks _ order).lookup_unique (raised_installPacks _ packs)
      (fun entry => (hPerm.flatMap_right _).mem_iff) (definition_unique hOrder hValid) id

/-- A pack of one contest. -/
def samplePack (packId : String) (ruleVersion : UInt32) : ContestDefinitionPack where
  kind := contestDefinitionPackKind
  schemaVersion := contestRuleSchemaVersion
  packId := packId
  packVersion := 1
  generatedAt := Crates.epoch
  definitions := [{ ContestDefinition.fieldDay with ruleVersion := ruleVersion }]

/-- A reader that knows the pack of the build and a newer one. -/
@[reducible] def sampleAssets : ContestAssets where
  packFromJson json := .ok (if json = "builtin" then samplePack "builtin" 1 else samplePack "p" 2)
  builtinPackJson := "builtin"

theorem samplePack_keeps_highest :
    ((install {} (samplePack "builtin" 1) .builtin).2.installPacks
        [samplePack "p" 2]).installPack (samplePack "builtin" 1) =
      ([], (install {} (samplePack "builtin" 1) .builtin).2.installPacks [samplePack "p" 2]) := by
  have hBuiltin : @builtinDefinitionPack sampleAssets = .ok (samplePack "builtin" 1) := by
    decide +kernel
  have hLoaded : ∀ pack ∈ [samplePack "p" 2],
      ∃ json, @loadDefinitionPack sampleAssets json = .ok pack := by
    intro pack hPack
    obtain rfl := List.mem_singleton.mp hPack
    exact ⟨"update", by decide +kernel⟩
  have hCatalog : @withBuiltin sampleAssets =
      .ok (install {} (samplePack "builtin" 1) .builtin).2 := by
    unfold withBuiltin
    rw [hBuiltin]
    rfl
  have hAll := @installPacks_keep_highest sampleAssets _ hBuiltin _ hCatalog _ hLoaded
  exact hAll.2.2.1 _ List.mem_cons_self

end ContestDefinitionCatalog
end HamLogger
