import Mathlib
import HamLogger.Core.Projection
import HamLogger.Core.TextForms
import HamLogger.Library.KeyMap

/-! Progress towards awards, counted over the contacts of a log. -/
namespace HamLogger

inductive AwardRequirement where
  | uniqueEntity | uniqueState | uniquePark | uniqueSummit | uniqueGrid
  deriving DecidableEq

structure AwardRule where
  requirement : AwardRequirement
  field : String
  confirmedOnly : Bool
  deriving DecidableEq

structure AwardDefinition where
  awardId : String
  name : String
  pluginId : String
  description : String
  rules : List AwardRule
  placeholder : Bool
  deriving DecidableEq

structure AwardCredit where
  creditKey : String
  displayName : String
  qsoIds : List Uuid
  confirmed : Bool
  deriving DecidableEq

structure AwardProgress where
  awardId : String
  name : String
  creditCount : Nat
  confirmedCreditCount : Nat
  credits : List AwardCredit
  missingPlaceholder : List String
  deriving DecidableEq

def awardDefinition (awardId name description field : String) (requirement : AwardRequirement)
    (confirmedOnly : Bool) : AwardDefinition where
  awardId := awardId
  name := name
  pluginId := "core.awards"
  description := description
  rules := [{ requirement, field, confirmedOnly }]
  placeholder := false

def placeholderDefinition (awardId name description field : String)
    (requirement : AwardRequirement) : AwardDefinition :=
  { awardDefinition awardId name description field requirement false with placeholder := true }

def defaultAwardDefinitions : List AwardDefinition :=
  [awardDefinition "dxcc.basic" "DXCC"
     "Unique DXCC/entity count from accepted QSO projection fields." "dxcc" .uniqueEntity false,
   awardDefinition "was.basic" "WAS" "Unique US state count when state data is present." "state"
     .uniqueState false,
   placeholderDefinition "pota.unique_parks" "POTA"
     ("Unique POTA parks worked or activated. " ++
       "Confirmation and activator/hunter modes are future work.") "park_id" .uniquePark,
   placeholderDefinition "sota.unique_summits" "SOTA"
     ("Unique SOTA summits worked or activated. " ++
       "Confirmation and activator/hunter modes are future work.") "summit_id" .uniqueSummit,
   placeholderDefinition "grid.count" "Grids"
     "Unique Maidenhead grid count from projected QSO fields." "grid" .uniqueGrid]

/-- Every award that the logger counts has one rule. -/
theorem rules_default :
    ∀ definition ∈ defaultAwardDefinitions, ∃ rule, definition.rules = [rule] := by
  simp [defaultAwardDefinitions, awardDefinition, placeholderDefinition]

/-- `Number::to_string`. -/
class NumberText where
  toString : Number → String

section Awards
variable [NumberText]

def scalarKey (value : Value) : Option String :=
  match (value.asStr.map trim).filter fun text => text ≠ "" with
  | some text => some text
  | none =>
      match value with
      | .number number => some (NumberText.toString number)
      | .bool true => some "true"
      | .bool false => some "false"
      | _ => none

def displayValue (qso : QsoRecord) (field fallback : String) : String :=
  if field = "dxcc" then ((qso.payload.get "entity").bind Value.asStr).getD fallback
  else fallback

/-- Whether a contact is confirmed. -/
def QsoRecord.confirmed (qso : QsoRecord) : Bool :=
  ((qso.payload.get "confirmed").bind Value.asBool).getD false

/-- The text that a contact is counted under. -/
def AwardRule.key (rule : AwardRule) (qso : QsoRecord) : Option String :=
  ((qso.payload.get rule.field).bind scalarKey).map toAsciiUppercase

/-- One contact, in the loop over those that are not deleted. -/
def AwardRule.credit (rule : AwardRule) (credits : KeyMap String AwardCredit) (qso : QsoRecord) :
    KeyMap String AwardCredit :=
  match rule.key qso with
  | none => credits
  | some key =>
      if rule.confirmedOnly && !qso.confirmed then credits
      else
        let entry := (credits.lookup key).getD
          { creditKey := key, displayName := displayValue qso rule.field key, qsoIds := [],
            confirmed := qso.confirmed }
        credits.insert key { entry with
          qsoIds := entry.qsoIds ++ [qso.qsoId]
          confirmed := entry.confirmed || qso.confirmed }

def missingPlaceholders (definition : AwardDefinition) : List String :=
  if definition.placeholder then ["award-specific rule database", "confirmation integration"]
  else []

/-- The values of a tree map come in the order of their keys. -/
def intoValues (credits : KeyMap String AwardCredit) : List AwardCredit :=
  (credits.entries.mergeSort fun first second => decide (first.1 ≤ second.1)).map Sigma.snd

def computeAwardProgress (definition : AwardDefinition) (qsos : List QsoRecord) : AwardProgress :=
  match definition.rules with
  | [] =>
      { awardId := definition.awardId, name := definition.name, creditCount := 0,
        confirmedCreditCount := 0, credits := [], missingPlaceholder := [] }
  | rule :: _ =>
      let credits := intoValues ((qsos.filter fun qso => !qso.deleted).foldl rule.credit ∅)
      { awardId := definition.awardId, name := definition.name, creditCount := credits.length,
        confirmedCreditCount := (credits.filter AwardCredit.confirmed).length,
        credits := credits, missingPlaceholder := missingPlaceholders definition }

def AwardEngine.rebuildFromQsos (definitions : List AwardDefinition) (qsos : List QsoRecord) :
    List AwardProgress :=
  definitions.map fun definition => computeAwardProgress definition qsos

end Awards

/-! ### The values of a tree map -/

theorem mem_intoValues {credits : KeyMap String AwardCredit} {credit : AwardCredit} :
    credit ∈ intoValues credits ↔ ∃ key, credits.lookup key = some credit := by
  rw [intoValues, ← KeyMap.mem_values, KeyMap.values]
  simp [List.mem_mergeSort]

/-- The values come under increasing keys. -/
theorem intoValues_sorted {credits : KeyMap String AwardCredit}
    (hKeys : ∀ key credit, credits.lookup key = some credit → credit.creditKey = key) :
    (intoValues credits).Pairwise fun first second => first.creditKey < second.creditKey := by
  have hSorted : (credits.entries.mergeSort fun first second =>
      decide (first.1 ≤ second.1)).Pairwise fun first second =>
        decide (first.1 ≤ second.1) = true := by
    refine List.pairwise_mergeSort ?_ ?_ credits.entries
    · intro a b c hFirst hSecond
      exact decide_eq_true ((of_decide_eq_true hFirst).trans (of_decide_eq_true hSecond))
    · intro a b
      simpa using le_total a.1 b.1
  have hPerm := List.mergeSort_perm credits.entries fun first second => decide (first.1 ≤ second.1)
  have hDistinct : (credits.entries.mergeSort fun first second =>
      decide (first.1 ≤ second.1)).Pairwise fun first second => first.1 ≠ second.1 :=
    List.pairwise_map.mp ((hPerm.map Sigma.fst).nodup_iff.mpr credits.nodupKeys)
  have hOwn : ∀ entry ∈ credits.entries.mergeSort fun first second =>
      decide (first.1 ≤ second.1), entry.2.creditKey = entry.1 := by
    intro entry hMem
    exact hKeys entry.1 entry.2 (AList.mem_lookup_iff.mpr (hPerm.mem_iff.mp hMem))
  refine List.pairwise_map.mpr ((hSorted.and hDistinct).imp_of_mem ?_)
  intro first second hFirst hSecond hBoth
  rw [hOwn first hFirst, hOwn second hSecond]
  exact lt_of_le_of_ne (of_decide_eq_true hBoth.1) hBoth.2

/-- A count over credits of distinct keys grows with their keys. -/
theorem length_le_of_keys {first second : List AwardCredit}
    (hSorted : first.Pairwise fun first second => first.creditKey < second.creditKey)
    (hKeys : ∀ credit ∈ first, ∃ other ∈ second, other.creditKey = credit.creditKey) :
    first.length ≤ second.length := by
  have hDistinct : (first.map AwardCredit.creditKey).Nodup :=
    List.pairwise_map.mpr (hSorted.imp fun hLess => hLess.ne)
  have hSubset : first.map AwardCredit.creditKey ⊆ second.map AwardCredit.creditKey := by
    intro key hMem
    obtain ⟨credit, hCredit, rfl⟩ := List.mem_map.mp hMem
    obtain ⟨other, hOther, hSame⟩ := hKeys credit hCredit
    exact List.mem_map.mpr ⟨other, hOther, hSame⟩
  simpa using (List.subperm_of_subset hDistinct hSubset).length_le

section Credits
variable [NumberText]

/-! What a progress shows. -/

/-- The text that a contact gives credit for, if any. -/
def AwardRule.creditKey (rule : AwardRule) (qso : QsoRecord) : Option String :=
  if qso.deleted then none
  else (rule.key qso).filter fun _ => !(rule.confirmedOnly && !qso.confirmed)

/-- The credit of a key: all contacts that give it, in their order, under the
name of the first. -/
def AwardRule.creditOf (rule : AwardRule) (key : String) (qsos : List QsoRecord) :
    Option AwardCredit :=
  match qsos.filter fun qso => rule.creditKey qso = some key with
  | [] => none
  | first :: rest => some
      { creditKey := key, displayName := displayValue first rule.field key,
        qsoIds := (first :: rest).map QsoRecord.qsoId,
        confirmed := (first :: rest).any QsoRecord.confirmed }

variable {rule : AwardRule} {definition : AwardDefinition} {qsos : List QsoRecord}

theorem lookup_credit (credits : KeyMap String AwardCredit) (qso : QsoRecord)
    (hDeleted : qso.deleted = false) (key : String) :
    (rule.credit credits qso).lookup key =
      if rule.creditKey qso = some key then
        let entry := (credits.lookup key).getD
          { creditKey := key, displayName := displayValue qso rule.field key, qsoIds := [],
            confirmed := qso.confirmed }
        some { entry with
          qsoIds := entry.qsoIds ++ [qso.qsoId]
          confirmed := entry.confirmed || qso.confirmed }
      else credits.lookup key := by
  have hCredit : rule.creditKey qso =
      (rule.key qso).filter fun _ => !(rule.confirmedOnly && !qso.confirmed) :=
    if_neg (by simp [hDeleted])
  rw [hCredit, AwardRule.credit]
  cases hKey : rule.key qso with
  | none => simp
  | some own =>
      rw [Option.filter_some]
      cases hCounts : rule.confirmedOnly && !qso.confirmed with
      | true => simp
      | false =>
          by_cases hSame : own = key
          · subst hSame
            simp
          · simp [hSame, AList.lookup_insert_ne (Ne.symm hSame)]

theorem creditOf_append (key : String) (qso : QsoRecord) :
    rule.creditOf key (qsos ++ [qso]) =
      if rule.creditKey qso = some key then
        let entry := (rule.creditOf key qsos).getD
          { creditKey := key, displayName := displayValue qso rule.field key, qsoIds := [],
            confirmed := qso.confirmed }
        some { entry with
          qsoIds := entry.qsoIds ++ [qso.qsoId]
          confirmed := entry.confirmed || qso.confirmed }
      else rule.creditOf key qsos := by
  unfold AwardRule.creditOf
  rw [List.filter_append]
  by_cases hKey : rule.creditKey qso = some key
  · rw [if_pos hKey]
    cases hFilter : qsos.filter fun qso => rule.creditKey qso = some key with
    | nil => simp [hKey]
    | cons first rest => simp [hKey, Bool.or_assoc]
  · rw [if_neg hKey]
    simp [hKey]

/-- The loop gives every key its credit. -/
theorem lookup_credits (key : String) :
    ((qsos.filter fun qso => !qso.deleted).foldl rule.credit ∅).lookup key =
      rule.creditOf key qsos := by
  induction qsos using List.reverseRecOn with
  | nil => rfl
  | append_singleton qsos qso ih =>
      rw [List.filter_append, List.foldl_append, creditOf_append]
      cases hDeleted : qso.deleted with
      | true => simp [hDeleted, ih, AwardRule.creditKey]
      | false =>
          simp only [hDeleted, List.filter_cons, List.filter_nil, Bool.not_false, if_true,
            List.foldl_cons, List.foldl_nil]
          rw [lookup_credit _ _ hDeleted, ih]

/-! ### Credits -/

theorem creditOf_eq_some {key : String} {credit : AwardCredit}
    (h : rule.creditOf key qsos = some credit) :
    credit.creditKey = key ∧ ∃ qso ∈ qsos, rule.creditKey qso = some key := by
  unfold AwardRule.creditOf at h
  cases hFilter : qsos.filter fun qso => rule.creditKey qso = some key with
  | nil =>
      rw [hFilter] at h
      cases h
  | cons first rest =>
      rw [hFilter] at h
      have hFirst : first ∈ qsos.filter fun qso => rule.creditKey qso = some key := by
        rw [hFilter]
        exact List.mem_cons_self
      obtain ⟨hMem, hKey⟩ := List.mem_filter.mp hFirst
      exact ⟨(Option.some.inj h) ▸ rfl, first, hMem, of_decide_eq_true hKey⟩

theorem creditOf_isSome {key : String} :
    (rule.creditOf key qsos).isSome = true ↔ ∃ qso ∈ qsos, rule.creditKey qso = some key := by
  constructor
  · intro h
    obtain ⟨credit, hCredit⟩ := Option.isSome_iff_exists.mp h
    exact (creditOf_eq_some hCredit).2
  · rintro ⟨qso, hMem, hKey⟩
    unfold AwardRule.creditOf
    cases hFilter : qsos.filter fun qso => rule.creditKey qso = some key with
    | nil =>
        have hFound : qso ∈ qsos.filter fun qso => rule.creditKey qso = some key :=
          List.mem_filter.mpr ⟨hMem, decide_eq_true hKey⟩
        rw [hFilter] at hFound
        cases hFound
    | cons first rest => rfl

/-- A credit is confirmed where one of its contacts is. -/
theorem creditOf_confirmed {key : String} {credit : AwardCredit}
    (h : rule.creditOf key qsos = some credit) :
    credit.confirmed = true ↔
      ∃ qso ∈ qsos, rule.creditKey qso = some key ∧ qso.confirmed = true := by
  unfold AwardRule.creditOf at h
  cases hFilter : qsos.filter fun qso => rule.creditKey qso = some key with
  | nil =>
      rw [hFilter] at h
      cases h
  | cons first rest =>
      rw [hFilter] at h
      obtain rfl := Option.some.inj h
      dsimp only
      rw [← hFilter, List.any_eq_true]
      simp only [List.mem_filter, decide_eq_true_eq, and_assoc]

/-! ### Progress -/

theorem progress_credits {rest : List AwardRule} (hRules : definition.rules = rule :: rest)
    (qsos : List QsoRecord) :
    (computeAwardProgress definition qsos).credits =
        intoValues ((qsos.filter fun qso => !qso.deleted).foldl rule.credit ∅) ∧
      (computeAwardProgress definition qsos).creditCount =
        (computeAwardProgress definition qsos).credits.length ∧
      (computeAwardProgress definition qsos).confirmedCreditCount =
        ((computeAwardProgress definition qsos).credits.filter AwardCredit.confirmed).length := by
  unfold computeAwardProgress
  rw [hRules]
  exact ⟨rfl, rfl, rfl⟩

theorem credits_sorted (rule : AwardRule) (qsos : List QsoRecord) :
    (intoValues ((qsos.filter fun qso => !qso.deleted).foldl rule.credit ∅)).Pairwise
      fun first second => first.creditKey < second.creditKey := by
  refine intoValues_sorted fun key credit hFound => ?_
  rw [lookup_credits] at hFound
  exact (creditOf_eq_some hFound).1

theorem mem_credits {credit : AwardCredit} :
    credit ∈ intoValues ((qsos.filter fun qso => !qso.deleted).foldl rule.credit ∅) ↔
      rule.creditOf credit.creditKey qsos = some credit := by
  rw [mem_intoValues]
  simp only [lookup_credits]
  constructor
  · rintro ⟨key, hCredit⟩
    rw [(creditOf_eq_some hCredit).1]
    exact hCredit
  · exact fun hCredit => ⟨_, hCredit⟩

/-- A progress shows every credit under its key, in the order of the keys: all
contacts that give the credit and no other, and confirmed where one of them is. -/
theorem award_credits_exact {rest : List AwardRule} (hRules : definition.rules = rule :: rest)
    (qsos : List QsoRecord) :
    let progress := computeAwardProgress definition qsos
    (progress.credits.Pairwise fun first second => first.creditKey < second.creditKey) ∧
      (∀ credit, credit ∈ progress.credits ↔
        rule.creditOf credit.creditKey qsos = some credit) ∧
      progress.creditCount = progress.credits.length ∧
      progress.confirmedCreditCount = (progress.credits.filter AwardCredit.confirmed).length := by
  obtain ⟨hCredits, hCount, hConfirmed⟩ := progress_credits hRules qsos
  refine ⟨?_, ?_, hCount, hConfirmed⟩
  · rw [hCredits]
    exact credits_sorted rule qsos
  · intro credit
    rw [hCredits]
    exact mem_credits

/-- More contacts never count for less, and neither their order nor that one is
listed twice changes a count. -/
theorem award_counts_grow (definition : AwardDefinition) {qsos other : List QsoRecord}
    (h : ∀ qso ∈ qsos, qso ∈ other) :
    (computeAwardProgress definition qsos).creditCount ≤
        (computeAwardProgress definition other).creditCount ∧
      (computeAwardProgress definition qsos).confirmedCreditCount ≤
        (computeAwardProgress definition other).confirmedCreditCount := by
  cases hRules : definition.rules with
  | nil =>
      unfold computeAwardProgress
      rw [hRules]
      exact ⟨le_rfl, le_rfl⟩
  | cons rule rest =>
      obtain ⟨hCredits, hCount, hConfirmed⟩ := progress_credits hRules qsos
      obtain ⟨hOthers, hOtherCount, hOtherConfirmed⟩ := progress_credits hRules other
      rw [hCount, hOtherCount, hConfirmed, hOtherConfirmed, hCredits, hOthers]
      have hFound : ∀ credit ∈ intoValues
          ((qsos.filter fun qso => !qso.deleted).foldl rule.credit ∅),
          ∃ more, more ∈ intoValues ((other.filter fun qso => !qso.deleted).foldl rule.credit ∅) ∧
            more.creditKey = credit.creditKey ∧
            (credit.confirmed = true → more.confirmed = true) := by
        intro credit hMem
        have hCredit := mem_credits.mp hMem
        obtain ⟨_, qso, hQso, hKey⟩ := creditOf_eq_some hCredit
        obtain ⟨more, hMore⟩ := Option.isSome_iff_exists.mp
          (creditOf_isSome.mpr ⟨qso, h qso hQso, hKey⟩)
        obtain ⟨hMoreKey, _⟩ := creditOf_eq_some hMore
        refine ⟨more, mem_credits.mpr (hMoreKey.symm ▸ hMore), hMoreKey, fun hConfirmedCredit => ?_⟩
        obtain ⟨source, hSource, hSourceKey, hSourceConfirmed⟩ :=
          (creditOf_confirmed hCredit).mp hConfirmedCredit
        exact (creditOf_confirmed hMore).mpr
          ⟨source, h source hSource, hSourceKey, hSourceConfirmed⟩
      constructor
      · refine length_le_of_keys (credits_sorted rule qsos) fun credit hMem => ?_
        obtain ⟨more, hMore, hKey, _⟩ := hFound credit hMem
        exact ⟨more, hMore, hKey⟩
      · refine length_le_of_keys ((credits_sorted rule qsos).filter _) fun credit hMem => ?_
        obtain ⟨hCreditMem, hCreditConfirmed⟩ := List.mem_filter.mp hMem
        obtain ⟨more, hMore, hKey, hKept⟩ := hFound credit hCreditMem
        exact ⟨more, List.mem_filter.mpr ⟨hMore, hKept hCreditConfirmed⟩, hKey⟩

end Credits

section Samples

/-- The samples have no float. -/
local instance sampleNumbers : NumberText where
  toString
    | .posInt value => Nat.repr value.toNat
    | .negInt value => Int.repr value.toInt
    | .float _ => "0.0"

/-- The second default award. -/
def wasBasic : AwardDefinition :=
  awardDefinition "was.basic" "WAS" "Unique US state count when state data is present." "state"
    .uniqueState false

def stateContact (qsoId : Uuid) (state : String) (deleted : Bool) : QsoRecord where
  qsoId := qsoId
  payload := .object [("state", .string state)]
  noteHistory := []
  deleted := deleted
  lastEventHash := ""

/-- Two contacts with Ohio, and a deleted one. -/
def ohioContacts : List QsoRecord :=
  [stateContact 1 "OH" false, stateContact 2 " oh " false, stateContact 3 "OH" true]

theorem wasRules : wasBasic.rules =
    [{ requirement := .uniqueState, field := "state", confirmedOnly := false }] := rfl

theorem award_credits_exact_ohio :
    ({ creditKey := "OH", displayName := "OH", qsoIds := [1, 2], confirmed := false } :
      AwardCredit) ∈ (computeAwardProgress wasBasic ohioContacts).credits :=
  ((award_credits_exact wasRules ohioContacts).2.1 _).mpr (by decide)

theorem award_counts_grow_ohio :
    (computeAwardProgress wasBasic [stateContact 2 " oh " false]).creditCount ≤
      (computeAwardProgress wasBasic ohioContacts).creditCount :=
  (award_counts_grow wasBasic (by simp [ohioContacts])).1

end Samples

end HamLogger
