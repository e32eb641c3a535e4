import HamLogger.Core.AdifCrates
import HamLogger.Core.EmComm
import HamLogger.Library.Transition

/-! Allocating message numbers at stations that work without coordination: a
number is made of the name of a station and of the next sequence that the
station has not seen under this name. -/
namespace HamLogger

open Crates (digitsValue digitsValue_padded isDigit_padded padded)
open Transition (Run System)

namespace MessageNumber

/-- The number of a sequence at the station of a name. -/
def new (stationPrefix : String) (sequence : UInt32) : MessageNumber where
  stationPrefix :=
    String.ofList ((toAsciiUppercase (trim stationPrefix)).toList.filter (· ≠ '-'))
  sequence := sequence

/-- The `Display` form: the prefix, a dash, and at least four digits. -/
def display (number : MessageNumber) : String :=
  number.stationPrefix ++ "-" ++ String.ofList (padded 4 number.sequence.toNat)

end MessageNumber

/-- `u32::saturating_add` of one. -/
def saturatingNext (value : UInt32) : UInt32 :=
  if value = 4294967295 then 4294967295 else value + 1

namespace EmCommProjection

/-- The messages of an incident whose numbers have a prefix. -/
def messagesUnder (projection : EmCommProjection) (incidentId : Uuid) (stationPrefix : String) :
    List MessageRecord :=
  projection.messages.values.filter fun message =>
    message.incidentId = incidentId ∧ message.messageNumber.stationPrefix = stationPrefix

def nextMessageNumber (projection : EmCommProjection) (incidentId : Uuid)
    (stationPrefix : String) : MessageNumber :=
  let own := (MessageNumber.new stationPrefix 1).stationPrefix
  let highest := ((projection.messagesUnder incidentId own).map fun message =>
    message.messageNumber.sequence).max?.getD 0
  { stationPrefix := own, sequence := saturatingNext highest }

end EmCommProjection

/-! The text of a number. -/

namespace MessageNumber

theorem toUpper_toUpper (c : Char) : c.toUpper.toUpper = c.toUpper := by
  unfold Char.toUpper
  by_cases hLower : 'a'.val ≤ c.val ∧ c.val ≤ 'z'.val
  · rw [dif_pos hLower]
    have hLow : (97 : Nat) ≤ c.val.toNat := hLower.1
    have hHigh : c.val.toNat ≤ 122 := hLower.2
    refine dif_neg fun hAgain => ?_
    have hShifted : (97 : Nat) ≤ (c.val + ('A'.val - 'a'.val)).toNat := hAgain.1
    have hValue : (c.val + ('A'.val - 'a'.val)).toNat = (c.val.toNat + 4294967264) % 4294967296 :=
      UInt32.toNat_add ..
    omega
  · rw [dif_neg hLower, dif_neg hLower]

/-- The prefix of a new number is in upper case. -/
theorem toAsciiUppercase_new (stationPrefix : String) (sequence : UInt32) :
    toAsciiUppercase (new stationPrefix sequence).stationPrefix =
      (new stationPrefix sequence).stationPrefix := by
  have hUpper : ∀ c ∈ ((toAsciiUppercase (trim stationPrefix)).toList.filter (· ≠ '-')),
      c.toUpper = c := by
    intro c hMem
    rw [toAsciiUppercase, String.toList_ofList] at hMem
    obtain ⟨d, _, rfl⟩ := List.mem_map.mp (List.mem_of_mem_filter hMem)
    exact toUpper_toUpper d
  rw [new, toAsciiUppercase, String.toList_ofList, List.map_congr_left hUpper, List.map_id']

theorem rsplitOnceDash_append (front : String) {digits : List Char} (h : '-' ∉ digits) :
    rsplitOnceDash (front ++ "-" ++ String.ofList digits) =
      some (front, String.ofList digits) := by
  have hList : (front ++ "-" ++ String.ofList digits).toList.reverse =
      digits.reverse ++ '-' :: front.toList.reverse := by
    simp
  have hKept : ∀ c ∈ digits.reverse, decide (c ≠ '-') = true := by
    intro c hMem
    have hApart : c ≠ '-' := fun hSame => h (hSame ▸ List.mem_reverse.mp hMem)
    simpa using hApart
  unfold rsplitOnceDash
  dsimp only
  rw [hList, List.dropWhile_append_of_pos hKept, List.takeWhile_append_of_pos hKept]
  simp

theorem parseU32_padded (value : UInt32) :
    parseU32 (String.ofList (padded 4 value.toNat)) = some value := by
  have hDigits : ∀ c ∈ padded 4 value.toNat, c.isDigit = true := fun c => isDigit_padded
  have hLength : 4 ≤ (padded 4 value.toNat).length := Crates.le_length_padded 4 value.toNat
  have hValue : (padded 4 value.toNat).foldl
      (fun total digit => total * 10 + (digit.toNat - 48)) 0 = value.toNat :=
    digitsValue_padded 4 value.toNat
  unfold parseU32
  rw [String.toList_ofList]
  cases hPadded : padded 4 value.toNat with
  | nil => simp [hPadded] at hLength
  | cons first rest =>
      rw [hPadded] at hDigits hValue
      -- a digit is not a plus sign
      have hFirst : first ≠ '+' := by
        intro hPlus
        have hDigit := hDigits first (by simp)
        rw [hPlus] at hDigit
        exact absurd hDigit (by decide)
      split
      · rename_i hPlus
        exact absurd (List.cons.inj hPlus).1 hFirst
      · dsimp only
        rw [hValue, if_pos ⟨by simp, List.all_eq_true.mpr hDigits, value.toNat_lt⟩]
        simp

/-- A new number is read back from its text, unless its prefix is blank or its
sequence is zero. -/
theorem parse_display_iff (stationPrefix : String) (sequence : UInt32) :
    parse (new stationPrefix sequence).display = .ok (new stationPrefix sequence) ↔
      trim (new stationPrefix sequence).stationPrefix ≠ "" ∧ sequence ≠ 0 := by
  have hDash : '-' ∉ padded 4 sequence.toNat := by
    intro hMem
    exact absurd (isDigit_padded hMem) (by decide)
  have hUpper := toAsciiUppercase_new stationPrefix sequence
  have hSequence : (new stationPrefix sequence).sequence = sequence := rfl
  unfold parse display
  rw [hSequence, rsplitOnceDash_append _ hDash]
  dsimp only
  rw [parseU32_padded]
  by_cases hBlank : trim (new stationPrefix sequence).stationPrefix = ""
  · simp [hBlank]
  · rw [if_neg hBlank]
    by_cases hZero : sequence = 0
    · simp [hZero]
    · simp only [if_neg hZero, hUpper]
      exact iff_of_true rfl ⟨hBlank, hZero⟩

end MessageNumber

/-! One allocation. -/

instance lawfulOrderMaxUInt32 : Std.LawfulOrderMax UInt32 := by
  refine .of_max_le_iff (fun a b c => ?_) fun a b => ?_
  · change (if a ≤ b then b else a) ≤ c ↔ a ≤ c ∧ b ≤ c
    split <;> grind
  · change (if a ≤ b then b else a) = a ∨ (if a ≤ b then b else a) = b
    split <;> simp

theorem le_highest {sequences : List UInt32} {sequence : UInt32} (h : sequence ∈ sequences) :
    sequence ≤ sequences.max?.getD 0 := by
  cases hMax : sequences.max? with
  | none =>
      rw [List.max?_eq_none_iff.mp hMax] at h
      cases h
  | some highest => exact (List.max?_eq_some_iff.mp hMax).2 sequence h

theorem highest_mem_or_zero (sequences : List UInt32) :
    sequences.max?.getD 0 ∈ sequences ∨ sequences.max?.getD 0 = 0 := by
  cases hMax : sequences.max? with
  | none => exact Or.inr rfl
  | some highest => exact Or.inl (List.max?_eq_some_iff.mp hMax).1

theorem lt_saturatingNext {value : UInt32} (h : value ≠ 4294967295) :
    value < saturatingNext value := by
  have hBound := value.toNat_lt
  have hLast : value.toNat ≠ 4294967295 := fun hSame => h (UInt32.toNat_inj.mp hSame)
  rw [saturatingNext, if_neg h, UInt32.lt_iff_toNat_lt, UInt32.toNat_add, UInt32.toNat_one]
  omega

namespace EmCommProjection

/-- A message of the incident has the number. -/
def UsesNumber (projection : EmCommProjection) (incidentId : Uuid) (number : MessageNumber) :
    Prop :=
  ∃ message ∈ projection.messages.values,
    message.incidentId = incidentId ∧ message.messageNumber = number

/-- The largest sequence is in use under the prefix that a name leads to. -/
def Exhausted (projection : EmCommProjection) (incidentId : Uuid) (stationPrefix : String) :
    Prop :=
  projection.UsesNumber incidentId (.new stationPrefix 4294967295)

instance decidableUsesNumber (projection : EmCommProjection) (incidentId : Uuid)
    (number : MessageNumber) : Decidable (projection.UsesNumber incidentId number) :=
  inferInstanceAs (Decidable (∃ message ∈ projection.messages.values,
    message.incidentId = incidentId ∧ message.messageNumber = number))

instance decidableExhausted (projection : EmCommProjection) (incidentId : Uuid)
    (stationPrefix : String) : Decidable (projection.Exhausted incidentId stationPrefix) :=
  inferInstanceAs (Decidable (projection.UsesNumber _ _))

variable {projection : EmCommProjection} {incidentId : Uuid} {stationPrefix : String}

theorem usesNumber_iff (number : MessageNumber) :
    projection.UsesNumber incidentId number ↔
      number.sequence ∈ (projection.messagesUnder incidentId number.stationPrefix).map
        fun message => message.messageNumber.sequence := by
  rw [List.mem_map]
  constructor
  · intro h
    obtain ⟨message, hMem, hIncident, rfl⟩ := h
    exact ⟨message, List.mem_filter.mpr ⟨hMem, by simp [hIncident]⟩, rfl⟩
  · intro h
    obtain ⟨message, hMem, hSequence⟩ := h
    obtain ⟨hValues, hTest⟩ := List.mem_filter.mp hMem
    obtain ⟨hIncident, hPrefix⟩ := of_decide_eq_true hTest
    refine ⟨message, hValues, hIncident, ?_⟩
    cases number
    cases hNumber : message.messageNumber
    simp_all

/-- The next number comes after every number in use under its prefix. -/
theorem lt_nextMessageNumber (hRoom : ¬ projection.Exhausted incidentId stationPrefix)
    {number : MessageNumber} (hUsed : projection.UsesNumber incidentId number)
    (hPrefix : number.stationPrefix =
      (projection.nextMessageNumber incidentId stationPrefix).stationPrefix) :
    number.sequence < (projection.nextMessageNumber incidentId stationPrefix).sequence := by
  rw [usesNumber_iff, hPrefix] at hUsed
  have hHighest := le_highest hUsed
  -- the highest sequence is in use, so it is not the largest there is
  have hRoom' := mt (usesNumber_iff (.new stationPrefix 4294967295)).mpr hRoom
  refine UInt32.lt_of_le_of_lt hHighest (lt_saturatingNext fun hLast => ?_)
  rcases highest_mem_or_zero ((projection.messagesUnder incidentId
      (MessageNumber.new stationPrefix 1).stationPrefix).map
        fun message => message.messageNumber.sequence) with hMem | hZero
  · exact hRoom' (hLast ▸ hMem)
  · exact absurd (hZero.symm.trans hLast) (by decide)

/-- The next number is new to the incident as long as sequences are left. -/
theorem nextMessageNumber_fresh_iff (projection : EmCommProjection) (incidentId : Uuid)
    (stationPrefix : String) :
    ¬ projection.UsesNumber incidentId (projection.nextMessageNumber incidentId stationPrefix) ↔
      ¬ projection.Exhausted incidentId stationPrefix := by
  constructor
  · intro hFresh hExhausted
    have hMem := (usesNumber_iff _).mp hExhausted
    have hHighest : ((projection.messagesUnder incidentId
        (MessageNumber.new stationPrefix 1).stationPrefix).map
          fun message => message.messageNumber.sequence).max?.getD 0 = 4294967295 := by
      refine UInt32.le_antisymm ?_ (le_highest hMem)
      rw [UInt32.le_iff_toNat_le]
      exact Nat.le_of_lt_succ (UInt32.toNat_lt _)
    have hNext : projection.nextMessageNumber incidentId stationPrefix =
        .new stationPrefix 4294967295 := by
      rw [nextMessageNumber, hHighest]
      rfl
    exact hFresh (hNext ▸ hExhausted)
  · intro hRoom hUsed
    exact UInt32.lt_irrefl _ (lt_nextMessageNumber hRoom hUsed rfl)

end EmCommProjection

/-! Stations that allocate numbers, each from what it has on record. -/

/-- A number that a station allocated under a name. -/
structure Allocation (Station : Type) where
  station : Station
  stationPrefix : String
  incidentId : Uuid
  number : MessageNumber

/-- The records of every station, and the numbers allocated so far. -/
structure Stations (Station : Type) where
  records : Station → EmCommProjection
  allocated : List (Allocation Station)

inductive StationStep (Station : Type) where
  | record (station : Station) (event : CoreEventEnvelope)
  | allocate (allocation : Allocation Station)

section Runs
variable [UuidCrate] [ChronoCrate] {Station : Type} [DecidableEq Station]

/-- A station records an event, its own or a received one, or allocates the
next number of an incident. -/
def stationSystem : System (Stations Station) (StationStep Station) where
  step state label later := match label with
    | .record station event =>
        later = { state with
          records := Function.update state.records station
            ((state.records station).apply event).1 }
    | .allocate allocation =>
        allocation.number = (state.records allocation.station).nextMessageNumber
            allocation.incidentId allocation.stationPrefix ∧
          later = { state with allocated := state.allocated ++ [allocation] }

/-- A station that allocates a number has sequences left, and has on record
the numbers allocated for the incident under the same prefix before. -/
def HasOnRecord (state : Stations Station) : StationStep Station → Prop
  | .record _ _ => True
  | .allocate allocation =>
      ¬ (state.records allocation.station).Exhausted allocation.incidentId
          allocation.stationPrefix ∧
        ∀ earlier ∈ state.allocated, earlier.incidentId = allocation.incidentId →
          earlier.number.stationPrefix =
              (MessageNumber.new allocation.stationPrefix 1).stationPrefix →
            (state.records allocation.station).UsesNumber allocation.incidentId earlier.number

/-- The prefix of an allocated number is that of the name. -/
theorem allocated_prefix {start final : Stations Station} {labels : List (StationStep Station)}
    (run : Run stationSystem start labels final) (hStart : start.allocated = []) :
    ∀ allocation ∈ final.allocated, allocation.number.stationPrefix =
      (MessageNumber.new allocation.stationPrefix 1).stationPrefix := by
  refine run.invariant (P := fun state => ∀ allocation ∈ state.allocated,
    allocation.number.stationPrefix = (MessageNumber.new allocation.stationPrefix 1).stationPrefix)
    ?_ ?_
  · intro state label later h hStep
    cases label with
    | record station event =>
        rw [(hStep : later = _)]
        exact h
    | allocate allocation =>
        obtain ⟨hNumber, hLater⟩ := hStep
        rw [hLater]
        intro other hMem
        rcases List.mem_append.mp hMem with hEarly | hLast
        · exact h other hEarly
        · rw [List.mem_singleton.mp hLast, hNumber]
          rfl
  · rw [hStart]
    intro allocation hMem
    cases hMem

/-- The sequences under one prefix for one incident go up. -/
def Increasing (allocated : List (Allocation Station)) : Prop :=
  allocated.Pairwise fun earlier later => earlier.incidentId = later.incidentId →
    earlier.number.stationPrefix = later.number.stationPrefix →
      earlier.number.sequence < later.number.sequence

theorem allocated_increasing {start final : Stations Station}
    {labels : List (StationStep Station)}
    (run : Run (stationSystem.restrict HasOnRecord) start labels final)
    (hStart : start.allocated = []) : Increasing final.allocated := by
  refine run.invariant (P := fun state => Increasing state.allocated) ?_ ?_
  · intro state label later h hStep
    cases label with
    | record station event =>
        rw [(hStep.2 : later = _)]
        exact h
    | allocate allocation =>
        obtain ⟨⟨hRoom, hRecord⟩, hNumber, hLater⟩ := hStep
        rw [hLater]
        refine List.pairwise_append.mpr ⟨h, List.pairwise_singleton _ _, ?_⟩
        intro earlier hMem last hLast hIncident hPrefix
        obtain rfl := List.mem_singleton.mp hLast
        rw [hNumber] at hPrefix ⊢
        have hUsed := hRecord earlier hMem hIncident hPrefix
        exact EmCommProjection.lt_nextMessageNumber hRoom hUsed hPrefix
  · rw [hStart]
    exact List.Pairwise.nil

/-- The next number of an incident is new to it as long as the largest
sequence is not in use. In every run the numbers under names that lead to
different prefixes differ, and those under one prefix go up as long as the
station has the earlier ones on record. A new number is read back from its
text unless its prefix is blank or its sequence is zero. -/
theorem message_numbers_unique :
    (∀ (projection : EmCommProjection) incidentId stationPrefix,
      ¬ projection.UsesNumber incidentId (projection.nextMessageNumber incidentId stationPrefix) ↔
        ¬ projection.Exhausted incidentId stationPrefix) ∧
    (∀ (start final : Stations Station) labels, start.allocated = [] →
      Run stationSystem start labels final →
        ∀ one ∈ final.allocated, ∀ other ∈ final.allocated,
          (MessageNumber.new one.stationPrefix 1).stationPrefix ≠
            (MessageNumber.new other.stationPrefix 1).stationPrefix → one.number ≠ other.number) ∧
    (∀ (start final : Stations Station) labels, start.allocated = [] →
      Run (stationSystem.restrict HasOnRecord) start labels final → Increasing final.allocated) ∧
    ∀ stationPrefix sequence,
      MessageNumber.parse (MessageNumber.new stationPrefix sequence).display =
          .ok (.new stationPrefix sequence) ↔
        trim (MessageNumber.new stationPrefix sequence).stationPrefix ≠ "" ∧ sequence ≠ 0 := by
  refine ⟨EmCommProjection.nextMessageNumber_fresh_iff, ?_, ?_, MessageNumber.parse_display_iff⟩
  · intro start final labels hStart run one hOne other hOther hApart hSame
    have hPrefix := allocated_prefix run hStart
    refine hApart ?_
    rw [← hPrefix one hOne, ← hPrefix other hOther, hSame]
  · intro start final labels hStart run
    exact allocated_increasing run hStart

end Runs

section
open Crates

/-- A message of an incident that another program numbered. -/
def sampleMessage (messageId : Uuid) (messageNumber : String) : CoreEventEnvelope :=
  .fromNew (sampleEvent .emcommMessageCreated 1 (some messageId)
    (.object [("incident_id", .string "00000000-0000-0000-0000-000000000003"),
      ("message_number", .string messageNumber)])) none (sampleStamp messageId)

/-- A station allocates a number, records a message with it, and allocates the
next one. -/
theorem message_numbers_unique_station :
    let first : Allocation Unit :=
      { station := (), stationPrefix := "KE8YGW", incidentId := 3,
        number := { stationPrefix := "KE8YGW", sequence := 1 } }
    let second : Allocation Unit :=
      { first with number := { stationPrefix := "KE8YGW", sequence := 2 } }
    ∃ final : Stations Unit, final.allocated = [first, second] ∧ Increasing final.allocated := by
  intro first second
  obtain ⟨message, hHeld⟩ : ∃ message, (EmCommProjection.apply {} message).1.UsesNumber 3
      first.number ∧ ¬ (EmCommProjection.apply {} message).1.Exhausted 3 "KE8YGW" ∧
        (EmCommProjection.apply {} message).1.nextMessageNumber 3 "KE8YGW" = second.number :=
    ⟨sampleMessage 7 "KE8YGW-0001", by decide +kernel, by decide +kernel, by decide +kernel⟩
  obtain ⟨hUsed, hRoom, hNext⟩ := hHeld
  let start : Stations Unit := { records := fun _ => {}, allocated := [] }
  obtain ⟨recorded, hRecord, hRecords, hAllocated⟩ : ∃ recorded : Stations Unit,
      (stationSystem.restrict HasOnRecord).step { start with allocated := [first] }
        (.record () message) recorded ∧
      recorded.records () = (EmCommProjection.apply {} message).1 ∧
      recorded.allocated = [first] := by
    refine ⟨{ start with
        records := Function.update start.records () ((start.records ()).apply message).1
        allocated := [first] }, ⟨trivial, rfl⟩, ?_, rfl⟩
    exact Function.update_self () _ start.records
  have hFirst : (stationSystem.restrict HasOnRecord).step start (.allocate first)
      { start with allocated := [first] } := by
    refine ⟨⟨?_, fun _ hMem => nomatch hMem⟩, by decide +kernel, rfl⟩
    intro hExhausted
    obtain ⟨other, hMem, _⟩ := hExhausted
    cases hMem
  have hSecond : (stationSystem.restrict HasOnRecord).step recorded (.allocate second)
      { recorded with allocated := [first, second] } := by
    refine ⟨⟨?_, ?_⟩, ?_, ?_⟩
    · rw [hRecords]
      exact hRoom
    · intro earlier hMem _ _
      rw [hAllocated] at hMem
      rw [List.mem_singleton.mp hMem, hRecords]
      exact hUsed
    · rw [hRecords]
      exact hNext.symm
    · rw [hAllocated]
      rfl
  have run := ((Run.single hFirst).snoc hRecord).snoc hSecond
  exact ⟨_, rfl, message_numbers_unique.2.2.1 start _ _ rfl run⟩

/-- After a message that has the largest sequence, the next number is the
number of this message. Two names that differ in a hyphen get the same first
number, and a name of a hyphen gets one that cannot be read. -/
theorem largest_sequence_repeats :
    (∃ projection, projection = (EmCommProjection.apply {}
        (sampleMessage 7 "KE8YGW-4294967295")).1 ∧
      projection.UsesNumber 3 (projection.nextMessageNumber 3 "KE8YGW")) ∧
    EmCommProjection.nextMessageNumber {} 3 "W8-ABC" =
      EmCommProjection.nextMessageNumber {} 3 "W8ABC" ∧
    MessageNumber.parse (MessageNumber.new "-" 1).display ≠ .ok (MessageNumber.new "-" 1) := by
  refine ⟨⟨_, rfl, ?_⟩, by decide +kernel, by decide +kernel⟩
  decide +kernel

end

end HamLogger
