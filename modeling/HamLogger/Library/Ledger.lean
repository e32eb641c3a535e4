import HamLogger.Library.KeyMap
import HamLogger.Library.Replay

/-! What the entries of a log add up to for one key. An entry creates the
contents of the key or amends them. A table that puts the contents in place
anew at every creation holds what was added up exactly as long as nothing is
created twice. -/
namespace HamLogger

universe u v

/-- How entries create and amend the contents of one key. -/
structure Ledger (Entry : Type u) (Contents : Type v) where
  creates : Entry → Option Contents
  amends : Entry → Contents → Contents

namespace Ledger
variable {Entry : Type u} {Contents : Type v} (ledger : Ledger Entry Contents)

/-- Contents that were created stay, and every entry adds to them. -/
def keep (old : Option Contents) (entry : Entry) : Option Contents :=
  match old with
  | none => ledger.creates entry
  | some contents => some (ledger.amends entry contents)

/-- A creation puts new contents in place of the old ones. -/
def replace (old : Option Contents) (entry : Entry) : Option Contents :=
  match ledger.creates entry with
  | some contents => some contents
  | none => old.map (ledger.amends entry)

/-- What a log adds up to when nothing is lost. -/
def accumulated (log : List Entry) : Option Contents :=
  log.foldl ledger.keep none

@[simp] theorem accumulated_snoc (log : List Entry) (entry : Entry) :
    ledger.accumulated (log ++ [entry]) = ledger.keep (ledger.accumulated log) entry := by
  rw [accumulated, List.foldl_append]
  rfl

/-- What a log leaves when a creation starts anew. -/
def standing (log : List Entry) : Option Contents :=
  log.foldl ledger.replace none

@[simp] theorem standing_snoc (log : List Entry) (entry : Entry) :
    ledger.standing (log ++ [entry]) = ledger.replace (ledger.standing log) entry := by
  rw [standing, List.foldl_append]
  rfl

/-- A key that no entry creates has no contents. -/
theorem accumulated_eq_none {log : List Entry} (h : ∀ entry ∈ log, ledger.creates entry = none) :
    ledger.accumulated log = none := by
  induction log using List.reverseRecOn with
  | nil => rfl
  | append_singleton log entry ih =>
      rw [accumulated_snoc, ih fun e he => h e (List.mem_append_left _ he)]
      exact h entry (by simp)

theorem replace_eq_keep {old : Option Contents} {entry : Entry}
    (h : ledger.creates entry = none ∨ old = none) :
    ledger.replace old entry = ledger.keep old entry := by
  unfold replace keep
  cases old with
  | none => cases ledger.creates entry <;> rfl
  | some contents =>
      have hNone : ledger.creates entry = none := h.resolve_right nofun
      rw [hNone]
      rfl

/-- Amending under a condition. -/
theorem ite_map (condition : Prop) [Decidable condition] (old : Option Contents)
    (amend : Contents → Contents) : (if condition then old.map amend else old) =
      old.map fun contents => if condition then amend contents else contents := by
  split
  · rfl
  · exact Option.map_id_apply.symm

/-- What amendments keep is kept from the moment of the creation on. -/
theorem accumulated_relation {R : Contents → Contents → Prop} (hRefl : ∀ c, R c c)
    (hTrans : ∀ a b c, R a b → R b c → R a c)
    (hAmend : ∀ entry contents, R contents (ledger.amends entry contents)) {before : List Entry}
    {contents : Contents} (h : ledger.accumulated before = some contents) (after : List Entry) :
    ∃ later, ledger.accumulated (before ++ after) = some later ∧ R contents later := by
  induction after using List.reverseRecOn with
  | nil => exact ⟨contents, by rw [List.append_nil, h], hRefl contents⟩
  | append_singleton after entry ih =>
      obtain ⟨later, hLater, hRelated⟩ := ih
      refine ⟨ledger.amends entry later, ?_, hTrans _ _ _ hRelated (hAmend entry later)⟩
      rw [← List.append_assoc, accumulated_snoc, hLater]
      rfl

section Replay
variable {State : Type u} {Error : Type u} {step : State → Entry → Except Error State}

/-- A state that replaces contents holds what the log adds up to, if no entry
creates contents that are there. -/
theorem accumulated_of_replay (contents : State → Option Contents)
    (hStep : ∀ state entry next, step state entry = .ok next →
      contents next = ledger.replace (contents state) entry)
    {start finish : State} {log : List Entry} (hStart : contents start = none)
    (hOnce : Replay.Accepted (fun seen entry =>
      ledger.creates entry = none ∨ ledger.accumulated seen = none) log)
    (hReplay : Replay.replay step start log = .ok finish) :
    contents finish = ledger.accumulated log := by
  refine Replay.replay_invariant (fun seen state => contents state = ledger.accumulated seen)
    ?_ [] hStart hOnce hReplay
  intro seen state entry next hEntry hState hNext
  rw [hStep state entry next hNext, hState, accumulated_snoc]
  exact ledger.replace_eq_keep hEntry

/-- A state that replaces contents holds what the log leaves. -/
theorem standing_of_replay (contents : State → Option Contents)
    (hStep : ∀ state entry next, step state entry = .ok next →
      contents next = ledger.replace (contents state) entry)
    {start finish : State} {log : List Entry} (hStart : contents start = none)
    (hReplay : Replay.replay step start log = .ok finish) :
    contents finish = ledger.standing log := by
  have hAccepted : Replay.Accepted (fun _ _ => True) ([] ++ log) := fun _ _ _ _ => trivial
  refine Replay.replay_invariant (fun seen state => contents state = ledger.standing seen)
    ?_ [] hStart hAccepted hReplay
  intro seen state entry next _ hState hNext
  rw [hStep state entry next hNext, hState, standing_snoc]

end Replay
end Ledger

namespace KeyMap
variable {Key Value Error : Type} {Contents : Type v} [DecidableEq Key]
  {map result : KeyMap Key Value} {key : Key} {view : Value → Contents}

/-- What is seen of the values after one was put in place. -/
theorem view_of_tryInsert {build : Except Error Value}
    (h : map.tryInsert key build = .ok result) :
    ∃ value, build = .ok value ∧ ∀ other, (result.lookup other).map view =
      if other = key then some (view value) else (map.lookup other).map view := by
  obtain ⟨value, hBuild, rfl⟩ := (tryInsert_eq_ok_iff ..).mp h
  refine ⟨value, hBuild, fun other => ?_⟩
  rw [lookup_insert_eq_ite]
  split <;> rfl

/-- What is seen of the values after one was changed. -/
theorem view_of_tryModify {change : Value → Except Error Value} (amend : Contents → Contents)
    (hChange : ∀ old new, change old = .ok new → view new = amend (view old))
    (h : map.tryModify key change = .ok result) (other : Key) :
    (result.lookup other).map view =
      if other = key then ((map.lookup other).map view).map amend
      else (map.lookup other).map view := by
  rcases lookup_of_tryModify h other with ⟨hOther, hSame⟩ | ⟨rfl, hOld, hNew⟩ |
    ⟨rfl, old, new, hOld, hChanged, hNew⟩
  · rw [if_neg hOther, hSame]
  · rw [if_pos rfl, hOld, hNew]
    rfl
  · rw [if_pos rfl, hOld, hNew, Option.map_some, hChange old new hChanged]
    rfl

theorem view_modify {change : Value → Value} (amend : Contents → Contents)
    (hChange : ∀ old, view (change old) = amend (view old)) (other : Key) :
    ((map.modify key change).lookup other).map view =
      if other = key then ((map.lookup other).map view).map amend
      else (map.lookup other).map view := by
  rw [lookup_modify]
  split
  · next hSame =>
      rw [hSame]
      cases map.lookup key with
      | none => rfl
      | some value => simp [hChange]
  · rfl

/-- A change that does not show. -/
theorem view_modify_hidden {change : Value → Value} (hChange : ∀ old, view (change old) = view old)
    (other : Key) :
    ((map.modify key change).lookup other).map view = (map.lookup other).map view := by
  rw [view_modify id hChange]
  split
  · exact Option.map_id_apply
  · rfl

theorem view_mapValues {change : Value → Value} (hChange : ∀ old, view (change old) = view old)
    (other : Key) :
    ((map.mapValues change).lookup other).map view = (map.lookup other).map view := by
  rw [lookup_mapValues, Option.map_map]
  exact congrArg (Option.map · _) (funext hChange)

end KeyMap
end HamLogger
