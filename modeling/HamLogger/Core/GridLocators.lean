import HamLogger.Core.ContestExchange
import Mathlib.Tactic.IntervalCases

/-! The two readers of a grid square: the one of a contest exchange and the one
of the map. -/
namespace HamLogger

inductive MapError where
  | invalidGrid (grid : String)
  deriving DecidableEq

/-- What the character at a place has to be. The loop goes over pairs of
characters, and the pair of a character is half its place. -/
def maidenheadClass (index : Nat) (ch : Char) : Bool :=
  match index / 2 with
  | 0 => decide ('A' ≤ ch.toUpper) && decide (ch.toUpper ≤ 'R')
  | 1 | 3 => ch.isDigit
  | 2 | 4 => decide ('A' ≤ ch.toUpper) && decide (ch.toUpper ≤ 'X')
  | _ => false

def maidenheadCase (index : Nat) (ch : Char) : Char :=
  if index < 2 || decide (4 ≤ index) && !ch.isDigit then ch.toUpper else ch

def normalizeMaidenhead (value : String) : Except MapError String :=
  let grid := trim value
  if ¬ (2 ≤ grid.utf8ByteSize ∧ grid.utf8ByteSize ≤ 10 ∧ grid.utf8ByteSize % 2 = 0) then
    .error (.invalidGrid grid)
  else if grid.toList.zipIdx.all fun place => maidenheadClass place.2 place.1 then
    .ok (String.ofList (grid.toList.mapIdx maidenheadCase))
  else .error (.invalidGrid grid)

/-- The letters of a field end with R, those of a subsquare with X. -/
def LettersInRange (characters : List Char) : Prop :=
  ∀ index c, characters[index]? = some c →
    (index < 2 → c.toUpper ≤ 'R') ∧ (4 ≤ index → index < 6 → c.toUpper ≤ 'X')

/-- A letter of a range is a letter. -/
theorem letterRange_iff {last : Char} (hLast : last.toNat ≤ 90) (c : Char) :
    (decide ('A' ≤ c.toUpper) && decide (c.toUpper ≤ last)) = true ↔
      c.isAlpha = true ∧ c.toUpper ≤ last := by
  rw [Bool.and_eq_true, decide_eq_true_eq, decide_eq_true_eq, Char.isAlpha_iff_between]
  have hCode := Char.toNat_toUpper c
  have hTo : c.toUpper ≤ last ↔ c.toUpper.toNat ≤ last.toNat := Iff.rfl
  have hFrom : 'A' ≤ c.toUpper ↔ 65 ≤ c.toUpper.toNat := Iff.rfl
  rw [hTo, hFrom]
  split_ifs at hCode <;> omega

/-- The map asks of a place what the contest asks, and for the range of the letters. -/
theorem maidenheadClass_iff {index : Nat} (hIndex : index < 8) (c : Char) :
    maidenheadClass index c = true ↔
      gridClass index c = true ∧ (index < 2 → c.toUpper ≤ 'R') ∧
        (4 ≤ index → index < 6 → c.toUpper ≤ 'X') := by
  have hField := @letterRange_iff 'R' (by decide) c
  have hSubsquare := @letterRange_iff 'X' (by decide) c
  interval_cases index <;> simp [maidenheadClass, gridClass] at hField hSubsquare ⊢ <;>
    assumption

/-- The locators of four, six or eight characters that the map accepts. -/
theorem normalizeMaidenhead_eq_ok_iff {value : String} (hLength : (trim value).length ∈ [4, 6, 8])
    (locator : String) :
    normalizeMaidenhead value = .ok locator ↔
      GridPlaces (trim value).toList ∧ LettersInRange (trim value).toList ∧
        locator = String.ofList ((trim value).toList.mapIdx maidenheadCase) := by
  have hEight : ∀ index c, (trim value).toList[index]? = some c → index < 8 := by
    intro index c hAt
    have hBound := (List.getElem?_eq_some_iff.mp hAt).1
    rw [String.length_toList] at hBound
    simp only [List.mem_cons, List.not_mem_nil, or_false] at hLength
    omega
  have hAll : ((trim value).toList.zipIdx.all fun place => maidenheadClass place.2 place.1) = true ↔
      GridPlaces (trim value).toList ∧ LettersInRange (trim value).toList := by
    rw [List.all_eq_true]
    constructor
    · intro h
      have hPlace : ∀ index c, (trim value).toList[index]? = some c →
          maidenheadClass index c = true := fun index c hAt =>
        h (c, index) (List.mem_zipIdx_iff_getElem?.mpr hAt)
      have hParts := fun index c hAt =>
        (maidenheadClass_iff (hEight index c hAt) c).mp (hPlace index c hAt)
      exact ⟨fun index c hAt => (hParts index c hAt).1, fun index c hAt => (hParts index c hAt).2⟩
    · rintro ⟨hPlaces, hRange⟩ place hMem
      have hAt := List.mem_zipIdx_iff_getElem?.mp hMem
      exact (maidenheadClass_iff (hEight _ _ hAt) _).mpr ⟨hPlaces _ _ hAt, hRange _ _ hAt⟩
  have hSize : GridPlaces (trim value).toList →
      (trim value).utf8ByteSize = (trim value).length := fun hPlaces =>
    utf8ByteSize_of_ascii fun c hMem => Char.utf8Size_of_isAlphanum (hPlaces.isAlphanum hMem)
  simp only [List.mem_cons, List.not_mem_nil, or_false] at hLength
  unfold normalizeMaidenhead
  dsimp only
  constructor
  · intro h
    split at h
    · cases h
    · split at h
      · rename_i hPlaces
        obtain ⟨hGrid, hRange⟩ := hAll.mp hPlaces
        exact ⟨hGrid, hRange, (Except.ok.inj h).symm⟩
      · cases h
  · rintro ⟨hGrid, hRange, rfl⟩
    have hBytes := hSize hGrid
    rw [if_neg (by omega), if_pos (hAll.mpr ⟨hGrid, hRange⟩)]

/-- A locator has as many characters as the text it was read from. -/
theorem length_of_normalizeMaidenhead {value locator : String}
    (h : normalizeMaidenhead value = .ok locator) : locator.length = (trim value).length := by
  unfold normalizeMaidenhead at h
  dsimp only at h
  split at h
  · cases h
  · split at h
    · obtain rfl := Except.ok.inj h
      rw [String.length_ofList, List.length_mapIdx, String.length_toList]
    · cases h

theorem toLower_gridCase (index : Nat) (c : Char) : (gridCase index c).toLower = c.toLower := by
  unfold gridCase
  split <;> simp only [Char.toLower_toUpper, Char.toLower_idem]

theorem toLower_maidenheadCase (index : Nat) (c : Char) :
    (maidenheadCase index c).toLower = c.toLower := by
  unfold maidenheadCase
  split <;> simp only [Char.toLower_toUpper]

/-- The two readers agree on a text: the contest accepts it exactly when the map
accepts it as a locator of four, six or eight characters, and the two forms are
the same up to the case of their letters. -/
def GridsAgree (value : String) : Prop :=
  ((normalizeGrid value).isSome = true ↔
    ∃ locator, normalizeMaidenhead value = .ok locator ∧ locator.length ∈ [4, 6, 8]) ∧
  ∀ grid locator, normalizeGrid value = some grid → normalizeMaidenhead value = .ok locator →
    eqIgnoreAsciiCase grid locator = true

/-- The readers agree unless a text in the shape of a grid square has a letter
beyond the range of its pair, which the contest lets through. -/
theorem gridsAgree_iff (value : String) :
    GridsAgree value ↔ ((trim value).length ∈ [4, 6, 8] → GridPlaces (trim value).toList →
      LettersInRange (trim value).toList) := by
  constructor
  · intro hAgree hLength hPlaces
    have hGrid := (normalizeGrid_eq_some_iff value _).mpr ⟨hLength, hPlaces, rfl⟩
    obtain ⟨locator, hLocator, _⟩ := hAgree.1.mp (by rw [hGrid]; rfl)
    exact ((normalizeMaidenhead_eq_ok_iff hLength locator).mp hLocator).2.1
  · intro hRange
    refine ⟨⟨fun hSome => ?_, ?_⟩, fun grid locator hGrid hLocator => ?_⟩
    · obtain ⟨grid, hGrid⟩ := Option.isSome_iff_exists.mp hSome
      obtain ⟨hLength, hPlaces, _⟩ := (normalizeGrid_eq_some_iff value grid).mp hGrid
      have hLocator := (normalizeMaidenhead_eq_ok_iff hLength _).mpr
        ⟨hPlaces, hRange hLength hPlaces, rfl⟩
      refine ⟨_, hLocator, ?_⟩
      rwa [length_of_normalizeMaidenhead hLocator]
    · rintro ⟨locator, hLocator, hLength⟩
      rw [length_of_normalizeMaidenhead hLocator] at hLength
      have hPlaces := ((normalizeMaidenhead_eq_ok_iff hLength locator).mp hLocator).1
      rw [(normalizeGrid_eq_some_iff value _).mpr ⟨hLength, hPlaces, rfl⟩]
      rfl
    · obtain ⟨hLength, _, rfl⟩ := (normalizeGrid_eq_some_iff value grid).mp hGrid
      obtain ⟨_, _, rfl⟩ := (normalizeMaidenhead_eq_ok_iff hLength locator).mp hLocator
      refine decide_eq_true (congrArg String.ofList ?_)
      rw [String.toList_ofList, String.toList_ofList]
      refine List.ext_getElem (by simp) fun index hLeft hRight => ?_
      simp only [List.getElem_map, List.getElem_mapIdx, toLower_gridCase, toLower_maidenheadCase]

/-- The contest accepts a square beyond the last field of the map. -/
theorem not_gridsAgree : ¬ GridsAgree "ZZ99" := by
  intro hAgree
  obtain ⟨locator, hLocator, _⟩ := hAgree.1.mp (by decide +kernel)
  have hRefused : (normalizeMaidenhead "ZZ99").toOption = none := by decide +kernel
  rw [hLocator] at hRefused
  cases hRefused

end HamLogger
