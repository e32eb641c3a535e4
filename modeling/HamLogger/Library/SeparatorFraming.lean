import Mathlib

/-! Fields joined into one text by a separator after each of them. Fields may
contain the separator, so the text alone does not give them back. -/
namespace HamLogger.SeparatorFraming

variable {α : Type} (sep : α)

def frame (fields : List (List α)) : List α :=
  fields.flatMap fun field => field ++ [sep]

/-- How often the separator occurs in each field. -/
def profile [DecidableEq α] (fields : List (List α)) : List Nat :=
  fields.map (List.count sep)

variable {sep}

@[simp] theorem frame_cons (field : List α) (rest : List (List α)) :
    frame sep (field :: rest) = field ++ sep :: frame sep rest := by
  simp [frame]

variable [DecidableEq α]

/-- The separator that ends the first field is found by counting. -/
theorem append_sep_inj {first second rest others : List α}
    (h : first ++ sep :: rest = second ++ sep :: others)
    (hCount : first.count sep = second.count sep) : first = second ∧ rest = others := by
  induction first generalizing second with
  | nil =>
      cases second with
      | nil => exact ⟨rfl, (List.cons.inj h).2⟩
      | cons value more =>
          have hHead : sep = value := (List.cons.inj h).1
          simp [hHead] at hCount
  | cons value more ih =>
      cases second with
      | nil =>
          have hHead : value = sep := (List.cons.inj h).1
          simp [hHead] at hCount
      | cons other less =>
          obtain ⟨rfl, hTail⟩ := List.cons.inj h
          have hLess : more.count sep = less.count sep := by
            rw [List.count_cons, List.count_cons] at hCount
            exact Nat.add_right_cancel hCount
          obtain ⟨rfl, hRest⟩ := ih hTail hLess
          exact ⟨rfl, hRest⟩

theorem eq_of_frame_eq {fields others : List (List α)} (h : frame sep fields = frame sep others)
    (hProfile : profile sep fields = profile sep others) : fields = others := by
  induction fields generalizing others with
  | nil =>
      cases others with
      | nil => rfl
      | cons other rest => simp [profile] at hProfile
  | cons field rest ih =>
      cases others with
      | nil => simp [profile] at hProfile
      | cons other more =>
          obtain ⟨hCount, hCounts⟩ := List.cons.inj hProfile
          rw [frame_cons, frame_cons] at h
          obtain ⟨rfl, hRest⟩ := append_sep_inj h hCount
          rw [ih hRest hCounts]

/-- Among fields with one frame, the profile tells them apart. -/
theorem eq_iff_profile_eq {fields others : List (List α)}
    (h : frame sep fields = frame sep others) :
    fields = others ↔ profile sep fields = profile sep others :=
  ⟨congrArg (profile sep), eq_of_frame_eq h⟩

theorem count_frame (fields : List (List α)) :
    (frame sep fields).count sep = fields.length + (profile sep fields).sum := by
  induction fields with
  | nil => rfl
  | cons field rest ih =>
      rw [frame_cons, List.count_append, List.count_cons_self, ih]
      simp only [profile, List.map_cons, List.sum_cons, List.length_cons]
      omega

theorem profile_of_free {fields : List (List α)} (h : ∀ field ∈ fields, sep ∉ field) :
    profile sep fields = List.replicate fields.length 0 := by
  refine List.eq_replicate_iff.mpr ⟨by simp [profile], ?_⟩
  intro count hMem
  obtain ⟨field, hField, rfl⟩ := List.mem_map.mp hMem
  exact List.count_eq_zero.mpr (h field hField)

/-- Fields without separators are determined by their frame. -/
theorem eq_of_free {fields others : List (List α)} (h : frame sep fields = frame sep others)
    (hFields : ∀ field ∈ fields, sep ∉ field) (hOthers : ∀ field ∈ others, sep ∉ field) :
    fields = others := by
  have hProfiles := profile_of_free hFields
  have hOtherProfiles := profile_of_free hOthers
  have hCounts := congrArg (List.count sep) h
  rw [count_frame, count_frame, hProfiles, hOtherProfiles] at hCounts
  have hLength : fields.length = others.length := by simpa using hCounts
  exact eq_of_frame_eq h (by rw [hProfiles, hOtherProfiles, hLength])

end HamLogger.SeparatorFraming
