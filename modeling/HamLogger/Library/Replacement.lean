import Mathlib.Data.List.Infix

/-! Replacing the occurrences of a pattern in a list by a mark, from the left
and without overlaps. What does not overlap with the mark occurs afterwards
only where it occurred before, and the pattern itself nowhere. -/
namespace HamLogger.Replacement

universe u
variable {α : Type u}

/-- A word in a text of two parts lies in one of them or across both. -/
theorem infix_append_cases {word first second : List α} (h : word <:+: first ++ second) :
    word <:+: first ∨ word <:+: second ∨
      ∃ left right, word = left ++ right ∧ left ≠ [] ∧ left <:+ first ∧ right <+: second := by
  obtain ⟨before, after, hText⟩ := h
  rw [List.append_assoc] at hText
  rcases List.append_eq_append_iff.mp hText with ⟨left, hFirst, hRest⟩ | ⟨gap, hBefore, hSecond⟩
  · rcases List.append_eq_append_iff.mp hRest with ⟨gap, hLeft, hAfter⟩ | ⟨right, hWord, hSecond⟩
    · left
      exact ⟨before, gap, by rw [hFirst, hLeft, List.append_assoc]⟩
    · right
      by_cases hNil : left = []
      · left
        rw [hNil, List.nil_append] at hWord
        exact ⟨[], after, by rw [hWord, List.nil_append, hSecond]⟩
      · exact Or.inr ⟨left, right, hWord, hNil, ⟨before, hFirst.symm⟩, ⟨after, hSecond.symm⟩⟩
  · right
    left
    exact ⟨gap, after, by rw [List.append_assoc, hSecond]⟩

/-- No beginning of the word is an end of the mark. -/
def StartsApart (word mark : List α) : Prop := ∀ part ∈ word.inits, part ≠ [] → ¬ part <:+ mark

/-- A word neither contains the mark, nor lies in it, nor overlaps with it. -/
structure Apart (word mark : List α) : Prop where
  starts : StartsApart word mark
  ends : ∀ part ∈ word.tails, part ≠ [] → ¬ part <+: mark
  within : ¬ word <:+: mark
  around : ¬ mark <:+: word

/-- A word that does not overlap with the mark occurs in what follows a mark,
if at all. -/
theorem infix_of_mark {word mark : List α} (hApart : Apart word mark) {text : List α}
    (h : word <:+: mark ++ text) : word <:+: text := by
  rcases infix_append_cases h with hMark | hText | ⟨left, right, rfl, hNil, hLeft, _⟩
  · exact absurd hMark hApart.within
  · exact hText
  · exact absurd hLeft (hApart.starts left
      ((List.mem_inits _ _).mpr (List.prefix_append left right)) hNil)

variable [DecidableEq α]

/-- The elements are skipped that an occurrence of the pattern still covers. -/
def replaceFrom (pattern mark : List α) : Nat → List α → List α
  | _, [] => []
  | skip + 1, _ :: rest => replaceFrom pattern mark skip rest
  | 0, a :: rest =>
      if pattern <+: a :: rest then mark ++ replaceFrom pattern mark (pattern.length - 1) rest
      else a :: replaceFrom pattern mark 0 rest

def replace (pattern mark text : List α) : List α := replaceFrom pattern mark 0 text

instance (word mark : List α) : Decidable (StartsApart word mark) :=
  inferInstanceAs (Decidable (∀ part ∈ word.inits, part ≠ [] → ¬ part <:+ mark))

instance (word mark : List α) : Decidable (Apart word mark) :=
  decidable_of_iff (StartsApart word mark ∧ (∀ part ∈ word.tails, part ≠ [] → ¬ part <+: mark) ∧
    ¬ word <:+: mark ∧ ¬ mark <:+: word)
    ⟨fun h => ⟨h.1, h.2.1, h.2.2.1, h.2.2.2⟩, fun h => ⟨h.starts, h.ends, h.within, h.around⟩⟩

section Occurrences
variable {pattern mark word : List α}

/-- A rest of a word that starts a text after the replacement did so before. -/
theorem prefix_of_replaceFrom (hApart : Apart word mark) {part : List α} (hPart : part <:+ word)
    {skip : Nat} {text : List α} (h : part <+: replaceFrom pattern mark skip text) :
    part <+: text.drop skip := by
  induction text generalizing skip part with
  | nil => simpa [replaceFrom] using h
  | cons a rest ih =>
      cases skip with
      | succ skip => exact ih hPart h
      | zero =>
          rw [replaceFrom] at h
          split at h
          · rcases List.prefix_or_prefix_of_prefix h (List.prefix_append mark _) with hMark | hAll
            · by_cases hNil : part = []
              · exact hNil ▸ List.nil_prefix
              · exact absurd hMark (hApart.ends part ((List.mem_tails _ _).mpr hPart) hNil)
            · exact absurd (hAll.isInfix.trans hPart.isInfix) hApart.around
          · rcases List.prefix_cons_iff.mp h with rfl | ⟨more, rfl, hMore⟩
            · exact List.nil_prefix
            · have hLater := ih ((List.suffix_cons a more).trans hPart) hMore
              exact List.prefix_cons_iff.mpr (Or.inr ⟨more, rfl, hLater⟩)

/-- No occurrence of the word comes from a replacement. -/
theorem infix_of_replaceFrom (hApart : Apart word mark) {skip : Nat} {text : List α}
    (h : word <:+: replaceFrom pattern mark skip text) : word <:+: text.drop skip := by
  induction text generalizing skip with
  | nil => simpa [replaceFrom] using h
  | cons a rest ih =>
      cases skip with
      | succ skip => exact ih h
      | zero =>
          rw [replaceFrom] at h
          split at h
          · have hRest := ih (infix_of_mark hApart h)
            exact hRest.trans
              ((List.drop_suffix _ _).isInfix.trans (List.suffix_cons a rest).isInfix)
          · rcases List.infix_cons_iff.mp h with hHere | hLater
            · rcases List.prefix_cons_iff.mp hHere with rfl | ⟨more, rfl, hMore⟩
              · exact List.nil_infix
              · have hRest := prefix_of_replaceFrom hApart (List.suffix_cons a more) hMore
                exact (List.prefix_cons_iff.mpr (Or.inr ⟨more, rfl, hRest⟩)).isInfix
            · exact (ih hLater).trans (List.suffix_cons a rest).isInfix

theorem infix_of_replace (hApart : Apart word mark) {text : List α}
    (h : word <:+: replace pattern mark text) : word <:+: text :=
  infix_of_replaceFrom hApart h

/-- The pattern does not occur after it was replaced. -/
theorem not_infix_replace (hApart : Apart pattern mark) (hNil : pattern ≠ []) (text : List α) :
    ¬ pattern <:+: replace pattern mark text := by
  have hFrom : ∀ text skip, ¬ pattern <:+: replaceFrom pattern mark skip text := by
    intro text
    induction text with
    | nil =>
        intro skip h
        exact hNil (List.infix_nil.mp (by simpa [replaceFrom] using h))
    | cons a rest ih =>
        intro skip h
        cases skip with
        | succ skip => exact ih skip h
        | zero =>
            rw [replaceFrom] at h
            split at h
            · exact ih _ (infix_of_mark hApart h)
            · next hOther =>
                rcases List.infix_cons_iff.mp h with hHere | hLater
                · rcases List.prefix_cons_iff.mp hHere with rfl | ⟨more, rfl, hMore⟩
                  · exact hNil rfl
                  · have hRest := prefix_of_replaceFrom hApart (List.suffix_cons a more) hMore
                    exact hOther (List.prefix_cons_iff.mpr (Or.inr ⟨more, rfl, hRest⟩))
                · exact ih 0 hLater
  exact hFrom text 0

/-- Patterns that are replaced one after another, none of which overlaps with
the mark, are all gone afterwards. -/
theorem not_infix_foldl (hApart : Apart word mark) (hNil : word ≠ []) {patterns : List (List α)}
    {text : List α} (h : word ∈ patterns ∨ ¬ word <:+: text) :
    ¬ word <:+: patterns.foldl (fun text pattern => replace pattern mark text) text := by
  induction patterns generalizing text with
  | nil => exact h.resolve_left List.not_mem_nil
  | cons pattern rest ih =>
      rw [List.foldl_cons]
      refine ih ?_
      rcases h with hMem | hText
      · rcases List.mem_cons.mp hMem with rfl | hRest
        · exact Or.inr (not_infix_replace hApart hNil text)
        · exact Or.inl hRest
      · exact Or.inr fun hLater => hText (infix_of_replace hApart hLater)

end Occurrences
end HamLogger.Replacement
