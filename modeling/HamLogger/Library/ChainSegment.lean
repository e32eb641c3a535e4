import HamLogger.Library.HashChain

/-! Segments of lists and of hash chains. In a list without repetition a segment
is what keeps the order and leaves nothing out. In a chain without collisions it
is what is linked. -/
namespace HamLogger

universe u v

namespace Segment
variable {Entry : Type u} {part whole : List Entry}

/-- Whatever stands between two entries of the part belongs to it. -/
def Gapless (part whole : List Entry) : Prop :=
  ∀ first middle last, [first, middle, last].Sublist whole → first ∈ part → last ∈ part →
    middle ∈ part

theorem Gapless.tail {entry : Entry} (h : Gapless part (entry :: whole)) : Gapless part whole :=
  fun first middle last hBetween => h first middle last (hBetween.cons entry)

/-- What starts a segment that is begun already. -/
theorem prefix_of_sublist (hPart : part.Sublist whole) (hNodup : whole.Nodup)
    (hBefore : ∀ entry other, [entry, other].Sublist whole → other ∈ part → entry ∈ part) :
    part <+: whole := by
  induction hPart with
  | slnil => exact List.prefix_refl _
  | @cons part whole entry hRest ih =>
      obtain ⟨hFresh, _⟩ := List.nodup_cons.mp hNodup
      cases part with
      | nil => exact List.nil_prefix
      | cons other others =>
          have hOther : [other].Sublist whole :=
            List.singleton_sublist.mpr (hRest.mem List.mem_cons_self)
          have hMem := hBefore entry other (hOther.cons_cons entry) List.mem_cons_self
          exact absurd (hRest.mem hMem) hFresh
  | @cons_cons part whole entry hRest ih =>
      obtain ⟨hFresh, hNodup⟩ := List.nodup_cons.mp hNodup
      refine List.cons_prefix_cons.mpr ⟨rfl, ih hNodup fun first other hBetween hOther => ?_⟩
      rcases List.mem_cons.mp
        (hBefore first other (hBetween.cons entry) (List.mem_cons_of_mem _ hOther)) with rfl | hMem
      · exact absurd (hBetween.mem List.mem_cons_self) hFresh
      · exact hMem

/-- Without repetition the segments are the gapless sublists. -/
theorem isInfix_iff (hNodup : whole.Nodup) :
    part <:+: whole ↔ part.Sublist whole ∧ Gapless part whole := by
  constructor
  · intro hInfix
    refine ⟨hInfix.sublist, fun first middle last hBetween hFirst hLast => ?_⟩
    obtain ⟨before, after, rfl⟩ := hInfix
    obtain ⟨hStart, hAfter, hApart⟩ := List.nodup_append.mp hNodup
    obtain ⟨_, _, hBeforeApart⟩ := List.nodup_append.mp hStart
    obtain ⟨left, right, hSplit, hLeft, hRight⟩ := List.sublist_append_iff.mp hBetween
    obtain ⟨outer, inner, rfl, hOuter, hInner⟩ := List.sublist_append_iff.mp hLeft
    have hNoRight : right = [] := by
      rcases List.eq_nil_or_concat right with hNone | ⟨rest, other, rfl⟩
      · exact hNone
      · have hSame : other = last := by
          have hEnd := congrArg List.getLast? hSplit
          simpa using hEnd.symm
        refine absurd rfl (hApart last (List.mem_append_right _ hLast) last (hRight.mem ?_))
        simp [hSame]
    have hNoOuter : outer = [] := by
      cases outer with
      | nil => rfl
      | cons other rest =>
          obtain ⟨rfl, _⟩ := List.cons.inj hSplit
          exact absurd rfl (hBeforeApart first (hOuter.mem List.mem_cons_self) first hFirst)
    subst hNoRight hNoOuter
    have hAll : [first, middle, last] = inner := by simpa using hSplit
    rw [← hAll] at hInner
    exact hInner.mem (by simp)
  · rintro ⟨hPart, hGapless⟩
    induction hPart with
    | slnil => exact List.infix_rfl
    | @cons part whole entry hRest ih =>
        exact (ih (List.nodup_cons.mp hNodup).2 hGapless.tail).trans (List.suffix_cons _ _).isInfix
    | @cons_cons part whole entry hRest _ =>
        obtain ⟨hFresh, hNodup⟩ := List.nodup_cons.mp hNodup
        refine (List.cons_prefix_cons.mpr
          ⟨rfl, prefix_of_sublist hRest hNodup fun first other hBetween hOther => ?_⟩).isInfix
        rcases List.mem_cons.mp (hGapless entry first other (hBetween.cons_cons entry)
          List.mem_cons_self (List.mem_cons_of_mem _ hOther)) with rfl | hMem
        · exact absurd (hBetween.mem List.mem_cons_self) hFresh
        · exact hMem

end Segment

namespace HashChain.Scheme
variable {Entry : Type u} {Digest : Type v} {S : Scheme Entry Digest} {known : Entry → Prop}

/-- Known entries that go on from an entry of a chain go on as the chain does. -/
theorem CollisionFree.prefix_of_linked (h : S.CollisionFree known) {before after : List Entry}
    {entry : Entry} {part : List Entry} (hChain : S.Linked none (before ++ entry :: after))
    (hKnown : ∀ other ∈ before ++ entry :: after, known other)
    (hPart : ∀ other ∈ part, other ∈ before ++ entry :: after)
    (hLinked : S.Linked (some (S.digest entry)) part) : part <+: after := by
  induction part generalizing before entry after with
  | nil => exact List.nil_prefix
  | cons next rest ih =>
      obtain ⟨hPrevious, hRest⟩ := hLinked
      obtain ⟨front, back, hSplit⟩ := List.append_of_mem (hPart next List.mem_cons_self)
      have hFront : S.Linked none (front ++ next :: back) := hSplit ▸ hChain
      have hTip : S.tip none front = some (S.digest entry) := by
        rw [← hPrevious]
        simp only [linked_append, linked_cons] at hFront
        exact hFront.2.1.symm
      rcases List.eq_nil_or_concat front with rfl | ⟨most, last, rfl⟩
      · cases hTip
      · have hLast : last = entry := by
          refine h last entry (hKnown last (by simp [hSplit])) (hKnown entry (by simp)) ?_
          simpa using hTip
        subst hLast
        rw [List.concat_eq_append, List.append_assoc, List.singleton_append] at hSplit
        have hMost : before = most :=
          h.agree_before hChain (hSplit ▸ hChain) hKnown (hSplit ▸ hKnown)
        subst hMost
        obtain ⟨_, rfl⟩ := List.cons.inj (List.append_cancel_left hSplit)
        refine List.cons_prefix_cons.mpr ⟨rfl, ?_⟩
        have hMoved : before ++ last :: next :: back = (before ++ [last]) ++ next :: back := by
          simp
        rw [hMoved] at hChain hKnown hPart
        exact ih hChain hKnown (fun other hMem => hPart other (List.mem_cons_of_mem _ hMem)) hRest

/-- A chain whose tip stands in another one is the beginning of that one. -/
theorem CollisionFree.prefix_of_tip_mem (h : S.CollisionFree known) {chain whole : List Entry}
    (hChain : S.Linked none chain) (hWhole : S.Linked none whole)
    (hKnownChain : ∀ entry ∈ chain, known entry) (hKnownWhole : ∀ entry ∈ whole, known entry)
    {entry : Entry} (hMem : entry ∈ whole) (hTip : S.tip none chain = some (S.digest entry)) :
    chain <+: whole := by
  cases chain using List.reverseRecOn with
  | nil => exact List.nil_prefix
  | append_singleton front last =>
      have hDigest : S.digest last = S.digest entry := by
        rw [tip_append] at hTip
        exact Option.some.inj hTip
      obtain rfl : last = entry :=
        h last entry (hKnownChain last (by simp)) (hKnownWhole entry hMem) hDigest
      obtain ⟨before, after, rfl⟩ := List.append_of_mem hMem
      obtain rfl : front = before := h.agree_before hChain hWhole hKnownChain hKnownWhole
      exact ⟨after, by simp⟩

/-- Linked entries of a chain are a segment of it. -/
theorem CollisionFree.isInfix_of_linked (h : S.CollisionFree known) {chain part : List Entry}
    {start : Option Digest} (hChain : S.Linked none chain) (hKnown : ∀ entry ∈ chain, known entry)
    (hPart : ∀ entry ∈ part, entry ∈ chain) (hLinked : S.Linked start part) :
    part <:+: chain := by
  cases part with
  | nil => exact List.nil_infix
  | cons first rest =>
      obtain ⟨before, after, rfl⟩ := List.append_of_mem (hPart first List.mem_cons_self)
      obtain ⟨last, hLast⟩ := h.prefix_of_linked hChain hKnown
        (fun other hMem => hPart other (List.mem_cons_of_mem _ hMem)) hLinked.2
      exact ⟨before, last, by rw [← hLast]; simp⟩

/-- A segment of a chain is linked from where its first entry says. -/
theorem linked_of_isInfix {chain part : List Entry} {start : Option Digest}
    (hChain : S.Linked none chain) (h : part <:+: chain)
    (hStart : ∀ first ∈ part.head?, S.previous first = start) : S.Linked start part := by
  cases part with
  | nil => trivial
  | cons first rest =>
      obtain ⟨before, after, rfl⟩ := h
      simp only [linked_append] at hChain
      obtain ⟨⟨_, hSegment⟩, _⟩ := hChain
      exact ⟨hStart first rfl, hSegment.2⟩

end HashChain.Scheme
end HamLogger
