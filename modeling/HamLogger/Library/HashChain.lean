import Mathlib.Data.List.Induction

/-! Hash chains over arbitrary entries. Every entry names the digest of its
predecessor and has a digest of its own; nothing is assumed about how the
digest is computed. Collisions and cycles are excluded only where a result
needs it, and only among entries that actually occur. -/
namespace HamLogger.HashChain

universe u v

/-- How entries of a chain refer to each other. -/
structure Scheme (Entry : Type u) (Digest : Type v) where
  previous : Entry → Option Digest
  digest : Entry → Digest

namespace Scheme
variable {Entry : Type u} {Digest : Type v} (S : Scheme Entry Digest)

/-- The list continues a chain whose last digest is `start`. -/
def Linked : Option Digest → List Entry → Prop
  | _, [] => True
  | start, entry :: rest => S.previous entry = start ∧ Linked (some (S.digest entry)) rest

/-- The last digest of a chain that starts after `start`. -/
def tip : Option Digest → List Entry → Option Digest
  | start, [] => start
  | _, entry :: rest => tip (some (S.digest entry)) rest

@[simp] theorem linked_nil (start : Option Digest) : S.Linked start [] := trivial

@[simp] theorem linked_cons (start : Option Digest) (entry : Entry) (rest : List Entry) :
    S.Linked start (entry :: rest) ↔
      S.previous entry = start ∧ S.Linked (some (S.digest entry)) rest := Iff.rfl

@[simp] theorem tip_nil (start : Option Digest) : S.tip start [] = start := rfl

@[simp] theorem tip_cons (start : Option Digest) (entry : Entry) (rest : List Entry) :
    S.tip start (entry :: rest) = S.tip (some (S.digest entry)) rest := rfl

@[simp] theorem tip_append (start : Option Digest) (xs ys : List Entry) :
    S.tip start (xs ++ ys) = S.tip (S.tip start xs) ys := by
  induction xs generalizing start with
  | nil => rfl
  | cons x xs ih => exact ih _

/-- A chain is linked piecewise, each piece continuing the one before. -/
@[simp] theorem linked_append (start : Option Digest) (xs ys : List Entry) :
    S.Linked start (xs ++ ys) ↔ S.Linked start xs ∧ S.Linked (S.tip start xs) ys := by
  induction xs generalizing start with
  | nil => simp
  | cons x xs ih => simp [ih, and_assoc]

theorem tip_eq_getLast? (start : Option Digest) (chain : List Entry) :
    S.tip start chain = (chain.getLast?.map S.digest).or start := by
  cases chain using List.reverseRecOn with
  | nil => rfl
  | append_singleton xs x => simp

theorem tip_none (chain : List Entry) :
    S.tip none chain = chain.getLast?.map S.digest := by
  simp [tip_eq_getLast?]

theorem tip_of_ne_nil {chain : List Entry} (h : chain ≠ []) (start other : Option Digest) :
    S.tip start chain = S.tip other chain := by
  cases chain with
  | nil => exact absurd rfl h
  | cons entry rest => rfl

/-- No two different known entries share a digest. -/
def CollisionFree (known : Entry → Prop) : Prop :=
  ∀ a b, known a → known b → S.digest a = S.digest b → a = b

/-- No nonempty linked list of known entries leads back to its own start. -/
def Acyclic (known : Entry → Prop) : Prop :=
  ∀ start chain, chain ≠ [] → (∀ entry ∈ chain, known entry) →
    S.Linked (some start) chain → S.tip (some start) chain ≠ some start

variable {S}

theorem CollisionFree.mono {known less : Entry → Prop} (h : S.CollisionFree known)
    (hLess : ∀ entry, less entry → known entry) : S.CollisionFree less :=
  fun a b ha hb => h a b (hLess a ha) (hLess b hb)

/-- A digest commits to the whole chain behind it. -/
theorem CollisionFree.eq_of_tip_eq {known : Entry → Prop} (h : S.CollisionFree known)
    {xs ys : List Entry} (hxs : S.Linked none xs) (hys : S.Linked none ys)
    (kxs : ∀ entry ∈ xs, known entry) (kys : ∀ entry ∈ ys, known entry)
    (hTip : S.tip none xs = S.tip none ys) : xs = ys := by
  induction xs using List.reverseRecOn generalizing ys with
  | nil =>
      cases ys using List.reverseRecOn with
      | nil => rfl
      | append_singleton ys y => simp at hTip
  | append_singleton xs x ih =>
      cases ys using List.reverseRecOn with
      | nil => simp at hTip
      | append_singleton ys y =>
          have hDigest : S.digest x = S.digest y := by simpa using hTip
          have hxy : x = y := h x y (kxs x (by simp)) (kys y (by simp)) hDigest
          subst hxy
          simp only [linked_append, linked_cons] at hxs hys
          have hBefore : S.tip none xs = S.tip none ys := hxs.2.1.symm.trans hys.2.1
          rw [ih hxs.1 hys.1 (fun e he => kxs e (by simp [he]))
            (fun e he => kys e (by simp [he])) hBefore]

/-- Two chains from the beginning that share an entry agree before it. -/
theorem CollisionFree.agree_before {known : Entry → Prop} (h : S.CollisionFree known)
    {xs xs' ys ys' : List Entry} {entry : Entry}
    (hxs : S.Linked none (xs ++ entry :: xs')) (hys : S.Linked none (ys ++ entry :: ys'))
    (kxs : ∀ e ∈ xs ++ entry :: xs', known e) (kys : ∀ e ∈ ys ++ entry :: ys', known e) :
    xs = ys := by
  simp only [linked_append, linked_cons] at hxs hys
  exact h.eq_of_tip_eq hxs.1 hys.1 (fun e he => kxs e (by simp [he]))
    (fun e he => kys e (by simp [he])) (hxs.2.1.symm.trans hys.2.1)

theorem Acyclic.mono {known less : Entry → Prop} (h : S.Acyclic known)
    (hLess : ∀ entry, less entry → known entry) : S.Acyclic less :=
  fun start chain hSome hChain => h start chain hSome fun e he => hLess e (hChain e he)

/-- Without cycles a linked list repeats no entry. -/
theorem Acyclic.nodup {known : Entry → Prop} (h : S.Acyclic known) {start : Option Digest}
    {chain : List Entry} (hChain : S.Linked start chain)
    (hKnown : ∀ entry ∈ chain, known entry) : chain.Nodup := by
  induction chain generalizing start with
  | nil => exact List.nodup_nil
  | cons x xs ih =>
      refine List.nodup_cons.mpr ⟨?_, ih hChain.2 fun e he => hKnown e (by simp [he])⟩
      intro hMem
      obtain ⟨before, after, rfl⟩ := List.append_of_mem hMem
      have hLoop : S.Linked (some (S.digest x)) (before ++ [x]) := by
        have hRest := hChain.2
        simp only [linked_append, linked_cons] at hRest ⊢
        exact ⟨hRest.1, hRest.2.1, trivial⟩
      refine h (S.digest x) (before ++ [x]) (by simp) ?_ hLoop (by simp)
      intro e he
      exact hKnown e (by simp at he ⊢; tauto)

end Scheme
end HamLogger.HashChain
