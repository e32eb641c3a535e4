import HamLogger.Library.Transition
import Mathlib.Logic.Relation

/-! Credentials that are issued, renewed and ended. Every credential has a key,
a scope and a secret of its own. A renewal takes the secret of a credential and
ends it, and makes a new one of the same scope. -/
namespace HamLogger

open Transition (Run System)
open Relation (ReflTransGen)

structure Credential (Scope Secret : Type) where
  scope : Scope
  secret : Secret
  active : Bool

namespace Credential
variable {Key Scope Secret : Type}

/-- The same credential later. It may have ended, and never comes back. -/
structure Continues (old later : Credential Scope Secret) : Prop where
  scope : later.scope = old.scope
  secret : later.secret = old.secret
  active : later.active = true → old.active = true

theorem Continues.refl (credential : Credential Scope Secret) :
    credential.Continues credential :=
  ⟨rfl, rfl, id⟩

theorem Continues.trans {first second third : Credential Scope Secret}
    (h : first.Continues second) (hNext : second.Continues third) : first.Continues third :=
  ⟨hNext.scope.trans h.scope, hNext.secret.trans h.secret,
    fun hActive => h.active (hNext.active hActive)⟩

theorem Continues.ended {old later : Credential Scope Secret} (h : old.Continues later)
    (hOld : old.active = false) : later.active = false := by
  cases hLater : later.active with
  | false => rfl
  | true =>
      rw [h.active hLater] at hOld
      cases hOld

/-- What a step does, apart from ending credentials. -/
inductive Effect (Key Secret : Type) where
  | kept
  | issued (key : Key)
  | renewed (secret : Secret) (old new : Key)

namespace Effect

/-- The key of the credential that a step makes. -/
def created : Effect Key Secret → Option Key
  | kept => none
  | issued key => some key
  | renewed _ _ new => some new

def renews [DecidableEq Secret] (secret : Secret) : Effect Key Secret → Bool
  | renewed used _ _ => used = secret
  | _ => false

end Effect

/-- The key of a credential and the one that some step renewed it into. -/
def RenewedInto (effects : List (Effect Key Secret)) (old new : Key) : Prop :=
  ∃ secret, .renewed secret old new ∈ effects

theorem RenewedInto.mono {effects more : List (Effect Key Secret)} (h : effects ⊆ more)
    {old new : Key} (hRenewed : RenewedInto effects old new) : RenewedInto more old new := by
  obtain ⟨secret, hMem⟩ := hRenewed
  exact ⟨secret, h hMem⟩

/-- One step on the credentials by their keys. -/
structure Step (before : Key → Option (Credential Scope Secret)) (effect : Effect Key Secret)
    (later : Key → Option (Credential Scope Secret)) : Prop where
  continues : ∀ key old, before key = some old → ∃ new, later key = some new ∧ old.Continues new
  origin : ∀ key new, later key = some new → (∃ old, before key = some old) ∨
    (effect.created = some key ∧ ∀ other old, before other = some old → old.secret ≠ new.secret)
  renewal : ∀ secret old new, effect = .renewed secret old new →
    ∃ renewed ended made, before old = some renewed ∧ renewed.secret = secret ∧
      later old = some ended ∧ ended.active = false ∧
      later new = some made ∧ made.scope = renewed.scope

def steps : System (Key → Option (Credential Scope Secret)) (Effect Key Secret) where
  step := Step

/-- No step renews a credential that has ended. -/
def RenewsActive (before : Key → Option (Credential Scope Secret)) (effect : Effect Key Secret) :
    Prop :=
  ∀ secret old new, effect = .renewed secret old new →
    ∀ renewed, before old = some renewed → renewed.active = true

/-- The secrets tell the credentials apart. -/
def SecretsApart (credentials : Key → Option (Credential Scope Secret)) : Prop :=
  ∀ key other first second, credentials key = some first → credentials other = some second →
    first.secret = second.secret → key = other

section Steps
variable {before later : Key → Option (Credential Scope Secret)} {effect : Effect Key Secret}

theorem Step.secretsApart (h : Step before effect later) (hBefore : SecretsApart before) :
    SecretsApart later := by
  intro key other first second hFirst hSecond hSecret
  have hKept : ∀ {key : Key} {old new : Credential Scope Secret}, before key = some old →
      later key = some new → new.secret = old.secret := by
    intro key old new hOld hNew
    obtain ⟨same, hSame, hContinues⟩ := h.continues key old hOld
    rw [hNew] at hSame
    rw [Option.some.inj hSame]
    exact hContinues.secret
  rcases h.origin key first hFirst with ⟨old, hOld⟩ | ⟨hCreated, hNew⟩
  · rcases h.origin other second hSecond with ⟨oldOther, hOther⟩ | ⟨_, hNewOther⟩
    · apply hBefore key other old oldOther hOld hOther
      rw [← hKept hOld hFirst, ← hKept hOther hSecond, hSecret]
    · have hApart := hNewOther key old hOld
      rw [← hKept hOld hFirst, hSecret] at hApart
      exact absurd rfl hApart
  · rcases h.origin other second hSecond with ⟨oldOther, hOther⟩ | ⟨hCreatedOther, _⟩
    · have hApart := hNew other oldOther hOther
      rw [← hKept hOther hSecond, hSecret] at hApart
      exact absurd rfl hApart
    · exact Option.some.inj (hCreated.symm.trans hCreatedOther)

end Steps

section Runs
variable {start final : Key → Option (Credential Scope Secret)} {effects : List (Effect Key Secret)}

/-- A credential goes on through a run. -/
theorem continues_of_run (run : Run steps start effects final) {key : Key}
    {old : Credential Scope Secret} (hOld : start key = some old) :
    ∃ new, final key = some new ∧ old.Continues new := by
  refine run.relation (R := fun before later => ∀ old, before key = some old →
    ∃ new, later key = some new ∧ old.Continues new) ?_ ?_ ?_ old hOld
  · intro state old hOld
    exact ⟨old, hOld, Continues.refl old⟩
  · intro first second third hFirst hSecond old hOld
    obtain ⟨middle, hMiddle, hContinues⟩ := hFirst old hOld
    obtain ⟨new, hNew, hNext⟩ := hSecond middle hMiddle
    exact ⟨new, hNew, hContinues.trans hNext⟩
  · intro before effect later hStep old hOld
    exact hStep.continues key old hOld

/-- A secret renews once at most where only active credentials are renewed. -/
theorem renewed_once [DecidableEq Secret] (hStart : SecretsApart start)
    (run : Run (steps.restrict RenewsActive) start effects final) (secret : Secret) :
    effects.countP (Effect.renews secret) ≤ 1 := by
  have hHistory : SecretsApart final ∧ effects.countP (Effect.renews secret) ≤ 1 ∧
      (0 < effects.countP (Effect.renews secret) → ∃ key ended, final key = some ended ∧
        ended.secret = secret ∧ ended.active = false) := by
    refine run.history (P := fun seen state => SecretsApart state ∧
      seen.countP (Effect.renews secret) ≤ 1 ∧ (0 < seen.countP (Effect.renews secret) →
        ∃ key ended, state key = some ended ∧ ended.secret = secret ∧ ended.active = false))
      ⟨hStart, by simp, by simp⟩ ?_
    intro seen before effect later hSeen hStep
    obtain ⟨hApart, hCount, hEnded⟩ := hSeen
    obtain ⟨hActive, hStep⟩ := hStep
    refine ⟨hStep.secretsApart hApart, ?_⟩
    rw [List.countP_append, List.countP_singleton]
    cases hRenews : effect.renews secret with
    | false =>
        refine ⟨by simpa using hCount, fun hPositive => ?_⟩
        obtain ⟨key, ended, hKey, hSecret, hOver⟩ := hEnded (by simpa using hPositive)
        obtain ⟨new, hNew, hContinues⟩ := hStep.continues key ended hKey
        exact ⟨key, new, hNew, hContinues.secret.trans hSecret, hContinues.ended hOver⟩
    | true =>
        cases effect with
        | kept => cases hRenews
        | issued key => cases hRenews
        | renewed used old new =>
            have hUsed : used = secret := of_decide_eq_true hRenews
            obtain ⟨renewed, ended, made, hOld, hSecret, hLater, hOver, _⟩ :=
              hStep.renewal used old new rfl
            -- A renewal before this one would have ended the same credential.
            have hFirst : seen.countP (Effect.renews secret) = 0 := by
              by_contra hBefore
              obtain ⟨key, other, hKey, hOther, hInactive⟩ := hEnded (by omega)
              have hSame := hApart key old other renewed hKey hOld (by rw [hOther, hSecret, hUsed])
              rw [hSame, hOld] at hKey
              rw [← Option.some.inj hKey, hActive used old new rfl renewed hOld] at hInactive
              cases hInactive
            obtain ⟨same, hSame, hContinues⟩ := hStep.continues old renewed hOld
            rw [hLater] at hSame
            have hKept : ended.secret = secret := by
              rw [Option.some.inj hSame, hContinues.secret, hSecret, hUsed]
            exact ⟨by simp [hFirst], fun _ => ⟨old, ended, hLater, hKept, hOver⟩⟩
  exact hHistory.2.1

/-- Where only active credentials are renewed, one that has ended is not. -/
theorem not_renewed_of_ended (run : Run (steps.restrict RenewsActive) start effects final)
    {key : Key} {old : Credential Scope Secret} (hOld : start key = some old)
    (hEnded : old.active = false) (new : Key) : ¬ RenewedInto effects key new := by
  have hHistory : ¬ RenewedInto effects key new ∧
      ∃ later, final key = some later ∧ later.active = false := by
    refine run.history (P := fun seen state => ¬ RenewedInto seen key new ∧
      ∃ later, state key = some later ∧ later.active = false)
      ⟨by simp [RenewedInto], old, hOld, hEnded⟩ ?_
    intro seen before effect later hSeen hStep
    obtain ⟨hNot, current, hCurrent, hOver⟩ := hSeen
    obtain ⟨hActive, hStep⟩ := hStep
    refine ⟨fun hRenewed => ?_, ?_⟩
    · obtain ⟨secret, hMem⟩ := hRenewed
      rcases List.mem_append.mp hMem with hEarly | hLast
      · exact hNot ⟨secret, hEarly⟩
      · rw [hActive secret key new (List.mem_singleton.mp hLast).symm current hCurrent] at hOver
        cases hOver
    · obtain ⟨next, hNext, hContinues⟩ := hStep.continues key current hCurrent
      exact ⟨next, hNext, hContinues.ended hOver⟩
  exact hHistory.1

/-- A credential has the scope of the one that was renewed into it. -/
theorem scope_of_renewedInto (run : Run steps start effects final) {old new : Key}
    (h : RenewedInto effects old new) :
    ∃ renewed made, final old = some renewed ∧ final new = some made ∧
      made.scope = renewed.scope := by
  refine run.history (P := fun seen state => RenewedInto seen old new →
    ∃ renewed made, state old = some renewed ∧ state new = some made ∧
      made.scope = renewed.scope) (by simp [RenewedInto]) ?_ h
  intro seen before effect later hSeen hStep hRenewed
  obtain ⟨secret, hMem⟩ := hRenewed
  rcases List.mem_append.mp hMem with hEarly | hLast
  · obtain ⟨renewed, made, hOld, hNew, hScope⟩ := hSeen ⟨secret, hEarly⟩
    obtain ⟨laterOld, hLaterOld, hOldContinues⟩ := hStep.continues old renewed hOld
    obtain ⟨laterNew, hLaterNew, hNewContinues⟩ := hStep.continues new made hNew
    refine ⟨laterOld, laterNew, hLaterOld, hLaterNew, ?_⟩
    rw [hOldContinues.scope, hNewContinues.scope, hScope]
  · obtain ⟨renewed, ended, made, hOld, _, hEnded, _, hMade, hScope⟩ :=
      hStep.renewal secret old new (List.mem_singleton.mp hLast).symm
    obtain ⟨same, hSame, hContinues⟩ := hStep.continues old renewed hOld
    rw [hEnded] at hSame
    refine ⟨ended, made, hEnded, hMade, ?_⟩
    rw [Option.some.inj hSame, hContinues.scope, hScope]

theorem scope_of_descent (run : Run steps start effects final) {old new : Key}
    (h : ReflTransGen (RenewedInto effects) old new) {made : Credential Scope Secret}
    (hNew : final new = some made) :
    ∃ first, final old = some first ∧ first.scope = made.scope := by
  induction h using ReflTransGen.head_induction_on with
  | refl => exact ⟨made, hNew, rfl⟩
  | head hStep _ ih =>
      obtain ⟨next, hNext, hScope⟩ := ih
      obtain ⟨renewed, same, hOld, hSame, hKept⟩ := scope_of_renewedInto run hStep
      rw [hNext] at hSame
      refine ⟨renewed, hOld, ?_⟩
      rw [← hKept, ← Option.some.inj hSame, hScope]

end Runs

/-! All credentials of some scopes have ended. -/

section Revoked
variable {start revoked final : Key → Option (Credential Scope Secret)}
  {before after : List (Effect Key Secret)} {Covered : Scope → Prop}

/-- They and all that they were ever renewed into stay ended, unless one of
them is renewed later. -/
theorem descent_ended (first : Run steps start before revoked) (run : Run steps revoked after final)
    (hEnded : ∀ key old, revoked key = some old → Covered old.scope → old.active = false)
    (hSpared : ∀ key old, revoked key = some old → Covered old.scope →
      ∀ new, ¬ RenewedInto after key new)
    {key descendant : Key} {old later : Credential Scope Secret} (hOld : revoked key = some old)
    (hCovered : Covered old.scope)
    (hDescent : ReflTransGen (RenewedInto (before ++ after)) key descendant)
    (hLater : final descendant = some later) : later.active = false := by
  have hPresent : ∃ present, revoked descendant = some present ∧ Covered present.scope := by
    clear hLater
    induction hDescent with
    | refl => exact ⟨old, hOld, hCovered⟩
    | @tail middle new _ hRenewed ih =>
        obtain ⟨present, hMiddle, hPresent⟩ := ih
        obtain ⟨secret, hMem⟩ := hRenewed
        rcases List.mem_append.mp hMem with hBefore | hAfter
        · obtain ⟨renewed, made, hRenewed, hMade, hScope⟩ :=
            scope_of_renewedInto first ⟨secret, hBefore⟩
          rw [hMiddle] at hRenewed
          refine ⟨made, hMade, ?_⟩
          rw [hScope, ← Option.some.inj hRenewed]
          exact hPresent
        · exact absurd ⟨secret, hAfter⟩ (hSpared middle present hMiddle hPresent new)
  obtain ⟨present, hPresent, hCovers⟩ := hPresent
  obtain ⟨same, hSame, hContinues⟩ := continues_of_run run hPresent
  rw [hLater] at hSame
  rw [Option.some.inj hSame]
  exact hContinues.ended (hEnded descendant present hPresent hCovers)

/-- An active credential of such a scope goes back to one that was issued
later. -/
theorem active_issued (run : Run steps revoked after final)
    (hEnded : ∀ key old, revoked key = some old → Covered old.scope → old.active = false)
    (hSpared : ∀ key old, revoked key = some old → Covered old.scope →
      ∀ new, ¬ RenewedInto after key new)
    {key : Key} {later : Credential Scope Secret} (hLater : final key = some later)
    (hActive : later.active = true) (hCovered : Covered later.scope) :
    ∃ origin, .issued origin ∈ after ∧ ReflTransGen (RenewedInto after) origin key := by
  have hNew : revoked key = none := by
    cases hOld : revoked key with
    | none => rfl
    | some old =>
        obtain ⟨same, hSame, hContinues⟩ := continues_of_run run hOld
        rw [hLater] at hSame
        rw [← Option.some.inj hSame] at hContinues
        have hOver := hEnded key old hOld (by rw [← hContinues.scope]; exact hCovered)
        rw [hContinues.active hActive] at hOver
        cases hOver
  clear hActive
  induction run generalizing key later with
  | nil =>
      rw [hLater] at hNew
      cases hNew
  | @snoc state next seen effect prior last ih =>
      have hMono : ∀ {origin key : Key}, ReflTransGen (RenewedInto seen) origin key →
          ReflTransGen (RenewedInto (seen ++ [effect])) origin key := fun hDescent =>
        ReflTransGen.mono (fun _ _ hRenewed => hRenewed.mono (List.subset_append_left _ _)) _ _
          hDescent
      have hSeen : ∀ key old, revoked key = some old → Covered old.scope →
          ∀ new, ¬ RenewedInto seen key new := fun key old hOld hCovered new hRenewed =>
        hSpared key old hOld hCovered new (hRenewed.mono (List.subset_append_left _ _))
      have hEarlier : ∀ {key : Key} {old : Credential Scope Secret}, state key = some old →
          Covered old.scope → revoked key = none → ∃ origin, .issued origin ∈ seen ++ [effect] ∧
            ReflTransGen (RenewedInto (seen ++ [effect])) origin key := by
        intro key old hOld hCovered hNew
        obtain ⟨origin, hIssued, hDescent⟩ := ih hSeen hOld hCovered hNew
        exact ⟨origin, List.mem_append_left _ hIssued, hMono hDescent⟩
      rcases last.origin key later hLater with ⟨old, hOld⟩ | ⟨hCreated, _⟩
      · obtain ⟨same, hSame, hContinues⟩ := last.continues key old hOld
        rw [hLater] at hSame
        rw [Option.some.inj hSame, hContinues.scope] at hCovered
        exact hEarlier hOld hCovered hNew
      · cases effect with
        | kept => cases hCreated
        | issued origin =>
            obtain rfl := Option.some.inj hCreated
            exact ⟨origin, by simp, ReflTransGen.refl⟩
        | renewed secret parent made =>
            obtain rfl := Option.some.inj hCreated
            obtain ⟨renewed, _, new, hParent, _, _, _, hMade, hScope⟩ :=
              last.renewal secret parent made rfl
            rw [hLater] at hMade
            rw [Option.some.inj hMade, hScope] at hCovered
            have hRenewed : RenewedInto (seen ++ [.renewed secret parent made]) parent made :=
              ⟨secret, by simp⟩
            have hUnknown : revoked parent = none := by
              cases hOld : revoked parent with
              | none => rfl
              | some old =>
                  obtain ⟨same, hSame, hContinues⟩ := continues_of_run prior hOld
                  rw [hParent] at hSame
                  rw [Option.some.inj hSame, hContinues.scope] at hCovered
                  exact absurd hRenewed (hSpared parent old hOld hCovered made)
            obtain ⟨origin, hIssued, hDescent⟩ := hEarlier hParent hCovered hUnknown
            exact ⟨origin, hIssued, hDescent.tail hRenewed⟩

end Revoked
end Credential
end HamLogger
