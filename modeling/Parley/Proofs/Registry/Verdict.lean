import Parley.Proofs.Registry.Destruction

/-!
What a removal reports. Main statement: in every registry, the answer of a removal can be told from
what stood under the identity before, and what has changed can be told from the answer: nothing, the
whole conversation, or one fingerprint with all others kept in their order and with their labels.
-/

namespace Parley

namespace Conversation

variable {α ρ : Type}

-- The fingerprint is gone; the other entries are as they were, and so is all the rest.
structure Without (c : Conversation α ρ) (f : Fingerprint) (c' : Conversation α ρ) : Prop where
  gone : f ∉ c'.known.fingerprints
  others : c'.known.toList = c.known.toList.filter fun entry => entry.fingerprint ≠ f
  rest : c' = { c with known := c'.known }

-- A session is on, and it is this fingerprint that backs it.
def IsActive (c : Conversation α ρ) (f : Fingerprint) : Prop :=
  c.active?.map (·.fingerprint) = some f

instance (c : Conversation α ρ) (f : Fingerprint) : Decidable (c.IsActive f) :=
  inferInstanceAs (Decidable (_ = _))

variable {c : Conversation α ρ} {f : Fingerprint} (h : c.Guarded)
include h

theorem Guarded.isActive (hstate : c.state = .connected) (hpinned : c.pinned = some f) :
    c.IsActive f := by
  obtain ⟨g, entry, _, hg, hentry, hactive⟩ := h.exists_active? hstate
  rw [IsActive, hactive, Option.map_some, hentry, ← hg, hpinned]

theorem Guarded.without_remove (f : Fingerprint) :
    c.Without f { c with known := (c.known.remove f).2 } where
  gone := by
    change f ∉ (c.known.remove f).2.fingerprints
    rw [h.numbered.fingerprints_remove]
    simp
  others := h.numbered.toList_remove f
  rest := rfl

end Conversation

namespace Registry

open Conversation (Guarded Without IsActive)

variable {α ρ : Type}

-- The answer to a removal, told from what stands under the identity.
def verdict (cascade : Bool) : Target → Option (Conversation α ρ) → Except Refusal Removed
  | _, none => .error .unknownContext
  | .root, some c =>
    if cascade = false then .ok .nothing
    else if c.state = .unconnected then .ok .context
    else .error (.notUnconnected c.state)
  | .entry f, some c =>
    if c.IsActive f then .error .fingerprintInUse
    else if f ∉ c.known.fingerprints then .error .unknownFingerprint
    else if cascade = true ∧ c.state = .unconnected ∧ c.known.fingerprints = [f] then .ok .context
    else .ok .fingerprint

-- What stands under the identity before and after a removal with this answer.
inductive Leaves (target : Target) :
    Except Refusal Removed → Option (Conversation α ρ) → Option (Conversation α ρ) → Prop where
  | refused (refusal : Refusal) (before : Option (Conversation α ρ)) :
    Leaves target (.error refusal) before before
  | nothing (c : Conversation α ρ) : Leaves target (.ok .nothing) (some c) (some c)
  | context (c : Conversation α ρ) : Leaves target (.ok .context) (some c) none
  | fingerprint {c c' : Conversation α ρ} {f : Fingerprint} (htarget : target = .entry f)
    (hwithout : c.Without f c') : Leaves target (.ok .fingerprint) (some c) (some c')

-- All that there is to say of a removal.
structure Reported (r : Registry α ρ) (id : Identity) (target : Target) (cascade : Bool)
    (o : Reply α ρ Removed) : Prop where
  answer : o.answer = verdict cascade target (r.get? id)
  leaves : Leaves target o.answer (r.get? id) (o.after.get? id)
  elsewhere (other : Identity) : other ≠ id → o.after.get? other = r.get? other
  config : o.after.config = r.config
  refused (refusal : Refusal) : o.answer = .error refusal → o.after = r

section Shapes

variable {r : Registry α ρ} {id : Identity} {c c' : Conversation α ρ} {target : Target}
  {cascade : Bool} (effects : List (Effect α ρ))

theorem reported_refused {refusal : Refusal}
    (hverdict : verdict cascade target (r.get? id) = .error refusal) :
    Reported r id target cascade (.refused refusal r effects) where
  answer := hverdict.symm
  leaves := .refused refusal (r.get? id)
  elsewhere _ _ := rfl
  config := rfl
  refused _ _ := rfl

theorem reported_nothing (hget : r.get? id = some c)
    (hverdict : verdict cascade target (some c) = .ok .nothing) :
    Reported r id target cascade (.done r .nothing effects) where
  answer := by rw [hget, hverdict]; rfl
  leaves := by
    change Leaves target (.ok .nothing) (r.get? id) (r.get? id)
    rw [hget]
    exact .nothing c
  elsewhere _ _ := rfl
  config := rfl
  refused _ _ := rfl

theorem reported_context (hget : r.get? id = some c)
    (hverdict : verdict cascade target (some c) = .ok .context) :
    Reported r id target cascade (.done (r.drop id) .context effects) where
  answer := by rw [hget, hverdict]; rfl
  leaves := by
    change Leaves target (.ok .context) (r.get? id) ((r.drop id).get? id)
    rw [hget, get?_drop_self]
    exact .context c
  elsewhere _ hne := get?_drop_of_ne (Ne.symm hne)
  config := rfl
  refused _ hrefused := by cases hrefused

theorem reported_fingerprint {f : Fingerprint} (hget : r.get? id = some c)
    (hverdict : verdict cascade (.entry f) (some c) = .ok .fingerprint)
    (hwithout : c.Without f c') :
    Reported r id (.entry f) cascade (.done (r.put id c') .fingerprint effects) where
  answer := by rw [hget, hverdict]; rfl
  leaves := by
    change Leaves (.entry f) (.ok .fingerprint) (r.get? id) ((r.put id c').get? id)
    rw [hget, get?_put_self]
    exact .fingerprint rfl hwithout
  elsewhere _ hne := get?_put_of_ne (Ne.symm hne)
  config := rfl
  refused _ hrefused := by cases hrefused

end Shapes

-- Whether the conversation goes along can be told before anything is removed.
theorem cascades_iff {c : Conversation α ρ} (hguarded : c.Guarded) {f : Fingerprint}
    (hmem : f ∈ c.known.fingerprints) (cascade : Bool) :
    Cascades cascade { c with known := (c.known.remove f).2 } ↔
      cascade = true ∧ c.state = .unconnected ∧ c.known.fingerprints = [f] :=
  and_congr_right fun _ => and_congr_right fun _ => hguarded.numbered.isEmpty_remove_iff hmem

section Cases

variable {r : Registry α ρ} {id : Identity} {c : Conversation α ρ}

theorem reported_of_absent (hget : r.get? id = none) (target : Target) (cascade : Bool) :
    Reported r id target cascade (r.forgetFingerprint id target cascade) := by
  rw [forgetFingerprint_of_absent hget]
  apply reported_refused
  rw [hget]
  cases target <;> rfl

variable (hget : r.get? id = some c)
include hget

theorem reported_root (cascade : Bool) :
    Reported r id .root cascade (r.forgetFingerprint id .root cascade) := by
  rw [forgetFingerprint_root hget]
  cases cascade with
  | false => exact reported_nothing [] hget rfl
  | true =>
    by_cases hstate : c.state = .unconnected
    · rw [if_pos rfl, forget_of_unconnected hget hstate]
      exact reported_context _ hget (if_pos hstate)
    · rw [if_pos rfl, forget_of_kept hget hstate]
      apply reported_refused
      rw [hget]
      exact if_neg hstate

-- The conversation itself refuses before it has changed anything.
theorem reported_of_refused {f : Fingerprint} {cascade : Bool} {refusal : Refusal}
    {effects : List (Effect α ρ)} (hrefused : c.forgetFingerprint f = .refused refusal c effects)
    (hverdict : verdict cascade (.entry f) (some c) = .error refusal) :
    Reported r id (.entry f) cascade (r.forgetFingerprint id (.entry f) cascade) := by
  have hanswer : (c.forgetFingerprint f).answer = .error refusal := by rw [hrefused]; rfl
  have hafter : (c.forgetFingerprint f).after = c := by rw [hrefused]; rfl
  rw [forgetFingerprint_of_refused hget hanswer, hafter, put_of_get? hget]
  apply reported_refused
  rw [hget, hverdict]

theorem reported_entry (hguarded : c.Guarded) (f : Fingerprint) (cascade : Bool) :
    Reported r id (.entry f) cascade (r.forgetFingerprint id (.entry f) cascade) := by
  rcases hguarded.forgetFingerprint_cases f with
    ⟨hstate, hpinned, heq⟩ | ⟨hpinned, hunknown, heq⟩ | ⟨hpinned, hmem, heq⟩
  · exact reported_of_refused hget heq (if_pos (hguarded.isActive hstate hpinned))
  · have hidle : ¬ c.IsActive f := hguarded.active?_ne hpinned
    apply reported_of_refused hget heq
    rw [verdict, if_neg hidle, if_pos hunknown]
  · have hidle : ¬ c.IsActive f := hguarded.active?_ne hpinned
    have hremoved : (c.forgetFingerprint f).answer = .ok () := by rw [heq]; rfl
    have hafter : (c.forgetFingerprint f).after = { c with known := (c.known.remove f).2 } := by
      rw [heq]
      rfl
    have hcascades := cascades_iff hguarded hmem cascade
    rw [← hafter] at hcascades
    by_cases hlast : cascade = true ∧ c.state = .unconnected ∧ c.known.fingerprints = [f]
    · rw [forgetFingerprint_of_cascades hget hremoved (hcascades.mpr hlast), drop_put]
      apply reported_context _ hget
      rw [verdict, if_neg hidle, if_neg (not_not.mpr hmem), if_pos hlast]
    · rw [forgetFingerprint_of_removed hget hremoved (mt hcascades.mp hlast), hafter]
      refine reported_fingerprint _ hget ?_ (hguarded.without_remove f)
      rw [verdict, if_neg hidle, if_neg (not_not.mpr hmem), if_neg hlast]

end Cases

-- In every registry, whatever stands under the identity: the answer is the verdict, and nothing has
-- changed but what the answer says is gone.
theorem removal_reported (config : Config) (calls : List (Call α ρ)) (id : Identity)
    (target : Target) (cascade : Bool) :
    let r : Registry α ρ := ((empty config).performAll calls).after
    Reported r id target cascade (r.forgetFingerprint id target cascade) := by
  intro r
  have hgrown : Grown config r := grown_performAll config calls
  cases hget : r.get? id with
  | none => exact reported_of_absent hget target cascade
  | some c =>
    cases target with
    | root => exact reported_root hget cascade
    | entry f => exact reported_entry hget (hgrown.guarded hget) f cascade

section Parting

open Sample (alice bob older newer)

-- Alice has no session and one fingerprint; with Bob a session is on.
theorem removal_reported_parting :
    let r : Registry Nat Unit := ((empty {}).performAll parting).after
    let last := r.forgetFingerprint alice (.entry older) true
    let foreign := r.forgetFingerprint alice (.entry newer) true
    let active := r.forgetFingerprint bob (.entry newer) true
    let spare := r.forgetFingerprint bob (.entry older) true
    last.answer = .ok .context ∧ last.after.get? bob = r.get? bob ∧
      foreign.answer = .error .unknownFingerprint ∧ foreign.after = r ∧
      active.answer = .error .fingerprintInUse ∧ active.after = r ∧
      spare.answer = .ok .fingerprint := by
  intro r last foreign active spare
  have hreported := removal_reported {} parting
  have hlast : Reported r alice (.entry older) true last := hreported alice (.entry older) true
  have hforeign : Reported r alice (.entry newer) true foreign :=
    hreported alice (.entry newer) true
  have hactive : Reported r bob (.entry newer) true active := hreported bob (.entry newer) true
  have hspare : Reported r bob (.entry older) true spare := hreported bob (.entry older) true
  have hunknown : foreign.answer = .error .unknownFingerprint :=
    hforeign.answer.trans (by decide +kernel)
  have hinUse : active.answer = .error .fingerprintInUse := hactive.answer.trans (by decide +kernel)
  exact ⟨hlast.answer.trans (by decide +kernel), hlast.elsewhere bob (by decide), hunknown,
    hforeign.refused _ hunknown, hinUse, hactive.refused _ hinUse,
    hspare.answer.trans (by decide +kernel)⟩

end Parting

end Registry

end Parley
