import Parley.Proofs.Conversation.Frame
import Parley.Proofs.Conversation.Past
import Parley.Proofs.Fingerprint.Numbering

/-!
The fingerprint that backs a session. Exactly a connected conversation has one pinned, and it is in
the list. Main statements: every call keeps this; on a conversation that keeps it, forgetting a
fingerprint ends in one of three ways and never unpins.
-/

namespace Parley.Conversation

open KnownFingerprints (Numbered)

variable {α ρ : Type} {c : Conversation α ρ} {f : Fingerprint}

structure Guarded (c : Conversation α ρ) : Prop where
  numbered : c.known.Numbered
  pinned_of_connected : c.state = .connected → ∃ f ∈ c.known.fingerprints, c.pinned = some f
  pinned_eq_none : c.state ≠ .connected → c.pinned = none

theorem guarded_fresh (id : Identity) (limits : Limits) :
    (fresh id limits : Conversation α ρ).Guarded where
  numbered := KnownFingerprints.numbered_empty
  pinned_of_connected h := by cases h
  pinned_eq_none _ := rfl

theorem known_addFingerprint (c : Conversation α ρ) (f : Fingerprint) :
    (c.addFingerprint f).after.known = c.known ∨
      (c.addFingerprint f).after.known = (c.known.findOrInsert f).known := by
  unfold addFingerprint
  split
  · exact Or.inl rfl
  · exact Or.inr rfl

theorem known_setTrust (c : Conversation α ρ) (f : Fingerprint) (label : Option String) :
    (c.setTrust f label).2.known = c.known ∨
      (c.setTrust f label).2.known = c.known.setTrust f label := by
  unfold setTrust
  split
  · exact Or.inr rfl
  · exact Or.inl rfl

theorem forgetFingerprint_of_in_use (hstate : c.state = .connected) (hpinned : c.pinned = some f) :
    c.forgetFingerprint f =
      .refused .fingerprintInUse c [.log (.activeFingerprintKept c.id f)] := by
  simp [forgetFingerprint, hstate, hpinned]

theorem markConnected_cases (c : Conversation α ρ) (f : Fingerprint) :
    (c.state = .unconnected ∧
      c.markConnected f = .refused (.invalidTransition .unconnected .connected) c []) ∨
    (c.state ≠ .unconnected ∧ c.known.contains f = false ∧
      c.markConnected f = .refused .unknownFingerprint c []) ∨
    (c.state ≠ .unconnected ∧ c.known.contains f = true ∧
      c.markConnected f =
        .done { c with state := .connected, pinned := some f } () [.log (.connected c.id f)]) := by
  by_cases hstate : c.state = .unconnected
  · simp [markConnected, hstate]
  · cases hknown : c.known.contains f <;> simp [markConnected, hstate, hknown]

section Forgetting

variable (h : c.Guarded) (f : Fingerprint)
include h

-- No conversation that is not in use by the fingerprint has it pinned.
theorem Guarded.pinned_ne (hfree : ¬ (c.state = .connected ∧ c.pinned = some f)) :
    c.pinned ≠ some f := by
  intro hpinned
  by_cases hstate : c.state = .connected
  · exact hfree ⟨hstate, hpinned⟩
  · rw [h.pinned_eq_none hstate] at hpinned
    cases hpinned

-- Whether it is refused or not, what is pinned stays pinned.
theorem Guarded.forgetFingerprint_cases :
    (c.state = .connected ∧ c.pinned = some f ∧ c.forgetFingerprint f =
      .refused .fingerprintInUse c [.log (.activeFingerprintKept c.id f)]) ∨
    (c.pinned ≠ some f ∧ f ∉ c.known.fingerprints ∧
      c.forgetFingerprint f = .refused .unknownFingerprint c []) ∨
    (c.pinned ≠ some f ∧ f ∈ c.known.fingerprints ∧
      c.forgetFingerprint f = .done { c with known := (c.known.remove f).2 } () []) := by
  by_cases hinUse : c.state = .connected ∧ c.pinned = some f
  · exact Or.inl ⟨hinUse.1, hinUse.2, forgetFingerprint_of_in_use hinUse.1 hinUse.2⟩
  have hpinned := h.pinned_ne f hinUse
  by_cases hmem : f ∈ c.known.fingerprints
  · obtain ⟨entry, _, _, hget⟩ := h.numbered.exists_get? hmem
    have hremove : c.known.remove f = (some entry, (c.known.remove f).2) := by
      rw [← hget, ← KnownFingerprints.fst_remove]
    refine Or.inr (Or.inr ⟨hpinned, hmem, ?_⟩)
    rw [forgetFingerprint, if_neg hinUse, hremove]
    simp [hpinned]
  · have hunknown : c.known.get? f = none := by
      rw [← h.numbered.contains_iff, h.numbered.contains_eq_isSome] at hmem
      simpa using hmem
    refine Or.inr (Or.inl ⟨hpinned, hmem, ?_⟩)
    rw [forgetFingerprint, if_neg hinUse, h.numbered.remove_of_unknown hunknown]

end Forgetting

section Preservation

variable (h : c.Guarded)
include h

-- A change of the list that loses no fingerprint, or only one that is not pinned.
theorem Guarded.with_known {known : KnownFingerprints} (hnumbered : known.Numbered)
    (hkept : ∀ f ∈ c.known.fingerprints, c.pinned = some f → f ∈ known.fingerprints) :
    ({ c with known := known } : Conversation α ρ).Guarded where
  numbered := hnumbered
  pinned_of_connected hstate := by
    obtain ⟨f, hmem, hpinned⟩ := h.pinned_of_connected hstate
    exact ⟨f, hkept f hmem hpinned, hpinned⟩
  pinned_eq_none := h.pinned_eq_none

theorem Guarded.addFingerprint (f : Fingerprint) : (c.addFingerprint f).after.Guarded := by
  rw [after_addFingerprint]
  rcases c.known_addFingerprint f with hsame | hfound
  · rw [hsame]
    exact h
  · rw [hfound]
    apply h.with_known (h.numbered.findOrInsert f)
    intro g hmem _
    rw [h.numbered.fingerprints_findOrInsert]
    split
    · exact hmem
    · exact List.mem_cons_of_mem f hmem

theorem Guarded.setTrust (f : Fingerprint) (label : Option String) :
    (c.setTrust f label).2.Guarded := by
  rw [after_setTrust]
  rcases c.known_setTrust f label with hsame | hlabelled
  · rw [hsame]
    exact h
  · rw [hlabelled]
    apply h.with_known (h.numbered.setTrust f label)
    intro g hmem _
    rwa [h.numbered.fingerprints_setTrust]

theorem Guarded.forgetFingerprint (f : Fingerprint) : (c.forgetFingerprint f).after.Guarded := by
  rcases h.forgetFingerprint_cases f with ⟨_, _, heq⟩ | ⟨_, _, heq⟩ | ⟨hpinned, _, heq⟩
  · rwa [heq]
  · rwa [heq]
  · rw [heq]
    apply h.with_known (h.numbered.remove f)
    intro g hmem hg
    have hne : g ≠ f := fun hgf => hpinned (hgf ▸ hg)
    rw [h.numbered.fingerprints_remove, List.mem_filter]
    exact ⟨hmem, decide_eq_true hne⟩

theorem Guarded.markConnected (f : Fingerprint) : (c.markConnected f).after.Guarded := by
  rcases c.markConnected_cases f with ⟨_, heq⟩ | ⟨_, _, heq⟩ | ⟨_, hknown, heq⟩
  · rwa [heq]
  · rwa [heq]
  · rw [heq]
    exact
      { numbered := h.numbered
        pinned_of_connected := fun _ => ⟨f, h.numbered.contains_iff.mp hknown, rfl⟩
        pinned_eq_none := fun hstate => absurd rfl hstate }

-- A call that leaves the list, the state and the pinned fingerprint alone.
theorem Guarded.of_same {c' : Conversation α ρ} (hknown : c'.known = c.known)
    (hstate : c'.state = c.state) (hpinned : c'.pinned = c.pinned) : c'.Guarded where
  numbered := hknown ▸ h.numbered
  pinned_of_connected := by
    rw [hknown, hstate, hpinned]
    exact h.pinned_of_connected
  pinned_eq_none := by
    rw [hstate, hpinned]
    exact h.pinned_eq_none

theorem Guarded.toSetup : c.toSetup.Guarded where
  numbered := h.numbered
  pinned_of_connected hstate := by cases hstate
  pinned_eq_none _ := rfl

theorem Guarded.toUnconnected : c.toUnconnected.Guarded where
  numbered := h.numbered
  pinned_of_connected hstate := by cases hstate
  pinned_eq_none _ := rfl

theorem Guarded.perform (call : Call α ρ) : (c.perform call).after.Guarded := by
  cases call with
  | addFingerprint f => exact h.addFingerprint f
  | setTrust f label => exact h.setTrust f label
  | forgetFingerprint f => exact h.forgetFingerprint f
  | markConnected f => exact h.markConnected f
  | forceSetup => exact h.toSetup
  | forceDisconnect => exact h.toUnconnected
  | _ =>
    exact h.of_same (congrArg (·.known) (c.after_perform _))
      (congrArg (·.state) (c.after_perform _)) (congrArg (·.pinned) (c.after_perform _))

end Preservation

theorem active?_of_connected (hstate : c.state = .connected) {f : Fingerprint}
    (hpinned : c.pinned = some f) : c.active? = c.known.get? f := by
  rw [active?, hpinned, hstate]
  rfl

-- The active entry is the one entry of the pinned fingerprint.
theorem Guarded.exists_active? (h : c.Guarded) (hstate : c.state = .connected) :
    ∃ f, ∃ entry ∈ c.known.toList,
      c.pinned = some f ∧ entry.fingerprint = f ∧ c.active? = some entry := by
  obtain ⟨f, hmem, hpinned⟩ := h.pinned_of_connected hstate
  obtain ⟨entry, hentry, hf, hget⟩ := h.numbered.exists_get? hmem
  exact ⟨f, entry, hentry, hpinned, hf, (active?_of_connected hstate hpinned).trans hget⟩

theorem Guarded.active?_forgetFingerprint (h : c.Guarded) (hstate : c.state = .connected)
    (f : Fingerprint) : (c.forgetFingerprint f).after.active? = c.active? := by
  rcases h.forgetFingerprint_cases f with ⟨_, _, heq⟩ | ⟨_, _, heq⟩ | ⟨hne, _, heq⟩
  · rw [heq]
    rfl
  · rw [heq]
    rfl
  · obtain ⟨g, _, hpinned⟩ := h.pinned_of_connected hstate
    have hgf : g ≠ f := fun hgf => hne (hgf ▸ hpinned)
    rw [active?_of_connected hstate hpinned, ← h.numbered.get?_remove_of_ne hgf, heq]
    exact active?_of_connected (c := { c with known := (c.known.remove f).2 }) hstate hpinned

theorem Lived.guarded {id : Identity} {limits : Limits} {past : Past α ρ}
    (h : Lived id limits past c) : c.Guarded := by
  induction h with
  | fresh => exact guarded_fresh id limits
  | perform _ call ih => exact ih.perform call

end Parley.Conversation
