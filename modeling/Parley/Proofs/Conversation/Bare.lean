import Parley.Proofs.Conversation.Guarded

/-!
Conversations that hold nothing of a session. Main statement: a fresh conversation is one of them,
and stays one as long as no call is made that a session needs.
-/

namespace Parley.Conversation

variable {α ρ : Type} {c : Conversation α ρ}

-- All is as it began, but for the fingerprints, the preshared secret, and that the setup may be
-- under way.
structure Bare (c : Conversation α ρ) : Prop where
  state : c.state = .unconnected ∨ c.state = .setup
  pinned : c.pinned = none
  material : c.material =
    { SessionMaterial.empty with presharedSecret := c.material.presharedSecret }
  own : c.own = .empty
  generation : c.generation = 0
  lastSent : c.lastSent = 0
  offer : c.offer = .notOffered
  attachment : c.attachment = none

-- The calls that need no session and bring nothing of one.
def Call.isPreliminary : Call α ρ → Bool
  | .addFingerprint _ | .setTrust _ _ | .forgetFingerprint _ | .setPresharedSecret _ | .forceSetup
  | .forceDisconnect => true
  | _ => false

theorem bare_fresh (id : Identity) (limits : Limits) :
    (fresh id limits : Conversation α ρ).Bare where
  state := Or.inl rfl
  pinned := rfl
  material := rfl
  own := rfl
  generation := rfl
  lastSent := rfl
  offer := rfl
  attachment := rfl

section Preservation

variable (h : c.Bare)
include h

-- The list of fingerprints does not matter.
theorem Bare.with_known (known : KnownFingerprints) :
    ({ c with known := known } : Conversation α ρ).Bare :=
  { h with }

theorem Bare.setPresharedSecret (secret : Option (Array UInt8)) :
    (c.setPresharedSecret secret).after.Bare := by
  rw [after_setPresharedSecret, h.material]
  exact { h with material := rfl }

theorem Bare.forgetFingerprint (f : Fingerprint) : (c.forgetFingerprint f).after.Bare := by
  have hpinned : (c.forgetFingerprint f).after.pinned = none := by
    unfold Conversation.forgetFingerprint
    rw [h.pinned]
    split
    · exact h.pinned
    · split <;> rfl
  rw [after_forgetFingerprint, hpinned]
  exact { h with pinned := rfl }

theorem Bare.toSetup : c.toSetup.Bare :=
  { h with state := Or.inr rfl, pinned := rfl, material := rfl }

theorem Bare.toUnconnected : c.toUnconnected.Bare :=
  { h.toSetup with state := Or.inl rfl, own := rfl }

theorem Bare.perform {call : Call α ρ} (hcall : call.isPreliminary = true) :
    (c.perform call).after.Bare := by
  cases call with
  | addFingerprint f =>
    change (c.addFingerprint f).after.Bare
    rw [after_addFingerprint]
    exact h.with_known _
  | setTrust f label =>
    change (c.setTrust f label).2.Bare
    rw [after_setTrust]
    exact h.with_known _
  | forgetFingerprint f => exact h.forgetFingerprint f
  | setPresharedSecret secret => exact h.setPresharedSecret secret
  | forceSetup => exact h.toSetup
  | forceDisconnect => exact h.toUnconnected
  | _ => cases hcall

theorem Bare.performAll {calls : List (Call α ρ)}
    (hcalls : calls.all Call.isPreliminary = true) : (c.performAll calls).after.Bare := by
  apply History.run_keeps_of_mem Bare _ h
  intro d call hmem hd
  exact hd.perform (List.all_eq_true.mp hcalls call hmem)

theorem Bare.not_connected : c.state ≠ .connected := by
  rcases h.state with hstate | hstate
  · rw [hstate]
    decide
  · rw [hstate]
    decide

theorem Bare.active?_eq_none : c.active? = none := by
  rw [active?, if_pos h.not_connected]
  rfl

-- Without a session every fingerprint can be given up.
theorem Bare.forgetFingerprint_of_mem (hguarded : c.Guarded) {f : Fingerprint}
    (hmem : f ∈ c.known.fingerprints) :
    c.forgetFingerprint f = .done { c with known := (c.known.remove f).2 } () [] := by
  rcases hguarded.forgetFingerprint_cases f with ⟨hstate, _⟩ | ⟨_, hunknown, _⟩ | ⟨_, _, heq⟩
  · exact absurd hstate h.not_connected
  · exact absurd hmem hunknown
  · exact heq

theorem Bare.forgetFingerprint_of_not_mem (hguarded : c.Guarded) {f : Fingerprint}
    (hmem : f ∉ c.known.fingerprints) :
    c.forgetFingerprint f = .refused .unknownFingerprint c [] := by
  rcases hguarded.forgetFingerprint_cases f with ⟨hstate, _⟩ | ⟨_, _, heq⟩ | ⟨_, hknown, _⟩
  · exact absurd hstate h.not_connected
  · exact heq
  · exact absurd hknown hmem

end Preservation

end Parley.Conversation
