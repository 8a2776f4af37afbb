import Parley.Proofs.Registry.Atomicity
import Parley.Proofs.Registry.Representation

/-!
The bounds of a conversation. Main statement: whatever was asked of a registry, each conversation
keeps to its bounds and saves whole MAC keys only, and a call is refused for a bound exactly if it
would go past it.
-/

namespace Parley

namespace KnownFingerprints

@[simp] theorem length_fingerprints (known : KnownFingerprints) :
    known.fingerprints.length = known.size := by
  rw [fingerprints, List.length_map, length_toList]

variable {known : KnownFingerprints} (h : known.Numbered) (f : Fingerprint)
include h

theorem Numbered.size_findOrInsert : (known.findOrInsert f).known.size =
    if f ∈ known.fingerprints then known.size else known.size + 1 := by
  rw [← length_fingerprints, h.fingerprints_findOrInsert]
  split <;> simp

theorem Numbered.size_setTrust (label : Option String) :
    (known.setTrust f label).size = known.size := by
  rw [← length_fingerprints, h.fingerprints_setTrust, length_fingerprints]

theorem Numbered.size_remove_le : (known.remove f).2.size ≤ known.size := by
  have hle := List.length_filter_le (fun entry => decide (entry.fingerprint ≠ f)) known.toList
  rw [← h.toList_remove] at hle
  simpa using hle

end KnownFingerprints

-- Whole MAC keys are saved, as many as are counted and no more than fit; a secret that is kept is
-- neither empty nor too long; only a message that is kept can be sent again.
structure SessionMaterial.Bounded (limits : Limits) (material : SessionMaterial) : Prop where
  saved_eq : material.savedMacKeys.size = macKeyLength * material.savedCount
  saved_le : material.savedMacKeys.size ≤ limits.maxSavedMacKeysLength
  secret (bytes : Array UInt8) : material.presharedSecret = some bytes →
    1 ≤ bytes.size ∧ bytes.size ≤ limits.maxPresharedSecretLength
  message : material.mayRetransmit = true → material.lastMessage.isSome = true

namespace SessionMaterial

variable {limits : Limits} {material : SessionMaterial}

theorem bounded_empty : Bounded limits empty where
  saved_eq := rfl
  saved_le := Nat.zero_le _
  secret _ h := by cases h
  message h := by cases h

variable (h : material.Bounded limits)
include h

-- Count and bytes grow together.
theorem Bounded.save {keys : List MacKey}
    (hroom : keys = [] ∨
      material.savedMacKeys.size + keys.length * macKeyLength ≤ limits.maxSavedMacKeysLength) :
    (material.save keys).Bounded limits where
  saved_eq := by
    have hcount : (material.save keys).savedCount = material.savedCount + keys.length := rfl
    rw [size_savedMacKeys_save, h.saved_eq, hcount, Nat.mul_add, Nat.mul_comm keys.length]
  saved_le := by
    have hle := h.saved_le
    rw [size_savedMacKeys_save]
    rcases hroom with rfl | hroom
    · simpa using hle
    · exact hroom
  secret := h.secret
  message := h.message

-- The keys in force count for no bound.
theorem Bounded.with_keys (keys : SessionKeyTable) :
    ({ material with keys := keys } : SessionMaterial).Bounded limits :=
  { h with }

end SessionMaterial

namespace Conversation

variable {α ρ : Type} {c : Conversation α ρ}

structure Bounded (c : Conversation α ρ) : Prop where
  size_le : c.known.size ≤ c.limits.maxFingerprints
  material : c.material.Bounded c.limits

theorem bounded_fresh (id : Identity) (limits : Limits) :
    (fresh id limits : Conversation α ρ).Bounded where
  size_le := Nat.zero_le _
  material := SessionMaterial.bounded_empty

section Refusals

theorem saveMacKey_refused_iff (key : MacKey) (refusal : Refusal) :
    (c.saveMacKey key).answer = .error refusal ↔ refusal = .savedMacKeysFull ∧
      c.limits.maxSavedMacKeysLength < c.material.savedMacKeys.size + macKeyLength := by
  have hroom := c.hasRoomFor_iff 1
  rw [Nat.one_mul] at hroom
  unfold saveMacKey
  split
  · next hfits =>
    have hle := hroom.mp hfits
    have hnot : ¬ c.limits.maxSavedMacKeysLength < c.material.savedMacKeys.size + macKeyLength := by
      omega
    simp [Outcome.done, hnot]
  · next hfull =>
    have hlt : c.limits.maxSavedMacKeysLength < c.material.savedMacKeys.size + macKeyLength := by
      rw [hroom] at hfull
      omega
    simp [Outcome.refused, hlt, eq_comm]

-- No bytes are no secret, and never too long.
theorem setPresharedSecret_refused_iff (bytes : Array UInt8) (refusal : Refusal) :
    (c.setPresharedSecret (some bytes)).answer = .error refusal ↔
      refusal = .presharedSecretTooLong ∧ c.limits.maxPresharedSecretLength < bytes.size := by
  by_cases hlong : c.limits.maxPresharedSecretLength < bytes.size
  · simp [setPresharedSecret_of_overlong hlong, Outcome.refused, hlong, eq_comm]
  · by_cases hempty : bytes.isEmpty = true
    · simp [setPresharedSecret, hempty, hlong, Outcome.done]
    · simp [setPresharedSecret, hempty, hlong, Outcome.done]

theorem Guarded.addFingerprint_refused_iff (h : c.Guarded) (f : Fingerprint) (refusal : Refusal) :
    (c.addFingerprint f).answer = .error refusal ↔ refusal = .fingerprintListFull ∧
      f ∉ c.known.fingerprints ∧ c.limits.maxFingerprints ≤ c.known.size := by
  rw [← h.numbered.contains_iff]
  unfold Conversation.addFingerprint
  split
  · next hfull =>
    simp only [Bool.and_eq_true, Bool.not_eq_true', decide_eq_true_eq] at hfull
    simp [Outcome.refused, hfull, eq_comm]
  · next hroom =>
    simp only [Bool.and_eq_true, Bool.not_eq_true', decide_eq_true_eq] at hroom
    simpa [Outcome.done] using fun _ => hroom

end Refusals

section Material

variable (h : c.material.Bounded c.limits)
include h

-- Keys that were used before they were put in count like any others.
theorem bounded_setSessionKeys (slot : KeySlot) (keys : Option SessionKeys) :
    (c.setSessionKeys slot keys).after.material.Bounded c.limits := by
  unfold setSessionKeys
  dsimp only
  split
  · next hsaved =>
    have hroom : c.retired slot = [] ∨ c.material.savedMacKeys.size +
        (c.retired slot).length * macKeyLength ≤ c.limits.maxSavedMacKeysLength := by
      simpa [hasRoomFor_iff] using hsaved
    exact (h.save hroom).with_keys _
  · exact h

theorem bounded_saveMacKey (key : MacKey) :
    (c.saveMacKey key).after.material.Bounded c.limits := by
  unfold saveMacKey
  split
  · next hroom => exact h.save (Or.inr ((c.hasRoomFor_iff 1).mp hroom))
  · exact h

theorem bounded_setPresharedSecret (secret : Option (Array UInt8)) :
    (c.setPresharedSecret secret).after.material.Bounded c.limits := by
  have hcleared :
      ({ c.material with presharedSecret := none } : SessionMaterial).Bounded c.limits :=
    { h with secret := fun _ hnone => by cases hnone }
  unfold setPresharedSecret
  dsimp only
  split
  · exact hcleared
  · next bytes =>
    split
    · exact hcleared
    · next hsome =>
      split
      · exact hcleared
      · next hshort =>
        have hpositive : 1 ≤ bytes.size := by
          rw [Array.isEmpty_iff_size_eq_zero] at hsome
          omega
        refine { h with secret := fun kept hkept => ?_ }
        obtain rfl : bytes = kept := Option.some.inj hkept
        exact ⟨hpositive, by omega⟩

theorem bounded_material_perform (call : Call α ρ) :
    (c.perform call).after.material.Bounded c.limits := by
  rw [after_perform]
  cases call with
  | setSessionKeys slot keys => exact bounded_setSessionKeys h slot keys
  | saveMacKey key => exact bounded_saveMacKey h key
  | setPresharedSecret secret => exact bounded_setPresharedSecret h secret
  | onSessionKeys slot asked =>
    have hsame := congrArg (·.material) (c.after_onSessionKeys slot asked)
    exact hsame ▸ h.with_keys _
  | takeSavedMacKeys => exact { h with saved_eq := rfl, saved_le := Nat.zero_le _ }
  | setLastMessage message sentAt mayRetransmit => exact { h with message := fun _ => rfl }
  | acceptTheirPublic keyId value => exact { h with }
  | setSessionId bytes => exact { h with }
  | forceSetup => exact SessionMaterial.bounded_empty
  | forceDisconnect => exact SessionMaterial.bounded_empty
  | _ => exact h

end Material

section List

variable (h : c.Guarded) (hsize : c.known.size ≤ c.limits.maxFingerprints)
include h hsize

-- Only what the list does not hold makes it longer, and only below the bound.
theorem Guarded.size_addFingerprint_le (f : Fingerprint) :
    (c.addFingerprint f).after.known.size ≤ c.limits.maxFingerprints := by
  unfold Conversation.addFingerprint
  split
  · exact hsize
  · next hroom =>
    simp only [Bool.and_eq_true, Bool.not_eq_true', decide_eq_true_eq] at hroom
    change (c.known.findOrInsert f).known.size ≤ c.limits.maxFingerprints
    rw [h.numbered.size_findOrInsert]
    split
    · exact hsize
    · next hunknown =>
      rw [← h.numbered.contains_iff, Bool.not_eq_true] at hunknown
      have hbelow : ¬ c.limits.maxFingerprints ≤ c.known.size := fun hle => hroom ⟨hunknown, hle⟩
      omega

theorem Guarded.size_perform_le (call : Call α ρ) :
    (c.perform call).after.known.size ≤ c.limits.maxFingerprints := by
  rw [after_perform]
  cases call with
  | addFingerprint f => exact h.size_addFingerprint_le hsize f
  | setTrust f label =>
    rcases c.known_setTrust f label with hsame | hlabelled
    · simpa only [hsame] using hsize
    · simpa only [hlabelled, h.numbered.size_setTrust] using hsize
  | forgetFingerprint f =>
    have hle := h.numbered.size_remove_le f
    rcases h.forgetFingerprint_cases f with ⟨_, _, heq⟩ | ⟨_, _, heq⟩ | ⟨_, _, heq⟩
    · simpa only [heq, Outcome.refused] using hsize
    · simpa only [heq, Outcome.refused] using hsize
    · simpa only [heq, Outcome.done] using hle.trans hsize
  | _ => exact hsize

end List

theorem Bounded.perform (h : c.Bounded) (hguarded : c.Guarded) (call : Call α ρ) :
    (c.perform call).after.Bounded where
  size_le := by
    rw [limits_perform]
    exact hguarded.size_perform_le h.size_le call
  material := by
    rw [limits_perform]
    exact bounded_material_perform h.material call

theorem Bounded.setSessionKeys (h : c.Bounded) (slot : KeySlot) (keys : Option SessionKeys) :
    (c.setSessionKeys slot keys).after.Bounded where
  size_le := by
    rw [after_setSessionKeys]
    exact h.size_le
  material := by
    have hlimits := congrArg (·.limits) (c.after_setSessionKeys slot keys)
    rw [hlimits]
    exact bounded_setSessionKeys h.material slot keys

theorem Lived.bounded {id : Identity} {limits : Limits} {past : Past α ρ}
    (h : Lived id limits past c) : c.Bounded := by
  induction h with
  | fresh => exact bounded_fresh id limits
  | perform h call ih => exact ih.perform h.guarded call

end Conversation

namespace Registry

variable {α ρ : Type}

-- In every registry: a conversation keeps to the bounds of the registry, and goes on keeping to
-- them whatever session keys are put in. Each bound is reached: the list refuses exactly a
-- fingerprint that is not in it when it is as long as it may be, saving refuses exactly when the
-- bytes of one more key do not fit, and a secret is refused exactly if it is too long.
theorem bounds_reached (config : Config) (calls : List (Call α ρ)) (id : Identity)
    (c : Conversation α ρ)
    (hget : ((empty config : Registry α ρ).performAll calls).after.get? id = some c) :
    c.limits = config.limits ∧ c.Bounded ∧
    (∀ slot keys, (c.setSessionKeys slot keys).after.Bounded) ∧
    (∀ f refusal, (c.addFingerprint f).answer = .error refusal ↔
      refusal = .fingerprintListFull ∧ f ∉ c.known.fingerprints ∧
        c.known.size = config.limits.maxFingerprints) ∧
    (∀ key refusal, (c.saveMacKey key).answer = .error refusal ↔
      refusal = .savedMacKeysFull ∧
        config.limits.maxSavedMacKeysLength < c.material.savedMacKeys.size + macKeyLength) ∧
    (∀ bytes refusal, (c.setPresharedSecret (some bytes)).answer = .error refusal ↔
      refusal = .presharedSecretTooLong ∧ config.limits.maxPresharedSecretLength < bytes.size) := by
  have hgrown := grown_performAll config calls
  have hguarded : c.Guarded := hgrown.guarded hget
  have hlimits : c.limits = config.limits := (hgrown.reachable hget).limits_eq
  have hbounded : c.Bounded := by
    obtain ⟨asked, rfl⟩ := hgrown.reachable hget
    exact (Conversation.lived_performAll id config.limits asked).bounded
  rw [← hlimits]
  refine ⟨rfl, hbounded, hbounded.setSessionKeys, ?_, ?_, ?_⟩
  · intro f refusal
    have hle := hbounded.size_le
    have hfull : c.limits.maxFingerprints ≤ c.known.size ↔
        c.known.size = c.limits.maxFingerprints := by omega
    rw [hguarded.addFingerprint_refused_iff, hfull]
  · exact Conversation.saveMacKey_refused_iff
  · exact Conversation.setPresharedSecret_refused_iff

section Narrow

open Sample (alice older newer secretsOf)

-- One fingerprint, one MAC key and not quite a second, and no secret.
def narrow : Config := { limits := ⟨1, 39, 0⟩ }

def filling : List (Call Nat Unit) :=
  [.findOrCreate alice [.addFingerprint older, .addFingerprint newer,
    .setLastMessage #[] 7 true, .saveMacKey (secretsOf 1).sendMac,
    .saveMacKey (secretsOf 1).recvMac, .setPresharedSecret (some #[1])]]

theorem bounds_reached_narrow :
    let r : Registry Nat Unit := ((empty narrow).performAll filling).after
    ∃ c, r.get? alice = some c ∧ c.Bounded ∧ c.material.savedMacKeys.size = 20 ∧
      c.material.mayRetransmit = true ∧
      (c.addFingerprint newer).answer = .error .fingerprintListFull ∧
      (c.saveMacKey (secretsOf 1).recvMac).answer = .error .savedMacKeysFull ∧
      (c.setPresharedSecret (some #[1])).answer = .error .presharedSecretTooLong := by
  intro r
  have hview : (r.get? alice).map (fun c => (c.known.fingerprints,
      c.material.savedMacKeys.size, c.material.mayRetransmit)) = some ([older], 20, true) := by
    decide +kernel
  obtain ⟨c, hget, hc⟩ := Option.map_eq_some_iff.mp hview
  obtain ⟨hlisted, hsaved, hmessage⟩ : c.known.fingerprints = [older] ∧
      c.material.savedMacKeys.size = 20 ∧ c.material.mayRetransmit = true := by simpa using hc
  have hsize : c.known.size = 1 := by
    rw [← KnownFingerprints.length_fingerprints, hlisted]
    rfl
  obtain ⟨_, hbounded, _, hlist, hsaving, hsecret⟩ := bounds_reached narrow filling alice c hget
  refine ⟨c, hget, hbounded, hsaved, hmessage, (hlist newer _).mpr ⟨rfl, ?_, hsize⟩,
    (hsaving _ _).mpr ⟨rfl, ?_⟩, (hsecret _ _).mpr ⟨rfl, Nat.zero_lt_one⟩⟩
  · rw [hlisted]
    decide
  · rw [hsaved]
    decide

end Narrow

end Registry

end Parley
