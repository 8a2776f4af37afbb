import Parley.Conversation.Call

/-!
What a call on a conversation leaves alone, whether it is answered or refused. Main statement: for
every field, the calls that may change it, and the conversation as it is in all other fields.
-/

namespace Parley.Conversation

variable {α ρ : Type} (c : Conversation α ρ)

theorem after_addFingerprint (f : Fingerprint) :
    (c.addFingerprint f).after = { c with known := (c.addFingerprint f).after.known } := by
  unfold addFingerprint
  split <;> rfl

theorem after_setTrust (f : Fingerprint) (label : Option String) :
    (c.setTrust f label).2 = { c with known := (c.setTrust f label).2.known } := by
  unfold setTrust
  split <;> rfl

theorem after_forgetFingerprint (f : Fingerprint) :
    (c.forgetFingerprint f).after = { c with
      known := (c.forgetFingerprint f).after.known
      pinned := (c.forgetFingerprint f).after.pinned } := by
  unfold forgetFingerprint
  split
  · rfl
  · split <;> rfl

theorem state_forgetFingerprint (f : Fingerprint) :
    (c.forgetFingerprint f).after.state = c.state :=
  congrArg (·.state) (c.after_forgetFingerprint f)

theorem after_markConnected (f : Fingerprint) :
    (c.markConnected f).after = { c with
      state := (c.markConnected f).after.state
      pinned := (c.markConnected f).after.pinned } := by
  unfold markConnected
  split
  · rfl
  · split <;> rfl

theorem after_setSessionKeys (slot : KeySlot) (keys : Option SessionKeys) :
    (c.setSessionKeys slot keys).after = { c with
      material := { c.material with
        keys := (c.setSessionKeys slot keys).after.material.keys
        savedCount := (c.setSessionKeys slot keys).after.material.savedCount
        savedMacKeys := (c.setSessionKeys slot keys).after.material.savedMacKeys } } := by
  unfold setSessionKeys
  dsimp only
  split <;> rfl

theorem after_onSessionKeys (slot : KeySlot) (call : SessionKeys.Call) :
    (c.onSessionKeys slot call).2 = { c with
      material := { c.material with keys := (c.onSessionKeys slot call).2.material.keys } } := by
  unfold onSessionKeys
  split <;> rfl

theorem after_saveMacKey (key : MacKey) :
    (c.saveMacKey key).after = { c with
      material := { c.material with
        savedCount := (c.saveMacKey key).after.material.savedCount
        savedMacKeys := (c.saveMacKey key).after.material.savedMacKeys } } := by
  unfold saveMacKey
  split <;> rfl

theorem after_setPresharedSecret (secret : Option (Array UInt8)) :
    (c.setPresharedSecret secret).after = { c with
      material := { c.material with
        presharedSecret := (c.setPresharedSecret secret).after.material.presharedSecret } } := by
  unfold setPresharedSecret
  dsimp only
  split
  · rfl
  · split
    · rfl
    · split <;> rfl

theorem eq_with_material {c c' : Conversation α ρ} {material : SessionMaterial}
    (h : c' = { c with material := material }) : c' = { c with material := c'.material } := by
  rw [h]

variable (call : Call α ρ)

-- Field by field, the calls that may change it; all others leave it as it is.
theorem after_perform : (c.perform call).after =
    { id := c.id
      limits := c.limits
      state := match call with
        | .markConnected f => (c.markConnected f).after.state
        | .forceSetup => .setup
        | .forceDisconnect => .unconnected
        | _ => c.state
      known := match call with
        | .addFingerprint f => (c.addFingerprint f).after.known
        | .setTrust f label => (c.setTrust f label).2.known
        | .forgetFingerprint f => (c.forgetFingerprint f).after.known
        | _ => c.known
      pinned := match call with
        | .forgetFingerprint f => (c.forgetFingerprint f).after.pinned
        | .markConnected f => (c.markConnected f).after.pinned
        | .forceSetup | .forceDisconnect => none
        | _ => c.pinned
      material := match call with
        | .acceptTheirPublic keyId value => (c.acceptTheirPublic keyId value).material
        | .setSessionKeys slot keys => (c.setSessionKeys slot keys).after.material
        | .onSessionKeys slot asked => (c.onSessionKeys slot asked).2.material
        | .setSessionId bytes => (c.setSessionId bytes).material
        | .saveMacKey key => (c.saveMacKey key).after.material
        | .takeSavedMacKeys => c.takeSavedMacKeys.2.material
        | .setPresharedSecret secret => (c.setPresharedSecret secret).after.material
        | .setLastMessage message sentAt mayRetransmit =>
          (c.setLastMessage message sentAt mayRetransmit).material
        | .forceSetup | .forceDisconnect => .empty
        | _ => c.material
      own := match call with
        | .rotate pair => (c.rotate pair).own
        | .forceDisconnect => .empty
        | _ => c.own
      generation := match call with
        | .bumpGeneration => c.generation + 1
        | _ => c.generation
      lastSent := match call with
        | .setLastMessage _ sentAt _ => sentAt
        | _ => c.lastSent
      offer := match call with
        | .setOffer offer => offer
        | _ => c.offer
      attachment := match call with
        | .attach data function => some ⟨data, function⟩
        | .editData edit => (c.editData edit).attachment
        | _ => c.attachment } := by
  cases call with
  | addFingerprint f => exact c.after_addFingerprint f
  | setTrust f label => exact c.after_setTrust f label
  | forgetFingerprint f => exact c.after_forgetFingerprint f
  | markConnected f => exact c.after_markConnected f
  | setSessionKeys slot keys => exact eq_with_material (c.after_setSessionKeys slot keys)
  | onSessionKeys slot asked => exact eq_with_material (c.after_onSessionKeys slot asked)
  | saveMacKey key => exact eq_with_material (c.after_saveMacKey key)
  | setPresharedSecret secret => exact eq_with_material (c.after_setPresharedSecret secret)
  | _ => rfl

-- No call changes whom a conversation is with, or its bounds.
theorem id_perform : (c.perform call).after.id = c.id :=
  congrArg (·.id) (c.after_perform call)

theorem limits_perform : (c.perform call).after.limits = c.limits :=
  congrArg (·.limits) (c.after_perform call)

theorem keys_perform : (c.perform call).after.material.keys =
    match call with
    | .setSessionKeys slot keys => (c.setSessionKeys slot keys).after.material.keys
    | .onSessionKeys slot asked => (c.onSessionKeys slot asked).2.material.keys
    | .forceSetup | .forceDisconnect => .empty
    | _ => c.material.keys := by
  cases call with
  | saveMacKey key => exact congrArg (·.material.keys) (c.after_saveMacKey key)
  | setPresharedSecret secret =>
    exact congrArg (·.material.keys) (c.after_setPresharedSecret secret)
  | _ => exact congrArg (·.material.keys) (c.after_perform _)

theorem savedMacKeys_perform : (c.perform call).after.material.savedMacKeys =
    match call with
    | .setSessionKeys slot keys => (c.setSessionKeys slot keys).after.material.savedMacKeys
    | .saveMacKey key => (c.saveMacKey key).after.material.savedMacKeys
    | .takeSavedMacKeys | .forceSetup | .forceDisconnect => #[]
    | _ => c.material.savedMacKeys := by
  cases call with
  | onSessionKeys slot asked =>
    exact congrArg (·.material.savedMacKeys) (c.after_onSessionKeys slot asked)
  | setPresharedSecret secret =>
    exact congrArg (·.material.savedMacKeys) (c.after_setPresharedSecret secret)
  | _ => exact congrArg (·.material.savedMacKeys) (c.after_perform _)

end Parley.Conversation
