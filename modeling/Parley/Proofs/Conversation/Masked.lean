import Parley.Proofs.Conversation.Past

/-!
A conversation with every secret byte blotted out. Lengths stay, and so do numbers, marks of use,
the sending counters, and whether something is there at all. Main statement: a call on a masked
conversation, itself masked, comes to what the call comes to, masked; so no secret byte decides
anything.
-/

namespace Parley

-- As many bytes, all of them zero.
def zeroed (bytes : Array UInt8) : Array UInt8 :=
  bytes.map fun _ => 0

@[simp] theorem size_zeroed (bytes : Array UInt8) : (zeroed bytes).size = bytes.size :=
  Array.size_map

@[simp] theorem isEmpty_zeroed (bytes : Array UInt8) : (zeroed bytes).isEmpty = bytes.isEmpty := by
  rw [Array.isEmpty, Array.isEmpty, size_zeroed]

theorem zeroed_append (bytes more : Array UInt8) :
    zeroed (bytes ++ more) = zeroed bytes ++ zeroed more :=
  Array.map_append

def PublicValue.masked (value : PublicValue) : PublicValue :=
  ⟨zeroed value.bytes⟩

theorem PublicValue.diagnostic_masked (value : PublicValue) :
    value.masked.diagnostic = value.diagnostic := by
  rw [diagnostic, diagnostic, masked, size_zeroed]

def DhKeyPair.masked (pair : DhKeyPair) : DhKeyPair :=
  ⟨pair.group, zeroed pair.secret, pair.publicValue.masked⟩

theorem DhKeyPair.diagnostic_masked (pair : DhKeyPair) :
    pair.masked.diagnostic = pair.diagnostic := by
  have hvalue := pair.publicValue.diagnostic_masked
  rw [diagnostic, diagnostic]
  exact congrArg (fun text => Text.record "DhKeypair"
    [("group_id", Nat.repr pair.group.toNat), ("public", text)] .partly) hvalue

-- All MAC keys are of one length, so that this is each of them, masked.
def MacKey.blank : MacKey :=
  Vector.replicate macKeyLength 0

theorem zeroed_macKey (key : MacKey) : zeroed key.toArray = MacKey.blank.toArray := by
  rw [zeroed, Array.map_const', key.size_toArray]
  rfl

def SessionSecrets.blank : SessionSecrets :=
  ⟨Vector.replicate 16 0, Vector.replicate 16 0, .blank, .blank⟩

namespace SessionKeys

-- The peer brings the receiving counter; the sending one counts what was sent.
def masked (keys : SessionKeys) : SessionKeys :=
  { keys with secrets := .blank, recvCounter := .zero }

def Call.masked : Call → Call
  | .setRecvCounter _ => .setRecvCounter .zero
  | call => call

def Answer.masked : Answer → Answer
  | .macKey _ => .macKey .blank
  | answer => answer

variable (keys : SessionKeys)

theorem usedMacKeys_masked : keys.masked.usedMacKeys = keys.usedMacKeys.map fun _ => .blank := by
  obtain ⟨secrets, sendCounter, recvCounter, sendMacUsed, recvMacUsed⟩ := keys
  cases sendMacUsed <;> cases recvMacUsed <;> rfl

theorem perform_masked (call : Call) :
    keys.masked.perform call.masked =
      ((keys.perform call).1.masked, (keys.perform call).2.masked) := by
  cases call <;> rfl

end SessionKeys

namespace SessionKeyTable

def masked (table : SessionKeyTable) : SessionKeyTable where
  currentCurrent := table.currentCurrent.map (·.masked)
  currentPrevious := table.currentPrevious.map (·.masked)
  previousCurrent := table.previousCurrent.map (·.masked)
  previousPrevious := table.previousPrevious.map (·.masked)

variable (table : SessionKeyTable) (slot : KeySlot)

theorem get_masked : table.masked.get slot = (table.get slot).map (·.masked) := by
  obtain ⟨ours, theirs⟩ := slot
  cases ours <;> cases theirs <;> rfl

theorem masked_set (keys : Option SessionKeys) :
    (table.set slot keys).masked = table.masked.set slot (keys.map (·.masked)) := by
  obtain ⟨ours, theirs⟩ := slot
  cases ours <;> cases theirs <;> rfl

theorem isEmpty_masked : table.masked.isEmpty = table.isEmpty := by
  simp only [isEmpty, masked, Option.isNone_map]

end SessionKeyTable

namespace SessionMaterial

-- What the peer brought in, what was derived with it, and the texts that were kept.
def masked (material : SessionMaterial) : SessionMaterial where
  theirKeyId := material.theirKeyId
  theirPublic := material.theirPublic.map (·.masked)
  theirOldPublic := material.theirOldPublic.map (·.masked)
  keys := material.keys.masked
  sessionId := Vector.replicate 20 0
  savedCount := material.savedCount
  savedMacKeys := zeroed material.savedMacKeys
  presharedSecret := material.presharedSecret.map zeroed
  lastMessage := material.lastMessage.map zeroed
  mayRetransmit := material.mayRetransmit

theorem masked_with_keys (material : SessionMaterial) (table : SessionKeyTable) :
    ({ material with keys := table } : SessionMaterial).masked =
      { material.masked with keys := table.masked } := rfl

theorem masked_empty : empty.masked = empty := by
  simp [empty, masked, zeroed, SessionKeyTable.masked, SessionKeyTable.empty]

-- Key by key, as many zeros are saved.
theorem masked_save (material : SessionMaterial) (keys : List MacKey) :
    (material.save keys).masked = material.masked.save (keys.map fun _ => .blank) := by
  have hfold (saved : Array UInt8) :
      zeroed (keys.foldl (fun saved key => saved ++ key.toArray) saved) =
        (keys.map fun _ => MacKey.blank).foldl (fun saved key => saved ++ key.toArray)
          (zeroed saved) := by
    induction keys generalizing saved with
    | nil => rfl
    | cons key rest ih =>
      rw [List.foldl_cons, ih, zeroed_append, zeroed_macKey, List.map_cons, List.foldl_cons]
  have hbytes := hfold material.savedMacKeys
  simp only [save, masked, List.length_map, hbytes]

end SessionMaterial

def OwnKeys.masked (own : OwnKeys) : OwnKeys where
  keyId := own.keyId
  pair := own.pair.map (·.masked)
  oldPair := own.oldPair.map (·.masked)

namespace Conversation

variable {α ρ : Type}

def masked (c : Conversation α ρ) : Conversation α ρ :=
  { c with material := c.material.masked, own := c.own.masked }

def Call.masked : Call α ρ → Call α ρ
  | .rotate pair => .rotate pair.masked
  | .acceptTheirPublic keyId value => .acceptTheirPublic keyId value.masked
  | .setSessionKeys slot keys => .setSessionKeys slot (keys.map (·.masked))
  | .onSessionKeys slot call => .onSessionKeys slot call.masked
  | .setSessionId _ => .setSessionId (Vector.replicate 20 0)
  | .saveMacKey _ => .saveMacKey .blank
  | .setPresharedSecret secret => .setPresharedSecret (secret.map zeroed)
  | .setLastMessage message sentAt mayRetransmit =>
    .setLastMessage (zeroed message) sentAt mayRetransmit
  | call => call

def Answer.masked : Answer α → Answer α
  | .bytes held => .bytes (zeroed held)
  | .sessionKeys answer => .sessionKeys (answer.map (·.masked))
  | answer => answer

def Step.masked (step : Step α ρ) : Step α ρ :=
  (step.1.masked, step.2.map Answer.masked)

section Fields

variable (c : Conversation α ρ)

@[simp] theorem known_masked : c.masked.known = c.known := rfl

@[simp] theorem limits_masked : c.masked.limits = c.limits := rfl

end Fields

theorem masked_fresh (id : Identity) (limits : Limits) :
    (fresh id limits : Conversation α ρ).masked = fresh id limits := by
  rw [masked, fresh, SessionMaterial.masked_empty]
  rfl

variable (c : Conversation α ρ)

theorem addFingerprint_masked (f : Fingerprint) :
    c.masked.addFingerprint f = (c.addFingerprint f).within masked := by
  unfold addFingerprint
  rw [apply_ite (Outcome.within masked)]
  rfl

theorem setTrust_masked (f : Fingerprint) (label : Option String) :
    c.masked.setTrust f label = ((c.setTrust f label).1, (c.setTrust f label).2.masked) := by
  unfold setTrust
  rw [known_masked]
  cases c.known.get? f <;> rfl

theorem forgetFingerprint_masked (f : Fingerprint) :
    c.masked.forgetFingerprint f = (c.forgetFingerprint f).within masked := by
  unfold forgetFingerprint
  rw [known_masked, apply_ite (Outcome.within masked)]
  rcases c.known.remove f with ⟨_ | _, rest⟩ <;> rfl

theorem markConnected_masked (f : Fingerprint) :
    c.masked.markConnected f = (c.markConnected f).within masked := by
  unfold markConnected
  rw [apply_ite (Outcome.within masked), apply_ite (Outcome.within masked)]
  rfl

theorem retired_masked (slot : KeySlot) :
    c.masked.retired slot = (c.retired slot).map fun _ => .blank := by
  have hkeys : c.masked.material.keys = c.material.keys.masked := rfl
  rw [retired, retired, hkeys, SessionKeyTable.get_masked]
  cases c.material.keys.get slot with
  | none => rfl
  | some keys => exact keys.usedMacKeys_masked

-- Room is a matter of lengths.
theorem hasRoomFor_masked (count : Nat) : c.masked.hasRoomFor count = c.hasRoomFor count := by
  have hsize : c.masked.material.savedMacKeys.size = c.material.savedMacKeys.size :=
    size_zeroed _
  rw [hasRoomFor, hasRoomFor, hsize, limits_masked]

theorem setSessionKeys_masked (slot : KeySlot) (keys : Option SessionKeys) :
    c.masked.setSessionKeys slot (keys.map (·.masked)) =
      (c.setSessionKeys slot keys).within masked := by
  let saved := c.material.save (c.retired slot)
  let blank := c.masked.material.save ((c.retired slot).map fun _ => .blank)
  have hsaved : saved.masked = blank := c.material.masked_save (c.retired slot)
  have hmaterial : ({ saved with keys := saved.keys.set slot keys } : SessionMaterial).masked =
      { blank with keys := blank.keys.set slot (keys.map (·.masked)) } := by
    rw [SessionMaterial.masked_with_keys, SessionKeyTable.masked_set, ← hsaved]
    rfl
  unfold setSessionKeys
  dsimp only
  rw [retired_masked, List.isEmpty_map, List.length_map, hasRoomFor_masked,
    apply_ite (Outcome.within masked)]
  refine if_congr Iff.rfl ?_ rfl
  have hdone := congrArg (fun material => { c.masked with material := material }) hmaterial
  exact congrArg (fun after => (.done after () [] : Reply α ρ Unit)) hdone.symm

theorem onSessionKeys_masked (slot : KeySlot) (call : SessionKeys.Call) :
    c.masked.onSessionKeys slot call.masked =
      ((c.onSessionKeys slot call).1.map (·.masked), (c.onSessionKeys slot call).2.masked) := by
  have hkeys : c.masked.material.keys.get slot =
      (c.material.keys.get slot).map (·.masked) := c.material.keys.get_masked slot
  unfold onSessionKeys
  rw [hkeys]
  cases c.material.keys.get slot with
  | none => rfl
  | some keys =>
    have htable := SessionKeyTable.masked_set c.material.keys slot (some (keys.perform call).2)
    simp only [Option.map_some, SessionKeys.perform_masked]
    exact congrArg (fun table => (some (keys.perform call).1.masked,
      { c.masked with material := { c.masked.material with keys := table } })) htable.symm

theorem saveMacKey_masked (key : MacKey) :
    c.masked.saveMacKey .blank = (c.saveMacKey key).within masked := by
  have hsaved := c.material.masked_save [key]
  unfold saveMacKey
  rw [hasRoomFor_masked, apply_ite (Outcome.within masked)]
  refine if_congr Iff.rfl ?_ rfl
  have hdone := congrArg (fun material => { c.masked with material := material }) hsaved
  exact congrArg (fun after => (.done after () [] : Reply α ρ Unit)) hdone.symm

-- Whether a secret is empty, or too long, is a matter of its length.
theorem setPresharedSecret_masked (secret : Option (Array UInt8)) :
    c.masked.setPresharedSecret (secret.map zeroed) =
      (c.setPresharedSecret secret).within masked := by
  cases secret with
  | none => rfl
  | some bytes =>
    simp only [setPresharedSecret, Option.map_some, isEmpty_zeroed, size_zeroed]
    rw [apply_ite (Outcome.within masked), apply_ite (Outcome.within masked)]
    rfl

theorem takeSavedMacKeys_masked :
    c.masked.takeSavedMacKeys = (zeroed c.takeSavedMacKeys.1, c.takeSavedMacKeys.2.masked) := by
  have hnone : #[] = zeroed #[] := Array.map_empty.symm
  exact congrArg (fun saved => (c.masked.material.savedMacKeys, { c.masked with
    material := { c.masked.material with savedCount := 0, savedMacKeys := saved } })) hnone

theorem toSetup_masked : c.masked.toSetup = c.toSetup.masked := by
  exact congrArg (fun material => { c.masked with
    state := .setup, pinned := none, material := material }) SessionMaterial.masked_empty.symm

theorem toUnconnected_masked : c.masked.toUnconnected = c.toUnconnected.masked := by
  rw [toUnconnected, toSetup_masked]
  rfl

-- What is masked goes the way of what is not.
theorem perform_masked (call : Call α ρ) : c.masked.perform call.masked =
    ((c.perform call).map Answer.masked).within masked := by
  cases call with
  | addFingerprint f =>
    simp only [perform, Call.masked, addFingerprint_masked, Outcome.map_within, Outcome.map_map]
    rfl
  | setTrust f label =>
    simp only [perform, Call.masked, setTrust_masked]
    rfl
  | forgetFingerprint f =>
    simp only [perform, Call.masked, forgetFingerprint_masked, Outcome.map_within, Outcome.map_map]
    rfl
  | markConnected f =>
    simp only [perform, Call.masked, markConnected_masked, Outcome.map_within, Outcome.map_map]
    rfl
  | setSessionKeys slot keys =>
    simp only [perform, Call.masked, setSessionKeys_masked, Outcome.map_within, Outcome.map_map]
    rfl
  | onSessionKeys slot call =>
    simp only [perform, Call.masked, onSessionKeys_masked]
    rfl
  | saveMacKey key =>
    simp only [perform, Call.masked, c.saveMacKey_masked key, Outcome.map_within, Outcome.map_map]
    rfl
  | takeSavedMacKeys =>
    simp only [perform, Call.masked, takeSavedMacKeys_masked]
    rfl
  | setPresharedSecret secret =>
    simp only [perform, Call.masked, setPresharedSecret_masked, Outcome.map_within, Outcome.map_map]
    rfl
  | forceSetup =>
    simp only [perform, Call.masked, forceSetup, toSetup_masked]
    rfl
  | forceDisconnect =>
    simp only [perform, Call.masked, forceDisconnect, toUnconnected_masked]
    rfl
  | _ => rfl

end Conversation

end Parley
