import Parley.Conversation.Basic

/-!
The key material of a conversation. Session keys that are replaced leave behind the MAC keys that
were used, to be revealed later; unused ones vanish.
-/

namespace Parley

-- Saves MAC keys behind those saved before.
def SessionMaterial.save (material : SessionMaterial) (keys : List MacKey) : SessionMaterial :=
  { material with
    savedCount := material.savedCount + keys.length
    savedMacKeys := keys.foldl (fun saved key => saved ++ key.toArray) material.savedMacKeys }

-- The bytes of the keys follow those saved before, key after key.
theorem SessionMaterial.toList_savedMacKeys_save (material : SessionMaterial)
    (keys : List MacKey) :
    (material.save keys).savedMacKeys.toList =
      material.savedMacKeys.toList ++ keys.flatMap (·.toList) := by
  have hfold (saved : Array UInt8) :
      (keys.foldl (fun saved key => saved ++ key.toArray) saved).toList =
        saved.toList ++ keys.flatMap (·.toList) := by
    induction keys generalizing saved with
    | nil => simp
    | cons key rest ih =>
      rw [List.foldl_cons, ih, Array.toList_append, List.append_assoc, List.flatMap_cons]
      rfl
  exact hfold material.savedMacKeys

theorem SessionMaterial.size_savedMacKeys_save (material : SessionMaterial) (keys : List MacKey) :
    (material.save keys).savedMacKeys.size =
      material.savedMacKeys.size + keys.length * macKeyLength := by
  have hflat : (keys.flatMap (·.toList)).length = keys.length * macKeyLength := by
    induction keys with
    | nil => simp
    | cons key rest ih =>
      rw [List.flatMap_cons, List.length_append, ih, List.length_cons, Vector.length_toList,
        Nat.succ_mul, Nat.add_comm]
  rw [← Array.length_toList, toList_savedMacKeys_save, List.length_append, hflat,
    Array.length_toList]

namespace Conversation

variable {α ρ : Type} (c : Conversation α ρ)

-- Takes a new key pair into use; the one in use becomes the previous one.
def rotate (pair : DhKeyPair) : Conversation α ρ :=
  { c with own := ⟨c.own.keyId + 1, some pair, c.own.pair⟩ }

-- Takes the peer's new public value; the one in use becomes the previous one.
def acceptTheirPublic (keyId : UInt32) (value : PublicValue) : Conversation α ρ :=
  { c with material := { c.material with
      theirKeyId := keyId
      theirPublic := some value
      theirOldPublic := c.material.theirPublic } }

-- Whether the bytes of so many more MAC keys may be saved.
def hasRoomFor (count : Nat) : Bool :=
  c.material.savedMacKeys.size + count * macKeyLength ≤ c.limits.maxSavedMacKeysLength

theorem hasRoomFor_iff (count : Nat) : c.hasRoomFor count = true ↔
    c.material.savedMacKeys.size + count * macKeyLength ≤ c.limits.maxSavedMacKeysLength := by
  rw [hasRoomFor, decide_eq_true_iff]

-- The MAC keys to reveal once the keys in a place are replaced.
def retired (slot : KeySlot) : List MacKey :=
  match c.material.keys.get slot with
  | some old => old.usedMacKeys
  | none => []

-- Fills or empties one place. The used MAC keys of what was there are saved first; if there is no
-- room for them, nothing changes.
def setSessionKeys (slot : KeySlot) (keys : Option SessionKeys) : Reply α ρ Unit :=
  let retired := c.retired slot
  if retired.isEmpty || c.hasRoomFor retired.length then
    let saved := c.material.save retired
    .done { c with material := { saved with keys := saved.keys.set slot keys } } () []
  else
    .refused .savedMacKeysFull c []

-- A call on the keys in one place; an empty place answers nothing.
def onSessionKeys (slot : KeySlot) (call : SessionKeys.Call) :
    Option SessionKeys.Answer × Conversation α ρ :=
  match c.material.keys.get slot with
  | some keys =>
    let (answer, rest) := keys.perform call
    (some answer, { c with material := { c.material with
      keys := c.material.keys.set slot (some rest) } })
  | none => (none, c)

def setSessionId (bytes : Vector UInt8 20) : Conversation α ρ :=
  { c with material := { c.material with sessionId := bytes } }

def saveMacKey (key : MacKey) : Reply α ρ Unit :=
  if c.hasRoomFor 1 then .done { c with material := c.material.save [key] } () []
  else .refused .savedMacKeysFull c []

-- Hands the saved MAC keys over for revealing; none is left.
def takeSavedMacKeys : Array UInt8 × Conversation α ρ :=
  (c.material.savedMacKeys,
    { c with material := { c.material with savedCount := 0, savedMacKeys := #[] } })

-- Replaces the preshared secret; nothing, or no bytes, clears it. The old one is gone even if the
-- new one is refused.
def setPresharedSecret (secret : Option (Array UInt8)) : Reply α ρ Unit :=
  let holding (kept : Option (Array UInt8)) : Conversation α ρ :=
    { c with material := { c.material with presharedSecret := kept } }
  match secret with
  | none => .done (holding none) () []
  | some bytes =>
    if bytes.isEmpty then .done (holding none) () []
    else if c.limits.maxPresharedSecretLength < bytes.size then
      .refused .presharedSecretTooLong (holding none) []
    else .done (holding (some bytes)) () []

end Conversation

end Parley
