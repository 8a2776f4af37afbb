import Parley.Proofs.Conversation.Frame
import Parley.Proofs.Sample

/-!
Falling back makes a conversation forget how it got there. Main statement: whatever was asked of the
session before, and whether it was answered or refused, a fall back to setup ends where it would
have ended without it; a disconnection forgets the changes of our own keys as well.
-/

namespace Parley.Conversation

variable {α ρ : Type}

-- The calls on the connection and on what is held for the session.
def Call.isOnSession : Call α ρ → Bool
  | .markConnected _ | .forceSetup | .acceptTheirPublic _ _ | .setSessionKeys _ _
  | .onSessionKeys _ _ | .setSessionId _ | .saveMacKey _ | .takeSavedMacKeys
  | .setPresharedSecret _ => true
  | _ => false

-- The calls that change our own keys.
def Call.isOnOwnKeys : Call α ρ → Bool
  | .rotate _ | .forceDisconnect => true
  | _ => false

-- The call that keeps the last message and the time when it was sent, which outlasts the session.
def Call.isOnLastMessage : Call α ρ → Bool
  | .setLastMessage _ _ _ => true
  | _ => false

-- A change after which `fall` ends where it would have ended before it, but for the time of the
-- last message.
def Absorbs (fall change : Conversation α ρ → Conversation α ρ) : Prop :=
  ∀ c, fall (change c) = { fall c with lastSent := (change c).lastSent }

-- What a fall back to setup forgets, a disconnection forgets too.
theorem Absorbs.toUnconnected {change : Conversation α ρ → Conversation α ρ}
    (h : Absorbs toSetup change) : Absorbs Conversation.toUnconnected change := by
  intro c
  rw [Conversation.toUnconnected, h c]
  rfl

theorem absorbs_toSetup_of_session {call : Call α ρ} (h : call.isOnSession) :
    Absorbs toSetup fun c => (c.perform call).after := by
  intro c
  simp only [after_perform]
  cases call with
  | markConnected _ | forceSetup | acceptTheirPublic _ _ | setSessionKeys _ _ | onSessionKeys _ _
  | setSessionId _ | saveMacKey _ | takeSavedMacKeys | setPresharedSecret _ => rfl
  | _ => cases h

theorem absorbs_toSetup {call : Call α ρ} (h : call.isOnSession ∨ call.isOnLastMessage) :
    Absorbs toSetup fun c => (c.perform call).after := by
  rcases h with hsession | hmessage
  · exact absorbs_toSetup_of_session hsession
  · intro c
    cases call with
    | setLastMessage _ _ _ => rfl
    | _ => cases hmessage

theorem absorbs_toUnconnected {call : Call α ρ}
    (h : call.isOnOwnKeys ∨ call.isOnSession ∨ call.isOnLastMessage) :
    Absorbs toUnconnected fun c => (c.perform call).after := by
  rcases h with hown | hsession
  · intro c
    cases call with
    | rotate _ => rfl
    | forceDisconnect => rfl
    | _ => cases hown
  · exact (absorbs_toSetup hsession).toUnconnected

-- A call makes keys that are new; those that a caller brings may have been used before.
theorem absorbs_setSessionKeys (slot : KeySlot) (keys : Option SessionKeys) :
    Absorbs toSetup fun c : Conversation α ρ => (c.setSessionKeys slot keys).after := by
  intro c
  simp only
  rw [after_setSessionKeys]
  rfl

theorem Absorbs.performAll (fall : Conversation α ρ → Conversation α ρ)
    (hfall : ∀ c, (fall c).lastSent = c.lastSent) {calls : List (Call α ρ)}
    (h : ∀ call ∈ calls, Absorbs fall fun c => (c.perform call).after) (c : Conversation α ρ) :
    fall (c.performAll calls).after =
      { fall c with lastSent := (c.performAll calls).after.lastSent } := by
  refine History.run_keeps_of_mem (fun d => fall d = { fall c with lastSent := d.lastSent }) ?_ ?_
  · intro d call hcall hd
    have hcall := h call hcall d
    dsimp only at hcall
    rw [hcall, hd]
  · rw [← hfall c]

-- Only a new last message comes with a new time.
theorem lastSent_perform (c : Conversation α ρ) {call : Call α ρ}
    (h : call.isOnOwnKeys ∨ call.isOnSession) : (c.perform call).after.lastSent = c.lastSent := by
  rw [after_perform]
  cases call with
  | setLastMessage _ _ _ => simp [Call.isOnOwnKeys, Call.isOnSession] at h
  | _ => rfl

theorem lastSent_performAll (c : Conversation α ρ) {calls : List (Call α ρ)}
    (h : ∀ call ∈ calls, call.isOnOwnKeys ∨ call.isOnSession) :
    (c.performAll calls).after.lastSent = c.lastSent := by
  refine History.run_keeps_of_mem (fun d : Conversation α ρ => d.lastSent = c.lastSent) ?_ rfl
  intro d call hcall hd
  exact (lastSent_perform d (h call hcall)).trans hd

theorem toSetup_performAll (c : Conversation α ρ) {calls : List (Call α ρ)}
    (h : ∀ call ∈ calls, call.isOnSession ∨ call.isOnLastMessage) :
    (c.performAll calls).after.toSetup =
      { c.toSetup with lastSent := (c.performAll calls).after.lastSent } :=
  Absorbs.performAll toSetup (fun _ => rfl) (fun call hcall => absorbs_toSetup (h call hcall)) c

theorem toUnconnected_performAll (c : Conversation α ρ) {calls : List (Call α ρ)}
    (h : ∀ call ∈ calls, call.isOnOwnKeys ∨ call.isOnSession ∨ call.isOnLastMessage) :
    (c.performAll calls).after.toUnconnected =
      { c.toUnconnected with lastSent := (c.performAll calls).after.lastSent } :=
  Absorbs.performAll toUnconnected (fun _ => rfl)
    (fun call hcall => absorbs_toUnconnected (h call hcall)) c

-- A forced transition ends in the same conversation with or without the calls on the session before
-- it, and a disconnection with or without those on our own keys; the time of a last message is all
-- that can be left of them. Keys that were used before they were put in leave nothing more.
theorem forced_absorbs (c : Conversation α ρ) (calls : List (Call α ρ)) :
    let d := (c.performAll calls).after
    ((∀ call ∈ calls, call.isOnOwnKeys ∨ call.isOnSession) →
      d.forceDisconnect.after = c.forceDisconnect.after) ∧
    ((∀ call ∈ calls, call.isOnSession) → d.forceSetup.after = c.forceSetup.after) ∧
    ((∀ call ∈ calls, call.isOnOwnKeys ∨ call.isOnSession ∨ call.isOnLastMessage) →
      d.forceDisconnect.after = { c.forceDisconnect.after with lastSent := d.lastSent }) ∧
    ((∀ call ∈ calls, call.isOnSession ∨ call.isOnLastMessage) →
      d.forceSetup.after = { c.forceSetup.after with lastSent := d.lastSent }) ∧
    (∀ slot keys, let e := (c.setSessionKeys slot keys).after
      e.forceDisconnect.after = c.forceDisconnect.after ∧
        e.forceSetup.after = c.forceSetup.after) := by
  intro d
  refine ⟨fun h => ?_, fun h => ?_, c.toUnconnected_performAll, c.toSetup_performAll, ?_⟩
  · have hd := c.toUnconnected_performAll fun call hcall => (h call hcall).imp_right Or.inl
    rw [lastSent_performAll c h] at hd
    exact hd
  · have hd := c.toSetup_performAll fun call hcall => Or.inl (h call hcall)
    rw [lastSent_performAll c fun call hcall => Or.inr (h call hcall)] at hd
    exact hd
  · intro slot keys e
    have hsent : e.lastSent = c.lastSent := congrArg (·.lastSent) (c.after_setSessionKeys slot keys)
    have hsetup : e.toSetup = { c.toSetup with lastSent := e.lastSent } :=
      absorbs_setSessionKeys slot keys c
    have hunconnected : e.toUnconnected = { c.toUnconnected with lastSent := e.lastSent } :=
      (absorbs_setSessionKeys slot keys).toUnconnected c
    rw [hsent] at hsetup hunconnected
    exact ⟨hunconnected, hsetup⟩

section Busy

open Sample (alice older newer pairOf here keysOf secretsOf)

def heldBefore : Conversation Nat Unit :=
  ((fresh alice .tiny).performAll
    [.addFingerprint older, .rotate (pairOf 1), .attach 7 (some ()), .forceSetup]).after

-- Connects, exchanges keys, and is refused three times: an unknown fingerprint, no room for the
-- used MAC key of the keys in force, and too long a secret.
def busy : List (Call Nat Unit) :=
  [.markConnected newer, .markConnected older, .acceptTheirPublic 3 ⟨#[5]⟩,
    .setSessionKeys here (some (keysOf 1)), .onSessionKeys here .useSendMac,
    .setSessionId (Vector.replicate 20 6), .saveMacKey (secretsOf 1).sendMac,
    .saveMacKey (secretsOf 1).recvMac, .setSessionKeys here none, .setPresharedSecret (some #[1]),
    .setPresharedSecret (some (Array.replicate 17 0))]

theorem forced_absorbs_busy :
    let c := heldBefore
    let d := (c.performAll busy).after
    let rotated :=
      (c.performAll (busy ++ [.rotate (pairOf 1), .forceDisconnect, .rotate (pairOf 1)])).after
    let told := (c.performAll (busy ++ [.setLastMessage #[8] 9 true])).after
    (c.performAll busy).answers.countP (fun answer => !answer.isOk) = 3 ∧ d.state = .connected ∧
      told.lastSent = 9 ∧
      d.forceDisconnect.after = c.forceDisconnect.after ∧
      d.forceSetup.after = c.forceSetup.after ∧
      rotated.forceDisconnect.after = c.forceDisconnect.after ∧
      told.forceDisconnect.after = { c.forceDisconnect.after with lastSent := told.lastSent } ∧
      told.forceSetup.after = { c.forceSetup.after with lastSent := told.lastSent } := by
  intro c d rotated told
  obtain ⟨hdisconnect, hsetup, _⟩ := forced_absorbs c busy
  obtain ⟨hrotated, _⟩ :=
    forced_absorbs c (busy ++ [.rotate (pairOf 1), .forceDisconnect, .rotate (pairOf 1)])
  obtain ⟨_, _, htold, htoldSetup, _⟩ := forced_absorbs c (busy ++ [.setLastMessage #[8] 9 true])
  have hrefused : (c.performAll busy).answers.countP (fun answer => !answer.isOk) = 3 := by
    decide +kernel
  have hstate : d.state = .connected := by decide +kernel
  have hsent : told.lastSent = 9 := by decide +kernel
  exact ⟨hrefused, hstate, hsent, hdisconnect (by decide), hsetup (by decide),
    hrotated (by decide), htold (by decide), htoldSetup (by decide)⟩

end Busy

end Parley.Conversation
