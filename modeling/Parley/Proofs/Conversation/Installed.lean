import Parley.Proofs.Conversation.Frame
import Parley.Proofs.Conversation.Past

/-!
The places for session keys, told from what was asked since the last fall back to setup. Main
statement: a place holds the keys that were installed there last, after all that was asked of them
since, and the MAC keys that may be revealed of them are those that were ever used: asked for in the
place, or marked already when the keys came in.
-/

namespace Parley

namespace SessionKeys

theorem sendMacUsed_perform (keys : SessionKeys) (call : Call) :
    (keys.perform call).2.sendMacUsed = true ↔ .useSendMac = call ∨ keys.sendMacUsed = true := by
  cases call <;> simp [perform]

theorem recvMacUsed_perform (keys : SessionKeys) (call : Call) :
    (keys.perform call).2.recvMacUsed = true ↔ .useRecvMac = call ∨ keys.recvMacUsed = true := by
  cases call <;> simp [perform]

end SessionKeys

-- Keys as they came into a place, with all that was done with them before, and what was asked of
-- them there, the latest first.
structure InstalledKeys where
  brought : SessionKeys
  asked : List SessionKeys.Call

namespace InstalledKeys

-- The keys after all that was asked of them.
def keys (installed : InstalledKeys) : SessionKeys :=
  installed.asked.foldr (fun call keys => (keys.perform call).2) installed.brought

-- The MAC keys that were asked for in the place, the sending one first.
def askedFor (installed : InstalledKeys) : List MacKey :=
  (if .useSendMac ∈ installed.asked then [installed.brought.secrets.sendMac] else [])
    ++ (if .useRecvMac ∈ installed.asked then [installed.brought.secrets.recvMac] else [])

-- The MAC keys that were used at all, in the place or before, the sending one first.
def everUsed (installed : InstalledKeys) : List MacKey :=
  (if installed.brought.sendMacUsed = true ∨ .useSendMac ∈ installed.asked then
    [installed.brought.secrets.sendMac] else [])
    ++ (if installed.brought.recvMacUsed = true ∨ .useRecvMac ∈ installed.asked then
      [installed.brought.secrets.recvMac] else [])

variable (installed : InstalledKeys)

theorem secrets_keys : installed.keys.secrets = installed.brought.secrets := by
  obtain ⟨brought, asked⟩ := installed
  induction asked with
  | nil => rfl
  | cons call asked ih => exact (SessionKeys.perform_secrets _ call).trans ih

-- A mark that only one request sets, and sets for good.
theorem mark_keys {mark : SessionKeys → Bool} {request : SessionKeys.Call}
    (hperform : ∀ keys call,
      mark (keys.perform call).2 = true ↔ request = call ∨ mark keys = true) :
    mark installed.keys = true ↔ mark installed.brought = true ∨ request ∈ installed.asked := by
  obtain ⟨brought, asked⟩ := installed
  induction asked with
  | nil => simp [keys]
  | cons call asked ih =>
    rw [List.mem_cons, or_left_comm, ← ih]
    exact hperform _ call

theorem sendMacUsed_keys : installed.keys.sendMacUsed = true ↔
    installed.brought.sendMacUsed = true ∨ .useSendMac ∈ installed.asked :=
  installed.mark_keys SessionKeys.sendMacUsed_perform

theorem recvMacUsed_keys : installed.keys.recvMacUsed = true ↔
    installed.brought.recvMacUsed = true ∨ .useRecvMac ∈ installed.asked :=
  installed.mark_keys SessionKeys.recvMacUsed_perform

theorem usedMacKeys_keys : installed.keys.usedMacKeys = installed.everUsed := by
  simp only [SessionKeys.usedMacKeys, everUsed, sendMacUsed_keys, recvMacUsed_keys, secrets_keys]

-- Of keys that come in unused, those that were asked for are all that were used.
theorem everUsed_of_unused (hsend : installed.brought.sendMacUsed = false)
    (hrecv : installed.brought.recvMacUsed = false) :
    installed.everUsed = installed.askedFor := by
  simp only [everUsed, askedFor, hsend, hrecv, Bool.false_eq_true, false_or]

end InstalledKeys

namespace Conversation

variable {α ρ : Type}

-- The keys that came into a place last, unless it was emptied since.
def Past.installed (slot : KeySlot) : Past α ρ → Option InstalledKeys
  | [] => none
  | (call, answer) :: earlier =>
    match call, answer with
    | .setSessionKeys place keys, .ok _ =>
      if place = slot then keys.map (⟨·, []⟩) else Past.installed slot earlier
    | .onSessionKeys place asked, _ =>
      if place = slot then
        (Past.installed slot earlier).map fun i => { i with asked := asked :: i.asked }
      else Past.installed slot earlier
    | _, _ => Past.installed slot earlier

-- What stands in a place was brought there.
theorem Past.exists_brought {past : Past α ρ} {slot : KeySlot} {installed : InstalledKeys}
    (h : past.installed slot = some installed) :
    ∃ step ∈ past, step.1 = .setSessionKeys slot (some installed.brought) := by
  induction past generalizing installed with
  | nil => cases h
  | cons step earlier ih =>
    have hearlier {found : InstalledKeys} (hfound : Past.installed slot earlier = some found) :
        ∃ s ∈ step :: earlier, s.1 = .setSessionKeys slot (some found.brought) := by
      obtain ⟨s, hmem, hs⟩ := ih hfound
      exact ⟨s, List.mem_cons_of_mem _ hmem, hs⟩
    obtain ⟨call, answer⟩ := step
    cases call with
    | setSessionKeys place keys =>
      cases answer with
      | error refusal => exact hearlier h
      | ok _ =>
        simp only [Past.installed] at h
        split at h
        · next hplace =>
          obtain ⟨brought, rfl, rfl⟩ := Option.map_eq_some_iff.mp h
          exact ⟨_, List.mem_cons_self, by rw [hplace]⟩
        · exact hearlier h
    | onSessionKeys place asked =>
      simp only [Past.installed] at h
      split at h
      · obtain ⟨before, hbefore, rfl⟩ := Option.map_eq_some_iff.mp h
        have hbrought := hearlier hbefore
        exact hbrought
      · exact hearlier h
    | _ => exact hearlier h

variable (c : Conversation α ρ)

-- The keys go into the place only together with all that they leave behind.
theorem setSessionKeys_cases (slot : KeySlot) (keys : Option SessionKeys) :
    c.setSessionKeys slot keys = .refused .savedMacKeysFull c [] ∨
      c.setSessionKeys slot keys = .done { c with
        material := { c.material.save (c.retired slot) with
          keys := c.material.keys.set slot keys } } () [] := by
  unfold setSessionKeys
  dsimp only
  split
  · exact Or.inr rfl
  · exact Or.inl rfl

theorem keys_onSessionKeys (slot : KeySlot) (call : SessionKeys.Call) (other : KeySlot) :
    (c.onSessionKeys slot call).2.material.keys.get other =
      if slot = other then (c.material.keys.get slot).map fun keys => (keys.perform call).2
      else c.material.keys.get other := by
  unfold onSessionKeys
  by_cases hslot : slot = other
  · subst hslot
    split
    · next keys hkeys => simp [hkeys]
    · next hkeys => simp [hkeys]
  · rw [if_neg hslot]
    split
    · exact SessionKeyTable.get_set_of_ne _ _ _ _ (Ne.symm hslot)
    · rfl

-- Every place holds the keys installed there last.
def Installed (past : Past α ρ) (c : Conversation α ρ) : Prop :=
  ∀ slot, c.material.keys.get slot = (past.installed slot).map (·.keys)

variable {c}

theorem installed_of_empty (h : c.material.keys = .empty) : Installed [] c := by
  intro slot
  rw [h, SessionKeyTable.get_empty]
  rfl

-- A call that neither fills nor asks a place.
theorem Installed.of_same {past : Past α ρ} (h : Installed past c) {past' : Past α ρ}
    {c' : Conversation α ρ} (hkeys : c'.material.keys = c.material.keys)
    (hpast : ∀ slot, past'.installed slot = past.installed slot) : Installed past' c' := by
  intro slot
  rw [hkeys, hpast slot]
  exact h slot

theorem Installed.setSessionKeys {past : Past α ρ} (h : Installed past c) (slot : KeySlot)
    (keys : Option SessionKeys) :
    let o := c.perform (.setSessionKeys slot keys)
    Installed ((.setSessionKeys slot keys, o.answer) :: past) o.after := by
  simp only [perform]
  rcases c.setSessionKeys_cases slot keys with heq | heq
  · rw [heq]
    exact h
  · rw [heq]
    intro other
    change (c.material.keys.set slot keys).get other =
      (if slot = other then keys.map (⟨·, []⟩) else past.installed other).map (·.keys)
    by_cases hslot : slot = other
    · rw [if_pos hslot, hslot, SessionKeyTable.get_set_self, Option.map_map]
      exact Option.map_id_apply.symm
    · rw [if_neg hslot, SessionKeyTable.get_set_of_ne _ _ _ _ (Ne.symm hslot)]
      exact h other

theorem Installed.onSessionKeys {past : Past α ρ} (h : Installed past c) (slot : KeySlot)
    (asked : SessionKeys.Call) :
    let o := c.perform (.onSessionKeys slot asked)
    Installed ((.onSessionKeys slot asked, o.answer) :: past) o.after := by
  intro o other
  change (c.onSessionKeys slot asked).2.material.keys.get other =
    (if slot = other then (past.installed other).map fun i => { i with asked := asked :: i.asked }
      else past.installed other).map (·.keys)
  rw [keys_onSessionKeys]
  by_cases hslot : slot = other
  · rw [if_pos hslot, if_pos hslot, hslot, h other, Option.map_map, Option.map_map]
    rfl
  · rw [if_neg hslot, if_neg hslot]
    exact h other

theorem Installed.perform {past : Past α ρ} (h : Installed past c) {call : Call α ρ}
    (hfall : call.isFall = false) :
    Installed ((call, (c.perform call).answer) :: past) (c.perform call).after := by
  cases call with
  | setSessionKeys slot keys => exact h.setSessionKeys slot keys
  | onSessionKeys slot asked => exact h.onSessionKeys slot asked
  | forceSetup => cases hfall
  | forceDisconnect => cases hfall
  | _ => exact h.of_same (c.keys_perform _) fun _ => rfl

end Conversation

end Parley
