import Parley.Proofs.Conversation.Installed
import Parley.Proofs.Sample

/-!
The MAC keys handed over for revealing. Main statement: since the last fall back to setup, what was
handed over and what is still saved are together the keys that were due, each once and in order:
those saved by hand, and of the keys that were replaced, those MAC keys that were ever used, be it
before they came in. Those that were asked for in their place are not all: keys that come in used
are due as well.
-/

namespace Parley.Conversation

variable {α ρ : Type}

-- The bytes handed over, the first first.
def Past.taken : Past α ρ → List UInt8
  | [] => []
  | (call, answer) :: earlier =>
    match call, answer with
    | .takeSavedMacKeys, .ok (.bytes bytes) => Past.taken earlier ++ bytes.toList
    | _, _ => Past.taken earlier

-- The MAC keys due, the first first, if these are the ones due of keys that are replaced.
def Past.owed (due : InstalledKeys → List MacKey) : Past α ρ → List MacKey
  | [] => []
  | (call, answer) :: earlier =>
    match call, answer with
    | .saveMacKey key, .ok _ => Past.owed due earlier ++ [key]
    | .setSessionKeys slot _, .ok _ =>
      Past.owed due earlier ++ (Past.installed slot earlier).elim [] due
    | _, _ => Past.owed due earlier

-- Whether keys come in that were used before.
def Call.bringsUsed : Call α ρ → Bool
  | .setSessionKeys _ (some keys) => keys.sendMacUsed || keys.recvMacUsed
  | _ => false

-- Nothing due is lost, and nothing else is saved.
structure Accounted (past : Past α ρ) (c : Conversation α ρ) : Prop where
  installed : Installed past c
  bytes : past.taken ++ c.material.savedMacKeys.toList =
    (past.owed (·.everUsed)).flatMap (·.toList)

-- If no keys come in used, those that were asked for in their place are all that is due.
theorem Past.owed_of_unused {past : Past α ρ}
    (h : ∀ step ∈ past, step.1.bringsUsed = false) :
    past.owed (·.everUsed) = past.owed (·.askedFor) := by
  induction past with
  | nil => rfl
  | cons step earlier ih =>
    have hearlier := ih fun s hs => h s (List.mem_cons_of_mem step hs)
    have hplace (slot : KeySlot) : (Past.installed slot earlier).elim [] (·.everUsed) =
        (Past.installed slot earlier).elim [] (·.askedFor) := by
      cases hinstalled : Past.installed slot earlier with
      | none => rfl
      | some installed =>
        obtain ⟨s, hmem, hs⟩ := Past.exists_brought hinstalled
        have hunused := h s (List.mem_cons_of_mem step hmem)
        rw [hs, Call.bringsUsed, Bool.or_eq_false_iff] at hunused
        exact installed.everUsed_of_unused hunused.1 hunused.2
    obtain ⟨call, answer⟩ := step
    cases call with
    | setSessionKeys slot keys =>
      cases answer with
      | error refusal => exact hearlier
      | ok _ => rw [Past.owed, Past.owed, hearlier, hplace slot]
    | saveMacKey key =>
      cases answer with
      | error refusal => exact hearlier
      | ok _ => rw [Past.owed, Past.owed, hearlier]
    | _ => exact hearlier

variable {c : Conversation α ρ} {past : Past α ρ}

theorem accounted_of_empty (h : c.material = .empty) : Accounted [] c where
  installed := installed_of_empty (by rw [h]; rfl)
  bytes := by rw [h]; rfl

theorem saveMacKey_cases (c : Conversation α ρ) (key : MacKey) :
    c.saveMacKey key = .refused .savedMacKeysFull c [] ∨
      c.saveMacKey key = .done { c with material := c.material.save [key] } () [] := by
  unfold saveMacKey
  split
  · exact Or.inr rfl
  · exact Or.inl rfl

-- Replacing keys makes those due that were ever used.
theorem Installed.retired (h : Installed past c) (slot : KeySlot) :
    c.retired slot = (past.installed slot).elim [] (·.everUsed) := by
  rw [Conversation.retired, h slot]
  cases past.installed slot with
  | none => rfl
  | some installed => exact installed.usedMacKeys_keys

section Bytes

variable (h : Accounted past c)
include h

-- More keys are due, and they are saved.
theorem Accounted.save (keys : List MacKey) :
    past.taken ++ (c.material.save keys).savedMacKeys.toList =
      (past.owed (·.everUsed) ++ keys).flatMap (·.toList) := by
  rw [SessionMaterial.toList_savedMacKeys_save, ← List.append_assoc, h.bytes,
    List.flatMap_append]

theorem Accounted.bytes_setSessionKeys (slot : KeySlot) (keys : Option SessionKeys) :
    let o := c.perform (.setSessionKeys slot keys)
    let next : Past α ρ := (.setSessionKeys slot keys, o.answer) :: past
    next.taken ++ o.after.material.savedMacKeys.toList =
      (next.owed (·.everUsed)).flatMap (·.toList) := by
  simp only [perform]
  rcases c.setSessionKeys_cases slot keys with heq | heq
  · rw [heq]
    exact h.bytes
  · rw [heq]
    have hsaved := h.save (c.retired slot)
    rwa [h.installed.retired slot] at hsaved ⊢

theorem Accounted.bytes_saveMacKey (key : MacKey) :
    let o := c.perform (.saveMacKey key)
    let next : Past α ρ := (.saveMacKey key, o.answer) :: past
    next.taken ++ o.after.material.savedMacKeys.toList =
      (next.owed (·.everUsed)).flatMap (·.toList) := by
  simp only [perform]
  rcases c.saveMacKey_cases key with heq | heq
  · rw [heq]
    exact h.bytes
  · rw [heq]
    exact h.save [key]

theorem Accounted.perform {call : Call α ρ} (hfall : call.isFall = false) :
    Accounted ((call, (c.perform call).answer) :: past) (c.perform call).after where
  installed := h.installed.perform hfall
  bytes := by
    cases call with
    | setSessionKeys slot keys => exact h.bytes_setSessionKeys slot keys
    | saveMacKey key => exact h.bytes_saveMacKey key
    | takeSavedMacKeys =>
      -- what was saved moves from one side of the account to the other
      exact (List.append_nil _).trans h.bytes
    | forceSetup => cases hfall
    | forceDisconnect => cases hfall
    | _ =>
      rw [savedMacKeys_perform]
      exact h.bytes

end Bytes

theorem material_perform_fall (c : Conversation α ρ) {call : Call α ρ}
    (hfall : call.isFall = true) : (c.perform call).after.material = .empty := by
  cases call with
  | forceSetup => rfl
  | forceDisconnect => rfl
  | _ => cases hfall

-- A fall back closes the account and opens an empty one.
theorem Accounted.perform_sinceFall (h : Accounted past.sinceFall c) (call : Call α ρ) :
    Accounted (Past.sinceFall ((call, (c.perform call).answer) :: past))
      (c.perform call).after := by
  rw [Past.sinceFall_cons]
  cases hfall : call.isFall with
  | true => exact accounted_of_empty (c.material_perform_fall hfall)
  | false => exact h.perform hfall

theorem accounted_performAll (id : Identity) (limits : Limits) (calls : List (Call α ρ)) :
    Accounted (Past.sinceFall (History.past perform (fresh id limits) calls))
      ((fresh id limits).performAll calls).after := by
  have hstart : Accounted (Past.sinceFall []) (fresh id limits : Conversation α ρ) :=
    accounted_of_empty rfl
  have hrun := History.run_recorded
    (fun past (c : Conversation α ρ) => Accounted (Past.sinceFall past) c)
    (fun _ _ call h => h.perform_sinceFall call) hstart calls
  rwa [List.append_nil] at hrun

-- Without a fall back, the keys handed over and those still saved are the keys due since the
-- beginning; if no keys come in used, those are the ones that were asked for in their place. A fall
-- back drops what was still saved, and the account begins anew.
theorem taken_append_saved (id : Identity) (limits : Limits) (calls : List (Call α ρ)) :
    let c := ((fresh id limits).performAll calls).after
    let past : Past α ρ := History.past perform (fresh id limits) calls
    ((∀ call ∈ calls, call.isFall = false) →
      past.taken ++ c.material.savedMacKeys.toList =
        (past.owed (·.everUsed)).flatMap (·.toList)) ∧
    past.sinceFall.taken ++ c.material.savedMacKeys.toList =
      (past.sinceFall.owed (·.everUsed)).flatMap (·.toList) ∧
    ((∀ call ∈ calls, call.bringsUsed = false) →
      past.owed (·.everUsed) = past.owed (·.askedFor) ∧
        past.sinceFall.owed (·.everUsed) = past.sinceFall.owed (·.askedFor)) ∧
    ∀ call, call.isFall = true → (c.perform call).after.material.savedMacKeys = #[] := by
  intro c past
  have haccounted : Accounted past.sinceFall c := accounted_performAll id limits calls
  refine ⟨?_, haccounted.bytes, ?_, ?_⟩
  · intro hcalls
    have hwhole : past.sinceFall = past := by
      apply Past.sinceFall_eq_self
      intro step hstep
      exact hcalls step.1 (History.mem_calls_of_mem_past hstep)
    rw [hwhole] at haccounted
    exact haccounted.bytes
  · intro hcalls
    have hunused : ∀ step ∈ past, step.1.bringsUsed = false := fun step hstep =>
      hcalls step.1 (History.mem_calls_of_mem_past hstep)
    have hlater : ∀ step ∈ past.sinceFall, step.1.bringsUsed = false := fun step hstep =>
      hunused step ((List.takeWhile_sublist _).mem hstep)
    exact ⟨Past.owed_of_unused hunused, Past.owed_of_unused hlater⟩
  · intro call hfall
    rw [material_perform_fall c hfall]
    rfl

section Exchange

open Sample (alice here keysOf secretsOf)

-- With room for two MAC keys: one is replaced, one saved by hand, and the third finds room only
-- once the first two are handed over.
def exchange : List (Call Nat Unit) :=
  [.setSessionKeys here (some (keysOf 1)), .onSessionKeys here .useSendMac,
    .setSessionKeys here (some (keysOf 5)), .saveMacKey (secretsOf 1).recvMac,
    .onSessionKeys here .useRecvMac, .setSessionKeys here none, .takeSavedMacKeys,
    .setSessionKeys here none]

theorem taken_append_saved_exchange :
    let c := ((fresh alice .tiny : Conversation Nat Unit).performAll exchange).after
    let past : Past Nat Unit := History.past perform (fresh alice .tiny) exchange
    (∀ call ∈ exchange, call.isFall = false ∧ call.bringsUsed = false) ∧
      past.owed (·.askedFor) =
        [(secretsOf 1).sendMac, (secretsOf 1).recvMac, (secretsOf 5).recvMac] ∧
      past.taken ++ c.material.savedMacKeys.toList =
        (past.owed (·.askedFor)).flatMap (·.toList) ∧
      (c.perform .forceSetup).after.material.savedMacKeys = #[] := by
  obtain ⟨hwhole, _, hunused, hfall⟩ := taken_append_saved alice .tiny exchange
  have hcalls : ∀ call ∈ exchange, call.isFall = false ∧ call.bringsUsed = false := by decide
  have hdue := (hunused fun call hcall => (hcalls call hcall).2).1
  have hbytes := hwhole fun call hcall => (hcalls call hcall).1
  rw [hdue] at hbytes
  exact ⟨hcalls, rfl, hbytes, hfall .forceSetup rfl⟩

-- Keys whose sending MAC key was used before they came in, and that are replaced at once.
def passage : List (Call Nat Unit) :=
  [.setSessionKeys here (some ((keysOf 1).perform .useSendMac).2), .setSessionKeys here none]

-- Nothing was asked for in the place, and still a MAC key is saved for revealing.
theorem saved_unasked_passage :
    let c := ((fresh alice .tiny : Conversation Nat Unit).performAll passage).after
    let past : Past Nat Unit := History.past perform (fresh alice .tiny) passage
    (∀ call ∈ passage, call.isFall = false) ∧
      past.owed (·.askedFor) = [] ∧
      c.material.savedMacKeys.toList = (secretsOf 1).sendMac.toList ∧
      past.taken ++ c.material.savedMacKeys.toList ≠
        (past.owed (·.askedFor)).flatMap (·.toList) :=
  ⟨by decide, rfl, by decide +kernel, by decide +kernel⟩

end Exchange

end Parley.Conversation
