import Parley.Proofs.Conversation.Revelation
import Parley.Proofs.Keys.Counting

/-!
The sending counters of a conversation. Main statement: the counter of a place is the one that the
keys came in with, plus the number of counters that were asked for there since; keys that are new
start at zero, keys that are not go on from where they were, and nothing but asking for the next one
moves the counter of keys in their place.
-/

namespace Parley

-- The number that the sending counter has come to.
def InstalledKeys.sent (installed : InstalledKeys) : Nat :=
  installed.brought.sendCounter.value + installed.asked.count .nextSendCounter

theorem InstalledKeys.sendCounter_keys (installed : InstalledKeys) :
    installed.keys.sendCounter = .ofNat installed.sent := by
  obtain ⟨brought, asked⟩ := installed
  unfold sent
  induction asked with
  | nil => exact brought.sendCounter.ofNat_value.symm
  | cons call asked ih =>
    change ((InstalledKeys.keys ⟨brought, asked⟩).perform call).2.sendCounter = _
    by_cases hcall : call = .nextSendCounter
    · rw [hcall, SessionKeys.perform_nextSendCounter ih, List.count_cons_self]
      rfl
    · rw [SessionKeys.sendCounter_perform_of_ne _ hcall, ih, List.count_cons_of_ne hcall]

namespace Conversation

variable {α ρ : Type} (c : Conversation α ρ) (slot place : KeySlot)

-- The sending counter of the keys in a place.
def sendCounter? : Option Counter :=
  (c.material.keys.get slot).map (·.sendCounter)

theorem sendCounter?_setSessionKeys (keys : Option SessionKeys) :
    (c.setSessionKeys place keys).after.sendCounter? slot =
      if (c.setSessionKeys place keys).answer = .ok () ∧ place = slot then
        keys.map (·.sendCounter)
      else c.sendCounter? slot := by
  rcases c.setSessionKeys_cases place keys with heq | heq
  · rw [heq, if_neg (fun h => nomatch h.1)]
    rfl
  · rw [heq]
    change ((c.material.keys.set place keys).get slot).map _ = _
    by_cases hslot : place = slot
    · rw [if_pos ⟨rfl, hslot⟩, hslot, SessionKeyTable.get_set_self]
    · rw [if_neg fun h => hslot h.2, SessionKeyTable.get_set_of_ne _ _ _ _ (Ne.symm hslot)]
      rfl

theorem sendCounter?_onSessionKeys (call : SessionKeys.Call) :
    (c.onSessionKeys place call).2.sendCounter? slot =
      if call = .nextSendCounter ∧ place = slot then (c.sendCounter? slot).map (·.next)
      else c.sendCounter? slot := by
  rw [sendCounter?, keys_onSessionKeys, sendCounter?]
  by_cases hslot : place = slot
  · subst hslot
    rw [if_pos rfl, Option.map_map]
    by_cases hcall : call = .nextSendCounter
    · rw [if_pos ⟨hcall, rfl⟩, hcall, Option.map_map]
      rfl
    · rw [if_neg fun h => hcall h.1]
      exact congrArg (Option.map · _) (funext fun keys => keys.sendCounter_perform_of_ne hcall)
  · rw [if_neg hslot, if_neg fun h => hslot h.2]

-- Only these calls change the counter of a place.
theorem sendCounter?_perform (call : Call α ρ) : (c.perform call).after.sendCounter? slot =
    match call with
    | .setSessionKeys place keys => (c.setSessionKeys place keys).after.sendCounter? slot
    | .onSessionKeys place asked => (c.onSessionKeys place asked).2.sendCounter? slot
    | .forceSetup | .forceDisconnect => none
    | _ => c.sendCounter? slot := by
  rw [sendCounter?, keys_perform]
  cases call with
  | forceSetup => rw [SessionKeyTable.get_empty]; rfl
  | forceDisconnect => rw [SessionKeyTable.get_empty]; rfl
  | _ => rfl

variable {c slot}

-- A counter stays, or counts up as it was asked to, or makes way for the counter of new keys.
theorem sendCounter?_cases {call : Call α ρ} {before after : Counter}
    (hbefore : c.sendCounter? slot = some before)
    (hafter : (c.perform call).after.sendCounter? slot = some after) :
    after = before ∨
      (call = .onSessionKeys slot .nextSendCounter ∧ after = before.next) ∨
      ∃ keys, call = .setSessionKeys slot (some keys) ∧ after = keys.sendCounter := by
  rw [sendCounter?_perform] at hafter
  cases call with
  | setSessionKeys place keys =>
    dsimp only at hafter
    rw [sendCounter?_setSessionKeys] at hafter
    split at hafter
    · next hplace =>
      obtain ⟨brought, rfl, rfl⟩ := Option.map_eq_some_iff.mp hafter
      exact Or.inr (Or.inr ⟨brought, by rw [hplace.2], rfl⟩)
    · exact Or.inl (Option.some.inj (hafter.symm.trans hbefore))
  | onSessionKeys place asked =>
    dsimp only at hafter
    rw [sendCounter?_onSessionKeys, hbefore] at hafter
    split at hafter
    · next hasked =>
      cases hafter
      exact Or.inr (Or.inl ⟨by rw [hasked.1, hasked.2], rfl⟩)
    · exact Or.inl (Option.some.inj hafter).symm
  | forceSetup => cases hafter
  | forceDisconnect => cases hafter
  | _ => exact Or.inl (Option.some.inj (hafter.symm.trans hbefore))

-- Keys that come in bring their counter along.
theorem sendCounter?_of_done {keys : SessionKeys}
    (hanswer : (c.perform (.setSessionKeys slot (some keys))).answer = .ok .done) :
    (c.perform (.setSessionKeys slot (some keys))).after.sendCounter? slot =
      some keys.sendCounter := by
  change (c.setSessionKeys slot (some keys)).answer.map _ = _ at hanswer
  change (c.setSessionKeys slot (some keys)).after.sendCounter? slot = _
  rcases c.setSessionKeys_cases slot (some keys) with heq | heq
  · rw [heq] at hanswer
    cases hanswer
  · rw [sendCounter?_setSessionKeys, heq, if_pos ⟨rfl, rfl⟩]
    rfl

theorem Installed.sendCounter?_eq {past : Past α ρ} (h : Installed past c) (slot : KeySlot) :
    c.sendCounter? slot = (past.installed slot).map fun i => .ofNat i.sent := by
  rw [sendCounter?, h slot, Option.map_map]
  exact congrArg (Option.map · _) (funext InstalledKeys.sendCounter_keys)

theorem Installed.answer_nextSendCounter {past : Past α ρ} (h : Installed past c)
    (slot : KeySlot) :
    (c.perform (.onSessionKeys slot .nextSendCounter)).answer =
      .ok (.sessionKeys ((past.installed slot).map fun i => .counter (.ofNat (i.sent + 1)))) := by
  have hkeys := h slot
  change Except.ok (Answer.sessionKeys (c.onSessionKeys slot .nextSendCounter).1) = _
  rw [Conversation.onSessionKeys]
  cases hinstalled : past.installed slot with
  | none =>
    rw [hinstalled] at hkeys
    rw [hkeys]
    rfl
  | some installed =>
    rw [hinstalled] at hkeys
    rw [hkeys]
    simp only [Option.map_some, SessionKeys.perform_nextSendCounter installed.sendCounter_keys]

-- The counter counts the times it was asked for, in eight bytes. Asking for it does nothing else,
-- and nothing else moves it; so the counters that keys hand out come again only after all others.
-- In a conversation the count of a place begins with the keys that come in: from zero if they are
-- new, and from where they were if not.
theorem sending_counted (id : Identity) (limits : Limits) (calls : List (Call α ρ)) :
    (∀ keys : SessionKeys,
      let asked := keys.perform .nextSendCounter
      asked.1 = .counter asked.2.sendCounter ∧
        asked.2.sendCounter.value = (keys.sendCounter.value + 1) % 2 ^ 64 ∧
        asked.2 = { keys with sendCounter := asked.2.sendCounter } ∧
        ∀ call, call ≠ .nextSendCounter →
          (keys.perform call).2.sendCounter = keys.sendCounter) ∧
    (∀ secrets asked, (SessionKeys.fresh secrets).counters asked =
      (List.range (asked.count .nextSendCounter)).map fun n => .ofNat (n + 1)) ∧
    (∀ (keys : SessionKeys) asked m n counter later,
      (keys.counters asked)[m]? = some counter → (keys.counters asked)[n]? = some later →
        m < n → n - m < 2 ^ 64 → counter ≠ later) ∧
    (∀ (c : Conversation α ρ) slot keys,
      (c.perform (.setSessionKeys slot (some keys))).answer = .ok .done →
        (c.perform (.setSessionKeys slot (some keys))).after.sendCounter? slot =
          some keys.sendCounter) ∧
    (∀ (c : Conversation α ρ) slot secrets,
      (c.perform (.setSessionKeys slot (some (.fresh secrets)))).answer = .ok .done →
        (c.perform (.setSessionKeys slot (some (.fresh secrets)))).after.sendCounter? slot =
          some (.ofNat 0)) ∧
    (∀ (c : Conversation α ρ) slot call before after, c.sendCounter? slot = some before →
      (c.perform call).after.sendCounter? slot = some after →
        after = before ∨ (call = .onSessionKeys slot .nextSendCounter ∧ after = before.next) ∨
          ∃ keys, call = .setSessionKeys slot (some keys) ∧ after = keys.sendCounter) ∧
    let c := ((fresh id limits).performAll calls).after
    let past : Past α ρ := History.past perform (fresh id limits) calls
    (∀ slot, c.sendCounter? slot = (past.sinceFall.installed slot).map fun i =>
      .ofNat (i.brought.sendCounter.value + i.asked.count .nextSendCounter)) ∧
    ∀ slot, (c.perform (.onSessionKeys slot .nextSendCounter)).answer =
      .ok (.sessionKeys ((past.sinceFall.installed slot).map fun i => .counter
        (.ofNat (i.brought.sendCounter.value + i.asked.count .nextSendCounter + 1)))) := by
  refine ⟨fun keys => ⟨rfl, keys.sendCounter.value_next, rfl, ?_⟩, ?_, ?_, ?_, ?_, ?_, ?_⟩
  · intro call hcall
    exact keys.sendCounter_perform_of_ne hcall
  · intro secrets asked
    rw [SessionKeys.counters_eq Counter.zero_eq_ofNat asked]
    simp only [Nat.zero_add]
  · intro keys asked m n counter later hm hn hlt hnear
    exact SessionKeys.counters_ne hm hn hlt hnear
  · intro c slot keys hanswer
    exact sendCounter?_of_done hanswer
  · intro c slot secrets hanswer
    rw [← Counter.zero_eq_ofNat]
    exact sendCounter?_of_done hanswer
  · intro c slot call before after hbefore hafter
    exact sendCounter?_cases hbefore hafter
  · intro c past
    have hinstalled : Installed past.sinceFall c :=
      (accounted_performAll id limits calls).installed
    exact ⟨hinstalled.sendCounter?_eq, hinstalled.answer_nextSendCounter⟩

section Dialogue

open Sample (alice here there keysOf secretsOf)

-- Two counters in one place before its keys are replaced and one after, and two in another place.
def dialogue : List (Call Nat Unit) :=
  [.setSessionKeys here (some (keysOf 1)), .onSessionKeys here .nextSendCounter,
    .setSessionKeys there (some (keysOf 5)), .onSessionKeys there .nextSendCounter,
    .onSessionKeys here .useSendMac, .onSessionKeys here .nextSendCounter,
    .setSessionKeys here (some (keysOf 5)), .onSessionKeys here .nextSendCounter,
    .onSessionKeys there .nextSendCounter]

theorem sending_counted_dialogue :
    let c := ((fresh alice .tiny : Conversation Nat Unit).performAll dialogue).after
    let last : SessionKeys := { keysOf 1 with sendCounter := .ofNat (2 ^ 64 - 1) }
    let renewed := c.perform (.setSessionKeys there (some (keysOf 1)))
    (last.perform .nextSendCounter).2.sendCounter = .zero ∧
      last.counters [.nextSendCounter, .useRecvMac, .nextSendCounter] = [.ofNat 0, .ofNat 1] ∧
      (.ofNat 0 : Counter) ≠ .ofNat 1 ∧
      c.sendCounter? here = some (.ofNat 1) ∧
      (c.perform (.onSessionKeys there .nextSendCounter)).answer =
        .ok (.sessionKeys (some (.counter (.ofNat 3)))) ∧
      (c.perform (.setSessionKeys here (some last))).after.sendCounter? here =
        some last.sendCounter ∧
      renewed.after.sendCounter? there = some (.ofNat 0) ∧
      renewed.after.sendCounter? here = some (.ofNat 1) := by
  intro c last renewed
  obtain ⟨hkeys, _, hne, hbrought, hfresh, hcases, hcounter, hanswer⟩ :=
    sending_counted (α := Nat) (ρ := Unit) alice .tiny dialogue
  have hasked : last.counters [.nextSendCounter, .useRecvMac, .nextSendCounter] =
      [.ofNat 0, .ofNat 1] := by decide +kernel
  have hhere : c.sendCounter? here = some (.ofNat 1) := hcounter here
  have hwrap : (last.perform .nextSendCounter).2.sendCounter = .zero := by
    apply Counter.eq_of_value_eq
    rw [(hkeys last).2.1]
    decide +kernel
  refine ⟨hwrap, hasked, ?_, hhere, hanswer there, hbrought c here last (by decide +kernel),
    hfresh c there (secretsOf 1) (by decide +kernel), ?_⟩
  · exact hne last _ 0 1 _ _ (by rw [hasked]; rfl) (by rw [hasked]; rfl) (by decide) (by decide)
  · have hsome : (renewed.after.sendCounter? here).isSome = true := by decide +kernel
    obtain ⟨after, hafter⟩ := Option.isSome_iff_exists.mp hsome
    rcases hcases c here _ _ after hhere hafter with hsame | ⟨hcall, _⟩ | ⟨_, hcall, _⟩
    · rw [hafter, hsame]
    · cases hcall
    · cases hcall

-- Keys that come in after they were asked for a counter do not start at zero.
theorem sendCounter?_here_ne_zero :
    let asked := ((keysOf 1).perform .nextSendCounter).2
    let o := (fresh alice .tiny : Conversation Nat Unit).perform
      (.setSessionKeys here (some asked))
    o.answer = .ok .done ∧ o.after.sendCounter? here = some (.ofNat 1) ∧
      o.after.sendCounter? here ≠ some (.ofNat 0) ∧
      (o.after.perform (.onSessionKeys here .nextSendCounter)).answer =
        .ok (.sessionKeys (some (.counter (.ofNat 2)))) :=
  ⟨rfl, by decide +kernel, by decide +kernel, by decide +kernel⟩

end Dialogue

end Conversation

end Parley
