import Mathlib.Tactic.ByContra
import Parley.Proofs.Conversation.Frame
import Parley.Proofs.Sample

/-!
Replacing the session keys in one place. Main statement: it is refused exactly if the MAC keys that
were used do not fit behind those saved before, down to the byte; if it is refused, nothing changes,
and if not, the place holds the new keys, the used MAC keys are saved, and nothing else changes.
-/

namespace Parley

namespace SessionKeys

-- How many of the two MAC keys were used.
def usedCount (keys : SessionKeys) : Nat :=
  keys.sendMacUsed.toNat + keys.recvMacUsed.toNat

-- The bytes of the MAC keys that were used, the sending one first.
def usedBytes (keys : SessionKeys) : List UInt8 :=
  (if keys.sendMacUsed then keys.secrets.sendMac.toList else []) ++
    (if keys.recvMacUsed then keys.secrets.recvMac.toList else [])

variable (keys : SessionKeys)

theorem length_usedMacKeys : keys.usedMacKeys.length = keys.usedCount := by
  unfold usedMacKeys usedCount
  cases keys.sendMacUsed <;> cases keys.recvMacUsed <;> rfl

theorem flatMap_usedMacKeys : keys.usedMacKeys.flatMap (·.toList) = keys.usedBytes := by
  unfold usedMacKeys usedBytes
  cases keys.sendMacUsed <;> cases keys.recvMacUsed <;> simp

end SessionKeys

namespace Conversation

variable {α ρ : Type} (c : Conversation α ρ) (slot : KeySlot) (keys : Option SessionKeys)

-- An empty place has no used MAC keys.
def usedCount : Nat :=
  (c.material.keys.get slot).elim 0 (·.usedCount)

def usedBytes : List UInt8 :=
  (c.material.keys.get slot).elim [] (·.usedBytes)

theorem usedCount_le : c.usedCount slot ≤ 2 := by
  unfold usedCount
  cases c.material.keys.get slot with
  | none => exact Nat.zero_le 2
  | some old =>
    have hle := old.length_usedMacKeys_le
    rwa [old.length_usedMacKeys] at hle

theorem length_retired : (c.retired slot).length = c.usedCount slot := by
  unfold retired usedCount
  cases c.material.keys.get slot with
  | none => rfl
  | some old => exact old.length_usedMacKeys

theorem flatMap_retired : (c.retired slot).flatMap (·.toList) = c.usedBytes slot := by
  unfold retired usedBytes
  cases c.material.keys.get slot with
  | none => rfl
  | some old => exact old.flatMap_usedMacKeys

-- Whether the used MAC keys of a place can be saved.
def Fits : Prop :=
  c.usedCount slot = 0 ∨
    c.material.savedMacKeys.size + 20 * c.usedCount slot ≤ c.limits.maxSavedMacKeysLength

theorem fits_iff : c.Fits slot ↔
    ((c.retired slot).isEmpty || c.hasRoomFor (c.retired slot).length) = true := by
  have hempty : (c.retired slot).isEmpty = true ↔ c.usedCount slot = 0 := by
    rw [List.isEmpty_iff_length_eq_zero, length_retired]
  have hroom := c.hasRoomFor_iff (c.usedCount slot)
  rw [Nat.mul_comm] at hroom
  rw [Bool.or_eq_true, hempty, length_retired, hroom]
  rfl

-- The conversation once the keys have taken the place of those that were there.
def refilled : Conversation α ρ :=
  { c with material := { c.material.save (c.retired slot) with
      keys := c.material.keys.set slot keys } }

theorem setSessionKeys_of_fits (h : c.Fits slot) :
    c.setSessionKeys slot keys = .done (c.refilled slot keys) () [] :=
  if_pos ((c.fits_iff slot).mp h)

theorem setSessionKeys_of_not_fits (h : ¬ c.Fits slot) :
    c.setSessionKeys slot keys = .refused .savedMacKeysFull c [] :=
  if_neg (mt (c.fits_iff slot).mpr h)

-- All that a replacement does.
structure Replaced (after : Conversation α ρ) : Prop where
  place : after.material.keys.get slot = keys
  others (other : KeySlot) :
    other ≠ slot → after.material.keys.get other = c.material.keys.get other
  saved : after.material.savedMacKeys.toList = c.material.savedMacKeys.toList ++ c.usedBytes slot
  count : after.material.savedCount = c.material.savedCount + c.usedCount slot
  rest : after = { c with material := { c.material with
    keys := after.material.keys
    savedCount := after.material.savedCount
    savedMacKeys := after.material.savedMacKeys } }

theorem replaced_setSessionKeys (h : c.Fits slot) :
    c.Replaced slot keys (c.setSessionKeys slot keys).after where
  place := by
    rw [setSessionKeys_of_fits c slot keys h]
    exact SessionKeyTable.get_set_self _ _ _
  others other hne := by
    rw [setSessionKeys_of_fits c slot keys h]
    exact SessionKeyTable.get_set_of_ne _ _ _ _ hne
  saved := by
    rw [setSessionKeys_of_fits c slot keys h, ← flatMap_retired]
    exact c.material.toList_savedMacKeys_save (c.retired slot)
  count := by
    rw [setSessionKeys_of_fits c slot keys h, ← length_retired]
    rfl
  rest := c.after_setSessionKeys slot keys

-- Once the saved MAC keys are handed over, there is room for two more if there is room at all.
theorem fits_takeSavedMacKeys (hlimit : 40 ≤ c.limits.maxSavedMacKeysLength) :
    c.takeSavedMacKeys.2.Fits slot := by
  have hsize : c.takeSavedMacKeys.2.material.savedMacKeys.size = 0 := rfl
  have hlimits : c.takeSavedMacKeys.2.limits = c.limits := rfl
  have hcount := c.takeSavedMacKeys.2.usedCount_le slot
  right
  rw [hsize, hlimits]
  omega

theorem limits_performAll (calls : List (Call α ρ)) :
    (c.performAll calls).after.limits = c.limits := by
  have hkeeps (d : Conversation α ρ) (call : Call α ρ) (hd : d.limits = c.limits) :
      (d.perform call).after.limits = c.limits := (d.limits_perform call).trans hd
  exact History.run_keeps hkeeps rfl calls

-- Whatever came before: once the saved MAC keys are handed over, any keys go into any place.
theorem performAll_replaces (hlimit : 40 ≤ c.limits.maxSavedMacKeysLength)
    (calls : List (Call α ρ)) (new : Option SessionKeys) :
    let run := c.performAll (calls ++ [.takeSavedMacKeys, .setSessionKeys slot new])
    run.answers.getLast? = some (.ok .done) ∧ run.after.material.keys.get slot = new := by
  let before := (c.performAll calls).after
  let handed := before.takeSavedMacKeys.2
  have hlimits : 40 ≤ before.limits.maxSavedMacKeysLength := by
    rwa [c.limits_performAll calls]
  have hfits := before.fits_takeSavedMacKeys slot hlimits
  have hreplaced := handed.replaced_setSessionKeys slot new hfits
  have hdone := handed.setSessionKeys_of_fits slot new hfits
  intro run
  have hrun := History.run_append perform c calls [.takeSavedMacKeys, .setSessionKeys slot new]
  have hanswers : run.answers = (c.performAll calls).answers ++
      [.ok (.bytes before.takeSavedMacKeys.1),
        (handed.setSessionKeys slot new).answer.map fun _ => .done] :=
    congrArg (·.answers) hrun
  have hafter : run.after = (handed.setSessionKeys slot new).after :=
    congrArg (·.after) hrun
  constructor
  · rw [hanswers, hdone, List.getLast?_append]
    rfl
  · rw [hafter]
    exact hreplaced.place

-- Keys are replaced if and only if the used MAC keys of those that were there fit; then all of it
-- happens, and otherwise nothing at all. Right after the saved MAC keys are handed over, a limit of
-- two keys is enough for any keys in any place.
theorem replaced_or_unchanged (c : Conversation α ρ) (slot : KeySlot)
    (keys : Option SessionKeys) :
    let o := c.setSessionKeys slot keys
    c.usedCount slot ≤ 2 ∧
    (o.answer = .ok () ↔ c.usedCount slot = 0 ∨
      c.material.savedMacKeys.size + 20 * c.usedCount slot ≤ c.limits.maxSavedMacKeysLength) ∧
    (o.answer = .ok () → c.Replaced slot keys o.after ∧ o.effects = []) ∧
    (o.answer ≠ .ok () → o = .refused .savedMacKeysFull c []) ∧
    (40 ≤ c.limits.maxSavedMacKeysLength →
      (c.takeSavedMacKeys.2.setSessionKeys slot keys).answer = .ok () ∧
      ∀ calls new,
        let run := c.performAll (calls ++ [.takeSavedMacKeys, .setSessionKeys slot new])
        run.answers.getLast? = some (.ok .done) ∧ run.after.material.keys.get slot = new) := by
  intro o
  have haccepted : o.answer = .ok () ↔ c.Fits slot := by
    constructor
    · intro hanswer
      by_contra hnot
      have hrefused : o = .refused .savedMacKeysFull c [] :=
        c.setSessionKeys_of_not_fits slot keys hnot
      rw [hrefused] at hanswer
      cases hanswer
    · intro hfits
      exact congrArg (·.answer) (c.setSessionKeys_of_fits slot keys hfits)
  refine ⟨c.usedCount_le slot, haccepted, ?_, ?_, ?_⟩
  · intro hanswer
    have hfits := haccepted.mp hanswer
    exact ⟨c.replaced_setSessionKeys slot keys hfits,
      congrArg (·.effects) (c.setSessionKeys_of_fits slot keys hfits)⟩
  · intro hanswer
    exact c.setSessionKeys_of_not_fits slot keys (mt haccepted.mpr hanswer)
  · intro hlimit
    have hfits := c.fits_takeSavedMacKeys slot hlimit
    exact ⟨congrArg (·.answer) (c.takeSavedMacKeys.2.setSessionKeys_of_fits slot keys hfits),
      c.performAll_replaces slot hlimit⟩

section Brimming

open Sample (alice there keysOf)

-- With room for forty-seven bytes: both MAC keys of the first keys are saved, and the one of the
-- second that was used does not fit any more.
def brimming : List (Call Nat Unit) :=
  [.setSessionKeys there (some (keysOf 1)), .onSessionKeys there .useSendMac,
    .onSessionKeys there .useRecvMac, .setSessionKeys there (some (keysOf 1)),
    .onSessionKeys there .useRecvMac]

theorem replaced_or_unchanged_brimming :
    let start : Conversation Nat Unit := fresh alice ⟨2, 47, 16⟩
    let c := (start.performAll (brimming.take 3)).after
    let d := (start.performAll brimming).after
    (c.setSessionKeys there none).answer = .ok () ∧
      (c.setSessionKeys there none).after.material.savedMacKeys.toList =
        List.replicate 20 3 ++ List.replicate 20 4 ∧
      d.setSessionKeys there none = .refused .savedMacKeysFull d [] ∧
      (d.takeSavedMacKeys.2.setSessionKeys there none).answer = .ok () := by
  intro start c d
  obtain ⟨_, hcfits, hcdone, _, _⟩ := c.replaced_or_unchanged there none
  obtain ⟨_, hdfits, _, hdrefused, hdtaken⟩ := d.replaced_or_unchanged there none
  have hanswer : (c.setSessionKeys there none).answer = .ok () :=
    hcfits.mpr (Or.inr (by decide +kernel))
  have hsaved := (hcdone hanswer).1.saved
  have hnot : (d.setSessionKeys there none).answer ≠ .ok () := by
    rw [ne_eq, hdfits]
    decide +kernel
  refine ⟨hanswer, hsaved.trans (by decide +kernel), hdrefused hnot, (hdtaken (by decide)).1⟩

end Brimming

end Conversation

end Parley
