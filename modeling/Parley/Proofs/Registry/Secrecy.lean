import Parley.Proofs.Conversation.Masked
import Parley.Proofs.Registry.Creation
import Parley.Proofs.Registry.Report
import Parley.Proofs.Sample

/-!
Secrets are not to be seen. Main statement: two histories of a registry that differ in secret bytes
only are answered and refused alike, write the same lines into the log, and show the same texts in
diagnostics, at every point.
-/

namespace Parley

namespace Conversation

variable {α ρ : Type}

-- All that diagnostics tell of a conversation and of the keys that it holds.
structure Diagnostics where
  conversation : String
  pairs : List (Option String)
  publicValues : List (Option String)
  sessionKeys : KeySlot → Option String

def diagnostics (c : Conversation α ρ) : Diagnostics where
  conversation := c.diagnostic
  pairs := [c.own.pair, c.own.oldPair].map (·.map (·.diagnostic))
  publicValues := [c.own.pair.map (·.publicValue), c.own.oldPair.map (·.publicValue),
    c.material.theirPublic, c.material.theirOldPublic].map (·.map (·.diagnostic))
  sessionKeys slot := (c.material.keys.get slot).map (·.diagnostic)

theorem diagnostic_masked (c : Conversation α ρ) : c.masked.diagnostic = c.diagnostic := by
  have hkeys : c.masked.material.keys.isEmpty = c.material.keys.isEmpty :=
    c.material.keys.isEmpty_masked
  rw [diagnostic, diagnostic, hkeys]
  rfl

theorem diagnostics_masked (c : Conversation α ρ) : c.masked.diagnostics = c.diagnostics := by
  have hpair (pair : Option DhKeyPair) :
      (pair.map (·.masked)).map (·.diagnostic) = pair.map (·.diagnostic) := by
    simp only [Option.map_map, Function.comp_def, DhKeyPair.diagnostic_masked]
  have hvalue (value : Option PublicValue) :
      (value.map (·.masked)).map (·.diagnostic) = value.map (·.diagnostic) := by
    simp only [Option.map_map, Function.comp_def, PublicValue.diagnostic_masked]
  have hpairValue (pair : Option DhKeyPair) :
      (pair.map (·.masked)).map (·.publicValue) = (pair.map (·.publicValue)).map (·.masked) := by
    simp only [Option.map_map]
    rfl
  have hsession (slot : KeySlot) : (c.material.keys.masked.get slot).map (·.diagnostic) =
      (c.material.keys.get slot).map (·.diagnostic) := by
    rw [SessionKeyTable.get_masked, Option.map_map]
    rfl
  simp only [diagnostics, diagnostic_masked]
  simp only [masked, OwnKeys.masked, SessionMaterial.masked, List.map_cons, List.map_nil,
    hpairValue, hpair, hvalue, hsession]

end Conversation

namespace Registry

variable {α ρ β γ : Type}

def masked (r : Registry α ρ) : Registry α ρ :=
  { r with contexts := r.contexts.map fun _ c => c.masked }

def Call.masked : Call α ρ → Call α ρ
  | .findContext id create onCreate => .findContext id create (onCreate.map (·.masked))
  | .findOrCreate id onCreate => .findOrCreate id (onCreate.map (·.masked))
  | .onContext id call => .onContext id call.masked
  | call => call

def maskedPair (pair : Conversation α ρ × Bool) : Conversation α ρ × Bool :=
  (pair.1.masked, pair.2)

def Answer.masked : Answer α ρ → Answer α ρ
  | .found pair => .found (pair.map maskedPair)
  | .context answer => .context (answer.map (·.masked))
  | answer => answer

variable (r : Registry α ρ) (id : Identity)

theorem get?_masked : r.masked.get? id = (r.get? id).map (·.masked) :=
  Std.ExtTreeMap.getElem?_map

@[simp] theorem size_masked : r.masked.size = r.size :=
  Std.ExtTreeMap.size_map

@[simp] theorem isFull_masked : r.masked.isFull = r.isFull := by
  rw [isFull, isFull, size_masked]
  rfl

theorem toList_masked : r.masked.toList = r.toList.map (·.masked) := by
  rw [toList, toList, masked, Std.ExtTreeMap.toList_map, List.map_map, List.map_map]
  rfl

theorem masked_empty (config : Config) : (empty config : Registry α ρ).masked = empty config := by
  refine eq_of_get? rfl fun id => ?_
  rw [get?_masked, get?_empty]
  rfl

theorem masked_put (c : Conversation α ρ) : (r.put id c).masked = r.masked.put id c.masked := by
  refine eq_of_get? rfl fun other => ?_
  rw [get?_masked, get?_put, get?_put, get?_masked]
  split <;> rfl

theorem masked_drop : (r.drop id).masked = r.masked.drop id := by
  refine eq_of_get? rfl fun other => ?_
  rw [get?_masked, get?_drop, get?_drop, get?_masked]
  split <;> rfl

variable {r id}

theorem get?_masked_of_some {c : Conversation α ρ} (hget : r.get? id = some c) :
    r.masked.get? id = some c.masked := by
  rw [get?_masked, hget]
  rfl

theorem get?_masked_of_none (hget : r.get? id = none) : r.masked.get? id = none := by
  rw [get?_masked, hget]
  rfl

-- A new conversation has no secrets, and gets the masked ones.
theorem performAll_fresh_masked (id : Identity) (limits : Limits)
    (onCreate : List (Conversation.Call α ρ)) :
    (Conversation.fresh id limits).performAll (onCreate.map (·.masked)) =
      let made := (Conversation.fresh id limits).performAll onCreate
      ⟨made.answers.map (·.map (·.masked)), made.after.masked, made.effects⟩ := by
  have hrun := History.run_image (fun (c : Conversation α ρ) call => c.perform_masked call)
    (.fresh id limits) onCreate
  rwa [Conversation.masked_fresh] at hrun

theorem findContext_masked (create : Bool) (onCreate : List (Conversation.Call α ρ)) :
    r.masked.findContext id create (onCreate.map (·.masked)) =
      ((r.findContext id create onCreate).map (·.map maskedPair)).within masked := by
  cases hid : id.validated with
  | error refusal =>
    rw [findContext_of_invalid hid, findContext_of_invalid hid]
    rfl
  | ok valid =>
    obtain rfl := ((id.validated_eq_ok_iff valid).mp hid).1
    cases hget : r.get? id with
    | some c =>
      rw [findContext_of_found hid hget, findContext_of_found hid (get?_masked_of_some hget)]
      rfl
    | none =>
      have hget' := get?_masked_of_none hget
      cases create with
      | false =>
        rw [findContext_of_absent hid hget, findContext_of_absent hid hget']
        rfl
      | true =>
        cases hfull : r.isFull with
        | true =>
          rw [findContext_of_full hid hget hfull,
            findContext_of_full hid hget' (r.isFull_masked.trans hfull)]
          rfl
        | false =>
          rw [findContext_of_room hid hget hfull,
            findContext_of_room hid hget' (r.isFull_masked.trans hfull)]
          have hmade := performAll_fresh_masked id r.config.limits onCreate
          have hconfig : r.masked.config = r.config := rfl
          simp only [hconfig, hmade]
          rw [← masked_put]
          rfl

theorem findOrCreate_masked (onCreate : List (Conversation.Call α ρ)) :
    r.masked.findOrCreate id (onCreate.map (·.masked)) =
      ((r.findOrCreate id onCreate).map maskedPair).within masked := by
  rw [findOrCreate, findOrCreate, findContext_masked]
  obtain ⟨answer, after, effects⟩ := r.findContext id true onCreate
  rcases answer with _ | _ | _ <;> rfl

-- What comes to the same on a masked conversation does so in the registry that holds it.
theorem onContext_masked {act : Conversation α ρ → Conversation.Reply α ρ β}
    {act' : Conversation α ρ → Conversation.Reply α ρ γ} {told : β → γ}
    (hact : ∀ c, act' c.masked = ((act c).map told).within Conversation.masked) :
    r.masked.onContext id act' = ((r.onContext id act).map (·.map told)).within masked := by
  cases hid : id.validated with
  | error refusal =>
    rw [onContext_of_invalid hid, onContext_of_invalid hid]
    rfl
  | ok valid =>
    obtain rfl := ((id.validated_eq_ok_iff valid).mp hid).1
    cases hget : r.get? id with
    | none =>
      rw [onContext_of_absent hid hget, onContext_of_absent hid (get?_masked_of_none hget)]
      rfl
    | some c =>
      rw [onContext_of_found hid hget, onContext_of_found hid (get?_masked_of_some hget), hact]
      obtain ⟨answer, after, effects⟩ := act c
      have hput := masked_put r id after
      cases answer with
      | error refusal => exact congrArg (Outcome.refused refusal · effects) hput.symm
      | ok value => exact congrArg (Outcome.done · (some (told value)) effects) hput.symm

theorem forget_masked : r.masked.forget id = (r.forget id).within masked := by
  cases hget : r.get? id with
  | none =>
    rw [forget_of_absent hget, forget_of_absent (get?_masked_of_none hget)]
    rfl
  | some c =>
    have hget' := get?_masked_of_some hget
    by_cases hstate : c.state = .unconnected
    · rw [forget_of_unconnected hget hstate, forget_of_unconnected hget' hstate, ← masked_drop]
      rfl
    · rw [forget_of_kept hget hstate, forget_of_kept hget' hstate]
      rfl

theorem forgetEntry_masked {c : Conversation α ρ} (hget : r.get? id = some c) (f : Fingerprint)
    (cascade : Bool) : r.masked.forgetFingerprint id (.entry f) cascade =
      (r.forgetFingerprint id (.entry f) cascade).within masked := by
  let removal := c.forgetFingerprint f
  have hget' := get?_masked_of_some hget
  have hremoval : c.masked.forgetFingerprint f = removal.within Conversation.masked :=
    c.forgetFingerprint_masked f
  have hanswer : (c.masked.forgetFingerprint f).answer = removal.answer :=
    congrArg (·.answer) hremoval
  have hput := masked_put r id removal.after
  cases hcase : removal.answer with
  | error refusal =>
    rw [forgetFingerprint_of_refused hget hcase,
      forgetFingerprint_of_refused hget' (hanswer.trans hcase), hremoval]
    exact congrArg (Outcome.refused refusal · removal.effects) hput.symm
  | ok _ =>
    -- what is left of the conversation is as unconnected, and its list as empty, as the masked one
    have hcascades : Cascades cascade (c.masked.forgetFingerprint f).after ↔
        Cascades cascade removal.after := by
      rw [hremoval]
      rfl
    by_cases htaken : Cascades cascade removal.after
    · have hdrop := masked_drop r id
      rw [forgetFingerprint_of_cascades hget hcase htaken,
        forgetFingerprint_of_cascades hget' (hanswer.trans hcase) (hcascades.mpr htaken), hremoval,
        drop_put, drop_put]
      exact congrArg
        (Outcome.done · Removed.context (removal.effects ++ removal.after.destroy.effects))
        hdrop.symm
    · rw [forgetFingerprint_of_removed hget hcase htaken,
        forgetFingerprint_of_removed hget' (hanswer.trans hcase) (mt hcascades.mp htaken), hremoval]
      exact congrArg (Outcome.done · Removed.fingerprint removal.effects) hput.symm

theorem forgetFingerprint_masked (target : Target) (cascade : Bool) :
    r.masked.forgetFingerprint id target cascade =
      (r.forgetFingerprint id target cascade).within masked := by
  cases hget : r.get? id with
  | none =>
    rw [forgetFingerprint_of_absent hget, forgetFingerprint_of_absent (get?_masked_of_none hget)]
    rfl
  | some c =>
    cases target with
    | root =>
      rw [forgetFingerprint_root hget, forgetFingerprint_root (get?_masked_of_some hget)]
      cases cascade with
      | false => rfl
      | true => exact congrArg (Outcome.map fun _ => Removed.context) forget_masked
    | entry f => exact forgetEntry_masked hget f cascade

theorem forgetAll_masked : r.masked.forgetAll = r.forgetAll.within masked := by
  have hempty := masked_empty (α := α) (ρ := ρ) r.config
  rw [forgetAll_eq, forgetAll_eq, toList_masked, List.flatMap_map]
  exact congrArg (Outcome.done · () (r.toList.flatMap (·.teardown))) hempty.symm

theorem perform_masked (call : Call α ρ) :
    r.masked.perform call.masked = ((r.perform call).map Answer.masked).within masked := by
  cases call with
  | findContext id create onCreate =>
    simp only [perform, Call.masked, findContext_masked, Outcome.map_within, Outcome.map_map]
    rfl
  | findOrCreate id onCreate =>
    simp only [perform, Call.masked, findOrCreate_masked, Outcome.map_within, Outcome.map_map]
    rfl
  | onContext id call =>
    have hcall : r.masked.onContext id (·.perform call.masked) =
        ((r.onContext id (·.perform call)).map (·.map Conversation.Answer.masked)).within masked :=
      onContext_masked fun c => c.perform_masked call
    simp only [perform, Call.masked, hcall, Outcome.map_within, Outcome.map_map]
    rfl
  | forget id =>
    simp only [perform, Call.masked, forget_masked, Outcome.map_within, Outcome.map_map]
    rfl
  | forgetFingerprint id target cascade =>
    simp only [perform, Call.masked, forgetFingerprint_masked, Outcome.map_within, Outcome.map_map]
    rfl
  | forgetAll =>
    simp only [perform, Call.masked, forgetAll_masked, Outcome.map_within, Outcome.map_map]
    rfl

theorem onCreation_masked (limits : Limits) (call : Call α ρ) (answer : Answer α ρ) :
    call.masked.onCreation limits answer.masked =
      (call.onCreation limits answer).map Conversation.Step.masked := by
  have hmade (id : Identity) (onCreate : List (Conversation.Call α ρ)) :
      (onCreate.map (·.masked)).zip
          ((Conversation.fresh id limits).performAll (onCreate.map (·.masked))).answers =
        (onCreate.zip ((Conversation.fresh id limits).performAll onCreate).answers).map
          Conversation.Step.masked := by
    rw [performAll_fresh_masked]
    exact List.zip_map
  match call, answer with
  | .findContext id create onCreate, .found (some (c, true)) => exact hmade id onCreate
  | .findOrCreate id onCreate, .found (some (c, true)) => exact hmade id onCreate
  | .findContext _ _ _, .found (some (_, false)) | .findContext _ _ _, .found none
  | .findOrCreate _ _, .found (some (_, false)) | .findOrCreate _ _, .found none => rfl
  | .findContext _ _ _, .done | .findContext _ _ _, .context _ | .findContext _ _ _, .removed _
  | .findOrCreate _ _, .done | .findOrCreate _ _, .context _ | .findOrCreate _ _, .removed _ => rfl
  | .onContext _ _, _ | .forget _, _ | .forgetFingerprint _ _ _, _ | .forgetAll, _ => rfl

def Report.masked (report : Report α ρ) : Report α ρ :=
  (report.1.masked, report.2.map Conversation.Step.masked)

theorem report_masked (call : Call α ρ) :
    r.masked.report call.masked = ((r.report call).map Report.masked).within masked := by
  have hlimits : r.masked.config.limits = r.config.limits := rfl
  simp only [report, perform_masked, Outcome.map_within, Outcome.map_map, Report.masked, hlimits,
    onCreation_masked]

theorem live_masked (config : Config) (calls : List (Call α ρ)) :
    (empty config).live (calls.map (·.masked)) =
      let lived := (empty config).live calls
      ⟨lived.answers.map (·.map Report.masked), lived.after.masked, lived.effects⟩ := by
  have hrun := History.run_image (fun (r : Registry α ρ) call => r.report_masked call)
    (empty config) calls
  rwa [masked_empty] at hrun

-- Masked answers are refused for the same reasons.
theorem refusals_masked (answers : List (Except Refusal (Report α ρ))) :
    (answers.map (·.map Report.masked)).map (·.map fun _ => ()) =
      answers.map (·.map fun _ => ()) := by
  rw [List.map_map]
  apply List.map_congr_left
  rintro (refusal | report) _
  · rfl
  · rfl

-- What differs in secret bytes only cannot be told apart, after any number of calls: the same ones
-- are refused, for the same reasons, also among those on a new conversation; answers differ in
-- secret bytes only; the same lines are logged and the same functions run; and diagnostics show the
-- same texts, of conversations and of all keys in them or on their way into them.
theorem secrets_unseen (config : Config) {calls calls' : List (Call α ρ)}
    (halike : calls.map (·.masked) = calls'.map (·.masked)) (n : Nat) :
    let lived := (empty config).live (calls.take n)
    let lived' := (empty config).live (calls'.take n)
    lived.answers.map (·.map fun _ => ()) = lived'.answers.map (·.map fun _ => ()) ∧
    lived.answers.map (·.map Report.masked) = lived'.answers.map (·.map Report.masked) ∧
    lived.effects = lived'.effects ∧
    lived.after.toList.map (·.diagnostics) = lived'.after.toList.map (·.diagnostics) ∧
    (∀ keys keys' : SessionKeys, keys.masked = keys'.masked →
      keys.diagnostic = keys'.diagnostic) ∧
    (∀ pair pair' : DhKeyPair, pair.masked = pair'.masked → pair.diagnostic = pair'.diagnostic) ∧
    ∀ value value' : PublicValue, value.masked = value'.masked →
      value.diagnostic = value'.diagnostic := by
  intro lived lived'
  have htake : (calls.take n).map (·.masked) = (calls'.take n).map (·.masked) := by
    rw [List.map_take, List.map_take, halike]
  have hlived := live_masked config (calls.take n)
  rw [htake, live_masked config (calls'.take n)] at hlived
  obtain ⟨hanswers, hafter, heffects⟩ := History.mk.inj hlived.symm
  refine ⟨?_, hanswers, heffects, ?_, ?_, ?_, ?_⟩
  · have hrefusals := congrArg (List.map (Except.map fun _ => ())) hanswers
    rwa [refusals_masked, refusals_masked] at hrefusals
  · have hshown (r : Registry α ρ) :
        r.masked.toList.map (·.diagnostics) = r.toList.map (·.diagnostics) := by
      rw [toList_masked, List.map_map]
      exact List.map_congr_left fun c _ => c.diagnostics_masked
    rw [← hshown lived.after, ← hshown lived'.after]
    exact congrArg (fun r => r.toList.map (·.diagnostics)) hafter
  · intro keys keys' hkeys
    exact congrArg (·.diagnostic) hkeys
  · intro pair pair' hpair
    rw [← pair.diagnostic_masked, ← pair'.diagnostic_masked, hpair]
  · intro value value' hvalue
    rw [← value.diagnostic_masked, ← value'.diagnostic_masked, hvalue]

section Exchange

open Sample (alice pairOf there keysOf)

-- Keys for which a counter of the peer was noted, and of which both MAC keys were used.
def spentOf (n : UInt8) : SessionKeys :=
  { keysOf n with
    recvCounter := ⟨Vector.replicate 8 n⟩
    sendMacUsed := true
    recvMacUsed := true }

-- With room for one MAC key and for secrets of two bytes. A secret is too long already while the
-- conversation is new; there is no room for the two used keys until the fall back wipes them.
def exchange (n : UInt8) : List (Call Nat Unit) :=
  [.findOrCreate alice [.rotate (pairOf n), .setPresharedSecret (some #[n, n, n])],
    .onContext alice (.setSessionKeys there (some (spentOf n))),
    .onContext alice (.setSessionKeys there none),
    .onContext alice (.saveMacKey (Vector.replicate 20 n)),
    .onContext alice .takeSavedMacKeys,
    .onContext alice .forceSetup,
    .onContext alice (.setSessionKeys there (some (keysOf n))),
    .forget alice]

-- The MAC keys that were handed over for revealing.
def handedOver? : Except Refusal (Report Nat Unit) → Option (Array UInt8)
  | .ok (.context (some (.bytes keys)), _) => some keys
  | _ => none

theorem secrets_unseen_exchange :
    let config : Config := { maxContexts := 1, limits := ⟨1, 20, 2⟩ }
    let lived (n : UInt8) := (empty config : Registry Nat Unit).live (exchange n)
    let refusals : List (Except Refusal Unit) :=
      [.ok (), .ok (), .error .savedMacKeysFull, .ok (), .ok (), .ok (), .ok (),
        .error (.notUnconnected .setup)]
    (exchange 7).map (·.masked) = (exchange 9).map (·.masked) ∧
      (lived 7).answers.filterMap handedOver? = [Array.replicate 20 7] ∧
      (lived 9).answers.filterMap handedOver? = [Array.replicate 20 9] ∧
      (lived 7).answers.map (·.map fun _ => ()) = refusals ∧
      (lived 9).answers.map (·.map fun _ => ()) = refusals ∧
      Effect.events (lived 9).effects =
        [.newContext alice, .forcedToSetup alice, .contextKept alice .setup] ∧
      (lived 7).after.toList.map (·.diagnostics) = (lived 9).after.toList.map (·.diagnostics) := by
  intro config lived refusals
  have halike : (exchange 7).map (·.masked) = (exchange 9).map (·.masked) := by
    simp [exchange, Call.masked, Conversation.Call.masked, SessionKeys.masked, SessionKeys.fresh,
      spentOf, keysOf, pairOf, DhKeyPair.masked, PublicValue.masked, zeroed]
  have hall (n : UInt8) : (exchange n).take 8 = exchange n := rfl
  obtain ⟨hrefusals, _, heffects, hshown, _⟩ := secrets_unseen config halike 8
  rw [hall, hall] at hrefusals heffects hshown
  have hseven : (lived 7).answers.map (·.map fun _ => ()) = refusals := by decide +kernel
  have hevents : Effect.events (lived 7).effects =
      [.newContext alice, .forcedToSetup alice, .contextKept alice .setup] := by decide +kernel
  refine ⟨halike, by decide +kernel, by decide +kernel, hseven, hrefusals.symm.trans hseven, ?_,
    hshown⟩
  exact (congrArg Effect.events heffects).symm.trans hevents

end Exchange

end Registry

end Parley
