import Parley.Proofs.Registry.Creation
import Parley.Proofs.Registry.Pinning

/-!
What can take a conversation or a fingerprint away. Main statement: a conversation goes only while
it is unconnected, and only by a call that names it; a fingerprint goes only by a call that names it
and its conversation, never while it backs a session, and leaves all others as they are.
-/

namespace Parley

namespace Conversation

variable {α ρ : Type} {c : Conversation α ρ} {f : Fingerprint}

-- The fingerprint is gone, was not in use, and nothing else of the list has changed.
structure GaveUp (c c' : Conversation α ρ) (f : Fingerprint) : Prop where
  free : c.active?.map (·.fingerprint) ≠ some f
  rest : c'.known.toList = c.known.toList.filter fun entry => entry.fingerprint ≠ f

theorem Guarded.active?_ne (h : c.Guarded) (hpinned : c.pinned ≠ some f) :
    c.active?.map (·.fingerprint) ≠ some f := by
  by_cases hstate : c.state = .connected
  · obtain ⟨g, entry, _, hg, hentry, hactive⟩ := h.exists_active? hstate
    rw [hactive, Option.map_some, hentry, ← hg]
    exact hpinned
  · simp [active?, hstate]

theorem Guarded.gaveUp_forgetFingerprint (h : c.Guarded) (hmem : f ∈ c.known.fingerprints)
    {g : Fingerprint} (hgone : f ∉ (c.forgetFingerprint g).after.known.fingerprints) :
    g = f ∧ GaveUp c (c.forgetFingerprint g).after f := by
  rcases h.forgetFingerprint_cases g with ⟨_, _, heq⟩ | ⟨_, _, heq⟩ | ⟨hpinned, _, heq⟩
  · rw [heq] at hgone
    exact absurd hmem hgone
  · rw [heq] at hgone
    exact absurd hmem hgone
  · rw [heq] at hgone ⊢
    have hgf : g = f := by
      by_contra hne
      apply hgone
      change f ∈ (c.known.remove g).2.fingerprints
      rw [h.numbered.fingerprints_remove, List.mem_filter]
      exact ⟨hmem, decide_eq_true (Ne.symm hne)⟩
    subst hgf
    exact ⟨rfl, h.active?_ne hpinned, h.numbered.toList_remove g⟩

-- A call that asks for no removal keeps every fingerprint.
theorem Guarded.mem_fingerprints_perform (h : c.Guarded) (hmem : f ∈ c.known.fingerprints)
    {call : Call α ρ} (hcall : ∀ g, call ≠ .forgetFingerprint g) :
    f ∈ (c.perform call).after.known.fingerprints := by
  cases call with
  | addFingerprint g =>
    change f ∈ (c.addFingerprint g).after.known.fingerprints
    rcases c.known_addFingerprint g with hsame | hfound
    · rwa [hsame]
    · rw [hfound, h.numbered.fingerprints_findOrInsert]
      split
      · exact hmem
      · exact List.mem_cons_of_mem g hmem
  | setTrust g label =>
    change f ∈ (c.setTrust g label).2.known.fingerprints
    rcases c.known_setTrust g label with hsame | hlabelled
    · rwa [hsame]
    · rwa [hlabelled, h.numbered.fingerprints_setTrust]
  | forgetFingerprint g => exact absurd rfl (hcall g)
  | _ => rwa [after_perform]

theorem Guarded.gaveUp_perform (h : c.Guarded) (hmem : f ∈ c.known.fingerprints) {call : Call α ρ}
    (hgone : f ∉ (c.perform call).after.known.fingerprints) :
    call = .forgetFingerprint f ∧ GaveUp c (c.perform call).after f := by
  by_cases hcall : ∀ g, call ≠ .forgetFingerprint g
  · exact absurd (h.mem_fingerprints_perform hmem hcall) hgone
  · simp only [not_forall, not_not] at hcall
    obtain ⟨g, rfl⟩ := hcall
    obtain ⟨rfl, hgaveUp⟩ := h.gaveUp_forgetFingerprint hmem hgone
    exact ⟨rfl, hgaveUp⟩

-- What is left without any fingerprint had only this one.
theorem Guarded.fingerprints_eq_singleton (h : c.Guarded)
    (hremoved : (c.forgetFingerprint f).answer = .ok ())
    (hempty : (c.forgetFingerprint f).after.known.isEmpty = true) :
    c.known.fingerprints = [f] := by
  rcases h.forgetFingerprint_cases f with ⟨_, _, heq⟩ | ⟨_, _, heq⟩ | ⟨_, hmem, heq⟩
  · rw [heq] at hremoved
    cases hremoved
  · rw [heq] at hremoved
    cases hremoved
  · rw [heq] at hempty
    exact (h.numbered.isEmpty_remove_iff hmem).mp hempty

end Conversation

namespace Registry

open Conversation (Guarded GaveUp)

variable {α ρ : Type} {r : Registry α ρ} {id : Identity} {c : Conversation α ρ}

-- The calls that can take away the conversation, as it is.
def Call.Takes (call : Call α ρ) (id : Identity) (c : Conversation α ρ) : Prop :=
  call = .forget id ∨ call = .forgetFingerprint id .root true ∨
    ∃ f, call = .forgetFingerprint id (.entry f) true ∧ c.known.fingerprints = [f]

-- The calls that can take away one fingerprint of a conversation.
def Call.TakesFingerprint (call : Call α ρ) (id : Identity) (f : Fingerprint) : Prop :=
  call = .onContext id (.forgetFingerprint f) ∨
    ∃ cascade, call = .forgetFingerprint id (.entry f) cascade

-- What becomes of a conversation in one call.
inductive Fate (call : Call α ρ) (id : Identity) (c : Conversation α ρ) :
    Option (Conversation α ρ) → Prop where
  | untouched : Fate call id c (some c)
  | asked (asked : Conversation.Call α ρ) (hcall : call = .onContext id asked) :
    Fate call id c (some (c.perform asked).after)
  | fingerprint (f : Fingerprint) (cascade : Bool)
    (hcall : call = .forgetFingerprint id (.entry f) cascade) :
    Fate call id c (some (c.forgetFingerprint f).after)
  | taken (hstate : c.state = .unconnected) (hcall : call.Takes id c) : Fate call id c none

section Found

variable (hget : r.get? id = some c)
include hget

theorem fate_findContext (call : Call α ρ) (other : Identity) (create : Bool)
    (onCreate : List (Conversation.Call α ρ)) :
    Fate call id c ((r.findContext other create onCreate).after.get? id) := by
  rcases r.after_findContext other create onCreate with hsame | ⟨_, habsent, _, hput⟩
  · rw [hsame, hget]
    exact .untouched
  · have hne : other ≠ id := by
      rintro rfl
      rw [hget] at habsent
      cases habsent
    rw [hput, get?_put_of_ne hne, hget]
    exact .untouched

theorem fate_onContext (other : Identity) (asked : Conversation.Call α ρ) :
    Fate (.onContext other asked) id c
      ((r.perform (.onContext other asked)).after.get? id) := by
  change Fate _ id c ((r.onContext other (·.perform asked)).after.get? id)
  by_cases hne : other = id
  · subst hne
    rcases r.after_onContext other (·.perform asked) with hsame | ⟨d, hd, hput⟩
    · rw [hsame, hget]
      exact .untouched
    · obtain rfl : c = d := Option.some.inj (hget.symm.trans hd)
      rw [hput, get?_put_self]
      exact .asked asked rfl
  · rw [get?_onContext_of_ne hne, hget]
    exact .untouched

theorem fate_forget {call : Call α ρ} {other : Identity} (hcall : other = id → call.Takes id c) :
    Fate call id c ((r.forget other).after.get? id) := by
  by_cases hne : other = id
  · subst hne
    by_cases hstate : c.state = .unconnected
    · rw [forget_of_unconnected hget hstate]
      change Fate call other c ((r.drop other).get? other)
      rw [get?_drop_self]
      exact .taken hstate (hcall rfl)
    · rw [forget_of_kept hget hstate]
      change Fate call other c (r.get? other)
      rw [hget]
      exact .untouched
  · rw [get?_forget_of_ne hne, hget]
    exact .untouched

theorem fate_forgetFingerprint (hguarded : c.Guarded) (f : Fingerprint) (cascade : Bool) :
    Fate (.forgetFingerprint id (.entry f) cascade) id c
      ((r.forgetFingerprint id (.entry f) cascade).after.get? id) := by
  cases hanswer : (c.forgetFingerprint f).answer with
  | error refusal =>
    rw [forgetFingerprint_of_refused hget hanswer]
    change Fate _ id c ((r.put id _).get? id)
    rw [get?_put_self]
    exact .fingerprint f cascade rfl
  | ok _ =>
    by_cases hcascades : Cascades cascade (c.forgetFingerprint f).after
    · rw [forgetFingerprint_of_cascades hget hanswer hcascades]
      change Fate _ id c (((r.put id _).drop id).get? id)
      rw [get?_drop_self]
      obtain ⟨rfl, hstate, hempty⟩ := hcascades
      have hlast := hguarded.fingerprints_eq_singleton hanswer hempty
      exact .taken (c.state_forgetFingerprint f ▸ hstate) (Or.inr (Or.inr ⟨f, rfl, hlast⟩))
    · rw [forgetFingerprint_of_removed hget hanswer hcascades]
      change Fate _ id c ((r.put id _).get? id)
      rw [get?_put_self]
      exact .fingerprint f cascade rfl

-- All that one call can do to a conversation, short of emptying the registry.
theorem fate_perform (hguarded : c.Guarded) {call : Call α ρ} (hne : call ≠ .forgetAll) :
    Fate call id c ((r.perform call).after.get? id) := by
  cases call with
  | findContext other create onCreate => exact fate_findContext hget _ other create onCreate
  | findOrCreate other onCreate => exact fate_findContext hget _ other true onCreate
  | onContext other asked => exact fate_onContext hget other asked
  | forget other => exact fate_forget hget fun h => Or.inl (by rw [h])
  | forgetFingerprint other target cascade =>
    change Fate _ id c ((r.forgetFingerprint other target cascade).after.get? id)
    by_cases hother : other = id
    · subst hother
      cases target with
      | root =>
        rw [forgetFingerprint_root hget]
        cases cascade with
        | false =>
          change Fate _ other c (r.get? other)
          rw [hget]
          exact .untouched
        | true => exact fate_forget hget fun _ => Or.inr (Or.inl rfl)
      | entry f => exact fate_forgetFingerprint hget hguarded f cascade
    · rw [get?_forgetFingerprint_of_ne hother, hget]
      exact .untouched
  | forgetAll => exact absurd rfl hne

end Found

section Fate

variable {call : Call α ρ} {after : Option (Conversation α ρ)} (h : Fate call id c after)
include h

theorem Fate.of_none (hafter : after = none) : c.state = .unconnected ∧ call.Takes id c := by
  cases h with
  | taken hstate hcall => exact ⟨hstate, hcall⟩
  | _ => cases hafter

theorem Fate.of_gone (hguarded : c.Guarded) {c' : Conversation α ρ} (hafter : after = some c')
    {f : Fingerprint} (hmem : f ∈ c.known.fingerprints) (hgone : f ∉ c'.known.fingerprints) :
    call.TakesFingerprint id f ∧ GaveUp c c' f := by
  cases h with
  | untouched =>
    cases hafter
    exact absurd hmem hgone
  | asked asked hcall =>
    cases hafter
    obtain ⟨rfl, hgaveUp⟩ := hguarded.gaveUp_perform hmem hgone
    exact ⟨Or.inl hcall, hgaveUp⟩
  | fingerprint g cascade hcall =>
    cases hafter
    obtain ⟨rfl, hgaveUp⟩ := hguarded.gaveUp_forgetFingerprint hmem hgone
    exact ⟨Or.inr ⟨cascade, hcall⟩, hgaveUp⟩
  | taken => cases hafter

-- A call that names neither the conversation nor a fingerprint of it to be taken away.
theorem Fate.exists_of_untaken (hguarded : c.Guarded) (hcontext : ¬ call.Takes id c)
    (hfingerprint : ∀ f, ¬ call.TakesFingerprint id f) :
    ∃ c', after = some c' ∧ ∀ f ∈ c.known.fingerprints, f ∈ c'.known.fingerprints := by
  cases hafter : after with
  | none => exact absurd (h.of_none hafter).2 hcontext
  | some c' =>
    refine ⟨c', rfl, fun f hmem => ?_⟩
    by_contra hgone
    exact hfingerprint f (h.of_gone hguarded hafter hmem hgone).1

end Fate

-- In every registry, short of being emptied: a conversation goes only while it is unconnected, and
-- only by a call that takes it; a fingerprint goes only by a call that takes it, never while it
-- backs a session, and the others stay as they are; every other call takes nothing. The calls made
-- on a new conversation are no way around this: they are the same calls made on it later.
theorem destruction_guarded (config : Config) (earlier : List (Call α ρ)) :
    let r : Registry α ρ := ((empty config).performAll earlier).after
    (∀ call id c, call ≠ .forgetAll → r.get? id = some c →
      ((r.perform call).after.get? id = none → c.state = .unconnected ∧ call.Takes id c) ∧
      (∀ c', (r.perform call).after.get? id = some c' →
        ∀ f ∈ c.known.fingerprints, f ∉ c'.known.fingerprints →
          call.TakesFingerprint id f ∧ GaveUp c c' f)) ∧
    (∀ call, call ≠ .forgetAll → (∀ id c, ¬ call.Takes id c) →
      (∀ id f, ¬ call.TakesFingerprint id f) → ∀ id c, r.get? id = some c →
        ∃ c', (r.perform call).after.get? id = some c' ∧
          ∀ f ∈ c.known.fingerprints, f ∈ c'.known.fingerprints) ∧
    (∀ id onCreate, id.validated = .ok id → r.get? id = none → r.isFull = false →
      let apart := r.performAll (.findContext id true [] :: onCreate.map (.onContext id))
      (r.perform (.findContext id true onCreate)).after = apart.after ∧
        (r.perform (.findOrCreate id onCreate)).after = apart.after) := by
  intro r
  have hgrown : Grown config r := grown_performAll config earlier
  refine ⟨fun call id c hne hget => ⟨?_, ?_⟩, ?_, ?_⟩
  · intro hnone
    exact (fate_perform hget (hgrown.guarded hget) hne).of_none hnone
  · intro c' hget' f hmem hgone
    have hguarded := hgrown.guarded hget
    exact (fate_perform hget hguarded hne).of_gone hguarded hget' hmem hgone
  · intro call hne hcontext hfingerprint id c hget
    have hguarded := hgrown.guarded hget
    exact (fate_perform hget hguarded hne).exists_of_untaken hguarded (hcontext id c)
      (hfingerprint id)
  · intro id onCreate hid hget hroom
    have hafter := (findContext_eq_performAll hid hget hroom onCreate).1
    exact ⟨hafter, hafter⟩

section Parting

open Sample (alice bob older newer)

-- Alice is unconnected with one fingerprint; with Bob a session is on that the newer one backs.
def parting : List (Call Nat Unit) :=
  [.findOrCreate alice [.addFingerprint older],
    .findOrCreate bob [.addFingerprint older, .addFingerprint newer, .forceSetup,
      .setTrust newer (some "verified"), .markConnected newer]]

theorem destruction_guarded_parting :
    let r : Registry Nat Unit := ((empty {}).performAll parting).after
    let last : Call Nat Unit := .forgetFingerprint alice (.entry older) true
    let spare : Call Nat Unit := .onContext bob (.forgetFingerprint older)
    (∃ c, r.get? alice = some c ∧ (r.perform last).after.get? alice = none ∧
      c.state = .unconnected ∧ last.Takes alice c) ∧
    (∃ c c', r.get? bob = some c ∧ (r.perform spare).after.get? bob = some c' ∧
      older ∈ c.known.fingerprints ∧ older ∉ c'.known.fingerprints ∧
      spare.TakesFingerprint bob older ∧ GaveUp c c' older) ∧
    (∃ c c', r.get? bob = some c ∧ (r.perform (.forgetFingerprint bob .root false)).after.get? bob =
      some c' ∧ ∀ f ∈ c.known.fingerprints, f ∈ c'.known.fingerprints) := by
  intro r last spare
  obtain ⟨hguarded, hothers, _⟩ := destruction_guarded {} parting
  have halice : (r.get? alice).isSome = true := by decide +kernel
  have hbob : (r.get? bob).map (fun c => decide (older ∈ c.known.fingerprints)) = some true := by
    decide +kernel
  have hbob' : ((r.perform spare).after.get? bob).map
      (fun c => decide (older ∉ c.known.fingerprints)) = some true := by decide +kernel
  obtain ⟨a, ha⟩ := Option.isSome_iff_exists.mp halice
  obtain ⟨c, hc, hmem⟩ := Option.map_eq_some_iff.mp hbob
  obtain ⟨c', hc', hgone⟩ := Option.map_eq_some_iff.mp hbob'
  have hnone : (r.perform last).after.get? alice = none := by
    rw [← Option.isNone_iff_eq_none]
    decide +kernel
  have hmem := of_decide_eq_true hmem
  have hgone := of_decide_eq_true hgone
  obtain ⟨hstate, htakes⟩ := (hguarded last alice a (fun h => nomatch h) ha).1 hnone
  obtain ⟨htaken, hgaveUp⟩ :=
    (hguarded spare bob c (fun h => nomatch h) hc).2 c' hc' older hmem hgone
  obtain ⟨d, hd, hkept⟩ := hothers (.forgetFingerprint bob .root false) (fun h => nomatch h)
    (by rintro id c (h | h | ⟨_, h, _⟩) <;> cases h) (by rintro id f (h | ⟨_, h⟩) <;> cases h)
    bob c hc
  exact ⟨⟨a, ha, hnone, hstate, htakes⟩, ⟨c, c', hc, hc', hmem, hgone, htaken, hgaveUp⟩,
    ⟨c, d, hc, hd, hkept⟩⟩

end Parting

end Registry

end Parley
