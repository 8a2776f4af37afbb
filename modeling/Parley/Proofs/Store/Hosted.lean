import Parley.Proofs.Conversation.Bare
import Parley.Proofs.Fingerprint.Text
import Parley.Proofs.Identity
import Parley.Proofs.Registry.Drainage
import Parley.Proofs.Registry.Pinning
import Parley.Proofs.Store.Request

/-!
The conversations of a store. Main statement: whatever was asked of a store, none of them is in a
session or holds anything of one, so that a conversation goes unless its setup is under way, and a
fingerprint always.
-/

namespace Parley

namespace Registry

variable {α ρ : Type} {r : Registry α ρ} {id : Identity} {c : Conversation α ρ}

-- None of the conversations knows of a session.
def AllBare (r : Registry α ρ) : Prop :=
  ∀ ⦃id : Identity⦄ ⦃c : Conversation α ρ⦄, r.get? id = some c → c.Bare

-- The calls that bring nothing of a session.
def Call.isPreliminary : Call α ρ → Bool
  | .findContext _ _ onCreate | .findOrCreate _ onCreate =>
    onCreate.all Conversation.Call.isPreliminary
  | .onContext _ asked => asked.isPreliminary
  | .forget _ | .forgetFingerprint _ _ _ | .forgetAll => true

theorem allBare_empty (config : Config) : (empty config : Registry α ρ).AllBare := by
  intro id c hget
  rw [get?_empty] at hget
  cases hget

section Preservation

variable (h : r.AllBare)
include h

theorem AllBare.put (hc : c.Bare) : (r.put id c).AllBare := by
  intro other d hget
  rw [get?_put] at hget
  split at hget
  · cases hget
    exact hc
  · exact h hget

theorem AllBare.drop (id : Identity) : (r.drop id).AllBare := by
  intro other d hget
  rw [get?_drop] at hget
  split at hget
  · cases hget
  · exact h hget

theorem AllBare.findContext (id : Identity) (create : Bool)
    {onCreate : List (Conversation.Call α ρ)}
    (honCreate : onCreate.all Conversation.Call.isPreliminary = true) :
    (r.findContext id create onCreate).after.AllBare := by
  rcases r.after_findContext id create onCreate with hsame | ⟨_, _, _, hput⟩
  · rwa [hsame]
  · rw [hput]
    exact h.put ((Conversation.bare_fresh id r.config.limits).performAll honCreate)

theorem AllBare.onContext (id : Identity) {asked : Conversation.Call α ρ}
    (hasked : asked.isPreliminary = true) : (r.onContext id (·.perform asked)).after.AllBare := by
  rcases r.after_onContext id (·.perform asked) with hsame | ⟨c, hget, hput⟩
  · rwa [hsame]
  · rw [hput]
    exact h.put ((h hget).perform hasked)

theorem AllBare.forget (id : Identity) : (r.forget id).after.AllBare := by
  rcases r.after_forget id with hsame | hdropped
  · rwa [hsame]
  · rw [hdropped]
    exact h.drop id

theorem AllBare.forgetFingerprint (id : Identity) (target : Target) (cascade : Bool) :
    (r.forgetFingerprint id target cascade).after.AllBare := by
  rcases r.after_forgetFingerprint id target cascade with hsame | hdropped | ⟨c, f, hget, hput⟩
  · rwa [hsame]
  · rw [hdropped]
    exact h.drop id
  · rw [hput]
    exact h.put ((h hget).forgetFingerprint f)

theorem AllBare.perform {call : Call α ρ} (hcall : call.isPreliminary = true) :
    (r.perform call).after.AllBare := by
  cases call with
  | findContext id create onCreate => exact h.findContext id create hcall
  | findOrCreate id onCreate => exact h.findContext id true hcall
  | onContext id asked => exact h.onContext id hcall
  | forget id => exact h.forget id
  | forgetFingerprint id target cascade => exact h.forgetFingerprint id target cascade
  | forgetAll =>
    change r.forgetAll.after.AllBare
    rw [forgetAll_eq]
    exact allBare_empty r.config

end Preservation

end Registry

namespace Store

open Registry (AllBare Grown)

variable {s : Store} {call : Call} {id : Identity} {c : Conversation Unit Empty}

-- The registry grew from an empty one, and nothing in it knows of a session.
structure Hosted (r : Registry Unit Empty) : Prop where
  grown : Grown {} r
  bare : r.AllBare

theorem hosted_empty : Hosted (.empty {}) where
  grown := Registry.grown_empty
  bare := Registry.allBare_empty {}

-- Of all that can be asked of a registry a store asks only what needs no session.
theorem Call.isPreliminary_of_request {request : Registry.Call Unit Empty}
    (hrequest : call.request? = some request) : request.isPreliminary = true := by
  cases call with
  | addFingerprint _ _ | setTrust _ _ _ | forgetFingerprint _ _ _ =>
    obtain ⟨f, _, rfl⟩ := Option.map_eq_some_iff.mp hrequest
    rfl
  | contextCount | contextState _ | listFingerprints _ | getTrust _ _ => cases hrequest
  | _ =>
    cases hrequest
    rfl

theorem Hosted.perform (h : Hosted s.registry) (call : Call) :
    Hosted (s.perform call).after.registry := by
  rw [registry_perform h.grown]
  cases hrequest : call.request? with
  | none => exact h
  | some request =>
    exact
      { grown := h.grown.perform request
        bare := h.bare.perform (Call.isPreliminary_of_request hrequest) }

theorem hosted_performAll (calls : List Call) :
    Hosted (empty.performAll calls).after.registry := by
  have hstep (s : Store) (call : Call) (h : Hosted s.registry) :
      Hosted (s.perform call).after.registry := h.perform call
  exact History.run_keeps hstep hosted_empty calls

-- A bad identity has no conversation anyway.
theorem Hosted.context?_eq (h : Hosted s.registry) (id : Identity) :
    s.context? id = s.registry.get? id := by
  cases hid : id.validated with
  | error refusal =>
    rw [h.grown.get?_of_invalid hid]
    simp [context?, Registry.find?, hid, Except.map]
  | ok valid =>
    obtain rfl := ((id.validated_eq_ok_iff valid).mp hid).1
    simp [context?, Registry.find?, hid, Except.map]

section Absent

-- The reasons for which there is no conversation to be asked.
def absences : List Refusal :=
  ["username", "accountname", "protocol"].map Refusal.missingField ++ [.unknownContext]

variable {β : Type} (hget : s.registry.get? id = none)
include hget

theorem onContext_of_none (act : Conversation Unit Empty → Conversation.Reply Unit Empty β) :
    ∃ refusal ∈ absences, s.onContext id act = .refused refusal s.registry [] := by
  cases hid : id.validated with
  | error refusal =>
    exact ⟨refusal, List.mem_append_left _ (Identity.refusal_of_invalid hid),
      onContext_of_invalid hid⟩
  | ok valid =>
    obtain rfl := ((id.validated_eq_ok_iff valid).mp hid).1
    exact ⟨.unknownContext, by decide, onContext_of_absent hid hget⟩

theorem onIdentity_of_none (target : Registry.Target) (cascade : Bool) :
    ∃ refusal ∈ absences,
      (s.onIdentity id fun id => s.registry.forgetFingerprint id target cascade) =
        .refused refusal s.registry [] := by
  cases hid : id.validated with
  | error refusal =>
    exact ⟨refusal, List.mem_append_left _ (Identity.refusal_of_invalid hid),
      onIdentity_of_invalid hid⟩
  | ok valid =>
    obtain rfl := ((id.validated_eq_ok_iff valid).mp hid).1
    refine ⟨.unknownContext, by decide, ?_⟩
    rw [onIdentity_of_valid hid, Registry.forgetFingerprint_of_absent hget]

end Absent

section Removing

variable (h : Hosted s.registry)
include h

theorem Hosted.contextState_ne (id : Identity) :
    s.contextState id ≠ some ConnectionState.connected.code := by
  intro hcode
  rw [contextState, h.context?_eq] at hcode
  obtain ⟨c, hget, hstate⟩ := Option.map_eq_some_iff.mp hcode
  rcases (h.bare hget).state with heq | heq
  · rw [heq] at hstate
    cases hstate
  · rw [heq] at hstate
    cases hstate

theorem Hosted.perform_forgetContext (hget : s.registry.get? id = some c) :
    s.perform (.forgetContext id) =
      if c.state = .setup then
        .done s (.flag false) [complaint "forgetContext" (.notUnconnected .setup)]
      else .done ⟨s.registry.drop id⟩ (.flag true) [] := by
  have hid := h.grown.valid hget
  rw [Store.perform, forgetContext, onIdentity_of_valid hid]
  rcases (h.bare hget).state with hstate | hstate
  · have hne : c.state ≠ .setup := by simp [hstate]
    rw [Registry.forget_of_unconnected hget hstate, if_neg hne]
    rfl
  · have hne : c.state ≠ .unconnected := by simp [hstate]
    rw [Registry.forget_of_kept hget hne, if_pos hstate, hstate]
    rfl

end Removing

section Fingerprints

variable {bytes : Array UInt8} {f : Fingerprint} (hf : Fingerprint.ofBytes bytes = .ok f)
  (cascade : Bool)
include hf

theorem perform_forgetFingerprint : s.perform (.forgetFingerprint id bytes cascade) =
    (reporting "forgetFingerprint"
      (s.onIdentity id fun id => s.registry.forgetFingerprint id (.entry f) cascade)
      (· ≠ .nothing)).map .flag := by
  simp only [perform, forgetFingerprint, withFingerprint, hf]

theorem forgetFingerprint_of_none (hget : s.registry.get? id = none) :
    ∃ refusal ∈ absences, s.perform (.forgetFingerprint id bytes cascade) =
      .done s (.flag false) [complaint "forgetFingerprint" refusal] := by
  obtain ⟨refusal, hmem, heq⟩ := onIdentity_of_none hget (.entry f) cascade
  refine ⟨refusal, hmem, ?_⟩
  rw [perform_forgetFingerprint hf, heq]
  rfl

variable (h : Hosted s.registry) (hget : s.registry.get? id = some c)
include h hget

theorem Hosted.forgetFingerprint_of_unlisted (hmem : f ∉ c.known.fingerprints) :
    s.perform (.forgetFingerprint id bytes cascade) =
      .done s (.flag false) [complaint "forgetFingerprint" .unknownFingerprint] := by
  have hrefused := (h.bare hget).forgetFingerprint_of_not_mem (h.grown.guarded hget) hmem
  have hanswer : (c.forgetFingerprint f).answer = .error .unknownFingerprint := by
    rw [hrefused]
    rfl
  have hput : s.registry.put id (c.forgetFingerprint f).after = s.registry := by
    rw [hrefused]
    exact Registry.put_of_get? hget
  rw [perform_forgetFingerprint hf, onIdentity_of_valid (h.grown.valid hget),
    Registry.forgetFingerprint_of_refused hget hanswer, hput]
  rfl

theorem Hosted.forgetFingerprint_of_listed (hmem : f ∈ c.known.fingerprints) :
    s.perform (.forgetFingerprint id bytes cascade) =
      .done ⟨if cascade = true ∧ c.state = .unconnected ∧ c.known.fingerprints = [f]
          then s.registry.drop id
          else s.registry.put id { c with known := (c.known.remove f).2 }⟩ (.flag true) [] := by
  have hguarded := h.grown.guarded hget
  have hforgotten := (h.bare hget).forgetFingerprint_of_mem hguarded hmem
  have hanswer : (c.forgetFingerprint f).answer = .ok () := by
    rw [hforgotten]
    rfl
  have hcascades : Registry.Cascades cascade (c.forgetFingerprint f).after ↔
      cascade = true ∧ c.state = .unconnected ∧ c.known.fingerprints = [f] := by
    rw [hforgotten, ← hguarded.numbered.isEmpty_remove_iff hmem]
    rfl
  rw [perform_forgetFingerprint hf, onIdentity_of_valid (h.grown.valid hget)]
  by_cases hgoes : cascade = true ∧ c.state = .unconnected ∧ c.known.fingerprints = [f]
  · rw [if_pos hgoes, Registry.forgetFingerprint_of_cascades hget hanswer (hcascades.mpr hgoes),
      Registry.drop_put]
    rfl
  · rw [if_neg hgoes,
      Registry.forgetFingerprint_of_removed hget hanswer (hcascades.not.mpr hgoes), hforgotten]
    rfl

end Fingerprints

-- Taking out a fingerprint is refused only where there is none to take out.
theorem Hosted.effects_forgetFingerprint (h : Hosted s.registry) (id : Identity)
    (bytes : Array UInt8) (cascade : Bool) :
    (s.perform (.forgetFingerprint id bytes cascade)).effects = [] ∨
      ∃ refusal ∈ .unknownFingerprint :: absences,
        (s.perform (.forgetFingerprint id bytes cascade)).effects =
          [complaint "forgetFingerprint" refusal] := by
  cases hf : Fingerprint.ofBytes bytes with
  | error error =>
    rw [Store.perform, Store.forgetFingerprint, withFingerprint, hf]
    exact Or.inl rfl
  | ok f =>
    cases hget : s.registry.get? id with
    | none =>
      obtain ⟨refusal, hmem, heq⟩ := forgetFingerprint_of_none hf cascade hget
      rw [heq]
      exact Or.inr ⟨refusal, List.mem_cons_of_mem _ hmem, rfl⟩
    | some c =>
      by_cases hmem : f ∈ c.known.fingerprints
      · rw [h.forgetFingerprint_of_listed hf cascade hget hmem]
        exact Or.inl rfl
      · rw [h.forgetFingerprint_of_unlisted hf cascade hget hmem]
        exact Or.inr ⟨_, List.mem_cons_self, rfl⟩

theorem Hosted.not_in_use (h : Hosted s.registry) (id : Identity) (bytes : Array UInt8)
    (cascade : Bool) : complaint "forgetFingerprint" .fingerprintInUse ∉
      (s.perform (.forgetFingerprint id bytes cascade)).effects := by
  have hother : ∀ refusal ∈ .unknownFingerprint :: absences,
      complaint "forgetFingerprint" .fingerprintInUse ≠
        complaint "forgetFingerprint" refusal := by decide +kernel
  rcases h.effects_forgetFingerprint id bytes cascade with heq | ⟨refusal, hmem, heq⟩
  · rw [heq]
    exact List.not_mem_nil
  · rw [heq, List.mem_singleton]
    exact hother refusal hmem

-- However a store came to be as it is: no conversation is connected or holds anything of a session.
-- So a conversation goes exactly unless its setup is under way; and a listed fingerprint is always
-- taken out, the conversation with it exactly if this is asked for, it is unconnected, and this
-- fingerprint was its last.
theorem never_connected (calls : List Call) :
    let s := (empty.performAll calls).after
    (∀ id c, s.registry.get? id = some c → c.Bare ∧ c.active? = none) ∧
    (∀ id, s.contextState id ≠ some 2) ∧
    (∀ id bytes cascade, complaint "forgetFingerprint" .fingerprintInUse ∉
      (s.perform (.forgetFingerprint id bytes cascade)).effects) ∧
    (∀ id c, s.registry.get? id = some c →
      s.perform (.forgetContext id) =
        if c.state = .setup then
          .done s (.flag false) [complaint "forgetContext" (.notUnconnected .setup)]
        else .done ⟨s.registry.drop id⟩ (.flag true) []) ∧
    (∀ id c bytes f cascade, s.registry.get? id = some c → Fingerprint.ofBytes bytes = .ok f →
      f ∈ c.known.fingerprints →
      s.perform (.forgetFingerprint id bytes cascade) =
        .done ⟨if cascade = true ∧ c.state = .unconnected ∧ c.known.fingerprints = [f]
            then s.registry.drop id
            else s.registry.put id { c with known := (c.known.remove f).2 }⟩ (.flag true) []) := by
  intro s
  have h : Hosted s.registry := hosted_performAll calls
  exact ⟨fun id c hget => ⟨h.bare hget, (h.bare hget).active?_eq_none⟩, h.contextState_ne,
    h.not_in_use, fun id c hget => h.perform_forgetContext hget,
    fun id c bytes f cascade hget hf hmem => h.forgetFingerprint_of_listed hf cascade hget hmem⟩

section Hosting

open Sample (alice bob older)

-- Alice has one fingerprint; with Bob the setup is under way.
def hosting : List Call :=
  [.findContext alice true, .addFingerprint alice older.bytes.toArray, .findContext bob true,
    .forceSetup bob]

theorem never_connected_hosting :
    let s := (empty.performAll hosting).after
    s.perform (.forgetContext bob) = .done s (.flag false)
      ["[WASM] forgetContext failed: Context is not unconnected (state: Setting up)"] ∧
    ∃ c, s.registry.get? alice = some c ∧ c.Bare ∧
      s.perform (.forgetContext alice) = .done ⟨s.registry.drop alice⟩ (.flag true) [] ∧
      s.perform (.forgetFingerprint alice older.bytes.toArray true) =
        .done ⟨s.registry.drop alice⟩ (.flag true) [] ∧
      s.perform (.forgetFingerprint alice older.bytes.toArray false) =
        .done ⟨s.registry.put alice { c with known := (c.known.remove older).2 }⟩
          (.flag true) [] := by
  intro s
  obtain ⟨hbare, _, _, hcontext, hfingerprint⟩ := never_connected hosting
  have halice : (s.registry.get? alice).map (fun c => (c.state, c.known.fingerprints)) =
      some (.unconnected, [older]) := by decide +kernel
  have hbob : (s.registry.get? bob).map (·.state) = some .setup := by decide +kernel
  obtain ⟨c, hget, hc⟩ := Option.map_eq_some_iff.mp halice
  obtain ⟨hstate, hlisted⟩ := Prod.mk.inj hc
  obtain ⟨d, hgetBob, hstateBob⟩ := Option.map_eq_some_iff.mp hbob
  have hmem : older ∈ c.known.fingerprints := by simp [hlisted]
  have hone (cascade : Bool) := 
    hfingerprint alice c _ older cascade hget older.ofBytes_toArray hmem
  refine ⟨?_, c, hget, (hbare alice c hget).1, ?_, ?_, ?_⟩
  · rw [hcontext bob d hgetBob, if_pos hstateBob]
    rfl
  · rw [hcontext alice c hget, hstate]
    rfl
  · rw [hone true, if_pos ⟨rfl, hstate, hlisted⟩]
  · rw [hone false, if_neg fun h => Bool.false_ne_true h.1]

end Hosting

end Store

end Parley
