import Parley.Proofs.Registry.Bounds
import Parley.Proofs.Registry.Record
import Parley.Proofs.Store.Hosted

/-!
What a store shows of a fingerprint. Main statement: whatever was asked of a store, all its methods
agree on which fingerprints are known of an identity; the list shows each of them once, in a text
that reads back; and the label is the one that was given last since the fingerprint was added.
-/

namespace Parley

namespace Store

open Registry (Grown)

-- What was asked and how it was answered.
abbrev Step := Call × Except String Answer

-- The latest first.
abbrev Past := List Step

variable {s : Store} {id : Identity} {c : Conversation Unit Empty} {bytes : Array UInt8}
  {f : Fingerprint}

section Listing

variable (h : Hosted s.registry)
include h

theorem Hosted.listFingerprints_of_none (hget : s.registry.get? id = none) :
    s.listFingerprints id = [] := by
  rw [listFingerprints, h.context?_eq, hget]

theorem Hosted.listFingerprints_of_some (hget : s.registry.get? id = some c) :
    s.listFingerprints id = c.known.fingerprints.map Fingerprint.display := by
  rw [listFingerprints, h.context?_eq, hget, KnownFingerprints.fingerprints, List.map_map]
  rfl

theorem Hosted.known?_isSome_iff (hget : s.registry.get? id = some c) :
    (s.registry.known? id f).isSome = true ↔ f ∈ c.known.fingerprints := by
  have hnumbered := (h.grown.guarded hget).numbered
  rw [Registry.known?_of_get? hget, ← hnumbered.contains_eq_isSome, hnumbered.contains_iff]

-- What is shown is known, and the other way round.
theorem Hosted.mem_listFingerprints_iff :
    f.display ∈ s.listFingerprints id ↔ (s.registry.known? id f).isSome = true := by
  cases hget : s.registry.get? id with
  | none => simp [h.listFingerprints_of_none hget, Registry.known?, hget]
  | some c =>
    rw [h.listFingerprints_of_some hget, h.known?_isSome_iff hget,
      List.mem_map_of_injective Fingerprint.display_injective]

theorem Hosted.nodup_listFingerprints (id : Identity) : (s.listFingerprints id).Nodup := by
  cases hget : s.registry.get? id with
  | none =>
    rw [h.listFingerprints_of_none hget]
    exact List.nodup_nil
  | some c =>
    rw [h.listFingerprints_of_some hget]
    exact (h.grown.guarded hget).numbered.nodup_fingerprints.map Fingerprint.display_injective

-- A text in the list is the text of one known fingerprint and of no other.
theorem Hosted.read_of_mem {shown : String} (hmem : shown ∈ s.listFingerprints id) :
    ∃ f, Fingerprint.read shown = .ok f ∧
      ∀ g, (s.registry.known? id g).isSome = true ∧ g.display = shown ↔ g = f := by
  cases hget : s.registry.get? id with
  | none =>
    rw [h.listFingerprints_of_none hget] at hmem
    cases hmem
  | some c =>
    rw [h.listFingerprints_of_some hget] at hmem
    obtain ⟨f, hf, rfl⟩ := List.mem_map.mp hmem
    refine ⟨f, f.read_display, fun g => ⟨fun hg => Fingerprint.display_injective hg.2, ?_⟩⟩
    rintro rfl
    exact ⟨(h.known?_isSome_iff hget).mpr hf, rfl⟩

end Listing

-- What the methods do on a fingerprint, without a conversation and with one.
section Methods

variable (hf : Fingerprint.ofBytes bytes = .ok f) (label : Option String)
include hf

theorem perform_addFingerprint : s.perform (.addFingerprint id bytes) =
    (throwing (s.onContext id (·.addFingerprint f)) (·.2)).map .flag := by
  simp only [perform, addFingerprint, withFingerprint, hf]

theorem perform_setTrust : s.perform (.setTrust id bytes label) =
    (reporting "setTrust"
      (s.onContext id fun c => .done (c.setTrust f label).2 (c.setTrust f label).1 [])
      fun known => known).map .flag := by
  simp only [perform, setTrust, withFingerprint, hf]

theorem addFingerprint_of_none (hget : s.registry.get? id = none) :
    ∃ refusal ∈ absences, s.perform (.addFingerprint id bytes) =
      .refused refusal.message s [] := by
  obtain ⟨refusal, hmem, heq⟩ :=
    onContext_of_none hget fun c : Conversation Unit Empty => c.addFingerprint f
  refine ⟨refusal, hmem, ?_⟩
  rw [perform_addFingerprint hf, heq]
  rfl

theorem setTrust_of_none (hget : s.registry.get? id = none) :
    ∃ refusal ∈ absences, s.perform (.setTrust id bytes label) =
      .done s (.flag false) [complaint "setTrust" refusal] := by
  obtain ⟨refusal, hmem, heq⟩ := onContext_of_none hget fun c : Conversation Unit Empty =>
    .done (c.setTrust f label).2 (c.setTrust f label).1 []
  refine ⟨refusal, hmem, ?_⟩
  rw [perform_setTrust hf, heq]
  rfl

variable (h : Hosted s.registry)
include h

theorem Hosted.perform_getTrust : s.perform (.getTrust id bytes) =
    .done s (.label ((s.registry.known? id f).bind (·.trust))) [] := by
  simp only [Store.perform, getTrust, withFingerprint, hf, h.context?_eq, Registry.known?]
  cases s.registry.get? id <;> rfl

variable (hget : s.registry.get? id = some c)
include hget

theorem Hosted.setTrust_of_some : s.perform (.setTrust id bytes label) =
    .done ⟨s.registry.put id { c with known := c.known.setTrust f label }⟩
      (.flag (c.known.get? f).isSome) [] := by
  rw [perform_setTrust hf, onContext_of_found (h.grown.valid hget) hget,
    (h.grown.guarded hget).setTrust_eq]
  rfl

end Methods

-- Every method tells whether the fingerprint is known.
section Telling

variable (h : Hosted s.registry) (hf : Fingerprint.ofBytes bytes = .ok f)
include h hf

theorem Hosted.setTrust_true_iff (id : Identity) (label : Option String) :
    (s.perform (.setTrust id bytes label)).answer = .ok (.flag true) ↔
      (s.registry.known? id f).isSome = true := by
  cases hget : s.registry.get? id with
  | none =>
    obtain ⟨_, _, heq⟩ := setTrust_of_none hf label hget
    simp [heq, Outcome.done, Registry.known?, hget]
  | some c =>
    rw [Registry.known?_of_get? hget, h.setTrust_of_some hf label hget]
    simp [Outcome.done]

-- Adding is refused where there is no room, or finds the fingerprint, or puts it into the
-- conversation.
theorem Hosted.addFingerprint_cases (id : Identity) :
    (∃ text, s.registry.known? id f = none ∧
      (∀ c, s.registry.get? id = some c → c.limits.maxFingerprints ≤ c.known.size) ∧
      s.perform (.addFingerprint id bytes) = .refused text s []) ∨
    ((s.registry.known? id f).isSome = true ∧
      s.perform (.addFingerprint id bytes) = .done s (.flag false) []) ∨
    ∃ c, s.registry.get? id = some c ∧ c.known.get? f = none ∧
      s.perform (.addFingerprint id bytes) =
        .done ⟨s.registry.put id { c with known := (c.known.findOrInsert f).known }⟩
          (.flag true) [] := by
  cases hget : s.registry.get? id with
  | none =>
    obtain ⟨refusal, _, heq⟩ := addFingerprint_of_none hf hget
    refine Or.inl ⟨refusal.message, by simp [Registry.known?, hget], ?_, heq⟩
    rintro _ ⟨⟩
  | some c =>
    have hguarded := h.grown.guarded hget
    have hput : s.registry.put id c = s.registry := Registry.put_of_get? hget
    rw [Registry.known?_of_get? hget, perform_addFingerprint hf,
      onContext_of_found (h.grown.valid hget) hget]
    cases hentry : c.known.get? f with
    | some entry =>
      refine Or.inr (Or.inl ⟨rfl, ?_⟩)
      rw [hguarded.addFingerprint_of_known hentry]
      simp only [Outcome.within, Outcome.done, hput]
      rfl
    | none =>
      rcases hguarded.addFingerprint_cases f with heq | ⟨_, heq⟩
      · have hfull : c.limits.maxFingerprints ≤ c.known.size :=
          ((hguarded.addFingerprint_refused_iff f _).mp (congrArg (·.answer) heq)).2.2
        refine Or.inl ⟨Refusal.fingerprintListFull.message, rfl, ?_, ?_⟩
        · rintro _ ⟨⟩
          exact hfull
        rw [heq]
        simp only [Outcome.within, Outcome.refused, hput]
        rfl
      · refine Or.inr (Or.inr ⟨c, rfl, hentry, ?_⟩)
        rw [heq, hentry]
        rfl

theorem Hosted.addFingerprint_false_iff (id : Identity) :
    (s.perform (.addFingerprint id bytes)).answer = .ok (.flag false) ↔
      (s.registry.known? id f).isSome = true := by
  rcases h.addFingerprint_cases hf id with ⟨text, hnone, _, heq⟩ | ⟨hknown, heq⟩ |
    ⟨c, hget, hnone, heq⟩
  · simp [heq, hnone, Outcome.refused]
  · simp [heq, hknown, Outcome.done]
  · simp [heq, Registry.known?_of_get? hget, hnone, Outcome.done]

-- What is not known is added if the list has room for it.
theorem Hosted.addFingerprint_of_room (hget : s.registry.get? id = some c)
    (hunknown : s.registry.known? id f = none)
    (hroom : c.known.size < c.limits.maxFingerprints) :
    (s.perform (.addFingerprint id bytes)).answer = .ok (.flag true) := by
  rcases h.addFingerprint_cases hf id with ⟨text, _, hfull, _⟩ | ⟨hknown, _⟩ | ⟨_, _, _, heq⟩
  · have hle := hfull c hget
    omega
  · rw [hunknown] at hknown
    cases hknown
  · rw [heq]
    rfl

-- What is new stands in front.
theorem Hosted.listFingerprints_of_added
    (hadded : (s.perform (.addFingerprint id bytes)).answer = .ok (.flag true)) :
    (s.perform (.addFingerprint id bytes)).after.listFingerprints id =
      f.display :: s.listFingerprints id := by
  have hnext := h.perform (.addFingerprint id bytes)
  rcases h.addFingerprint_cases hf id with ⟨text, _, _, heq⟩ | ⟨_, heq⟩ | ⟨c, hget, hnone, heq⟩
  · rw [heq] at hadded
    cases hadded
  · rw [heq] at hadded
    cases hadded
  · have hunlisted : f ∉ c.known.fingerprints := by
      rw [← h.known?_isSome_iff hget, Registry.known?_of_get? hget, hnone]
      exact Bool.false_ne_true
    rw [heq] at hnext ⊢
    rw [hnext.listFingerprints_of_some (Registry.get?_put_self ..), h.listFingerprints_of_some hget,
      (h.grown.guarded hget).numbered.fingerprints_findOrInsert, if_neg hunlisted, List.map_cons]

theorem Hosted.forgetFingerprint_true_iff (id : Identity) (cascade : Bool) :
    (s.perform (.forgetFingerprint id bytes cascade)).answer = .ok (.flag true) ↔
      (s.registry.known? id f).isSome = true := by
  cases hget : s.registry.get? id with
  | none =>
    obtain ⟨_, _, heq⟩ := forgetFingerprint_of_none hf cascade hget
    simp [heq, Outcome.done, Registry.known?, hget]
  | some c =>
    rw [h.known?_isSome_iff hget]
    by_cases hmem : f ∈ c.known.fingerprints
    · simp [h.forgetFingerprint_of_listed hf cascade hget hmem, Outcome.done, hmem]
    · simp [h.forgetFingerprint_of_unlisted hf cascade hget hmem, Outcome.done, hmem]

end Telling

-- The step that adds a fingerprint where it was not known.
def adding (id : Identity) (f : Fingerprint) : Step :=
  (.addFingerprint id f.bytes.toArray, .ok (.flag true))

-- The label that a step gives to a fingerprint, if it gives one; it may take the label away.
def Step.label? (id : Identity) (f : Fingerprint) : Step → Option (Option String)
  | (.setTrust other bytes label, .ok (.flag true)) =>
    if other = id ∧ bytes = f.bytes.toArray then some label else none
  | _ => none

-- The fingerprint was added, and since then it was given this label last, or never one.
def Past.Labelled (id : Identity) (f : Fingerprint) (label : Option String) (past : Past) : Prop :=
  ∃ since earlier, past = since ++ adding id f :: earlier ∧ (∀ step ∈ since, step ≠ adding id f) ∧
    label = (since.findSome? (Step.label? id f)).getD none

theorem Past.labelled_adding (past : Past) :
    Past.Labelled id f none (adding id f :: past) :=
  ⟨[], past, rfl, List.forall_mem_nil _, rfl⟩

theorem Past.Labelled.cons {past : Past} {label : Option String} {step : Step}
    (h : past.Labelled id f label) (hstep : step ≠ adding id f) :
    Past.Labelled id f ((Step.label? id f step).getD label) (step :: past) := by
  obtain ⟨since, earlier, rfl, hsince, rfl⟩ := h
  exact ⟨step :: since, earlier, rfl, List.forall_mem_cons.mpr ⟨hstep, hsince⟩,
    (getD_findSome?_cons (Step.label? id f) step since none).symm⟩

-- What a store asks its registry for tells which fingerprint it was given.
section Requests

variable {call : Call} {request : Registry.Call Unit Empty}

theorem Call.onCreate_of_request (hrequest : call.request? = some request) :
    request.onCreate = [] := by
  cases call with
  | addFingerprint _ _ | setTrust _ _ _ | forgetFingerprint _ _ _ =>
    obtain ⟨_, _, rfl⟩ := Option.map_eq_some_iff.mp hrequest
    rfl
  | contextCount | contextState _ | listFingerprints _ | getTrust _ _ => cases hrequest
  | _ =>
    cases hrequest
    rfl

theorem eq_of_toOption (hbytes : (Fingerprint.ofBytes bytes).toOption = some f) :
    bytes = f.bytes.toArray := by
  cases hof : Fingerprint.ofBytes bytes with
  | error error =>
    rw [hof] at hbytes
    cases hbytes
  | ok g =>
    rw [hof] at hbytes
    cases hbytes
    exact Fingerprint.eq_of_ofBytes hof

theorem Call.eq_of_adding (hrequest : call.request? = some (.onContext id (.addFingerprint f))) :
    call = .addFingerprint id f.bytes.toArray := by
  cases call with
  | addFingerprint other bytes =>
    obtain ⟨g, hbytes, heq⟩ := Option.map_eq_some_iff.mp hrequest
    cases heq
    rw [eq_of_toOption hbytes]
  | setTrust _ _ _ | forgetFingerprint _ _ _ =>
    obtain ⟨_, _, heq⟩ := Option.map_eq_some_iff.mp hrequest
    cases heq
  | _ => cases hrequest

theorem Call.eq_of_labelling {label : Option String}
    (hrequest : call.request? = some (.onContext id (.setTrust f label))) :
    call = .setTrust id f.bytes.toArray label := by
  cases call with
  | setTrust other bytes label =>
    obtain ⟨g, hbytes, heq⟩ := Option.map_eq_some_iff.mp hrequest
    cases heq
    rw [eq_of_toOption hbytes]
  | addFingerprint _ _ | forgetFingerprint _ _ _ =>
    obtain ⟨_, _, heq⟩ := Option.map_eq_some_iff.mp hrequest
    cases heq
  | _ => cases hrequest

end Requests

-- What neither adds nor labels a fingerprint leaves its entry as it is, or takes it away.
theorem Hosted.known?_of_other (h : Hosted s.registry) {call : Call}
    (hadd : call ≠ .addFingerprint id f.bytes.toArray)
    (hlabel : ∀ label, call ≠ .setTrust id f.bytes.toArray label) {entry : KnownFingerprint}
    (hentry : (s.perform call).after.registry.known? id f = some entry) :
    s.registry.known? id f = some entry := by
  rw [registry_perform h.grown] at hentry
  cases hrequest : call.request? with
  | none => rwa [hrequest] at hentry
  | some request =>
    rw [hrequest, Option.elim_some] at hentry
    cases hbefore : s.registry.known? id f with
    | none =>
      have hplain := Call.onCreate_of_request hrequest
      have hadding := h.grown.eq_addFingerprint hbefore hplain hentry
      exact absurd (Call.eq_of_adding (hadding ▸ hrequest)) hadd
    | some former =>
      rcases h.grown.known?_perform hbefore request with hsame | ⟨label, hlabelling, _⟩ |
        ⟨_, _, hgone⟩
      · exact hsame.symm.trans hentry
      · exact absurd (Call.eq_of_labelling (hlabelling ▸ hrequest)) (hlabel label)
      · cases hgone.symm.trans hentry

-- The label of a known fingerprint is the one that the past tells.
structure Recorded (id : Identity) (f : Fingerprint) (past : Past) (s : Store) : Prop where
  hosted : Hosted s.registry
  labelled {entry : KnownFingerprint} :
    s.registry.known? id f = some entry → past.Labelled id f entry.trust

theorem recorded_empty (id : Identity) (f : Fingerprint) : Recorded id f [] empty where
  hosted := hosted_empty
  labelled hentry := by simp [Registry.known?, empty] at hentry

section Recording

variable {past : Past} (h : Recorded id f past s) {entry : KnownFingerprint}
include h

theorem Recorded.labelled_add
    (hentry : (s.perform (.addFingerprint id f.bytes.toArray)).after.registry.known? id f =
      some entry) :
    Past.Labelled id f entry.trust ((.addFingerprint id f.bytes.toArray,
      (s.perform (.addFingerprint id f.bytes.toArray)).answer) :: past) := by
  rcases h.hosted.addFingerprint_cases f.ofBytes_toArray id with ⟨text, hnone, _, heq⟩ |
    ⟨_, heq⟩ | ⟨c, hget, hnone, heq⟩
  · rw [heq] at hentry
    cases hnone.symm.trans hentry
  · rw [heq] at hentry ⊢
    exact (h.labelled hentry).cons (by simp [adding, Outcome.done])
  · rw [heq] at hentry ⊢
    change (s.registry.put id _).known? id f = some entry at hentry
    rw [Registry.known?_of_get? (Registry.get?_put_self ..),
      (h.hosted.grown.guarded hget).numbered.get?_findOrInsert, if_pos rfl, hnone] at hentry
    have hnew : entry = .unverified f := (Option.some.inj hentry).symm
    rw [hnew]
    exact Past.labelled_adding past

theorem Recorded.labelled_setTrust (label : Option String)
    (hentry : (s.perform (.setTrust id f.bytes.toArray label)).after.registry.known? id f =
      some entry) :
    Past.Labelled id f entry.trust ((.setTrust id f.bytes.toArray label,
      (s.perform (.setTrust id f.bytes.toArray label)).answer) :: past) := by
  cases hget : s.registry.get? id with
  | none =>
    obtain ⟨_, _, heq⟩ := setTrust_of_none f.ofBytes_toArray label hget
    rw [heq] at hentry
    simp [Outcome.done, Registry.known?, hget] at hentry
  | some c =>
    rw [h.hosted.setTrust_of_some f.ofBytes_toArray label hget] at hentry ⊢
    change (s.registry.put id _).known? id f = some entry at hentry
    rw [Registry.known?_of_get? (Registry.get?_put_self ..),
      (h.hosted.grown.guarded hget).numbered.get?_setTrust, if_pos rfl] at hentry
    obtain ⟨former, hformer, rfl⟩ := Option.map_eq_some_iff.mp hentry
    have hbefore := h.labelled ((Registry.known?_of_get? hget).trans hformer)
    have hstep : ((.setTrust id f.bytes.toArray label, .ok (.flag true)) : Step) ≠ adding id f := by
      simp [adding]
    have hnext := hbefore.cons hstep
    simpa [Outcome.done, hformer, Step.label?, KnownFingerprint.withTrust] using hnext

theorem Recorded.labelled_other {call : Call} (hadd : call ≠ .addFingerprint id f.bytes.toArray)
    (hlabel : ∀ label, call ≠ .setTrust id f.bytes.toArray label)
    (hentry : (s.perform call).after.registry.known? id f = some entry) :
    Past.Labelled id f entry.trust ((call, (s.perform call).answer) :: past) := by
  have hbefore := h.labelled (h.hosted.known?_of_other hadd hlabel hentry)
  have hstep : (call, (s.perform call).answer) ≠ adding id f :=
    fun heq => hadd (Prod.mk.inj heq).1
  have hnone : Step.label? id f (call, (s.perform call).answer) = none := by
    unfold Step.label?
    split
    · next other bytes label heq =>
      rw [if_neg]
      rintro ⟨rfl, rfl⟩
      exact hlabel label (Prod.mk.inj heq).1
    · rfl
  have hnext := hbefore.cons hstep
  rwa [hnone] at hnext

-- One call keeps the record.
theorem Recorded.perform (call : Call) :
    Recorded id f ((call, (s.perform call).answer) :: past) (s.perform call).after where
  hosted := h.hosted.perform call
  labelled hentry := by
    by_cases hadd : call = .addFingerprint id f.bytes.toArray
    · subst hadd
      exact h.labelled_add hentry
    by_cases hlabel : ∃ label, call = .setTrust id f.bytes.toArray label
    · obtain ⟨label, rfl⟩ := hlabel
      exact h.labelled_setTrust label hentry
    · exact h.labelled_other hadd (fun label heq => hlabel ⟨label, heq⟩) hentry

end Recording

theorem recorded_performAll (id : Identity) (f : Fingerprint) (calls : List Call) :
    Recorded id f (History.past perform empty calls) (empty.performAll calls).after := by
  have hstep (past : Past) (s : Store) (call : Call) (h : Recorded id f past s) :
      Recorded id f ((call, (s.perform call).answer) :: past) (s.perform call).after :=
    h.perform call
  have hrun := History.run_recorded (Recorded id f) hstep (recorded_empty id f) calls
  rwa [List.append_nil] at hrun

-- Where a name is missing, or there is no conversation, nothing can be known.
theorem Hosted.get?_eq_none (h : Hosted s.registry)
    (habsent : id.username = "" ∨ id.accountname = "" ∨ id.protocol = "" ∨
      s.registry.get? id = none) : s.registry.get? id = none := by
  cases hget : s.registry.get? id with
  | none => rfl
  | some c =>
    obtain ⟨_, husername, haccountname, hprotocol⟩ :=
      (id.validated_eq_ok_iff id).mp (h.grown.valid hget)
    rcases habsent with hempty | hempty | hempty | hnone
    · exact absurd hempty husername
    · exact absurd hempty haccountname
    · exact absurd hempty hprotocol
    · cases hget.symm.trans hnone

-- However a store came to be as it is: a fingerprint is shown in the list of an identity exactly if
-- labelling it says yes, exactly if adding it says no, and exactly if forgetting it says yes, with
-- the conversation or without. Each text in the list stands for one fingerprint and reads back as
-- it; any other fingerprint can be added as long as there is room, and comes first. A fingerprint
-- in the list has the label that it was given last since it was added; any other has none. Without
-- a conversation there is nothing to show, to label or to forget, and adding throws.
theorem views_agree (calls : List Call) (id : Identity) (bytes : Vector UInt8 20) :
    let s := (empty.performAll calls).after
    let f : Fingerprint := ⟨bytes⟩
    (∀ label, f.display ∈ s.listFingerprints id ↔
      (s.perform (.setTrust id bytes.toArray label)).answer = .ok (.flag true)) ∧
    (f.display ∈ s.listFingerprints id ↔
      (s.perform (.addFingerprint id bytes.toArray)).answer = .ok (.flag false)) ∧
    (∀ cascade, f.display ∈ s.listFingerprints id ↔
      (s.perform (.forgetFingerprint id bytes.toArray cascade)).answer = .ok (.flag true)) ∧
    (s.listFingerprints id).Nodup ∧
    (∀ shown ∈ s.listFingerprints id, ∃ g, Fingerprint.read shown = .ok g ∧
      ∀ other, (s.registry.known? id other).isSome = true ∧ other.display = shown ↔ other = g) ∧
    (∀ c, s.registry.get? id = some c → c.known.size < c.limits.maxFingerprints →
      f.display ∉ s.listFingerprints id →
      (s.perform (.addFingerprint id bytes.toArray)).answer = .ok (.flag true)) ∧
    ((s.perform (.addFingerprint id bytes.toArray)).answer = .ok (.flag true) →
      (s.perform (.addFingerprint id bytes.toArray)).after.listFingerprints id =
        f.display :: s.listFingerprints id) ∧
    (f.display ∈ s.listFingerprints id →
      ∃ label, Past.Labelled id f label (History.past perform empty calls) ∧
        (s.perform (.getTrust id bytes.toArray)).answer = .ok (.label label)) ∧
    (f.display ∉ s.listFingerprints id →
      (s.perform (.getTrust id bytes.toArray)).answer = .ok (.label none)) ∧
    (id.username = "" ∨ id.accountname = "" ∨ id.protocol = "" ∨ s.registry.get? id = none →
      s.listFingerprints id = [] ∧
      (∀ label, (s.perform (.setTrust id bytes.toArray label)).answer = .ok (.flag false)) ∧
      (∀ cascade, (s.perform (.forgetFingerprint id bytes.toArray cascade)).answer =
        .ok (.flag false)) ∧
      ∃ text, (s.perform (.addFingerprint id bytes.toArray)).answer = .error text) := by
  intro s f
  have hrecorded := recorded_performAll id f calls
  have h : Hosted s.registry := hrecorded.hosted
  have hf : Fingerprint.ofBytes bytes.toArray = .ok f := f.ofBytes_toArray
  have hlisted : f.display ∈ s.listFingerprints id ↔ (s.registry.known? id f).isSome = true :=
    h.mem_listFingerprints_iff
  refine ⟨fun label => hlisted.trans (h.setTrust_true_iff hf id label).symm,
    hlisted.trans (h.addFingerprint_false_iff hf id).symm,
    fun cascade => hlisted.trans (h.forgetFingerprint_true_iff hf id cascade).symm,
    h.nodup_listFingerprints id, fun shown => h.read_of_mem,
    fun c hget hroom hunlisted => ?_, h.listFingerprints_of_added hf, fun hmem => ?_,
    fun hunlisted => ?_, fun habsent => ?_⟩
  · rw [hlisted, Option.not_isSome_iff_eq_none] at hunlisted
    exact h.addFingerprint_of_room hf hget hunlisted hroom
  · obtain ⟨entry, hentry⟩ := Option.isSome_iff_exists.mp (hlisted.mp hmem)
    refine ⟨entry.trust, hrecorded.labelled hentry, ?_⟩
    rw [h.perform_getTrust hf, hentry]
    rfl
  · rw [hlisted, Option.not_isSome_iff_eq_none] at hunlisted
    rw [h.perform_getTrust hf, hunlisted]
    rfl
  · have hget := h.get?_eq_none habsent
    refine ⟨h.listFingerprints_of_none hget, fun label => ?_, fun cascade => ?_, ?_⟩
    · obtain ⟨_, _, heq⟩ := setTrust_of_none hf label hget
      rw [heq]
      rfl
    · obtain ⟨_, _, heq⟩ := forgetFingerprint_of_none hf cascade hget
      rw [heq]
      rfl
    · obtain ⟨refusal, _, heq⟩ := addFingerprint_of_none hf hget
      exact ⟨refusal.message, by rw [heq]; rfl⟩

section Relabelling

open Sample (alice older newer newest)

-- The older one is labelled, given up and added again; the newer one is labelled twice.
def relabelling : List Call :=
  [.findContext alice true, .addFingerprint alice older.bytes.toArray,
    .setTrust alice older.bytes.toArray (some "verified"),
    .forgetFingerprint alice older.bytes.toArray false,
    .addFingerprint alice newer.bytes.toArray, .setTrust alice newer.bytes.toArray (some "smp"),
    .addFingerprint alice older.bytes.toArray, .setTrust alice newer.bytes.toArray (some "seen")]

theorem views_agree_relabelling :
    let s := (empty.performAll relabelling).after
    let nobody : Identity := ⟨"alice", "", "xmpp"⟩
    (s.perform (.setTrust alice older.bytes.toArray none)).answer = .ok (.flag true) ∧
    (s.perform (.addFingerprint alice older.bytes.toArray)).answer = .ok (.flag false) ∧
    (s.perform (.forgetFingerprint alice older.bytes.toArray true)).answer = .ok (.flag true) ∧
    Past.Labelled alice older none (History.past perform empty relabelling) ∧
    Past.Labelled alice newer (some "seen") (History.past perform empty relabelling) ∧
    (s.perform (.addFingerprint alice newest.bytes.toArray)).after.listFingerprints alice =
      [newest.display, older.display, newer.display] ∧
    (s.perform (.getTrust alice newest.bytes.toArray)).answer = .ok (.label none) ∧
    s.listFingerprints nobody = [] ∧
    ∃ text, (s.perform (.addFingerprint nobody older.bytes.toArray)).answer = .error text := by
  intro s nobody
  obtain ⟨hset, hadd, hforget, _, _, _, _, hlabel, _, _⟩ :=
    views_agree relabelling alice older.bytes
  obtain ⟨_, _, _, _, _, _, _, hlabel', _, _⟩ := views_agree relabelling alice newer.bytes
  obtain ⟨_, _, _, _, _, hroom, hfront, _, hnone, _⟩ :=
    views_agree relabelling alice newest.bytes
  obtain ⟨_, _, _, _, _, _, _, _, _, habsent⟩ := views_agree relabelling nobody older.bytes
  have hlist : s.listFingerprints alice = [older.display, newer.display] := by decide +kernel
  have hsize : (s.registry.get? alice).map (fun c => (c.known.size, c.limits)) =
      some (2, .production) := by decide +kernel
  obtain ⟨c, hget, hc⟩ := Option.map_eq_some_iff.mp hsize
  obtain ⟨htwo, hlimits⟩ := Prod.mk.inj hc
  have hfree : c.known.size < c.limits.maxFingerprints := by
    rw [htwo, hlimits]
    decide
  have hunlisted : newest.display ∉ s.listFingerprints alice := by
    rw [hlist]
    decide +kernel
  have hadded := hroom c hget hfree hunlisted
  have holder : older.display ∈ s.listFingerprints alice := by simp [hlist]
  have hnewer : newer.display ∈ s.listFingerprints alice := by simp [hlist]
  obtain ⟨label, hpast, htold⟩ := hlabel holder
  obtain ⟨label', hpast', htold'⟩ := hlabel' hnewer
  have hunlabelled : (s.perform (.getTrust alice older.bytes.toArray)).answer =
      .ok (.label none) := by decide +kernel
  have hseen : (s.perform (.getTrust alice newer.bytes.toArray)).answer =
      .ok (.label (some "seen")) := by decide +kernel
  cases htold.symm.trans hunlabelled
  cases htold'.symm.trans hseen
  obtain ⟨hempty, _, _, hthrown⟩ := habsent (Or.inr (Or.inl rfl))
  refine ⟨(hset none).mp holder, hadd.mp holder, (hforget true).mp holder, hpast, hpast', ?_,
    hnone hunlisted, hempty, hthrown⟩
  rw [hfront hadded]
  exact congrArg _ hlist

end Relabelling

end Store

end Parley
