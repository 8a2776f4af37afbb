import Parley.Proofs.Conversation.Record
import Parley.Proofs.Registry.Atomicity
import Parley.Proofs.Registry.Destruction
import Parley.Proofs.Registry.Life

/-!
The record of trust. Main statement: whatever was asked of a registry, a fingerprint is listed for
an identity exactly if it was added and not given up since its conversation was last created, with
the label that it was given last since its entry was made; and no call touches an entry but one that
labels this very entry or takes it away.
-/

namespace Parley.Registry

open Conversation (Guarded)

variable {α ρ : Type} {r : Registry α ρ} {config : Config} {id : Identity} {f : Fingerprint}

-- The entry of a fingerprint for an identity.
def known? (r : Registry α ρ) (id : Identity) (f : Fingerprint) : Option KnownFingerprint :=
  (r.get? id).bind (·.known.get? f)

-- The calls to be made on a new conversation.
def Call.onCreate : Call α ρ → List (Conversation.Call α ρ)
  | .findContext _ _ onCreate | .findOrCreate _ onCreate => onCreate
  | _ => []

-- The calls that can take away the entry of a fingerprint, alone or with its conversation.
def Call.TakesEntry (r : Registry α ρ) (call : Call α ρ) (id : Identity) (f : Fingerprint) : Prop :=
  call.TakesFingerprint id f ∨ (∃ c, r.get? id = some c ∧ call.Takes id c) ∨ call = .forgetAll

section Alive

variable {own : Option (Conversation.Past α ρ)} {c : Option (Conversation α ρ)}
  (h : Alive config id own c)
include h

theorem Alive.listed_iff (f : Fingerprint) :
    (∃ d, c = some d ∧ f ∈ d.known.fingerprints) ↔ ∃ past, own = some past ∧ past.Listed f := by
  cases h with
  | none => simp
  | some h => simp [h.listed f]

theorem Alive.labelled_iff (f : Fingerprint) (label : Option String) :
    (∃ d, c = some d ∧ ⟨f, label⟩ ∈ d.known.toList) ↔
      ∃ past, own = some past ∧ past.Labelled f label := by
  cases h with
  | none => simp
  | some h => simp [← h.labelled f label, h.guarded.numbered.get?_eq_some_iff]

end Alive

-- An entry through one call.
section Entry

theorem known?_of_get? {c : Conversation α ρ} (hget : r.get? id = some c) :
    r.known? id f = c.known.get? f := by
  rw [known?, hget]
  rfl

theorem Fate.entry {call : Call α ρ} {c : Conversation α ρ} {after : Option (Conversation α ρ)}
    (h : Fate call id c after) (hguarded : c.Guarded) {entry : KnownFingerprint}
    (hentry : c.known.get? f = some entry) :
    after.bind (·.known.get? f) = some entry ∨
      (∃ label, call = .onContext id (.setTrust f label) ∧
        after.bind (·.known.get? f) = some (entry.withTrust label)) ∨
      (call.TakesFingerprint id f ∨ call.Takes id c) ∧ after.bind (·.known.get? f) = none := by
  cases h with
  | untouched => exact Or.inl hentry
  | asked asked hcall =>
    rw [Option.bind_some, hguarded.get?_perform, hentry]
    rcases Conversation.Step.onEntry_some f (asked, (c.perform asked).answer) entry with
      hsame | ⟨label, rfl, hlabelled⟩ | ⟨rfl, hgone⟩
    · exact Or.inl hsame
    · exact Or.inr (Or.inl ⟨label, hcall, hlabelled⟩)
    · exact Or.inr (Or.inr ⟨Or.inl (Or.inl hcall), hgone⟩)
  | fingerprint g cascade hcall =>
    have hafter := hguarded.get?_perform (.forgetFingerprint g) f
    rw [hentry] at hafter
    rcases Conversation.Step.onEntry_some f
        (.forgetFingerprint g, (c.perform (.forgetFingerprint g)).answer) entry with
      hsame | ⟨_, hlabels, _⟩ | ⟨hgives, hgone⟩
    · exact Or.inl (hafter.trans hsame)
    · cases hlabels
    · cases hgives
      exact Or.inr (Or.inr ⟨Or.inl (Or.inr ⟨cascade, hcall⟩), hafter.trans hgone⟩)
  | taken _ hcall => exact Or.inr (Or.inr ⟨Or.inr hcall, rfl⟩)

-- What takes an entry away is never too long a secret.
theorem Call.TakesEntry.not_overlong {call : Call α ρ} (h : call.TakesEntry r id f) :
    ¬ r.Overlong call := by
  rintro ⟨_, _, asked, _, rfl, bytes, rfl, _⟩
  rcases h with (h | ⟨_, h⟩) | ⟨_, _, h | h | ⟨_, h, _⟩⟩ | h <;> cases h

-- Only a call that labels the entry, or one that takes it away and is not refused, changes it.
theorem Grown.known?_perform (h : Grown config r) {entry : KnownFingerprint}
    (hentry : r.known? id f = some entry) (call : Call α ρ) :
    (r.perform call).after.known? id f = some entry ∨
      (∃ label, call = .onContext id (.setTrust f label) ∧
        (r.perform call).after.known? id f = some (entry.withTrust label)) ∨
      call.TakesEntry r id f ∧ (∃ what, (r.perform call).answer = .ok what) ∧
        (r.perform call).after.known? id f = none := by
  have hanswered (htakes : call.TakesEntry r id f)
      (hgone : (r.perform call).after.known? id f = none) :
      ∃ what, (r.perform call).answer = .ok what := by
    cases hanswer : (r.perform call).answer with
    | ok what => exact ⟨what, rfl⟩
    | error refusal =>
      have hatomic := atomic_perform (fun _ _ hget => h.guarded hget) htakes.not_overlong
      rw [(hatomic refusal hanswer).1, hentry] at hgone
      cases hgone
  obtain ⟨c, hget, hc⟩ := Option.bind_eq_some_iff.mp hentry
  by_cases hall : call = .forgetAll
  · have hgone : (r.perform call).after.known? id f = none := by
      rw [hall, Registry.perform, forgetAll_eq]
      simp [known?, Outcome.done]
    have htakes : call.TakesEntry r id f := Or.inr (Or.inr hall)
    exact Or.inr (Or.inr ⟨htakes, hanswered htakes hgone, hgone⟩)
  · have hguarded := h.guarded hget
    rcases (fate_perform hget hguarded hall).entry hguarded hc with
      hsame | hlabelled | ⟨htakes, hgone⟩
    · exact Or.inl hsame
    · exact Or.inr (Or.inl hlabelled)
    · have htakes : call.TakesEntry r id f :=
        htakes.imp_right fun htakes => Or.inl ⟨c, hget, htakes⟩
      exact Or.inr (Or.inr ⟨htakes, hanswered htakes hgone, hgone⟩)

theorem Step.onLife_none {limits : Limits} {step : Step α ρ} {past : Conversation.Past α ρ}
    (h : step.onLife limits id none = some past) :
    past = History.past Conversation.perform (.fresh id limits) step.1.onCreate := by
  unfold Step.onLife at h
  split at h
  · cases h; rfl
  · cases h; rfl
  all_goals cases h

theorem Fate.eq_unverified {call : Call α ρ} {c : Conversation α ρ}
    {after : Option (Conversation α ρ)} (h : Fate call id c after) (hguarded : c.Guarded)
    (hunknown : c.known.get? f = none) {entry : KnownFingerprint}
    (hentry : after.bind (·.known.get? f) = some entry) : entry = .unverified f := by
  cases h with
  | untouched => cases hunknown.symm.trans hentry
  | asked asked hcall =>
    rw [Option.bind_some, hguarded.get?_perform, hunknown] at hentry
    exact Conversation.Step.eq_unverified f _ hentry
  | fingerprint g cascade hcall =>
    have hafter := hguarded.get?_perform (.forgetFingerprint g) f
    rw [hunknown] at hafter
    exact Conversation.Step.eq_unverified f _ (hafter.symm.trans hentry)
  | taken => cases hentry

theorem Fate.eq_addFingerprint {call : Call α ρ} {c : Conversation α ρ}
    {after : Option (Conversation α ρ)} (h : Fate call id c after) (hguarded : c.Guarded)
    (hunknown : c.known.get? f = none) {entry : KnownFingerprint}
    (hentry : after.bind (·.known.get? f) = some entry) :
    call = .onContext id (.addFingerprint f) := by
  cases h with
  | untouched => cases hunknown.symm.trans hentry
  | asked asked hcall =>
    rw [Option.bind_some, hguarded.get?_perform, hunknown] at hentry
    rw [hcall, ← Conversation.Step.eq_addFingerprint f _ hentry]
  | fingerprint g cascade hcall =>
    have hafter := hguarded.get?_perform (.forgetFingerprint g) f
    rw [hunknown] at hafter
    cases Conversation.Step.eq_addFingerprint f _ (hafter.symm.trans hentry)
  | taken => cases hentry

-- A conversation that was not there before has lived through the calls of its creation.
theorem Lives.lived {call : Call α ρ} (h : Lives config id r call) (habsent : r.get? id = none)
    {c : Conversation α ρ} (hget : (r.perform call).after.get? id = some c) :
    Conversation.Lived id config.limits
      (History.past Conversation.perform (.fresh id config.limits) call.onCreate) c := by
  have halive := h none (habsent ▸ .none)
  rw [hget] at halive
  cases hlife : Step.onLife config.limits id (call, (r.perform call).answer) none with
  | none =>
    rw [hlife] at halive
    cases halive
  | some past =>
    rw [hlife, Step.onLife_none hlife] at halive
    cases halive with
    | some hlived => exact hlived

-- A new conversation can have its labels only from the calls of its creation.
theorem Lives.eq_unverified {call : Call α ρ} (h : Lives config id r call)
    (habsent : r.get? id = none) (hunlabelled : ∀ label, .setTrust f label ∉ call.onCreate)
    {entry : KnownFingerprint} (hentry : (r.perform call).after.known? id f = some entry) :
    entry = .unverified f := by
  obtain ⟨c, hget, hc⟩ := Option.bind_eq_some_iff.mp hentry
  refine (h.lived habsent hget).eq_unverified f (fun step hstep label heq => ?_) hc
  exact hunlabelled label (heq ▸ History.mem_calls_of_mem_past hstep)

-- A new conversation has no fingerprint but from the calls of its creation.
theorem Lives.known?_eq_none {call : Call α ρ} (h : Lives config id r call)
    (habsent : r.get? id = none) (hplain : call.onCreate = []) (f : Fingerprint) :
    (r.perform call).after.known? id f = none := by
  cases hget : (r.perform call).after.get? id with
  | none => simp [known?, hget]
  | some c =>
    have hlived := h.lived habsent hget
    rw [hplain] at hlived
    have hunlisted : f ∉ c.known.fingerprints := by
      rw [hlived.listed f]
      simp [Conversation.Past.Listed, History.past]
    rw [known?_of_get? hget, ← Option.not_isSome_iff_eq_none,
      ← hlived.guarded.numbered.contains_eq_isSome, hlived.guarded.numbered.contains_iff]
    exact hunlisted

-- A new entry comes of a call on a conversation that is there, or of a creation.
theorem Grown.fate_or_lives (h : Grown config r) (hnone : r.known? id f = none) {call : Call α ρ}
    {entry : KnownFingerprint} (hentry : (r.perform call).after.known? id f = some entry) :
    (∃ c, c.Guarded ∧ c.known.get? f = none ∧
      Fate call id c ((r.perform call).after.get? id)) ∨
    r.get? id = none ∧ Lives config id r call := by
  cases hsubject : call.subject? with
  | none =>
    rw [eq_forgetAll hsubject, Registry.perform, forgetAll_eq] at hentry
    simp [known?, Outcome.done] at hentry
  | some other =>
    by_cases hother : other = id
    · subst hother
      cases hget : r.get? other with
      | none => exact Or.inr ⟨rfl, lives_perform h hsubject⟩
      | some c =>
        have hguarded := h.guarded hget
        have hne : call ≠ .forgetAll := by
          rintro rfl
          cases hsubject
        rw [known?_of_get? hget] at hnone
        exact Or.inl ⟨c, hguarded, hnone, fate_perform hget hguarded hne⟩
    · rw [known?, r.get?_perform_of_ne hsubject hother] at hentry
      cases hnone.symm.trans hentry

-- A new entry has no label, however the fingerprint was labelled before.
theorem Grown.eq_unverified (h : Grown config r) (hnone : r.known? id f = none) {call : Call α ρ}
    (hunlabelled : ∀ label, .setTrust f label ∉ call.onCreate) {entry : KnownFingerprint}
    (hentry : (r.perform call).after.known? id f = some entry) : entry = .unverified f := by
  rcases h.fate_or_lives hnone hentry with ⟨c, hguarded, hunknown, hfate⟩ | ⟨habsent, hlives⟩
  · exact hfate.eq_unverified hguarded hunknown hentry
  · exact hlives.eq_unverified habsent hunlabelled hentry

-- Outside of creations only adding makes an entry.
theorem Grown.eq_addFingerprint (h : Grown config r) (hnone : r.known? id f = none)
    {call : Call α ρ} (hplain : call.onCreate = []) {entry : KnownFingerprint}
    (hentry : (r.perform call).after.known? id f = some entry) :
    call = .onContext id (.addFingerprint f) := by
  rcases h.fate_or_lives hnone hentry with ⟨c, hguarded, hunknown, hfate⟩ | ⟨habsent, hlives⟩
  · exact hfate.eq_addFingerprint hguarded hunknown hentry
  · cases (hlives.known?_eq_none habsent hplain f).symm.trans hentry

end Entry

-- Whatever was asked of a registry: a fingerprint is listed for an identity exactly if it was added
-- since its conversation was last created and not given up since; its label is the one it was given
-- last since the call that made its entry, or none. A call leaves the entry as it is, labels it, or
-- takes it away, and only if it asks for this and is not refused; an entry that was not there
-- before comes without a label, unless the calls of a creation give it one. An entry is labelled
-- alike whether it was looked up or handed out.
theorem trust_of_past (config : Config) (calls : List (Call α ρ)) (id : Identity)
    (f : Fingerprint) :
    let r : Registry α ρ := ((empty config).performAll calls).after
    let own := life config.limits id (History.past perform (empty config : Registry α ρ) calls)
    ((∃ c, r.get? id = some c ∧ f ∈ c.known.fingerprints) ↔
      ∃ past, own = some past ∧ past.Listed f) ∧
    (∀ label, (∃ c, r.get? id = some c ∧ ⟨f, label⟩ ∈ c.known.toList) ↔
      ∃ past, own = some past ∧ past.Labelled f label) ∧
    (∀ call entry, r.known? id f = some entry →
      (r.perform call).after.known? id f = some entry ∨
        (∃ label, call = .onContext id (.setTrust f label) ∧
          (r.perform call).after.known? id f = some (entry.withTrust label)) ∨
        call.TakesEntry r id f ∧ (∃ what, (r.perform call).answer = .ok what) ∧
          (r.perform call).after.known? id f = none) ∧
    (∀ call entry, r.known? id f = none → (∀ label, .setTrust f label ∉ call.onCreate) →
      (r.perform call).after.known? id f = some entry → entry = .unverified f) ∧
    (∀ c entry label, r.get? id = some c →
      (c.known.get? f = some entry →
        (c.setTrust f label).2 = { c with known := c.known.setTrust f label } ∧
          (c.setTrust f label).2.known.get? f = some (entry.withTrust label)) ∧
      (∀ created, (c.addFingerprint f).answer = .ok (entry, created) →
        let found := (c.addFingerprint f).after
        found.known.get? f = some entry ∧
          (found.setTrust f label).2.known.get? f = some (entry.withTrust label))) := by
  intro r own
  have hgrown : Grown config r := grown_performAll config calls
  have halive : Alive config id own (r.get? id) := alive_performAll config calls id
  refine ⟨halive.listed_iff f, halive.labelled_iff f, ?_, ?_, ?_⟩
  · intro call entry hentry
    exact hgrown.known?_perform hentry call
  · intro call entry hnone hunlabelled hentry
    exact hgrown.eq_unverified hnone hunlabelled hentry
  · intro c entry label hget
    have hguarded := hgrown.guarded hget
    refine ⟨fun hc => ?_, fun created hanswer => ?_⟩
    · exact ⟨congrArg (·.2) (hguarded.setTrust_eq f label),
        hguarded.get?_setTrust_of_known hc label⟩
    · have hfound := hguarded.get?_of_handed_out hanswer
      exact ⟨hfound, (hguarded.addFingerprint f).get?_setTrust_of_known hfound label⟩

section Readding

open Sample (alice bob older newer)

-- Alice's fingerprint is labelled, given up and added again; the same one is known of Bob.
def readding : List (Call Nat Unit) :=
  [.findOrCreate alice [.addFingerprint older, .setTrust older (some "verified")],
    .findOrCreate bob [.addFingerprint older], .onContext bob (.setTrust older (some "")),
    .onContext alice (.forgetFingerprint older), .onContext alice (.addFingerprint older),
    .onContext bob (.addFingerprint older), .onContext bob .forceSetup]

theorem trust_of_past_readding :
    let r : Registry Nat Unit := ((empty {}).performAll readding).after
    let own (id : Identity) : Option (Conversation.Past Nat Unit) :=
      life .production id (History.past perform (empty {}) readding)
    (∃ past, own alice = some past ∧ past.Listed older ∧ past.Labelled older none) ∧
    (∃ past, own bob = some past ∧ past.Labelled older (some "")) ∧
    (r.perform (.onContext alice (.setTrust older none))).after.known? bob older =
      some ⟨older, some ""⟩ ∧
    (∃ entry, (r.perform (.onContext alice (.addFingerprint newer))).after.known? alice newer =
      some entry ∧ entry = .unverified newer) ∧
    (∃ c, r.get? bob = some c ∧
      (c.setTrust older none).2.known.get? older = some (.unverified older)) := by
  intro r own
  obtain ⟨hlisted, hlabelled, _, _, _⟩ := trust_of_past {} readding alice older
  obtain ⟨_, hlabelled', hkept, _, hset⟩ := trust_of_past {} readding bob older
  obtain ⟨_, _, _, hnew, _⟩ := trust_of_past {} readding alice newer
  have halice : (r.get? alice).map (·.known.toList) = some [⟨older, none⟩] := by decide +kernel
  have hbob : (r.get? bob).map (·.known.toList) = some [⟨older, some ""⟩] := by decide +kernel
  have hentry : r.known? bob older = some ⟨older, some ""⟩ := by decide +kernel
  have hnone : r.known? alice newer = none := by decide +kernel
  have hadded : (r.perform (.onContext alice (.addFingerprint newer))).after.known? alice newer =
      some ⟨newer, none⟩ := by decide +kernel
  obtain ⟨a, ha, hlist⟩ := Option.map_eq_some_iff.mp halice
  obtain ⟨b, hb, hlist'⟩ := Option.map_eq_some_iff.mp hbob
  obtain ⟨past, hpast, hnever⟩ := (hlabelled none).mp ⟨a, ha, by rw [hlist]; decide⟩
  obtain ⟨past', hpast', hadd⟩ := hlisted.mp
    ⟨a, ha, by rw [KnownFingerprints.fingerprints, hlist]; decide⟩
  obtain rfl : past = past' := Option.some.inj (hpast.symm.trans hpast')
  refine ⟨⟨past, hpast, hadd, hnever⟩, (hlabelled' (some "")).mp ⟨b, hb, by rw [hlist']; decide⟩,
    ?_, ⟨_, hadded, hnew _ _ hnone (fun _ => List.not_mem_nil) hadded⟩, b, hb, ?_⟩
  · rcases hkept (.onContext alice (.setTrust older none)) _ hentry with
      hsame | ⟨label, hcall, _⟩ | ⟨htakes, _⟩
    · exact hsame
    · exact absurd (Call.onContext.inj hcall).1 (by decide)
    · rcases htakes with (h | ⟨_, h⟩) | ⟨_, _, h | h | ⟨_, h, _⟩⟩ | h <;> simp at h
  · rw [known?_of_get? hb] at hentry
    exact ((hset b _ none hb).1 hentry).2

end Readding

end Parley.Registry
