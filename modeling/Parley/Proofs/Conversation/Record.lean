import Parley.Proofs.Conversation.Guarded
import Parley.Proofs.Fingerprint.Lookup

/-!
The record of a fingerprint, told from the past. Main statements: what each call does to the record
of one fingerprint; and a fingerprint is listed exactly if it was added and not given up since, with
the label that it was given last since the call that made its entry.
-/

namespace Parley

-- What was said last stands.
theorem getD_findSome?_cons {κ β : Type} (said? : κ → Option β) (step : κ) (since : List κ)
    (former : β) : ((step :: since).findSome? said?).getD former =
      (said? step).getD ((since.findSome? said?).getD former) := by
  rw [List.findSome?_cons]
  cases said? step <;> rfl

namespace Conversation

variable {α ρ : Type}

-- What a step does to the entry of a fingerprint.
def Step.onEntry (f : Fingerprint) :
    Step α ρ → Option KnownFingerprint → Option KnownFingerprint
  | (.addFingerprint g, .ok _), entry =>
    if g = f then some (entry.getD (.unverified f)) else entry
  | (.setTrust g label, _), entry => if g = f then entry.map (·.withTrust label) else entry
  | (.forgetFingerprint g, .ok _), entry => if g = f then none else entry
  | _, entry => entry

section OnEntry

variable (f : Fingerprint) (step : Step α ρ)

-- An entry stays as it is until it is labelled or given up.
theorem Step.onEntry_some (entry : KnownFingerprint) :
    Step.onEntry f step (some entry) = some entry ∨
      (∃ label, step.1 = .setTrust f label ∧
        Step.onEntry f step (some entry) = some (entry.withTrust label)) ∨
      step.1 = .forgetFingerprint f ∧ Step.onEntry f step (some entry) = none := by
  unfold Step.onEntry
  split
  · exact Or.inl (ite_self _)
  · next g label _ =>
    by_cases hgf : g = f
    · rw [if_pos hgf, hgf]
      exact Or.inr (Or.inl ⟨label, rfl, rfl⟩)
    · rw [if_neg hgf]
      exact Or.inl rfl
  · next g _ =>
    by_cases hgf : g = f
    · rw [if_pos hgf, hgf]
      exact Or.inr (Or.inr ⟨rfl, rfl⟩)
    · rw [if_neg hgf]
      exact Or.inl rfl
  · exact Or.inl rfl

-- Only adding makes an entry.
theorem Step.eq_addFingerprint {entry : KnownFingerprint}
    (h : Step.onEntry f step none = some entry) : step.1 = .addFingerprint f := by
  unfold Step.onEntry at h
  split at h
  · split at h
    · next hgf => rw [hgf]
    · cases h
  · split at h <;> cases h
  · split at h <;> cases h
  · cases h

-- A new entry has no label.
theorem Step.eq_unverified {entry : KnownFingerprint}
    (h : Step.onEntry f step none = some entry) : entry = .unverified f := by
  unfold Step.onEntry at h
  split at h
  · split at h
    · exact (Option.some.inj h).symm
    · cases h
  · split at h <;> cases h
  · split at h <;> cases h
  · cases h

end OnEntry

section Calls

variable {c : Conversation α ρ} (h : c.Guarded)
include h

-- Added or found: the entry is handed out as it is then.
theorem Guarded.addFingerprint_cases (f : Fingerprint) :
    c.addFingerprint f = .refused .fingerprintListFull c [] ∨
      ∃ effects, c.addFingerprint f = .done { c with known := (c.known.findOrInsert f).known }
        ((c.known.get? f).getD (.unverified f), (c.known.get? f).isNone) effects := by
  unfold Conversation.addFingerprint
  split
  · exact Or.inl rfl
  · cases hget : c.known.get? f with
    | some entry =>
      rw [KnownFingerprints.findOrInsert_of_known hget]
      exact Or.inr ⟨_, rfl⟩
    | none =>
      rw [h.numbered.findOrInsert_of_unknown hget]
      exact Or.inr ⟨_, rfl⟩

theorem Guarded.addFingerprint_of_known {f : Fingerprint} {entry : KnownFingerprint}
    (hget : c.known.get? f = some entry) : c.addFingerprint f = .done c (entry, false) [] := by
  have hknown : c.known.contains f = true := by
    rw [h.numbered.contains_eq_isSome, hget]
    rfl
  simp [Conversation.addFingerprint, hknown, KnownFingerprints.findOrInsert_of_known hget]

-- To label a fingerprint is to label its entry, however the entry was come by.
theorem Guarded.setTrust_eq (f : Fingerprint) (label : Option String) :
    c.setTrust f label =
      ((c.known.get? f).isSome, { c with known := c.known.setTrust f label }) := by
  unfold Conversation.setTrust
  cases hget : c.known.get? f with
  | some entry => rfl
  | none =>
    have hindex := h.numbered.get?_eq_none_iff.mp hget
    rw [KnownFingerprints.setTrust_of_index_none label hindex]
    rfl

theorem Guarded.get?_perform (call : Call α ρ) (f : Fingerprint) :
    (c.perform call).after.known.get? f =
      Step.onEntry f (call, (c.perform call).answer) (c.known.get? f) := by
  cases call with
  | addFingerprint g =>
    simp only [Conversation.perform]
    rcases h.addFingerprint_cases g with heq | ⟨_, heq⟩
    · rw [heq]
      rfl
    · rw [heq]
      exact h.numbered.get?_findOrInsert f g
  | setTrust g label =>
    simp only [Conversation.perform, h.setTrust_eq]
    exact h.numbered.get?_setTrust f g label
  | forgetFingerprint g =>
    simp only [Conversation.perform]
    rcases h.forgetFingerprint_cases g with ⟨_, _, heq⟩ | ⟨_, _, heq⟩ | ⟨_, _, heq⟩
    · rw [heq]
      rfl
    · rw [heq]
      rfl
    · rw [heq]
      exact h.numbered.get?_remove f g
  | _ =>
    rw [after_perform]
    rfl

-- Whoever adds a fingerprint is told whether its entry is new.
theorem Guarded.created_eq_isNone (f : Fingerprint) (call : Call α ρ) (answer : Answer α)
    (hstep : (call, (c.perform call).answer) = (.addFingerprint f, .ok answer)) :
    ∃ handed, answer = .entry handed (c.known.get? f).isNone := by
  obtain ⟨rfl, hanswer⟩ := Prod.mk.inj hstep
  rcases h.addFingerprint_cases f with heq | ⟨_, heq⟩
  · rw [Conversation.perform, heq] at hanswer
    cases hanswer
  · rw [Conversation.perform, heq] at hanswer
    cases hanswer
    exact ⟨_, rfl⟩

theorem Guarded.get?_setTrust_of_known {f : Fingerprint} {entry : KnownFingerprint}
    (hget : c.known.get? f = some entry) (label : Option String) :
    (c.setTrust f label).2.known.get? f = some (entry.withTrust label) := by
  rw [h.setTrust_eq, h.numbered.get?_setTrust, if_pos rfl, hget]
  rfl

-- The entry that is handed out is the one in the list.
theorem Guarded.get?_of_handed_out {f : Fingerprint} {entry : KnownFingerprint} {created : Bool}
    (hanswer : (c.addFingerprint f).answer = .ok (entry, created)) :
    (c.addFingerprint f).after.known.get? f = some entry := by
  rcases h.addFingerprint_cases f with heq | ⟨_, heq⟩
  · rw [heq] at hanswer
    cases hanswer
  · rw [heq] at hanswer ⊢
    cases hanswer
    exact (h.numbered.get?_findOrInsert f f).trans (if_pos rfl)

end Calls

-- The step took the fingerprint out.
def Step.GivesUp (f : Fingerprint) (step : Step α ρ) : Prop :=
  ∃ answer, step = (.forgetFingerprint f, .ok answer)

-- The label that a step gives to a fingerprint, if it gives one; it may take the label away.
def Step.label? (f : Fingerprint) : Step α ρ → Option (Option String)
  | (.setTrust g label, _) => if g = f then some label else none
  | _ => none

-- It was added, or found when it was to be added, and not given up since.
def Past.Listed (f : Fingerprint) (past : Past α ρ) : Prop :=
  ∃ since answer earlier, past = since ++ (.addFingerprint f, .ok answer) :: earlier ∧
    ∀ step ∈ since, ¬ Step.GivesUp f step

-- Its entry was made and not given up since, and since then it was given this label last, or never
-- one.
def Past.Labelled (f : Fingerprint) (label : Option String) (past : Past α ρ) : Prop :=
  ∃ since entry earlier, past = since ++ (.addFingerprint f, .ok (.entry entry true)) :: earlier ∧
    (∀ step ∈ since, ¬ Step.GivesUp f step) ∧ label = (since.findSome? (Step.label? f)).getD none

theorem Past.Labelled.eq_none {f : Fingerprint} {label : Option String} {past : Past α ρ}
    (h : past.Labelled f label) (hnever : ∀ step ∈ past, ∀ label, step.1 ≠ .setTrust f label) :
    label = none := by
  obtain ⟨since, _, _, rfl, _, rfl⟩ := h
  have hnone : since.findSome? (Step.label? f) = none := by
    rw [List.findSome?_eq_none_iff]
    intro step hstep
    have hne := hnever step (List.mem_append_left _ hstep)
    unfold Step.label?
    split
    · next g label _ =>
      rw [if_neg]
      rintro rfl
      exact hne label rfl
    · rfl
  rw [hnone]
  rfl

section Cons

variable (f : Fingerprint) (step : Step α ρ) (past : Past α ρ)

theorem Past.listed_cons : Past.Listed f (step :: past) ↔
    (∃ answer, step = (.addFingerprint f, .ok answer)) ∨
      ¬ Step.GivesUp f step ∧ Past.Listed f past := by
  constructor
  · rintro ⟨since, answer, earlier, heq, hsince⟩
    cases since with
    | nil => exact Or.inl ⟨answer, (List.cons.inj heq).1⟩
    | cons last since =>
      obtain ⟨rfl, rfl⟩ := List.cons.inj heq
      rw [List.forall_mem_cons] at hsince
      exact Or.inr ⟨hsince.1, since, answer, earlier, rfl, hsince.2⟩
  · rintro (⟨answer, rfl⟩ | ⟨hstep, since, answer, earlier, rfl, hsince⟩)
    · exact ⟨[], answer, past, rfl, List.forall_mem_nil _⟩
    · exact ⟨step :: since, answer, earlier, rfl, List.forall_mem_cons.mpr ⟨hstep, hsince⟩⟩

theorem Past.labelled_cons (label : Option String) : Past.Labelled f label (step :: past) ↔
    (label = none ∧ ∃ entry, step = (.addFingerprint f, .ok (.entry entry true))) ∨
      ¬ Step.GivesUp f step ∧
        ∃ former, Past.Labelled f former past ∧ label = (Step.label? f step).getD former := by
  have hlast (since : Past α ρ) := getD_findSome?_cons (Step.label? f) step since none
  constructor
  · rintro ⟨since, entry, earlier, heq, hsince, rfl⟩
    cases since with
    | nil => exact Or.inl ⟨rfl, entry, (List.cons.inj heq).1⟩
    | cons last since =>
      obtain ⟨rfl, rfl⟩ := List.cons.inj heq
      rw [List.forall_mem_cons] at hsince
      exact Or.inr ⟨hsince.1, _, ⟨since, entry, earlier, rfl, hsince.2, rfl⟩, hlast since⟩
  · rintro (⟨rfl, entry, rfl⟩ | ⟨hstep, former, ⟨since, entry, earlier, rfl, hsince, rfl⟩, rfl⟩)
    · exact ⟨[], entry, past, rfl, List.forall_mem_nil _, rfl⟩
    · exact ⟨step :: since, entry, earlier, rfl, List.forall_mem_cons.mpr ⟨hstep, hsince⟩,
        (hlast since).symm⟩

end Cons

-- What a step makes of the record of a fingerprint, said as the past says it.
section Recorded

variable (f : Fingerprint)

theorem Step.isSome_onEntry (step : Step α ρ) (entry : Option KnownFingerprint) :
    (Step.onEntry f step entry).isSome ↔ (∃ answer, step = (.addFingerprint f, .ok answer)) ∨
      ¬ Step.GivesUp f step ∧ entry.isSome := by
  obtain ⟨call, answer⟩ := step
  cases call with
  | addFingerprint g =>
    cases answer with
    | error refusal => simp [Step.onEntry, Step.GivesUp]
    | ok answer => by_cases heq : g = f <;> simp [Step.onEntry, Step.GivesUp, heq]
  | setTrust g label => by_cases heq : g = f <;> simp [Step.onEntry, Step.GivesUp, heq]
  | forgetFingerprint g =>
    cases answer with
    | error refusal => simp [Step.onEntry, Step.GivesUp]
    | ok answer => by_cases heq : g = f <;> simp [Step.onEntry, Step.GivesUp, heq]
  | _ => simp [Step.onEntry, Step.GivesUp]

theorem Step.onEntry_eq_some_iff (step : Step α ρ) (entry : Option KnownFingerprint)
    (htold : ∀ answer, step = (.addFingerprint f, .ok answer) →
      ∃ handed, answer = .entry handed entry.isNone) (label : Option String) :
    Step.onEntry f step entry = some ⟨f, label⟩ ↔
      (label = none ∧ ∃ handed, step = (.addFingerprint f, .ok (.entry handed true))) ∨
        ¬ Step.GivesUp f step ∧ ∃ former, entry = some ⟨f, former⟩ ∧
          label = (Step.label? f step).getD former := by
  obtain ⟨call, answer⟩ := step
  cases call with
  | addFingerprint g =>
    cases answer with
    | error refusal => simp [Step.onEntry, Step.GivesUp, Step.label?]
    | ok answer =>
      by_cases hgf : g = f
      · subst hgf
        obtain ⟨handed, rfl⟩ := htold answer rfl
        cases entry with
        | none =>
          simp [Step.onEntry, Step.GivesUp, Step.label?, KnownFingerprint.unverified, eq_comm]
        | some entry => simp [Step.onEntry, Step.GivesUp, Step.label?]
      · simp [Step.onEntry, Step.GivesUp, Step.label?, hgf]
  | setTrust g given =>
    by_cases hgf : g = f
    · cases entry with
      | none => simp [Step.onEntry, hgf]
      | some entry =>
        obtain ⟨fingerprint, former⟩ := entry
        simp [Step.onEntry, Step.GivesUp, Step.label?, KnownFingerprint.withTrust, hgf, eq_comm]
    · simp [Step.onEntry, Step.GivesUp, Step.label?, hgf]
  | forgetFingerprint g =>
    cases answer with
    | error refusal => simp [Step.onEntry, Step.GivesUp, Step.label?]
    | ok answer => by_cases hgf : g = f <;> simp [Step.onEntry, Step.GivesUp, Step.label?, hgf]
  | _ => simp [Step.onEntry, Step.GivesUp, Step.label?]

end Recorded

section Told

variable {id : Identity} {limits : Limits} {past : Past α ρ} {c : Conversation α ρ}
  (f : Fingerprint)

-- Listed as long as it was added and not given up since.
theorem Lived.listed (h : Lived id limits past c) :
    f ∈ c.known.fingerprints ↔ past.Listed f := by
  rw [← h.guarded.numbered.contains_iff, h.guarded.numbered.contains_eq_isSome]
  induction h with
  | fresh => simp [Conversation.fresh, Past.Listed]
  | @perform past c hc call ih =>
    rw [hc.guarded.get?_perform, Step.isSome_onEntry, ih, Past.listed_cons]

-- Labelled as it was labelled last since its entry was made.
theorem Lived.labelled (h : Lived id limits past c) (label : Option String) :
    c.known.get? f = some ⟨f, label⟩ ↔ past.Labelled f label := by
  induction h generalizing label with
  | fresh => simp [Conversation.fresh, Past.Labelled]
  | @perform past c hc call ih =>
    have hcreated := hc.guarded.created_eq_isNone f call
    rw [hc.guarded.get?_perform, Step.onEntry_eq_some_iff f _ _ hcreated, Past.labelled_cons]
    simp only [ih]

-- A conversation in which a fingerprint was never labelled has it unlabelled, if it has it.
theorem Lived.eq_unverified (h : Lived id limits past c)
    (hnever : ∀ step ∈ past, ∀ label, step.1 ≠ .setTrust f label) {entry : KnownFingerprint}
    (hentry : c.known.get? f = some entry) : entry = .unverified f := by
  obtain ⟨g, label⟩ := entry
  obtain rfl : g = f := (h.guarded.numbered.get?_eq_some_iff.mp hentry).2
  rw [((h.labelled g label).mp hentry).eq_none hnever]
  rfl

end Told

end Conversation

end Parley
