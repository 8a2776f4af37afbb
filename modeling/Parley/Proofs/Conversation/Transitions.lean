import Parley.Proofs.Conversation.Guarded
import Parley.Proofs.Sample

/-!
The state of the connection, told from the past. Main statement: the state is the one that was set
last; a session goes on with the fingerprint it was last begun or taken over with; it can only have
begun from a setup, with no disconnection in between; and nothing but a fall or a connection that
was answered changes the state.
-/

namespace Parley.Conversation

variable {α ρ : Type}

-- The state that a step sets. A connection that was refused sets none.
def Step.state? : Step α ρ → Option ConnectionState
  | (.forceSetup, _) => some .setup
  | (.forceDisconnect, _) => some .unconnected
  | (.markConnected _, .ok _) => some .connected
  | _ => none

-- The fingerprint with which a step begins a session or takes one over.
def Step.connecting? : Step α ρ → Option Fingerprint
  | (.markConnected f, .ok _) => some f
  | _ => none

-- A fall back to setup, and nothing that sets a state since.
def Past.SetUp (past : Past α ρ) : Prop :=
  ∃ since earlier, past = since ++ (.forceSetup, .ok .done) :: earlier ∧
    ∀ step ∈ since, Step.state? step = none

-- A session that began from a setup, and no fall since.
def Past.InSession (past : Past α ρ) : Prop :=
  ∃ since f earlier, past = since ++ (.markConnected f, .ok .done) :: earlier ∧
    (∀ step ∈ since, step.1.isFall = false) ∧ Past.SetUp earlier

variable {id : Identity} {limits : Limits} {past : Past α ρ} {c : Conversation α ρ}

theorem state_perform (c : Conversation α ρ) (call : Call α ρ) : (c.perform call).after.state =
    (Step.state? (call, (c.perform call).answer)).getD c.state := by
  cases call with
  | markConnected f =>
    simp only [perform]
    rcases c.markConnected_cases f with ⟨_, heq⟩ | ⟨_, _, heq⟩ | ⟨_, _, heq⟩
    · rw [heq]
      rfl
    · rw [heq]
      rfl
    · rw [heq]
      rfl
  | forceSetup => rfl
  | forceDisconnect => rfl
  | _ => exact congrArg (·.state) (c.after_perform _)

theorem Lived.state_eq (h : Lived id limits past c) :
    c.state = (past.findSome? Step.state?).getD .unconnected := by
  induction h with
  | fresh => rfl
  | @perform past c _ call ih =>
    rw [state_perform, ih, List.findSome?_cons]
    cases Step.state? (call, (c.perform call).answer) <;> rfl

theorem Guarded.pinned_forgetFingerprint (h : c.Guarded) (f : Fingerprint) :
    (c.forgetFingerprint f).after.pinned = c.pinned := by
  rcases h.forgetFingerprint_cases f with ⟨_, _, heq⟩ | ⟨_, _, heq⟩ | ⟨_, _, heq⟩
  all_goals
    rw [heq]
    rfl

-- What is pinned is what the session goes on with.
theorem Lived.pinned_eq (h : Lived id limits past c) (hstate : c.state = .connected) :
    c.pinned = past.findSome? Step.connecting? := by
  induction h with
  | fresh => cases hstate
  | @perform past c hc call ih =>
    cases call with
    | markConnected f =>
      simp only [Conversation.perform] at hstate ⊢
      rcases c.markConnected_cases f with ⟨hkept, heq⟩ | ⟨_, _, heq⟩ | ⟨_, _, heq⟩
      · rw [heq] at hstate
        exact absurd (hkept.symm.trans hstate) (fun h => nomatch h)
      · rw [heq] at hstate ⊢
        exact ih hstate
      · rw [heq]
        rfl
    | forgetFingerprint f =>
      have hsame := (c.state_forgetFingerprint f).symm.trans hstate
      exact (hc.guarded.pinned_forgetFingerprint f).trans (ih hsame)
    | forceSetup => cases hstate
    | forceDisconnect => cases hstate
    | _ =>
      rw [after_perform] at hstate ⊢
      exact ih hstate

-- Where a session can have begun.
section Course

theorem Past.SetUp.cons (h : past.SetUp) {step : Step α ρ} (hstep : step.state? = none) :
    Past.SetUp (step :: past) := by
  obtain ⟨since, earlier, rfl, hsince⟩ := h
  refine ⟨step :: since, earlier, rfl, ?_⟩
  rw [List.forall_mem_cons]
  exact ⟨hstep, hsince⟩

theorem Past.InSession.cons (h : past.InSession) {step : Step α ρ}
    (hstep : step.1.isFall = false) : Past.InSession (step :: past) := by
  obtain ⟨since, f, earlier, rfl, hsince, hsetUp⟩ := h
  refine ⟨step :: since, f, earlier, rfl, ?_, hsetUp⟩
  rw [List.forall_mem_cons]
  exact ⟨hstep, hsince⟩

theorem Step.eq_forceSetup {step : Step α ρ} (h : step.state? = some .setup) :
    step.1 = .forceSetup := by
  unfold Step.state? at h
  split at h
  · rfl
  · cases h
  · cases h
  · cases h

theorem Step.eq_markConnected {step : Step α ρ} (h : step.state? = some .connected) :
    ∃ f answer, step = (.markConnected f, .ok answer) := by
  unfold Step.state? at h
  split at h
  · cases h
  · cases h
  · exact ⟨_, _, rfl⟩
  · cases h

theorem Step.isFall_eq_false {step : Step α ρ} (h : step.state? = none) :
    step.1.isFall = false := by
  obtain ⟨call, answer⟩ := step
  cases call with
  | forceSetup => cases h
  | forceDisconnect => cases h
  | _ => rfl

theorem Lived.setUp (h : Lived id limits past c) (hstate : c.state = .setup) : past.SetUp := by
  induction h with
  | fresh => cases hstate
  | @perform past c _ call ih =>
    rw [state_perform] at hstate
    cases hset : Step.state? (call, (c.perform call).answer) with
    | none =>
      rw [hset] at hstate
      exact (ih hstate).cons hset
    | some state =>
      rw [hset] at hstate
      obtain rfl : state = .setup := hstate
      obtain rfl : call = .forceSetup := Step.eq_forceSetup hset
      exact ⟨[], past, rfl, List.forall_mem_nil _⟩

-- A connection is answered from the setup or from another session only.
theorem of_answer_markConnected {f : Fingerprint} {answer : Answer α}
    (h : (c.perform (.markConnected f)).answer = .ok answer) :
    c.state ≠ .unconnected ∧ answer = .done := by
  simp only [perform] at h
  rcases c.markConnected_cases f with ⟨_, heq⟩ | ⟨_, _, heq⟩ | ⟨hstate, _, heq⟩
  · rw [heq] at h
    cases h
  · rw [heq] at h
    cases h
  · rw [heq] at h
    cases h
    exact ⟨hstate, rfl⟩

theorem Lived.inSession (h : Lived id limits past c) (hstate : c.state = .connected) :
    past.InSession := by
  induction h with
  | fresh => cases hstate
  | @perform past c hc call ih =>
    rw [state_perform] at hstate
    cases hset : Step.state? (call, (c.perform call).answer) with
    | none =>
      rw [hset] at hstate
      exact (ih hstate).cons (Step.isFall_eq_false hset)
    | some state =>
      rw [hset] at hstate
      obtain rfl : state = .connected := hstate
      obtain ⟨f, answer, heq⟩ := Step.eq_markConnected hset
      obtain ⟨rfl, hanswer⟩ := Prod.mk.inj heq
      obtain ⟨hstate, rfl⟩ := of_answer_markConnected hanswer
      rw [hanswer]
      cases hfrom : c.state with
      | unconnected => exact absurd hfrom hstate
      | setup => exact ⟨[], f, past, rfl, List.forall_mem_nil _, hc.setUp hfrom⟩
      | connected => exact (ih hfrom).cons rfl

end Course

theorem Guarded.answer_markConnected_iff (h : c.Guarded) (f : Fingerprint) :
    (c.markConnected f).answer = .ok () ↔
      (c.state = .setup ∨ c.state = .connected) ∧ f ∈ c.known.fingerprints := by
  rw [← h.numbered.contains_iff]
  rcases c.markConnected_cases f with ⟨hstate, heq⟩ | ⟨_, hknown, heq⟩ | ⟨hstate, hknown, heq⟩
  · rw [heq, hstate]
    simp [Outcome.refused]
  · rw [heq, hknown]
    simp [Outcome.refused]
  · rw [heq, hknown]
    cases hfrom : c.state with
    | unconnected => exact absurd hfrom hstate
    | setup => simp [Outcome.done]
    | connected => simp [Outcome.done]

-- No other call sets a state.
theorem state_perform_of_other (c : Conversation α ρ) {call : Call α ρ}
    (hconnect : ∀ f, call ≠ .markConnected f) (hfall : call.isFall = false) :
    (c.perform call).after.state = c.state := by
  rw [after_perform]
  cases call with
  | markConnected f => exact absurd rfl (hconnect f)
  | forceSetup => cases hfall
  | forceDisconnect => cases hfall
  | _ => rfl

-- Whatever was asked of a conversation: its state is the one set last, and while it is connected,
-- the active fingerprint is the one it was connected with last, since a setup that no disconnection
-- followed. A connection is refused because of the state first, then because of the fingerprint,
-- and changes nothing else. No other call changes the state, whichever session keys are put in.
theorem state_of_past (id : Identity) (limits : Limits) (calls : List (Call α ρ)) :
    let c := ((fresh id limits).performAll calls).after
    let past : Past α ρ := History.past perform (fresh id limits) calls
    c.state = (past.findSome? Step.state?).getD .unconnected ∧
    (c.state = .connected → ∃ f, ∃ entry ∈ c.known.toList,
      past.findSome? Step.connecting? = some f ∧ entry.fingerprint = f ∧
        c.active? = some entry) ∧
    (c.state = .connected → past.InSession) ∧
    (∀ f, (c.markConnected f).answer = .ok () ↔
      (c.state = .setup ∨ c.state = .connected) ∧ f ∈ c.known.fingerprints) ∧
    (∀ f, c.state = .unconnected →
      c.markConnected f = .refused (.invalidTransition .unconnected .connected) c []) ∧
    (∀ f, c.state ≠ .unconnected → f ∉ c.known.fingerprints →
      c.markConnected f = .refused .unknownFingerprint c []) ∧
    (∀ f, (c.markConnected f).answer = .ok () →
      (c.markConnected f).after = { c with state := .connected, pinned := some f }) ∧
    (∀ call : Call α ρ, (∀ f, call ≠ .markConnected f) → call.isFall = false →
      (c.perform call).after.state = c.state) ∧
    (∀ slot keys, (c.setSessionKeys slot keys).after.state = c.state) := by
  intro c past
  have hlived : Lived id limits past c := lived_performAll id limits calls
  have hguarded := hlived.guarded
  refine ⟨hlived.state_eq, ?_, hlived.inSession, hguarded.answer_markConnected_iff, ?_, ?_, ?_,
    fun call hconnect hfall => c.state_perform_of_other hconnect hfall, ?_⟩
  · intro hstate
    obtain ⟨f, entry, hmem, hpinned, hf, hactive⟩ := hguarded.exists_active? hstate
    exact ⟨f, entry, hmem, (hlived.pinned_eq hstate).symm.trans hpinned, hf, hactive⟩
  · intro f hstate
    simp [markConnected, hstate]
  · intro f hstate hunknown
    rw [← hguarded.numbered.contains_iff] at hunknown
    simp [markConnected, hstate, hunknown]
  · intro f hanswer
    rcases c.markConnected_cases f with ⟨_, heq⟩ | ⟨_, _, heq⟩ | ⟨_, _, heq⟩
    · rw [heq] at hanswer
      cases hanswer
    · rw [heq] at hanswer
      cases hanswer
    · rw [heq]
      rfl
  · intro slot keys
    exact congrArg (·.state) (c.after_setSessionKeys slot keys)

section Switch

open Sample (alice older newer)

-- Tries to connect too early, connects with one device, goes on with the other, and gives up the
-- first.
def switching : List (Call Nat Unit) :=
  [.addFingerprint older, .markConnected older, .addFingerprint newer, .forceSetup,
    .markConnected older, .markConnected newer, .forgetFingerprint older]

theorem state_of_past_switch :
    let c := ((fresh alice .tiny : Conversation Nat Unit).performAll switching).after
    let past : Past Nat Unit := History.past perform (fresh alice .tiny) switching
    c.state = .connected ∧ past.InSession ∧
      (∃ entry ∈ c.known.toList, entry.fingerprint = newer ∧ c.active? = some entry) ∧
      (c.markConnected newer).after = { c with state := .connected, pinned := some newer } ∧
      c.markConnected older = .refused .unknownFingerprint c [] ∧
      (c.perform (.setTrust newer none)).after.state = c.state := by
  intro c past
  obtain ⟨hstate, hactive, hsession, haccepted, _, hunknown, hafter, hothers, _⟩ :=
    state_of_past alice .tiny switching
  have hconnected : c.state = .connected := hstate.trans (by decide +kernel)
  have hlisted : c.known.fingerprints = [newer] := by decide +kernel
  have hconnecting : past.findSome? Step.connecting? = some newer := by decide +kernel
  obtain ⟨f, entry, hmem, hf, hentry, hentryActive⟩ := hactive hconnected
  obtain rfl : newer = f := Option.some.inj (hconnecting.symm.trans hf)
  have hagain := (haccepted newer).mpr ⟨Or.inr hconnected, by rw [hlisted]; decide⟩
  have hgone : older ∉ c.known.fingerprints := by
    rw [hlisted]
    decide
  have hnot : c.state ≠ .unconnected := by
    rw [hconnected]
    decide
  exact ⟨hconnected, hsession hconnected, ⟨entry, hmem, hentry, hentryActive⟩,
    hafter newer hagain, hunknown older hnot hgone,
    hothers (.setTrust newer none) (fun _ h => nomatch h) rfl⟩

end Switch

end Parley.Conversation
