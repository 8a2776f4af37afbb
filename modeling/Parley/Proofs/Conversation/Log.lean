import Parley.Proofs.Conversation.Guarded
import Parley.Proofs.Conversation.Past
import Parley.Proofs.Conversation.Story

/-!
What a conversation writes into the log. Main statements: the lines of a call can be told from the
call and its answer; a line warns exactly if giving up a fingerprint is refused because of the
state; and a refused call leaves no other line.
-/

namespace Parley

-- A line with the message, about a conversation that is displayed as the text.
def Event.tells (message text : String) (event : Event) : Bool :=
  event.message = message && event.fields.lookup "context" = some text

theorem Event.countP_tells_eq_zero {message : String} (text : String) {events : List Event}
    (h : ∀ event ∈ events, event.message ≠ message) :
    events.countP (·.tells message text) = 0 := by
  apply List.countP_eq_zero.mpr
  intro event hmem htells
  rw [tells, Bool.and_eq_true, decide_eq_true_eq] at htells
  exact h event hmem htells.1

-- Whether the state of the conversation was the reason for a refusal.
def Refusal.precluded {β : Type} : Except Refusal β → Bool
  | .ok _ => false
  | .error refusal => refusal.isPrecondition

namespace Conversation

variable {α ρ : Type}

-- Whether a call takes a fingerprint away.
def Call.isRemoval : Call α ρ → Bool
  | .forgetFingerprint _ => true
  | _ => false

namespace Step

-- A fingerprint was added, not only found.
def adds : Step α ρ → Bool
  | (.addFingerprint _, .ok (.entry _ created)) => created
  | _ => false

def connects : Step α ρ → Bool
  | (.markConnected _, .ok _) => true
  | _ => false

theorem adds_of_refused (call : Call α ρ) (refusal : Refusal) :
    adds (call, .error refusal) = false := by
  cases call <;> rfl

theorem connects_of_refused (call : Call α ρ) (refusal : Refusal) :
    connects (call, .error refusal) = false := by
  cases call <;> rfl

-- A removal was refused because of the state.
def warns (step : Step α ρ) : Bool :=
  step.1.isRemoval && Refusal.precluded step.2

-- The lines that a call writes about the conversation of an identity.
def lines (id : Identity) (step : Step α ρ) : List Event :=
  match step.1 with
  | .addFingerprint f => if step.adds then [.newFingerprint id f] else []
  | .markConnected f => if step.connects then [.connected id f] else []
  | .forgetFingerprint f => if step.warns then [.activeFingerprintKept id f] else []
  | .forceSetup => [.forcedToSetup id]
  | .forceDisconnect => [.forcedToSetup id, .forcedToUnconnected id]
  | _ => []

variable (id : Identity) (step : Step α ρ)

-- How many of the lines are of some kind is a matter of the one line that there may be.
theorem countP_added : (step.lines id).countP (fun event => event.message = "new fingerprint") =
    if step.adds then 1 else 0 := by
  obtain ⟨call, answer⟩ := step
  cases call with
  | addFingerprint f | markConnected f | forgetFingerprint f =>
    simp only [lines]
    split
    · rfl
    · rfl
  | _ => rfl

theorem countP_connected : (step.lines id).countP (fun event => event.message = "connected") =
    if step.connects then 1 else 0 := by
  obtain ⟨call, answer⟩ := step
  cases call with
  | addFingerprint f | markConnected f | forgetFingerprint f =>
    simp only [lines]
    split
    · rfl
    · rfl
  | _ => rfl

theorem countP_warn : (step.lines id).countP (fun event => event.level = .warn) =
    if step.warns then 1 else 0 := by
  obtain ⟨call, answer⟩ := step
  cases call with
  | addFingerprint f | markConnected f | forgetFingerprint f =>
    simp only [lines]
    split
    · rfl
    · rfl
  | _ => rfl

-- Conversations come and go without a line of their own.
theorem message_ne_of_mem_lines {event : Event} (h : event ∈ step.lines id) :
    event.message ≠ "new context" ∧ event.message ≠ "context destroyed" := by
  obtain ⟨call, answer⟩ := step
  cases call with
  | addFingerprint f | markConnected f | forgetFingerprint f =>
    simp only [lines] at h
    split at h
    · obtain rfl := List.mem_singleton.mp h
      simp [Event.message]
    · cases h
  | forceSetup =>
    obtain rfl := List.mem_singleton.mp h
    simp [Event.message]
  | forceDisconnect =>
    rcases List.mem_pair.mp h with rfl | rfl
    · simp [Event.message]
    · simp [Event.message]
  | _ => cases h

variable {id}

-- What is told of the lines of one step by its kind is told of those of many by counting.
theorem countP_flatMap_lines {p : Event → Bool} {q : Step α ρ → Bool}
    (h : ∀ step : Step α ρ, (step.lines id).countP p = if q step then 1 else 0)
    (steps : List (Step α ρ)) : (steps.flatMap (lines id)).countP p = steps.countP q := by
  induction steps with
  | nil => rfl
  | cons step steps ih =>
    rw [List.flatMap_cons, List.countP_append, h, ih, List.countP_cons, Nat.add_comm]

theorem countP_tells_lines (id : Identity) {message : String}
    (hmessage : message = "new context" ∨ message = "context destroyed") (text : String)
    (steps : List (Step α ρ)) :
    (steps.flatMap (lines id)).countP (·.tells message text) = 0 := by
  apply Event.countP_tells_eq_zero
  intro event hmem
  obtain ⟨step, _, hline⟩ := List.mem_flatMap.mp hmem
  obtain ⟨hnew, hdestroyed⟩ := step.message_ne_of_mem_lines id hline
  rcases hmessage with rfl | rfl
  · exact hnew
  · exact hdestroyed

end Step

variable (c : Conversation α ρ)

-- A call with its answer.
def step (call : Call α ρ) : Step α ρ :=
  (call, (c.perform call).answer)

-- A fingerprint that is new goes into the log, one that is found does not.
theorem addFingerprint_logs (f : Fingerprint) :
    c.addFingerprint f = .refused .fingerprintListFull c [] ∨
      ∃ after entry created, c.addFingerprint f =
        .done after (entry, created) (if created then [.log (.newFingerprint c.id f)] else []) := by
  unfold addFingerprint
  split
  · exact Or.inl rfl
  · exact Or.inr ⟨_, _, _, rfl⟩

-- Only the refusal for a live session goes into the log.
theorem forgetFingerprint_logs (f : Fingerprint) :
    c.forgetFingerprint f =
        .refused .fingerprintInUse c [.log (.activeFingerprintKept c.id f)] ∨
      (∃ after, c.forgetFingerprint f = .refused .unknownFingerprint after []) ∨
      ∃ after, c.forgetFingerprint f = .done after () [] := by
  unfold forgetFingerprint
  split
  · exact Or.inl rfl
  · split
    · exact Or.inr (Or.inl ⟨_, rfl⟩)
    · exact Or.inr (Or.inr ⟨_, rfl⟩)

-- What a call writes is told by the call and its answer.
theorem events_perform (call : Call α ρ) :
    Effect.events (c.perform call).effects = (c.step call).lines c.id := by
  cases call with
  | addFingerprint f =>
    simp only [step, perform]
    rcases c.addFingerprint_logs f with heq | ⟨after, entry, created, heq⟩
    · rw [heq]
      rfl
    · rw [heq]
      cases created <;> rfl
  | markConnected f =>
    simp only [step, perform]
    rcases c.markConnected_cases f with ⟨_, heq⟩ | ⟨_, _, heq⟩ | ⟨_, _, heq⟩
    · rw [heq]
      rfl
    · rw [heq]
      rfl
    · rw [heq]
      rfl
  | forgetFingerprint f =>
    simp only [step, perform]
    rcases c.forgetFingerprint_logs f with heq | ⟨after, heq⟩ | ⟨after, heq⟩
    · rw [heq]
      rfl
    · rw [heq]
      rfl
    · rw [heq]
      rfl
  | setSessionKeys slot keys =>
    exact congrArg Effect.events (c.effects_setSessionKeys slot keys)
  | saveMacKey key => exact congrArg Effect.events (c.effects_saveMacKey key)
  | setPresharedSecret secret =>
    exact congrArg Effect.events (c.effects_setPresharedSecret secret)
  | attach data function =>
    change Effect.events (Attachment.release c.attachment) = []
    match c.attachment with
    | some ⟨_, some _⟩ | some ⟨_, none⟩ | none => rfl
  | _ => rfl

-- The calls of a history with their answers write line after line.
theorem events_performAll (calls : List (Call α ρ)) :
    Effect.events (c.performAll calls).effects =
      (calls.zip (c.performAll calls).answers).flatMap (Step.lines c.id) := by
  induction calls generalizing c with
  | nil => rfl
  | cons call calls ih =>
    have hrest := ih (c.perform call).after
    rw [c.id_perform call] at hrest
    simp only [performAll, History.run, Effect.events_append, List.zip_cons_cons,
      List.flatMap_cons] at hrest ⊢
    rw [hrest, c.events_perform call, step]

-- One warning for a removal that the state precludes, and none otherwise; and nothing but that if
-- the call is refused.
theorem warns_perform (call : Call α ρ) :
    (Effect.events (c.perform call).effects).countP (fun event => event.level = .warn) =
        (if call.isRemoval && Refusal.precluded (c.perform call).answer then 1 else 0) ∧
      ((∃ refusal, (c.perform call).answer = .error refusal) →
        ∀ event ∈ Effect.events (c.perform call).effects, event.level ≠ .debug) := by
  rw [events_perform]
  refine ⟨(c.step call).countP_warn c.id, ?_⟩
  rintro ⟨refusal, hrefused⟩ event hmem
  rw [step, hrefused] at hmem
  cases call with
  | forgetFingerprint f =>
    simp only [Step.lines] at hmem
    split at hmem
    · obtain rfl := List.mem_singleton.mp hmem
      simp [Event.level]
    · cases hmem
  | forceSetup => cases hrefused
  | forceDisconnect => cases hrefused
  | _ => cases hmem

end Conversation

end Parley
