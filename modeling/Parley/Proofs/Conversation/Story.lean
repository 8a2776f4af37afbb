import Parley.Proofs.Conversation.Frame

/-!
What becomes of the data attached to a conversation, told as a story. Main statements: a story gives
back each data that came with a function once, to that function, in the order of attaching and as it
was when its time was over; and the calls on a conversation tell the story that they make.
-/

namespace Parley

-- What is to be released if the time of the attached data is over.
def Attachment.due {α ρ : Type} : Option (Attachment α ρ) → List (ρ × α)
  | some ⟨data, some function⟩ => [(function, data)]
  | some ⟨_, none⟩ | none => []

def Attachment.edited {α ρ : Type} (a : Attachment α ρ) (edit : α → α) : Attachment α ρ :=
  { a with data := edit a.data }

theorem Attachment.releases_release {α ρ : Type} (a : Option (Attachment α ρ)) :
    Effect.releases (Attachment.release a) = Attachment.due a := by
  match a with
  | some ⟨_, some _⟩ => rfl
  | some ⟨_, none⟩ => rfl
  | none => rfl

-- What can happen to the data attached to a conversation.
inductive Turn (α ρ : Type) where
  | attach (data : α) (function : Option ρ)
  | edit (edit : α → α)
  | tornDown

-- From the first turn to the last.
abbrev Story (α ρ : Type) := List (Turn α ρ)

namespace Story

open Attachment (due)

variable {α ρ : Type}

-- What is attached in the end.
def attached (a : Option (Attachment α ρ)) : Story α ρ → Option (Attachment α ρ)
  | [] => a
  | .attach data function :: rest => attached (some ⟨data, function⟩) rest
  | .edit edit :: rest => attached (a.map (·.edited edit)) rest
  | .tornDown :: rest => attached none rest

-- What is released turn by turn, beginning with what is attached.
def dues (a : Option (Attachment α ρ)) : Story α ρ → List (ρ × α)
  | [] => []
  | .attach data function :: rest => due a ++ dues (some ⟨data, function⟩) rest
  | .edit edit :: rest => dues (a.map (·.edited edit)) rest
  | .tornDown :: rest => due a ++ dues none rest

-- The one release of attached data, with all changes made to it, when other data take its place or
-- the conversation is torn down, whichever comes first; none while it is still attached.
def settled (a : Attachment α ρ) : Story α ρ → List (ρ × α)
  | [] => []
  | .edit edit :: rest => settled (a.edited edit) rest
  | .attach _ _ :: _ | .tornDown :: _ => due (some a)

-- The releases, one for each data that was attached with a function and whose time is over.
def released : Story α ρ → List (ρ × α)
  | [] => []
  | .attach data function :: rest => settled ⟨data, function⟩ rest ++ released rest
  | .edit _ :: rest | .tornDown :: rest => released rest

-- Attached data as it is when its time is over, or now if it is not.
def last (a : Attachment α ρ) : Story α ρ → Attachment α ρ
  | .edit edit :: rest => last (a.edited edit) rest
  | _ => a

-- All data ever attached with a function, each once, as it is in the end.
def deposits : Story α ρ → List (ρ × α)
  | [] => []
  | .attach data function :: rest => due (some (last ⟨data, function⟩ rest)) ++ deposits rest
  | .edit _ :: rest | .tornDown :: rest => deposits rest

theorem attached_append (a : Option (Attachment α ρ)) (story more : Story α ρ) :
    attached a (story ++ more) = attached (attached a story) more := by
  induction story generalizing a with
  | nil => rfl
  | cons turn rest ih => cases turn <;> exact ih _

theorem dues_append (a : Option (Attachment α ρ)) (story more : Story α ρ) :
    dues a (story ++ more) = dues a story ++ dues (attached a story) more := by
  induction story generalizing a with
  | nil => rfl
  | cons turn rest ih =>
    cases turn with
    | attach data function =>
      simp only [List.cons_append, dues, attached, ih, List.append_assoc]
    | edit edit => exact ih _
    | tornDown => simp only [List.cons_append, dues, attached, ih, List.append_assoc]

-- Turn by turn, what was attached at first is settled, and then what the story itself attached.
theorem dues_eq (a : Option (Attachment α ρ)) (story : Story α ρ) :
    dues a story = a.elim [] (settled · story) ++ released story := by
  induction story generalizing a with
  | nil => cases a <;> rfl
  | cons turn rest ih =>
    cases turn with
    | attach data function => cases a <;> simp only [dues, ih] <;> rfl
    | edit edit => cases a <;> simp only [dues, ih] <;> rfl
    | tornDown => cases a <;> simp only [dues, ih] <;> rfl

theorem dues_none (story : Story α ρ) : dues none story = released story :=
  dues_eq none story

theorem settled_append_tornDown (a : Attachment α ρ) (story : Story α ρ) :
    settled a (story ++ [.tornDown]) = due (some (last a story)) := by
  induction story generalizing a with
  | nil => rfl
  | cons turn rest ih =>
    cases turn with
    | attach data function => rfl
    | edit edit => exact ih (a.edited edit)
    | tornDown => rfl

-- Once the conversation is torn down, nothing is left to release.
theorem released_append_tornDown (story : Story α ρ) :
    released (story ++ [.tornDown]) = deposits story := by
  induction story with
  | nil => rfl
  | cons turn rest ih =>
    cases turn with
    | attach data function =>
      simp only [List.cons_append, released, deposits, settled_append_tornDown, ih]
    | edit edit => exact ih
    | tornDown => exact ih

end Story

namespace Conversation

variable {α ρ : Type}

def Call.turn? : Call α ρ → Option (Turn α ρ)
  | .attach data function => some (.attach data function)
  | .editData edit => some (.edit edit)
  | _ => none

variable (c : Conversation α ρ)

-- Nothing that can be refused touches the data.
theorem turn?_of_refused {call : Call α ρ} {refusal : Refusal}
    (h : (c.perform call).answer = .error refusal) : call.turn? = none := by
  cases call with
  | attach data function => cases h
  | editData edit => cases h
  | _ => rfl

theorem attachment_perform (call : Call α ρ) :
    (c.perform call).after.attachment = Story.attached c.attachment call.turn?.toList := by
  rw [after_perform]
  cases call <;> rfl

theorem releases_addFingerprint (f : Fingerprint) :
    Effect.releases (c.addFingerprint f).effects = [] := by
  unfold addFingerprint
  split
  · rfl
  · simp only [Outcome.done]
    split <;> rfl

theorem releases_forgetFingerprint (f : Fingerprint) :
    Effect.releases (c.forgetFingerprint f).effects = [] := by
  unfold forgetFingerprint
  split
  · rfl
  · split <;> rfl

theorem releases_markConnected (f : Fingerprint) :
    Effect.releases (c.markConnected f).effects = [] := by
  unfold markConnected
  split
  · rfl
  · split <;> rfl

theorem effects_setSessionKeys (slot : KeySlot) (keys : Option SessionKeys) :
    (c.setSessionKeys slot keys).effects = [] := by
  unfold setSessionKeys
  dsimp only
  split <;> rfl

theorem effects_saveMacKey (key : MacKey) : (c.saveMacKey key).effects = [] := by
  unfold saveMacKey
  split <;> rfl

theorem effects_setPresharedSecret (secret : Option (Array UInt8)) :
    (c.setPresharedSecret secret).effects = [] := by
  unfold setPresharedSecret
  dsimp only
  split
  · rfl
  · split
    · rfl
    · split <;> rfl

-- Of all calls, only attaching releases something.
theorem releases_perform (call : Call α ρ) :
    Effect.releases (c.perform call).effects = Story.dues c.attachment call.turn?.toList := by
  cases call with
  | addFingerprint f => exact c.releases_addFingerprint f
  | forgetFingerprint f => exact c.releases_forgetFingerprint f
  | markConnected f => exact c.releases_markConnected f
  | setSessionKeys slot keys =>
    exact congrArg Effect.releases (c.effects_setSessionKeys slot keys)
  | saveMacKey key => exact congrArg Effect.releases (c.effects_saveMacKey key)
  | setPresharedSecret secret =>
    exact congrArg Effect.releases (c.effects_setPresharedSecret secret)
  | attach data function =>
    exact (Attachment.releases_release c.attachment).trans (List.append_nil _).symm
  | _ => rfl

-- Neither a refused call nor one that forces the state releases anything.
theorem releases_perform_of_quiet {call : Call α ρ}
    (h : (∃ refusal, (c.perform call).answer = .error refusal) ∨ call = .forceSetup ∨
      call = .forceDisconnect) : Effect.releases (c.perform call).effects = [] := by
  have hturn : call.turn? = none := by
    rcases h with ⟨refusal, hrefused⟩ | rfl | rfl
    · exact c.turn?_of_refused hrefused
    · rfl
    · rfl
  rw [releases_perform, hturn]
  rfl

-- The story that calls make, call by call.
theorem story_performAll (calls : List (Call α ρ)) :
    (c.performAll calls).after.attachment =
        Story.attached c.attachment (calls.filterMap (·.turn?)) ∧
      Effect.releases (c.performAll calls).effects =
        Story.dues c.attachment (calls.filterMap (·.turn?)) := by
  induction calls generalizing c with
  | nil => exact ⟨rfl, rfl⟩
  | cons call calls ih =>
    have hstory : (call :: calls).filterMap (·.turn?) =
        call.turn?.toList ++ calls.filterMap (·.turn?) := by
      rw [List.filterMap_cons]
      cases call.turn? <;> rfl
    obtain ⟨hattached, hreleased⟩ := ih (c.perform call).after
    rw [attachment_perform] at hattached hreleased
    rw [hstory, Story.attached_append, Story.dues_append, ← c.releases_perform call]
    refine ⟨hattached, ?_⟩
    rw [← hreleased]
    exact Effect.releases_append _ _

-- Tearing down releases what is attached.
theorem releases_destroy : Effect.releases c.destroy.effects = Attachment.due c.attachment := by
  simp only [destroy, Outcome.done, forceDisconnect, Effect.releases_append,
    Attachment.releases_release]
  exact List.append_nil _

end Conversation

end Parley
