import Mathlib.Data.List.TakeWhile
import Parley.Conversation.Call

/-!
The past of a conversation: what was asked of it and how it was answered. Main statement: calls on a
fresh conversation, one after another, leave a conversation with its whole past, so that what is to
be shown of the two can be shown call by call.
-/

namespace Parley.Conversation

variable {α ρ : Type}

-- What was asked and how it was answered.
abbrev Step (α ρ : Type) := Call α ρ × Except Refusal (Answer α)

-- The latest step comes first.
abbrev Past (α ρ : Type) := List (Step α ρ)

-- The calls that fall back to setup or further.
def Call.isFall : Call α ρ → Bool
  | .forceSetup | .forceDisconnect => true
  | _ => false

def Past.sinceFall (past : Past α ρ) : Past α ρ :=
  past.takeWhile fun step => !step.1.isFall

theorem Past.sinceFall_cons (call : Call α ρ) (answer : Except Refusal (Answer α))
    (earlier : Past α ρ) :
    Past.sinceFall ((call, answer) :: earlier) =
      if call.isFall then [] else (call, answer) :: earlier.sinceFall := by
  rw [Past.sinceFall, List.takeWhile_cons]
  cases hfall : call.isFall with
  | true => rfl
  | false => rfl

-- Calls that never fall back leave the past whole.
theorem Past.sinceFall_eq_self {past : Past α ρ} (h : ∀ step ∈ past, step.1.isFall = false) :
    past.sinceFall = past :=
  List.takeWhile_eq_self_iff.mpr fun step hstep => by rw [h step hstep]; rfl

-- A conversation that began fresh, with its whole past.
inductive Lived (id : Identity) (limits : Limits) : Past α ρ → Conversation α ρ → Prop where
  | fresh : Lived id limits [] (.fresh id limits)
  | perform {past : Past α ρ} {c : Conversation α ρ} (h : Lived id limits past c)
    (call : Call α ρ) :
    Lived id limits ((call, (c.perform call).answer) :: past) (c.perform call).after

theorem lived_performAll (id : Identity) (limits : Limits) (calls : List (Call α ρ)) :
    Lived id limits (History.past Conversation.perform (.fresh id limits) calls)
      ((fresh id limits).performAll calls).after := by
  have hrun : Lived id limits (History.past Conversation.perform (.fresh id limits) calls ++ [])
      ((fresh id limits).performAll calls).after :=
    History.run_recorded (Lived id limits) (fun _ _ call h => h.perform call) .fresh calls
  rwa [List.append_nil] at hrun

end Parley.Conversation
