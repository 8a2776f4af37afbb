import Parley.Proofs.Conversation.Past
import Parley.Proofs.Registry.Creation
import Parley.Proofs.Registry.Reachable
import Parley.Proofs.Registry.Subject

/-!
The life of a conversation in a registry: its own past since it was last created, read off the past
of the registry. Main statement: whatever was asked of a registry that began empty, each of its
conversations stands there with its life behind it, and an identity without a conversation has none.
-/

namespace Parley.Registry

open Conversation (Lived)

variable {α ρ : Type}

-- What was asked and how it was answered.
abbrev Step (α ρ : Type) := Call α ρ × Except Refusal (Answer α ρ)

-- What a step makes of the life of a conversation that it is about: it begins with the calls of its
-- creation and ends when it is taken out.
def Step.onLife (limits : Limits) (id : Identity) :
    Step α ρ → Option (Conversation.Past α ρ) → Option (Conversation.Past α ρ)
  | (.findContext _ _ onCreate, .ok (.found (some (_, true)))), _
  | (.findOrCreate _ onCreate, .ok (.found (some (_, true)))), _ =>
    some (History.past Conversation.perform (.fresh id limits) onCreate)
  | (.onContext _ asked, .ok (.context (some answer))), life => life.map ((asked, .ok answer) :: ·)
  | (.onContext _ asked, .error refusal), life => life.map ((asked, .error refusal) :: ·)
  | (.forgetFingerprint _ (.entry f) _, .ok (.removed .fingerprint)), life =>
    life.map ((.forgetFingerprint f, .ok .done) :: ·)
  | (.forgetFingerprint _ (.entry f) _, .error refusal), life =>
    life.map ((.forgetFingerprint f, .error refusal) :: ·)
  | (.forget _, .ok _), _ | (.forgetAll, .ok _), _
  | (.forgetFingerprint _ _ _, .ok (.removed .context)), _ => none
  | _, life => life

-- The past of the conversation of an identity since it was last created, if it is still there, read
-- off the past of the registry.
def life (limits : Limits) (id : Identity) : List (Step α ρ) → Option (Conversation.Past α ρ)
  | [] => none
  | step :: earlier =>
    if step.1.subject?.all (· = id) then step.onLife limits id (life limits id earlier)
    else life limits id earlier

variable {r : Registry α ρ} {config : Config} {id : Identity}

-- The conversation under an identity stands there with its life behind it.
def Alive (config : Config) (id : Identity) (own : Option (Conversation.Past α ρ))
    (c : Option (Conversation α ρ)) : Prop :=
  Option.Rel (Lived id config.limits) own c

-- One call on the registry, looked at under the identity that it is about.
def Lives (config : Config) (id : Identity) (r : Registry α ρ) (call : Call α ρ) : Prop :=
  ∀ own, Alive config id own (r.get? id) →
    Alive config id (Step.onLife config.limits id (call, (r.perform call).answer) own)
      ((r.perform call).after.get? id)

theorem lives_findContext (hconfig : r.config = config) (create : Bool)
    (onCreate : List (Conversation.Call α ρ)) :
    Lives config id r (.findContext id create onCreate) := by
  intro own h
  rcases r.findContext_cases id create onCreate with
    ⟨refusal, heq⟩ | ⟨found, heq⟩ | ⟨_, _, _, heq⟩
  · simp only [perform, heq]
    exact h
  · simp only [perform, heq]
    cases found <;> exact h
  · simp only [perform, heq, hconfig]
    simp only [Outcome.done, Outcome.after_map, get?_put_self]
    exact .some (Conversation.lived_performAll id config.limits onCreate)

-- Searching and creating at once is the same step of a life.
theorem lives_findOrCreate (hconfig : r.config = config)
    (onCreate : List (Conversation.Call α ρ)) : Lives config id r (.findOrCreate id onCreate) := by
  intro own h
  have hsame : Step.onLife config.limits id
      (.findOrCreate id onCreate, (r.perform (.findOrCreate id onCreate)).answer) own =
        Step.onLife config.limits id
          (.findContext id true onCreate, (r.perform (.findContext id true onCreate)).answer)
          own := by
    simp only [perform, findOrCreate, Outcome.answer_map]
    rcases (r.findContext id true onCreate).answer with _ | _ | ⟨_, _ | _⟩ <;> rfl
  rw [hsame]
  exact lives_findContext hconfig true onCreate own h

theorem lives_onContext (hgrown : Grown config r) (asked : Conversation.Call α ρ) :
    Lives config id r (.onContext id asked) := by
  intro own h
  cases hget : r.get? id with
  | none =>
    rw [hget] at h
    cases h
    rcases r.onContext_cases id (·.perform asked) with ⟨refusal, heq⟩ | heq | ⟨c, hc, _⟩
    · simp only [perform, heq]
      exact hget ▸ .none
    · simp only [perform, heq]
      exact hget ▸ .none
    · cases hget.symm.trans hc
  | some c =>
    rw [hget] at h
    cases h with
    | some h =>
      have hnext := h.perform asked
      simp only [perform, onContext_of_found (hgrown.valid hget) hget]
      simp only [Outcome.after_map, Outcome.after_within, get?_put_self, Outcome.answer_map,
        Outcome.answer_within]
      cases hanswer : (c.perform asked).answer with
      | error refusal =>
        rw [hanswer] at hnext
        exact .some hnext
      | ok answer =>
        rw [hanswer] at hnext
        exact .some hnext

theorem lives_forget : Lives config id r (.forget id) := by
  intro own h
  cases hget : r.get? id with
  | none =>
    simp only [perform, forget_of_absent hget]
    exact h
  | some c =>
    by_cases hstate : c.state = .unconnected
    · simp only [perform, forget_of_unconnected hget hstate]
      simp only [Outcome.done, Outcome.after_map, get?_drop_self]
      exact .none
    · simp only [perform, forget_of_kept hget hstate]
      exact h

theorem lives_forgetFingerprint (target : Target) (cascade : Bool) :
    Lives config id r (.forgetFingerprint id target cascade) := by
  intro own h
  cases hget : r.get? id with
  | none =>
    rw [hget] at h
    cases h
    simp only [perform, forgetFingerprint_of_absent hget]
    cases target <;> exact hget ▸ .none
  | some c =>
    cases target with
    | root =>
      simp only [perform, forgetFingerprint_root hget]
      cases cascade with
      | false => exact h
      | true =>
        by_cases hstate : c.state = .unconnected
        · simp only [forget_of_unconnected hget hstate]
          exact get?_drop_self r id ▸ .none
        · simp only [forget_of_kept hget hstate]
          exact h
    | entry f =>
      rw [hget] at h
      cases h with
      | some h =>
        have hnext := h.perform (.forgetFingerprint f)
        cases hanswer : (c.forgetFingerprint f).answer with
        | error refusal =>
          simp only [perform, forgetFingerprint_of_refused hget hanswer]
          simp only [Conversation.perform, Outcome.answer_map, hanswer] at hnext
          exact get?_put_self r id _ ▸ .some hnext
        | ok _ =>
          by_cases hcascades : Cascades cascade (c.forgetFingerprint f).after
          · simp only [perform, forgetFingerprint_of_cascades hget hanswer hcascades]
            exact get?_drop_self _ id ▸ .none
          · simp only [perform, forgetFingerprint_of_removed hget hanswer hcascades]
            simp only [Conversation.perform, Outcome.answer_map, hanswer] at hnext
            exact get?_put_self r id _ ▸ .some hnext

theorem lives_perform (hgrown : Grown config r) {call : Call α ρ}
    (hsubject : call.subject? = some id) : Lives config id r call := by
  apply Call.of_subject hsubject
  · exact lives_findContext hgrown.config_eq
  · exact lives_findOrCreate hgrown.config_eq
  · exact lives_onContext hgrown
  · exact lives_forget
  · exact lives_forgetFingerprint

-- Whatever is asked, and about whom, the life of an identity goes on with it, or goes by it.
theorem alive_perform (hgrown : Grown config r) {past : List (Step α ρ)}
    (h : Alive config id (life config.limits id past) (r.get? id)) (call : Call α ρ) :
    Alive config id (life config.limits id ((call, (r.perform call).answer) :: past))
      ((r.perform call).after.get? id) := by
  rw [life]
  cases hsubject : call.subject? with
  | none =>
    rw [eq_forgetAll hsubject, perform, forgetAll_eq]
    exact get?_empty id r.config ▸ .none
  | some other =>
    rw [Option.all_some]
    by_cases hother : other = id
    · rw [if_pos (decide_eq_true hother)]
      exact lives_perform hgrown (hother ▸ hsubject) _ h
    · rw [if_neg (by simpa using hother), r.get?_perform_of_ne hsubject hother]
      exact h

theorem alive_performAll (config : Config) (calls : List (Call α ρ)) (id : Identity) :
    Alive config id (life config.limits id (History.past perform (empty config) calls))
      (((empty config).performAll calls).after.get? id) := by
  have hrun : Grown config _ ∧
      Alive config id (life config.limits id (History.past perform (empty config) calls ++ []))
        (((empty config).performAll calls).after.get? id) :=
    History.run_recorded
      (fun past r => Grown config r ∧ Alive config id (life config.limits id past) (r.get? id))
      (fun _ _ call h => ⟨h.1.perform call, alive_perform h.1 h.2 call⟩)
      ⟨grown_empty, get?_empty id config ▸ .none⟩ calls
  rw [List.append_nil] at hrun
  exact hrun.2

end Parley.Registry
