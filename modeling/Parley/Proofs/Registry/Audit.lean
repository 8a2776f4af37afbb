import Parley.Proofs.Conversation.Log
import Parley.Proofs.Registry.Creation
import Parley.Proofs.Registry.Report
import Parley.Proofs.Registry.Representation

/-!
What a registry writes into the log. Main statement: the log is a faithful account. For every text,
as many conversations displayed as it were made as were destroyed and still live; every fingerprint
that was added and every session that began has its line; and a call warns exactly if the state
precludes the removal that it asks for.
-/

namespace Parley

namespace Conversation

variable {α ρ : Type}

-- What is written when conversations go, be it with some or without.
structure Parting (gone : List (Conversation α ρ)) (events : List Event) : Prop where
  destroyed (text : String) : events.countP (·.tells "context destroyed" text) =
    gone.countP fun c => c.id.display = text
  quiet : ∀ event ∈ events, event.level = .debug ∧ event.message ≠ "new context" ∧
    event.message ≠ "new fingerprint" ∧ event.message ≠ "connected"

theorem Parting.append {gone more : List (Conversation α ρ)} {events further : List Event}
    (h : Parting gone events) (hmore : Parting more further) :
    Parting (gone ++ more) (events ++ further) where
  destroyed text := by
    rw [List.countP_append, List.countP_append, h.destroyed, hmore.destroyed]
  quiet event hmem := (List.mem_append.mp hmem).elim (h.quiet event) (hmore.quiet event)

theorem parting_nil : Parting ([] : List (Conversation α ρ)) [] where
  destroyed _ := rfl
  quiet _ hmem := absurd hmem List.not_mem_nil

theorem events_release (a : Option (Attachment α ρ)) :
    Effect.events (Attachment.release a) = [] := by
  match a with
  | some ⟨_, some _⟩ | some ⟨_, none⟩ | none => rfl

theorem events_destroy (c : Conversation α ρ) : Effect.events c.destroy.effects =
    [.forcedToSetup c.id, .forcedToUnconnected c.id, .contextDestroyed c.id] := by
  simp only [destroy, Outcome.done, forceDisconnect, Effect.events_append, events_release]
  rfl

theorem parting_destroy (c : Conversation α ρ) :
    Parting [c] (Effect.events c.destroy.effects) where
  destroyed text := by
    rw [events_destroy]
    simp [Event.tells, Event.message, Event.fields, Event.identity]
  quiet event hmem := by
    rw [events_destroy] at hmem
    simp only [List.mem_cons, List.not_mem_nil, or_false] at hmem
    rcases hmem with rfl | rfl | rfl <;> simp [Event.level, Event.message]

theorem parting_forceDisconnect (c : Conversation α ρ) :
    Parting ([] : List (Conversation α ρ)) (Effect.events c.forceDisconnect.effects) where
  destroyed _ := rfl
  quiet event hmem := by
    rcases List.mem_pair.mp hmem with rfl | rfl <;> simp [Event.level, Event.message]

theorem parting_teardown (conversations : List (Conversation α ρ)) :
    Parting conversations (Effect.events (conversations.flatMap (·.teardown))) := by
  induction conversations with
  | nil => exact parting_nil
  | cons c rest ih =>
    have hdestroyed := c.forceDisconnect.after.parting_destroy
    have hfirst : Parting [c] (Effect.events c.forceDisconnect.after.destroy.effects) :=
      ⟨hdestroyed.destroyed, hdestroyed.quiet⟩
    rw [List.flatMap_cons, Effect.events_append, teardown, Effect.events_append]
    exact (c.parting_forceDisconnect.append hfirst).append ih

end Conversation

namespace Registry

open Conversation (Step Parting)

variable {α ρ : Type}

-- Whether a call takes away a conversation or a fingerprint.
def Call.isRemoval : Call α ρ → Bool
  | .forget _ | .forgetFingerprint _ _ _ => true
  | .onContext _ call => call.isRemoval
  | _ => false

-- What was asked of a new conversation, if the call made one.
def onCreation : Except Refusal (Report α ρ) → List (Step α ρ)
  | .ok (_, steps) => steps
  | .error _ => []

-- All that was asked of conversations, and answered.
def Call.steps (call : Call α ρ) : Except Refusal (Report α ρ) → List (Step α ρ)
  | .error _ => []
  | .ok (answer, onCreation) =>
    match call, answer with
    | .onContext _ asked, .context (some answer) => [(asked, .ok answer)]
    | _, _ => onCreation

-- How many conversations are displayed as the text.
def displayed (r : Registry α ρ) (text : String) : Nat :=
  r.toList.countP fun c => c.id.display = text

section Displayed

variable {r : Registry α ρ} {id : Identity} {c d : Conversation α ρ} {text : String}

theorem displayed_put (hget : r.get? id = none) :
    (r.put id c).displayed text = r.displayed text + if c.id.display = text then 1 else 0 := by
  rw [displayed, (toList_put_perm hget).countP_eq, List.countP_cons]
  simp only [decide_eq_true_eq]
  rfl

theorem displayed_drop (text : String) (hget : r.get? id = some c) :
    r.displayed text =
      [c].countP (fun c => c.id.display = text) + (r.drop id).displayed text := by
  rw [displayed, (toList_perm_drop hget).countP_eq, ← List.singleton_append, List.countP_append]
  rfl

-- A conversation that takes the place of another of its identity.
theorem displayed_put_of_some (hget : r.get? id = some c) (hid : d.id = c.id) :
    (r.put id d).displayed text = r.displayed text := by
  have hput := displayed_drop text (get?_put_self r id d)
  have hsingle : [d].countP (fun c => c.id.display = text) =
      [c].countP (fun c => c.id.display = text) := by
    rw [List.countP_singleton, List.countP_singleton, hid]
  rw [hput, drop_put, hsingle, displayed_drop text hget]

theorem displayed_empty (config : Config) (text : String) :
    (empty config : Registry α ρ).displayed text = 0 := by
  rw [displayed, toList_empty]
  rfl

end Displayed

-- What the log tells of a call.
structure Audited (r : Registry α ρ) (call : Call α ρ) (o : Reply α ρ (Report α ρ)) : Prop where
  balance (text : String) :
    (Effect.events o.effects).countP (·.tells "new context" text) + r.displayed text =
      (Effect.events o.effects).countP (·.tells "context destroyed" text) +
        o.after.displayed text
  added : (Effect.events o.effects).countP (fun event => event.message = "new fingerprint") =
    (call.steps o.answer).countP (·.adds)
  connected : (Effect.events o.effects).countP (fun event => event.message = "connected") =
    (call.steps o.answer).countP (·.connects)
  warned : (Effect.events o.effects).countP (fun event => event.level = .warn) =
    (if call.isRemoval && Refusal.precluded o.answer then 1 else 0) +
      (onCreation o.answer).countP (·.warns)
  refused : (∃ refusal, o.answer = .error refusal) →
    ∀ event ∈ Effect.events o.effects, event.level ≠ .debug

variable {config : Config} {r : Registry α ρ} {call : Call α ρ} {o : Reply α ρ (Report α ρ)}

theorem Audited.of_silent (hevents : Effect.events o.effects = [])
    (hsame : ∀ text, o.after.displayed text = r.displayed text)
    (hsteps : call.steps o.answer = []) (hcreation : onCreation o.answer = [])
    (hremoval : (call.isRemoval && Refusal.precluded o.answer) = false) : Audited r call o where
  balance text := by rw [hevents, hsame]; rfl
  added := by rw [hevents, hsteps]; rfl
  connected := by rw [hevents, hsteps]; rfl
  warned := by rw [hevents, hcreation, hremoval]; rfl
  refused _ event hmem := by rw [hevents] at hmem; cases hmem

theorem Audited.of_parting {gone : List (Conversation α ρ)} {report : Report α ρ}
    (hparting : Parting gone (Effect.events o.effects)) (hanswer : o.answer = .ok report)
    (hgone : ∀ text, r.displayed text =
      gone.countP (fun c => c.id.display = text) + o.after.displayed text)
    (hsteps : call.steps o.answer = []) (hcreation : onCreation o.answer = []) :
    Audited r call o where
  balance text := by
    have hnew := Event.countP_tells_eq_zero text fun event hmem => (hparting.quiet event hmem).2.1
    rw [hnew, hparting.destroyed, hgone, Nat.zero_add]
  added := by
    rw [hsteps]
    exact List.countP_eq_zero.mpr fun event hmem => by simp [hparting.quiet event hmem]
  connected := by
    rw [hsteps]
    exact List.countP_eq_zero.mpr fun event hmem => by simp [hparting.quiet event hmem]
  warned := by
    rw [hanswer, Refusal.precluded, Bool.and_false, ← hanswer, hcreation]
    exact List.countP_eq_zero.mpr fun event hmem => by simp [hparting.quiet event hmem]
  refused := by
    rintro ⟨refusal, hrefused⟩
    rw [hanswer] at hrefused
    cases hrefused

-- A new conversation, with all that was asked of it.
theorem Audited.of_made {id : Identity} {limits : Limits}
    {onCreate : List (Conversation.Call α ρ)} {report : Report α ρ} (hget : r.get? id = none)
    (hafter : o.after = r.put id ((Conversation.fresh id limits).performAll onCreate).after)
    (heffects : o.effects = .log (.newContext id) ::
      ((Conversation.fresh id limits).performAll onCreate).effects)
    (hanswer : o.answer = .ok report) (hremoval : call.isRemoval = false)
    (hsteps : call.steps o.answer =
      onCreate.zip ((Conversation.fresh id limits).performAll onCreate).answers)
    (hcreation : onCreation o.answer = call.steps o.answer) : Audited r call o := by
  let fresh : Conversation α ρ := .fresh id limits
  let made := fresh.performAll onCreate
  have hid : made.after.id = id :=
    (Conversation.reachable_performAll onCreate : Conversation.Reachable id limits _).id_eq
  have hevents : Effect.events o.effects =
      .newContext id :: (onCreate.zip made.answers).flatMap (Step.lines id) := by
    rw [heffects]
    exact congrArg _ (fresh.events_performAll onCreate)
  rw [← hsteps] at hevents
  constructor
  case balance =>
    intro text
    have hnew := Step.countP_tells_lines id (Or.inl rfl) text (call.steps o.answer)
    have hdestroyed := Step.countP_tells_lines id (Or.inr rfl) text (call.steps o.answer)
    have htells : (Event.newContext id).tells "new context" text = decide (id.display = text) := by
      simp [Event.tells, Event.message, Event.fields, Event.identity]
    have hsilent : (Event.newContext id).tells "context destroyed" text = false := rfl
    rw [hevents, hafter, displayed_put hget, List.countP_cons, List.countP_cons, hnew, hdestroyed,
      hid]
    simp only [htells, hsilent, decide_eq_true_eq, Bool.false_eq_true, if_false]
    omega
  case added =>
    rw [hevents, List.countP_cons, Step.countP_flatMap_lines (·.countP_added id)]
    rfl
  case connected =>
    rw [hevents, List.countP_cons, Step.countP_flatMap_lines (·.countP_connected id)]
    rfl
  case warned =>
    rw [hevents, List.countP_cons, Step.countP_flatMap_lines (·.countP_warn id), hremoval,
      hcreation]
    exact Nat.add_comm _ _
  case refused =>
    rintro ⟨refusal, hrefused⟩
    rw [hanswer] at hrefused
    cases hrefused

-- A call on a conversation that is there, which stays the one it is.
theorem Audited.of_step {id : Identity} {c : Conversation α ρ} {asked : Conversation.Call α ρ}
    {report : Conversation.Answer α → Report α ρ} (hget : r.get? id = some c)
    (hafter : o.after = r.put id (c.perform asked).after)
    (heffects : o.effects = (c.perform asked).effects)
    (hanswer : o.answer = (c.perform asked).answer.map report)
    (hremoval : call.isRemoval = asked.isRemoval)
    (hadds : ∀ answer, (call.steps (.ok (report answer))).countP (·.adds) =
      if Step.adds (asked, .ok answer) then 1 else 0)
    (hconnects : ∀ answer, (call.steps (.ok (report answer))).countP (·.connects) =
      if Step.connects (asked, .ok answer) then 1 else 0)
    (hcreation : ∀ answer, (report answer).2 = []) : Audited r call o := by
  have hevents : Effect.events o.effects = (c.step asked).lines c.id := by
    rw [heffects, c.events_perform asked]
  obtain ⟨hwarned, hquiet⟩ := c.warns_perform asked
  constructor
  case balance =>
    intro text
    have hnew := Step.countP_tells_lines c.id (Or.inl rfl) text [c.step asked]
    have hdestroyed := Step.countP_tells_lines c.id (Or.inr rfl) text [c.step asked]
    rw [List.flatMap_singleton, ← hevents] at hnew hdestroyed
    rw [hnew, hdestroyed, hafter, displayed_put_of_some hget (c.id_perform asked)]
  case added =>
    rw [hevents, Step.countP_added, Conversation.step, hanswer]
    cases (c.perform asked).answer with
    | error refusal => rw [Step.adds_of_refused]; rfl
    | ok answer => exact (hadds answer).symm
  case connected =>
    rw [hevents, Step.countP_connected, Conversation.step, hanswer]
    cases (c.perform asked).answer with
    | error refusal => rw [Step.connects_of_refused]; rfl
    | ok answer => exact (hconnects answer).symm
  case warned =>
    rw [heffects, hwarned, hremoval, hanswer]
    cases (c.perform asked).answer with
    | error refusal => rfl
    | ok answer =>
      have hnone : onCreation (.ok (report answer)) = [] := hcreation answer
      rw [Except.map, hnone]
      rfl
  case refused =>
    rintro ⟨refusal, hrefused⟩
    rw [heffects]
    refine hquiet ?_
    rw [hanswer] at hrefused
    cases hasked : (c.perform asked).answer with
    | error other => exact ⟨other, rfl⟩
    | ok answer => rw [hasked] at hrefused; cases hrefused

section Calls

variable (r)

theorem audited_findContext (id : Identity) (create : Bool)
    (onCreate : List (Conversation.Call α ρ)) :
    let call : Call α ρ := .findContext id create onCreate
    Audited r call (r.report call) := by
  intro call
  simp only [call, report, perform]
  rcases r.findContext_cases id create onCreate with
    ⟨refusal, heq⟩ | ⟨found, heq⟩ | ⟨_, hget, _, heq⟩
  · rw [heq]
    exact Audited.of_silent rfl (fun _ => rfl) rfl rfl rfl
  · rw [heq]
    cases found with
    | none => exact Audited.of_silent rfl (fun _ => rfl) rfl rfl rfl
    | some c => exact Audited.of_silent rfl (fun _ => rfl) rfl rfl rfl
  · rw [heq]
    exact Audited.of_made hget rfl rfl rfl rfl rfl rfl

theorem audited_findOrCreate (id : Identity) (onCreate : List (Conversation.Call α ρ)) :
    let call : Call α ρ := .findOrCreate id onCreate
    Audited r call (r.report call) := by
  intro call
  simp only [call, report, perform, findOrCreate]
  rcases r.findContext_cases id true onCreate with
    ⟨refusal, heq⟩ | ⟨found, heq⟩ | ⟨_, hget, _, heq⟩
  · rw [heq]
    exact Audited.of_silent rfl (fun _ => rfl) rfl rfl rfl
  · rw [heq]
    cases found with
    | none => exact Audited.of_silent rfl (fun _ => rfl) rfl rfl rfl
    | some c => exact Audited.of_silent rfl (fun _ => rfl) rfl rfl rfl
  · rw [heq]
    exact Audited.of_made hget rfl rfl rfl rfl rfl rfl

theorem audited_onContext (id : Identity) (asked : Conversation.Call α ρ) :
    let call : Call α ρ := .onContext id asked
    Audited r call (r.report call) := by
  intro call
  simp only [call, report, perform]
  cases hid : id.validated with
  | error refusal =>
    have hno : (asked.isRemoval && refusal.isPrecondition) = false := by
      rw [Identity.isPrecondition_of_invalid hid, Bool.and_false]
    rw [onContext_of_invalid hid]
    exact Audited.of_silent rfl (fun _ => rfl) rfl rfl hno
  | ok valid =>
    obtain rfl := ((id.validated_eq_ok_iff valid).mp hid).1
    cases hget : r.get? id with
    | none =>
      rw [onContext_of_absent hid hget]
      exact Audited.of_silent rfl (fun _ => rfl) rfl rfl (Bool.and_false _)
    | some c =>
      rw [onContext_of_found hid hget]
      simp only [Outcome.map_within, Outcome.map_map]
      exact Audited.of_step hget rfl rfl rfl rfl (fun _ => List.countP_singleton)
        (fun _ => List.countP_singleton) (fun _ => rfl)

-- A conversation is kept with a warning, or goes with its parting lines.
theorem Audited.of_forget (id : Identity) {report : Unit → Report α ρ}
    (hremoval : call.isRemoval = true) (hsteps : call.steps (.ok (report ())) = [])
    (hcreation : (report ()).2 = []) : Audited r call ((r.forget id).map report) := by
  cases hget : r.get? id with
  | none =>
    rw [forget_of_absent hget]
    exact Audited.of_silent rfl (fun _ => rfl) rfl rfl (Bool.and_false _)
  | some c =>
    by_cases hstate : c.state = .unconnected
    · rw [forget_of_unconnected hget hstate]
      exact Audited.of_parting c.parting_destroy rfl (fun text => displayed_drop text hget) hsteps
        hcreation
    · rw [forget_of_kept hget hstate]
      constructor
      case balance => exact fun text => rfl
      case added => rfl
      case connected => rfl
      case warned =>
        rw [hremoval]
        rfl
      case refused =>
        intro _ event hmem
        obtain rfl := List.mem_singleton.mp hmem
        simp [Event.level]

theorem audited_forgetEntry {id : Identity} {c : Conversation α ρ} (hget : r.get? id = some c)
    (f : Fingerprint) (cascade : Bool) :
    let call : Call α ρ := .forgetFingerprint id (.entry f) cascade
    Audited r call (r.report call) := by
  let removal := c.forgetFingerprint f
  let asked : Conversation.Call α ρ := .forgetFingerprint f
  let answered (_ : Conversation.Answer α) : Report α ρ := (.removed .fingerprint, [])
  have hafter : r.put id removal.after = r.put id (c.perform asked).after := rfl
  have heffects : removal.effects = (c.perform asked).effects := rfl
  have hanswer : (c.perform asked).answer = removal.answer.map fun _ => .done := rfl
  intro call
  simp only [call, report, perform, Outcome.map_map]
  cases hcase : removal.answer with
  | error refusal =>
    have hanswered : .error refusal = (c.perform asked).answer.map answered := by
      rw [hanswer, hcase]
      rfl
    rw [forgetFingerprint_of_refused hget hcase]
    exact Audited.of_step hget hafter heffects hanswered rfl (fun _ => rfl) (fun _ => rfl)
      (fun _ => rfl)
  | ok _ =>
    have hanswered : .ok (answered .done) = (c.perform asked).answer.map answered := by
      rw [hanswer, hcase]
      rfl
    by_cases hcascades : Cascades cascade removal.after
    · -- taking out the fingerprint writes nothing, so that only the parting lines are there
      have hquiet : Effect.events removal.effects = [] := by
        rw [heffects, c.events_perform asked, Conversation.step, hanswer, hcase]
        rfl
      have hparting := removal.after.parting_destroy
      have hgone (text : String) : r.displayed text =
          [removal.after].countP (fun c => c.id.display = text) +
            ((r.put id removal.after).drop id).displayed text := by
        rw [← displayed_drop text (get?_put_self r id _)]
        exact (displayed_put_of_some hget (c.id_perform asked)).symm
      rw [← List.nil_append (Effect.events _), ← hquiet, ← Effect.events_append] at hparting
      rw [forgetFingerprint_of_cascades hget hcase hcascades]
      exact Audited.of_parting hparting rfl hgone rfl rfl
    · rw [forgetFingerprint_of_removed hget hcase hcascades]
      exact Audited.of_step hget hafter heffects hanswered rfl (fun _ => rfl) (fun _ => rfl)
        (fun _ => rfl)

theorem audited_forgetFingerprint (id : Identity) (target : Target) (cascade : Bool) :
    let call : Call α ρ := .forgetFingerprint id target cascade
    Audited r call (r.report call) := by
  intro call
  simp only [call, report, perform, Outcome.map_map]
  cases hget : r.get? id with
  | none =>
    rw [forgetFingerprint_of_absent hget]
    exact Audited.of_silent rfl (fun _ => rfl) rfl rfl rfl
  | some c =>
    cases target with
    | root =>
      rw [forgetFingerprint_root hget]
      cases cascade with
      | false => exact Audited.of_silent rfl (fun _ => rfl) rfl rfl rfl
      | true =>
        rw [if_pos rfl, Outcome.map_map]
        exact Audited.of_forget r id rfl rfl rfl
    | entry f =>
      have hentry := audited_forgetEntry r hget f cascade
      simp only [report, perform, Outcome.map_map] at hentry
      exact hentry

theorem audited_forgetAll : Audited r .forgetAll (r.report .forgetAll) := by
  simp only [report, perform]
  rw [forgetAll_eq]
  refine Audited.of_parting (Conversation.parting_teardown r.toList) rfl ?_ rfl rfl
  intro text
  exact (congrArg (r.displayed text + ·) (displayed_empty r.config text)).symm

theorem audited_report (call : Call α ρ) : Audited r call (r.report call) := by
  cases call with
  | findContext id create onCreate => exact r.audited_findContext id create onCreate
  | findOrCreate id onCreate => exact r.audited_findOrCreate id onCreate
  | onContext id asked => exact r.audited_onContext id asked
  | forget id =>
    simp only [report, perform, Outcome.map_map]
    exact Audited.of_forget r id rfl rfl rfl
  | forgetFingerprint id target cascade => exact r.audited_forgetFingerprint id target cascade
  | forgetAll => exact r.audited_forgetAll

end Calls

-- All that was asked of conversations in a history.
def stepsOf (calls : List (Call α ρ)) (answers : List (Except Refusal (Report α ρ))) :
    List (Step α ρ) :=
  (calls.zip answers).flatMap fun pair => pair.1.steps pair.2

-- Call by call, the account stays in balance.
theorem balance_live (r : Registry α ρ) (calls : List (Call α ρ)) (text : String) :
    let run := r.live calls
    (Effect.events run.effects).countP (·.tells "new context" text) + r.displayed text =
      (Effect.events run.effects).countP (·.tells "context destroyed" text) +
        run.after.displayed text := by
  induction calls generalizing r with
  | nil => rfl
  | cons call calls ih =>
    have hfirst := (r.audited_report call).balance text
    have hrest := ih (r.report call).after
    simp only [live, History.run, Effect.events_append, List.countP_append] at hrest ⊢
    omega

-- Lines of a kind that is told of every call by its steps.
theorem count_live {p : Event → Bool} {q : Step α ρ → Bool}
    (h : ∀ (r : Registry α ρ) (call : Call α ρ), (Effect.events (r.report call).effects).countP p =
      (call.steps (r.report call).answer).countP q) (r : Registry α ρ) (calls : List (Call α ρ)) :
    let run := r.live calls
    (Effect.events run.effects).countP p = (stepsOf calls run.answers).countP q := by
  induction calls generalizing r with
  | nil => rfl
  | cons call calls ih =>
    have hfirst := h r call
    have hrest := ih (r.report call).after
    simp only [live, History.run, Effect.events_append, List.countP_append, stepsOf,
      List.zip_cons_cons, List.flatMap_cons] at hrest ⊢
    omega

-- Whatever was done to a registry: for every text, as many lines tell of new conversations as tell
-- of destroyed ones and as there are, and once the registry is emptied, as tell of destroyed ones;
-- as many tell of new fingerprints as calls added one, and of connections as calls made one.
-- Whatever is done then, or asked of any conversation, warns once if it is a removal that the state
-- precludes, and else not at all, but for what is asked of a new conversation on the way; and what
-- is refused leaves no other line.
theorem log_faithful (config : Config) (calls : List (Call α ρ)) :
    let run := (empty config).live calls
    let log := Effect.events run.effects
    let wholeLog := Effect.events (run.effects ++ run.after.forgetAll.effects)
    (∀ text, log.countP (·.tells "new context" text) =
      log.countP (·.tells "context destroyed" text) + run.after.displayed text) ∧
    (∀ text, wholeLog.countP (·.tells "new context" text) =
      wholeLog.countP (·.tells "context destroyed" text)) ∧
    log.countP (fun event => event.message = "new fingerprint") =
      (stepsOf calls run.answers).countP (·.adds) ∧
    log.countP (fun event => event.message = "connected") =
      (stepsOf calls run.answers).countP (·.connects) ∧
    (∀ call : Call α ρ,
      (Effect.events (run.after.report call).effects).countP (fun event => event.level = .warn) =
        (if call.isRemoval && Refusal.precluded (run.after.report call).answer then 1 else 0) +
          (onCreation (run.after.report call).answer).countP (·.warns) ∧
      ((∃ refusal, (run.after.report call).answer = .error refusal) →
        ∀ event ∈ Effect.events (run.after.report call).effects, event.level ≠ .debug)) ∧
    ∀ (c : Conversation α ρ) (call : Conversation.Call α ρ),
      (Effect.events (c.perform call).effects).countP (fun event => event.level = .warn) =
        (if call.isRemoval && Refusal.precluded (c.perform call).answer then 1 else 0) ∧
      ((∃ refusal, (c.perform call).answer = .error refusal) →
        ∀ event ∈ Effect.events (c.perform call).effects, event.level ≠ .debug) := by
  intro run log wholeLog
  have hbalance (text : String) : log.countP (·.tells "new context" text) =
      log.countP (·.tells "context destroyed" text) + run.after.displayed text := by
    have hrun := balance_live (empty config) calls text
    rw [displayed_empty] at hrun
    exact hrun
  refine ⟨hbalance, ?_, count_live (fun r call => (r.audited_report call).added) _ calls,
    count_live (fun r call => (r.audited_report call).connected) _ calls, ?_,
    fun c call => c.warns_perform call⟩
  · intro text
    have hemptied : run.after.forgetAll.after = empty run.after.config :=
      congrArg (·.after) (forgetAll_eq run.after)
    have hlast : (Effect.events run.after.forgetAll.effects).countP (·.tells "new context" text) +
        run.after.displayed text =
          (Effect.events run.after.forgetAll.effects).countP (·.tells "context destroyed" text) +
            run.after.forgetAll.after.displayed text :=
      (audited_forgetAll run.after).balance text
    have hsofar := hbalance text
    have hwhole : wholeLog = log ++ Effect.events run.after.forgetAll.effects :=
      Effect.events_append _ _
    rw [hemptied, displayed_empty] at hlast
    rw [hwhole, List.countP_append, List.countP_append]
    omega
  · intro call
    exact ⟨(run.after.audited_report call).warned, (run.after.audited_report call).refused⟩

section Bookkeeping

open Sample (slashInUsername slashInAccount older)

-- Two conversations that are displayed alike; with one a session begins, so that neither it nor its
-- fingerprint can go, and the other goes.
def bookkeeping : List (Call Nat Unit) :=
  [.findOrCreate slashInUsername
      [.addFingerprint older, .addFingerprint older, .forceSetup, .markConnected older],
    .findOrCreate slashInAccount [], .onContext slashInUsername (.forgetFingerprint older),
    .forget slashInUsername, .forget slashInAccount]

theorem log_faithful_bookkeeping :
    let run := (empty {}).live bookkeeping
    let text := "ann/work/me/xmpp"
    let log := Effect.events run.effects
    slashInUsername.display = text ∧ slashInAccount.display = text ∧
      log.countP (·.tells "new context" text) = 2 ∧
      log.countP (·.tells "context destroyed" text) = 1 ∧ run.after.displayed text = 1 ∧
      (stepsOf bookkeeping run.answers).countP (·.adds) = 1 ∧
      (stepsOf bookkeeping run.answers).countP (·.connects) = 1 ∧
      log.countP (fun event => event.level = .warn) = 2 ∧
      (Effect.events (run.after.report (.forget slashInUsername)).effects).countP
        (fun event => event.level = .warn) = 1 := by
  intro run text log
  obtain ⟨hbalance, _, hadded, hconnected, hcalls, _⟩ := log_faithful {} bookkeeping
  have hnew : log.countP (·.tells "new context" text) = 2 := by decide +kernel
  have hdestroyed : log.countP (·.tells "context destroyed" text) = 1 := by decide +kernel
  have hlive : run.after.displayed text = 1 := by
    have hsum := hbalance text
    change log.countP (·.tells "new context" text) =
      log.countP (·.tells "context destroyed" text) + run.after.displayed text at hsum
    omega
  refine ⟨by decide, by decide, hnew, hdestroyed, hlive, ?_, ?_, by decide +kernel, ?_⟩
  · rw [← hadded]
    decide +kernel
  · rw [← hconnected]
    decide +kernel
  · rw [(hcalls (.forget slashInUsername)).1]
    decide +kernel

end Bookkeeping

end Registry

end Parley
