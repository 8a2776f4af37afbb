import Mathlib.Algebra.BigOperators.Group.Finset.Basic
import Mathlib.Algebra.Order.Group.Multiset
import Mathlib.Data.Multiset.Bind
import Parley.Proofs.Conversation.Story
import Parley.Proofs.Registry.Drainage
import Parley.Proofs.Registry.Representation
import Parley.Proofs.Registry.Subject

/-!
The release of attached data, over whole histories. Main statement: what is released, in a history
and by emptying the registry after it, is all data that was ever attached with a function, each
once, to its own function and with all changes made to it; and each call releases just what it ends.
-/

namespace Parley.Registry

open Attachment (due)

variable {α ρ : Type}

-- The data attached to the conversation of an identity.
def attachment? (r : Registry α ρ) (id : Identity) : Option (Attachment α ρ) :=
  (r.get? id).bind (·.attachment)

namespace Call

def subjects (r : Registry α ρ) (call : Call α ρ) : List Identity :=
  match call.subject? with
  | some id => [id]
  | none => r.toList.map (·.id)

-- What a call that was answered in this way has done with the data of what it is about.
def turns : Call α ρ → Except Refusal (Answer α ρ) → Story α ρ
  | .findContext _ _ onCreate, .ok (.found (some (_, true)))
  | .findOrCreate _ onCreate, .ok (.found (some (_, true))) => onCreate.filterMap (·.turn?)
  | .onContext _ call, .ok (.context (some _)) => call.turn?.toList
  | .forget _, .ok _ | .forgetAll, .ok _ | .forgetFingerprint _ _ _, .ok (.removed .context) =>
    [.tornDown]
  | _, _ => []

-- The same, for one identity.
def turnsOf (id : Identity) (call : Call α ρ) (answer : Except Refusal (Answer α ρ)) : Story α ρ :=
  if call.subject?.all (· = id) then call.turns answer else []

end Call

-- The story of the data of one identity.
def story (calls : List (Call α ρ)) (answers : List (Except Refusal (Answer α ρ)))
    (id : Identity) : Story α ρ :=
  (calls.zip answers).flatMap fun step => step.1.turnsOf id step.2

-- The identities that calls are about.
def named (calls : List (Call α ρ)) : Finset Identity :=
  (calls.filterMap (·.subject?)).toFinset

-- A call does with the data of each identity what its turns say.
structure Tells (r : Registry α ρ) (call : Call α ρ) : Prop where
  attached (id : Identity) : (r.perform call).after.attachment? id =
    Story.attached (r.attachment? id) (call.turnsOf id (r.perform call).answer)
  released : Effect.releases (r.perform call).effects = (call.subjects r).flatMap fun id =>
    Story.dues (r.attachment? id) (call.turns (r.perform call).answer)

variable {r : Registry α ρ} {id other : Identity} {c : Conversation α ρ} {call : Call α ρ}

theorem attachment?_of_get? (h : r.get? id = some c) : r.attachment? id = c.attachment := by
  rw [attachment?, h]
  rfl

theorem attachment?_of_none (h : r.get? id = none) : r.attachment? id = none := by
  rw [attachment?, h]
  rfl

@[simp] theorem attachment?_empty (config : Config) :
    (empty config : Registry α ρ).attachment? id = none :=
  attachment?_of_none (get?_empty id config)

@[simp] theorem attachment?_put_self : (r.put id c).attachment? id = c.attachment :=
  attachment?_of_get? (get?_put_self r id c)

@[simp] theorem attachment?_drop_self : (r.drop id).attachment? id = none :=
  attachment?_of_none (get?_drop_self r id)

theorem turnsOf_self (hsubject : call.subject? = some id) (answer : Except Refusal (Answer α ρ)) :
    call.turnsOf id answer = call.turns answer := by
  rw [Call.turnsOf, hsubject, Option.all_some, if_pos (decide_eq_true rfl)]

theorem turnsOf_of_ne (hsubject : call.subject? = some id) (hne : id ≠ other)
    (answer : Except Refusal (Answer α ρ)) : call.turnsOf other answer = [] := by
  rw [Call.turnsOf, hsubject, Option.all_some, if_neg (by simpa using hne)]

-- A call about one identity has to be looked at there only.
theorem Tells.of_subject {o : Reply α ρ (Answer α ρ)} (hperform : r.perform call = o)
    (hsubject : call.subject? = some id) (told : Story α ρ) (hturns : call.turns o.answer = told)
    (hothers : ∀ other, id ≠ other → o.after.get? other = r.get? other)
    (hattached : o.after.attachment? id = Story.attached (r.attachment? id) told)
    (hreleased : Effect.releases o.effects = Story.dues (r.attachment? id) told) :
    Tells r call where
  attached other := by
    rw [hperform]
    by_cases hid : id = other
    · rw [← hid, turnsOf_self hsubject, hturns, hattached]
    · rw [turnsOf_of_ne hsubject hid, attachment?, hothers other hid]
      rfl
  released := by
    rw [hperform, Call.subjects, hsubject, hturns, hreleased, List.flatMap_singleton]

-- Data are attached only by a call about the identity.
theorem Tells.attachment?_eq_none (h : Tells r call) (hsubject : call.subject? ≠ some id)
    (hnone : r.attachment? id = none) : (r.perform call).after.attachment? id = none := by
  rw [h.attached id, hnone]
  cases hcall : call.subject? with
  | some other =>
    have hne : other ≠ id := fun heq => hsubject (heq ▸ hcall)
    rw [turnsOf_of_ne hcall hne]
    rfl
  | none =>
    rw [eq_forgetAll hcall]
    rfl

-- A call that leaves the registry as it is, and releases nothing.
theorem Tells.of_same {answer : Except Refusal (Answer α ρ)} {effects : List (Effect α ρ)}
    (hperform : r.perform call = ⟨answer, r, effects⟩) (hsubject : call.subject? = some id)
    (hturns : call.turns answer = []) (hreleased : Effect.releases effects = []) :
    Tells r call :=
  .of_subject hperform hsubject [] hturns (fun _ _ => rfl) rfl hreleased

theorem tells_findContext (id : Identity) (create : Bool)
    (onCreate : List (Conversation.Call α ρ)) : Tells r (.findContext id create onCreate) := by
  rcases r.findContext_cases id create onCreate with
    ⟨refusal, heq⟩ | ⟨found, heq⟩ | ⟨_, hget, _, heq⟩
  · exact .of_same (by rw [perform, heq]; rfl) rfl rfl rfl
  · exact .of_same (by rw [perform, heq]; rfl) rfl (by cases found <;> rfl) rfl
  · obtain ⟨hattached, hreleased⟩ :=
      (Conversation.fresh id r.config.limits).story_performAll onCreate
    refine .of_subject (by rw [perform, heq]) rfl (onCreate.filterMap (·.turn?)) rfl
      (fun _ hne => get?_put_of_ne hne) ?_ ?_
    · rw [attachment?_of_none hget]
      exact attachment?_put_self.trans hattached
    · rw [attachment?_of_none hget]
      exact hreleased

theorem tells_findOrCreate (id : Identity) (onCreate : List (Conversation.Call α ρ)) :
    Tells r (.findOrCreate id onCreate) := by
  have hfind := tells_findContext (r := r) id true onCreate
  have hturns :
      (Call.findOrCreate id onCreate).turns (r.perform (.findOrCreate id onCreate)).answer =
        (Call.findContext id true onCreate).turns
          (r.perform (.findContext id true onCreate)).answer := by
    simp only [perform, findOrCreate, Outcome.answer_map]
    cases (r.findContext id true onCreate).answer with
    | error refusal => rfl
    | ok found =>
      match found with
      | none => rfl
      | some (_, true) => rfl
      | some (_, false) => rfl
  exact
    { attached := fun other => by
        rw [Call.turnsOf, hturns]
        exact hfind.attached other
      released := by
        rw [hturns]
        exact hfind.released }

-- A call that changes the conversation, but not its data.
theorem Tells.of_put {c' : Conversation α ρ} {answer : Except Refusal (Answer α ρ)}
    {effects : List (Effect α ρ)} (hperform : r.perform call = ⟨answer, r.put id c', effects⟩)
    (hsubject : call.subject? = some id) (hturns : call.turns answer = [])
    (hget : r.get? id = some c) (hsame : c'.attachment = c.attachment)
    (hreleased : Effect.releases effects = []) : Tells r call := by
  refine .of_subject hperform hsubject [] hturns (fun _ hne => get?_put_of_ne hne) ?_ hreleased
  rw [attachment?_put_self, attachment?_of_get? hget, hsame]
  rfl

-- A call that tears the conversation down.
theorem Tells.of_drop {answer : Except Refusal (Answer α ρ)} {effects : List (Effect α ρ)}
    (hperform : r.perform call = ⟨answer, r.drop id, effects⟩) (hsubject : call.subject? = some id)
    (hturns : call.turns answer = [.tornDown]) (hget : r.get? id = some c)
    (hreleased : Effect.releases effects = due c.attachment) : Tells r call := by
  refine .of_subject hperform hsubject [.tornDown] hturns (fun _ hne => get?_drop_of_ne hne)
    attachment?_drop_self ?_
  rw [attachment?_of_get? hget, hreleased]
  exact (List.append_nil _).symm

theorem tells_onContext (id : Identity) (call : Conversation.Call α ρ) :
    Tells r (.onContext id call) := by
  rcases r.onContext_cases id (·.perform call) with ⟨refusal, heq⟩ | heq | ⟨c, hget, heq⟩
  · exact .of_same (by rw [perform, heq]; rfl) rfl rfl rfl
  · exact .of_same (by rw [perform, heq]; rfl) rfl rfl rfl
  · refine .of_subject (by rw [perform, heq]) rfl call.turn?.toList ?_
      (fun _ hne => get?_put_of_ne hne) ?_ ?_
    · cases hanswer : (c.perform call).answer with
      | error refusal =>
        rw [c.turn?_of_refused hanswer]
        simp [hanswer, Except.map, Call.turns]
      | ok answer => simp [hanswer, Except.map, Call.turns]
    · rw [attachment?_of_get? hget, ← c.attachment_perform]
      exact attachment?_put_self
    · rw [attachment?_of_get? hget, ← c.releases_perform]
      rfl

theorem tells_forget (id : Identity) : Tells r (.forget id) := by
  cases hget : r.get? id with
  | none => exact .of_same (by rw [perform, forget_of_absent hget]; rfl) rfl rfl rfl
  | some c =>
    by_cases hstate : c.state = .unconnected
    · exact .of_drop (by rw [perform, forget_of_unconnected hget hstate]; rfl) rfl rfl hget
        c.releases_destroy
    · exact .of_same (by rw [perform, forget_of_kept hget hstate]; rfl) rfl rfl rfl

theorem tells_forgetRoot (hget : r.get? id = some c) (cascade : Bool) :
    Tells r (.forgetFingerprint id .root cascade) := by
  have hperform : r.perform (.forgetFingerprint id .root cascade) =
      ((if cascade then (r.forget id).map fun _ => .context else .done r .nothing []) :
        Reply α ρ Removed).map .removed := by
    rw [perform, forgetFingerprint_root hget]
  cases cascade with
  | false => exact .of_same hperform rfl rfl rfl
  | true =>
    by_cases hstate : c.state = .unconnected
    · rw [forget_of_unconnected hget hstate] at hperform
      exact .of_drop hperform rfl rfl hget c.releases_destroy
    · rw [forget_of_kept hget hstate] at hperform
      exact .of_same hperform rfl rfl rfl

theorem tells_forgetEntry (hget : r.get? id = some c) (f : Fingerprint) (cascade : Bool) :
    Tells r (.forgetFingerprint id (.entry f) cascade) := by
  have hsame : (c.forgetFingerprint f).after.attachment = c.attachment :=
    c.attachment_perform (.forgetFingerprint f)
  have hnothing := c.releases_forgetFingerprint f
  cases hanswer : (c.forgetFingerprint f).answer with
  | error refusal =>
    exact .of_put (by rw [perform, forgetFingerprint_of_refused hget hanswer]; rfl) rfl rfl hget
      hsame hnothing
  | ok _ =>
    by_cases hcascades : Cascades cascade (c.forgetFingerprint f).after
    · have hperform : r.perform (.forgetFingerprint id (.entry f) cascade) =
          .done (r.drop id) (.removed .context) ((c.forgetFingerprint f).effects ++
            (c.forgetFingerprint f).after.destroy.effects) := by
        rw [perform, forgetFingerprint_of_cascades hget hanswer hcascades, drop_put]
        rfl
      refine .of_drop hperform rfl rfl hget ?_
      rw [Effect.releases_append, hnothing, Conversation.releases_destroy, hsame, List.nil_append]
    · exact .of_put (by rw [perform, forgetFingerprint_of_removed hget hanswer hcascades]; rfl)
        rfl rfl hget hsame hnothing

theorem tells_forgetFingerprint (id : Identity) (target : Target) (cascade : Bool) :
    Tells r (.forgetFingerprint id target cascade) := by
  cases hget : r.get? id with
  | none => exact .of_same (by rw [perform, forgetFingerprint_of_absent hget]; rfl) rfl rfl rfl
  | some c =>
    cases target with
    | root => exact tells_forgetRoot hget cascade
    | entry f => exact tells_forgetEntry hget f cascade

-- Emptying the registry releases what is attached, conversation by conversation.
theorem Grown.tells_forgetAll {config : Config} (h : Grown config r) :
    Tells r (.forgetAll : Call α ρ) := by
  have hperform : r.perform .forgetAll =
      .done (empty r.config) .done (r.toList.flatMap (·.teardown)) := by
    rw [Registry.perform, forgetAll_eq]
    rfl
  constructor
  · intro id
    rw [hperform]
    exact attachment?_empty r.config
  · rw [hperform]
    change (r.toList.flatMap (·.teardown)).filterMap _ = (r.toList.map (·.id)).flatMap _
    rw [List.filterMap_flatMap, List.flatMap_map]
    apply List.flatMap_congr
    intro c hmem
    rw [attachment?_of_get? (h.get?_of_mem hmem)]
    exact c.releases_teardown.trans (List.append_nil _).symm

theorem Grown.tells {config : Config} (h : Grown config r) (call : Call α ρ) : Tells r call := by
  cases call with
  | findContext id create onCreate => exact tells_findContext id create onCreate
  | findOrCreate id onCreate => exact tells_findOrCreate id onCreate
  | onContext id call => exact tells_onContext id call
  | forget id => exact tells_forget id
  | forgetFingerprint id target cascade => exact tells_forgetFingerprint id target cascade
  | forgetAll => exact h.tells_forgetAll

theorem coe_flatMap {γ : Type} {ids : List Identity} (hnodup : ids.Nodup)
    (f : Identity → List γ) :
    (ids.flatMap f : Multiset γ) = ∑ id ∈ ids.toFinset, (f id : Multiset γ) := by
  rw [List.sum_toFinset _ hnodup, ← Multiset.sum_coe, ← Multiset.map_coe]
  exact (Multiset.coe_bind ids f).symm

-- What a call releases, one identity at a time.
theorem Grown.releases_perform {config : Config} (h : Grown config r) (call : Call α ρ)
    {ids : Finset Identity} (hsubject : ∀ id, call.subject? = some id → id ∈ ids)
    (hids : ∀ id, id ∉ ids → r.attachment? id = none) :
    (Effect.releases (r.perform call).effects : Multiset (ρ × α)) = ∑ id ∈ ids,
      (Story.dues (r.attachment? id) (call.turnsOf id (r.perform call).answer) :
        Multiset (ρ × α)) := by
  rw [(h.tells call).released, Call.subjects]
  cases hcall : call.subject? with
  | some subject =>
    have hothers (id : Identity) (_ : id ∈ ids) (hne : id ≠ subject) :
        (Story.dues (r.attachment? id) (call.turnsOf id (r.perform call).answer) :
          Multiset (ρ × α)) = 0 := by
      rw [turnsOf_of_ne hcall hne.symm]
      rfl
    rw [Finset.sum_eq_single_of_mem subject (hsubject subject hcall) hothers, turnsOf_self hcall,
      List.flatMap_singleton]
  | none =>
    obtain rfl := eq_forgetAll hcall
    -- Only where something is attached is anything released.
    have hdues (id : Identity) (hid : r.attachment? id = none) :
        (Story.dues (r.attachment? id) [.tornDown] : Multiset (ρ × α)) = 0 := by
      rw [hid]
      rfl
    rw [coe_flatMap h.distinct]
    apply Finset.sum_congr_of_eq_on_inter
    · intro id _ hid
      exact hdues id (hids id hid)
    · intro id _ hid
      rw [List.mem_toFinset] at hid
      exact hdues id (attachment?_of_none (h.get?_of_not_mem hid))
    · intro id _ _
      rfl

theorem story_append {calls more : List (Call α ρ)}
    {answers others : List (Except Refusal (Answer α ρ))} (h : calls.length = answers.length)
    (id : Identity) :
    story (calls ++ more) (answers ++ others) id =
      story calls answers id ++ story more others id := by
  rw [story, List.zip_append h, List.flatMap_append]
  rfl

theorem Grown.attachment?_performAll {config : Config} (h : Grown config r)
    (calls : List (Call α ρ)) (id : Identity) :
    (r.performAll calls).after.attachment? id =
      Story.attached (r.attachment? id) (story calls (r.performAll calls).answers id) := by
  induction calls generalizing r with
  | nil => rfl
  | cons call calls ih =>
    have hrest := ih (h.perform call)
    rw [(h.tells call).attached id, ← Story.attached_append] at hrest
    exact hrest

theorem Grown.releases_performAll {config : Config} (h : Grown config r) (calls : List (Call α ρ))
    {ids : Finset Identity} (hsubjects : ∀ call ∈ calls, ∀ id, call.subject? = some id → id ∈ ids)
    (hids : ∀ id, id ∉ ids → r.attachment? id = none) :
    (Effect.releases (r.performAll calls).effects : Multiset (ρ × α)) = ∑ id ∈ ids,
      (Story.dues (r.attachment? id) (story calls (r.performAll calls).answers id) :
        Multiset (ρ × α)) := by
  induction calls generalizing r with
  | nil => exact (Finset.sum_const_zero).symm
  | cons call calls ih =>
    have hids' (id : Identity) (hid : id ∉ ids) : (r.perform call).after.attachment? id = none :=
      (h.tells call).attachment?_eq_none
        (fun hcall => hid (hsubjects call List.mem_cons_self id hcall)) (hids id hid)
    have hsplit : Effect.releases (r.performAll (call :: calls)).effects =
        Effect.releases (r.perform call).effects ++
          Effect.releases ((r.perform call).after.performAll calls).effects :=
      Effect.releases_append _ _
    have hfirst := h.releases_perform call (hsubjects call List.mem_cons_self) hids
    have hrest := ih (h.perform call)
      (fun later hlater => hsubjects later (List.mem_cons_of_mem call hlater)) hids'
    rw [hsplit, ← Multiset.coe_add, hfirst, hrest, ← Finset.sum_add_distrib]
    apply Finset.sum_congr rfl
    intro id _
    rw [(h.tells call).attached id, Multiset.coe_add, ← Story.dues_append]
    rfl

theorem mem_named (calls : List (Call α ρ)) :
    ∀ call ∈ calls, ∀ id, call.subject? = some id → id ∈ named calls := by
  intro call hmem id hsubject
  exact List.mem_toFinset.mpr (List.mem_filterMap.mpr ⟨call, hmem, hsubject⟩)

section Empty

variable (config : Config) (calls : List (Call α ρ))

theorem releases_performAll :
    let run := (empty config : Registry α ρ).performAll calls
    (Effect.releases run.effects : Multiset (ρ × α)) =
      ∑ id ∈ named calls, ((story calls run.answers id).released : Multiset (ρ × α)) := by
  intro run
  have hempty : Grown config (empty config : Registry α ρ) := grown_empty
  have hreleases := hempty.releases_performAll calls (mem_named calls)
    fun id _ => attachment?_empty config
  simpa only [attachment?_empty, Story.dues_none] using hreleases

-- Emptying the registry is one more call, about nothing that has not been named.
theorem releases_performAll_forgetAll :
    let run := (empty config : Registry α ρ).performAll calls
    (Effect.releases (run.effects ++ (run.after.perform .forgetAll).effects) :
      Multiset (ρ × α)) =
        ∑ id ∈ named calls, ((story calls run.answers id).deposits : Multiset (ρ × α)) := by
  intro run
  have hnamed : named (calls ++ [.forgetAll]) = named calls := by
    rw [named, List.filterMap_append]
    exact congrArg List.toFinset (List.append_nil _)
  have hrun : (empty config : Registry α ρ).performAll (calls ++ [.forgetAll]) =
      ⟨run.answers ++ [.ok .done], (run.after.perform .forgetAll).after,
        run.effects ++ (run.after.perform .forgetAll).effects⟩ :=
    History.run_concat perform _ calls _
  have hstory (id : Identity) : story (calls ++ [.forgetAll]) (run.answers ++ [.ok .done]) id =
      story calls run.answers id ++ [.tornDown] :=
    story_append (History.answers_length perform _ calls).symm id
  have hreleases := releases_performAll config (calls ++ [.forgetAll] : List (Call α ρ))
  simp only [hrun, hnamed, hstory, Story.released_append_tornDown] at hreleases
  exact hreleases

end Empty

theorem turns_onContext_of_none {made : Conversation.Call α ρ} (h : made.turn? = none)
    (answer : Except Refusal (Answer α ρ)) : (Call.onContext id made).turns answer = [] := by
  match answer with
  | .ok (.context (some _)) => exact congrArg Option.toList h
  | .ok (.context none) | .ok .done | .ok (.found _) | .ok (.removed _) | .error _ => rfl

theorem turns_of_quiet {answer : Except Refusal (Answer α ρ)}
    (h : (∃ refusal, answer = .error refusal) ∨
      ∃ id, call = .onContext id .forceSetup ∨ call = .onContext id .forceDisconnect) :
    call.turns answer = [] := by
  rcases h with ⟨refusal, rfl⟩ | ⟨id, rfl | rfl⟩
  · cases call <;> rfl
  · exact turns_onContext_of_none rfl answer
  · exact turns_onContext_of_none rfl answer

-- Whatever was asked of a registry: all that was released so far, and all that is if it is emptied
-- now; what is still attached; what each further call releases, identity by identity, and in which
-- order; and that a refused call releases nothing, nor one that forces the state.
theorem released_once (config : Config) (calls : List (Call α ρ)) :
    let run := (empty config : Registry α ρ).performAll calls
    let told := story calls run.answers
    (Effect.releases run.effects : Multiset (ρ × α)) =
      ∑ id ∈ named calls, ((told id).released : Multiset (ρ × α)) ∧
    (Effect.releases (run.effects ++ (run.after.perform .forgetAll).effects) :
      Multiset (ρ × α)) = ∑ id ∈ named calls, ((told id).deposits : Multiset (ρ × α)) ∧
    (∀ id, run.after.attachment? id = Story.attached none (told id)) ∧
    (∀ call : Call α ρ, Effect.releases (run.after.perform call).effects =
      (call.subjects run.after).flatMap fun id => Story.dues (run.after.attachment? id)
        (call.turns (run.after.perform call).answer)) ∧
    (run.after.toList.map (·.id)).Pairwise Identity.Precedes ∧
    (∀ call : Call α ρ, ((∃ refusal, (run.after.perform call).answer = .error refusal) ∨
        ∃ id, call = .onContext id .forceSetup ∨ call = .onContext id .forceDisconnect) →
      Effect.releases (run.after.perform call).effects = []) ∧
    (∀ (c : Conversation α ρ) (call : Conversation.Call α ρ),
      ((∃ refusal, (c.perform call).answer = .error refusal) ∨ call = .forceSetup ∨
        call = .forceDisconnect) → Effect.releases (c.perform call).effects = []) := by
  intro run told
  have hempty : Grown config (empty config : Registry α ρ) := grown_empty
  have hgrown : Grown config run.after := grown_performAll config calls
  refine ⟨releases_performAll config calls, releases_performAll_forgetAll config calls, ?_, ?_, ?_,
    ?_, fun c call hquiet => c.releases_perform_of_quiet hquiet⟩
  · intro id
    have hattached := hempty.attachment?_performAll calls id
    rwa [attachment?_empty] at hattached
  · exact fun call => (hgrown.tells call).released
  · exact List.pairwise_map.mpr hgrown.ascending
  · intro call hquiet
    rw [(hgrown.tells call).released, turns_of_quiet hquiet]
    exact List.flatMap_eq_nil_iff.mpr fun _ _ => rfl

section Lending

open Sample (alice carol older)

-- Numbers are lent with functions that have numbers, too. Carol's first has changed when the second
-- takes its place; Alice's is not to be given back, and her second goes with her last fingerprint.
def lending : List (Call Nat Nat) :=
  [.findOrCreate carol [.attach 100 (some 1), .editData (· + 1), .forceSetup],
    .findOrCreate alice [.attach 200 none, .addFingerprint older],
    .onContext carol (.attach 300 (some 2)),
    .onContext alice (.attach 400 (some 3)),
    .forget carol,
    .forgetFingerprint alice (.entry older) true,
    .findOrCreate alice [.attach 500 (some 4)],
    .onContext alice (.editData (· + 5))]

theorem released_once_lending :
    let run := (empty {} : Registry Nat Nat).performAll lending
    let told := story lending run.answers
    Effect.releases run.effects = [(1, 101), (3, 400)] ∧
      (run.after.perform (.forget carol)).answer = .error (.notUnconnected .setup) ∧
      Effect.releases (run.after.perform (.forget carol)).effects = [] ∧
      Effect.releases (run.after.perform .forgetAll).effects = [(4, 505), (2, 300)] ∧
      (told alice).deposits = [(3, 400), (4, 505)] ∧ (told carol).deposits = [(1, 101), (2, 300)] ∧
      (Effect.releases (run.effects ++ (run.after.perform .forgetAll).effects) :
        Multiset (Nat × Nat)) = {(3, 400), (4, 505)} + {(1, 101), (2, 300)} := by
  intro run told
  obtain ⟨_, hall, _, hcall, _, hquiet, _⟩ := released_once {} lending
  have hrefused : (run.after.perform (.forget carol)).answer =
      .error (.notUnconnected .setup) := rfl
  have halice : (told alice).deposits = [(3, 400), (4, 505)] := by decide +kernel
  have hcarol : (told carol).deposits = [(1, 101), (2, 300)] := by decide +kernel
  have hnamed : named lending = {alice, carol} := by decide
  have hemptied : Effect.releases (run.after.perform .forgetAll).effects =
      [(4, 505), (2, 300)] := by
    rw [hcall .forgetAll]
    decide +kernel
  refine ⟨by decide +kernel, hrefused, hquiet _ (Or.inl ⟨_, hrefused⟩), hemptied, halice, hcarol,
    hall.trans ?_⟩
  rw [hnamed, Finset.sum_pair (by decide), halice, hcarol]
  rfl

end Lending

end Parley.Registry
