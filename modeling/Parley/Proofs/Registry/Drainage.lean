import Parley.Proofs.Conversation.Story
import Parley.Proofs.Loop
import Parley.Proofs.Registry.Lookup

/-!
Emptying a registry. Main statement: as many rounds as there are conversations take out every one of
them, in the order of identities, and leave a registry that has nothing but its bounds. No further
round follows, and a bound on the rounds that is no less makes no difference.
-/

namespace Parley

namespace Conversation

variable {α ρ : Type}

-- What happens outside when a conversation is disconnected and then torn down.
def teardown (c : Conversation α ρ) : List (Effect α ρ) :=
  c.forceDisconnect.effects ++ c.forceDisconnect.after.destroy.effects

theorem teardown_eq (c : Conversation α ρ) : c.teardown =
    [.log (.forcedToSetup c.id), .log (.forcedToUnconnected c.id),
      .log (.forcedToSetup c.id), .log (.forcedToUnconnected c.id)] ++
    Attachment.release c.attachment ++ [.log (.contextDestroyed c.id)] := rfl

theorem releases_teardown (c : Conversation α ρ) :
    Effect.releases c.teardown = Attachment.due c.attachment := by
  rw [teardown, Effect.releases_append, releases_destroy]
  rfl

end Conversation

namespace Registry

variable {α ρ : Type} {r : Registry α ρ} {id : Identity}

theorem toList_empty (config : Config) : (empty config : Registry α ρ).toList = [] := by
  simp [toList, empty]

theorem eq_empty_of_size_eq_zero (h : r.size = 0) : r = empty r.config := by
  obtain ⟨config, contexts⟩ := r
  have hcontexts : contexts = ∅ := Std.ExtTreeMap.eq_empty_iff_size_eq_zero.mpr h
  rw [hcontexts]
  rfl

-- The conversation that stands first, and what one round does with it.
structure First (r : Registry α ρ) (id : Identity) (c : Conversation α ρ) : Prop where
  least : r.contexts.minKey? = some id
  found : r.get? id = some c
  listed : r.toList = c :: (r.drop id).toList
  drained : r.drainFirst = (r.drop id, c.teardown)

theorem exists_first (h : r.contexts.minKey? = some id) : ∃ c, First r id c := by
  obtain ⟨c, hget, hlist⟩ := OrderedMap.toList_eq_cons_of_minKey? h
  have hfound : r.get? id = some c := hget
  refine ⟨c, h, hfound, ?_, ?_⟩
  · rw [toList, hlist]
    rfl
  · simp only [drainFirst, h, hfound]
    rfl

theorem First.size_eq {c : Conversation α ρ} (h : First r id c) :
    r.size = (r.drop id).size + 1 := by
  rw [← length_toList, h.listed, List.length_cons, length_toList]

-- What holds of a registry without conversations, and of any other if it holds of what the first
-- round leaves, holds of all.
@[elab_as_elim]
theorem induction_on_first {motive : Registry α ρ → Prop} (r : Registry α ρ)
    (empty : ∀ config, motive (Registry.empty config))
    (first : ∀ {r : Registry α ρ} {id : Identity} {c : Conversation α ρ}, First r id c →
      motive (r.drop id) → motive r) : motive r := by
  induction hsize : r.size generalizing r with
  | zero => exact eq_empty_of_size_eq_zero hsize ▸ empty r.config
  | succ rounds ih =>
    cases hmin : r.contexts.minKey? with
    | none =>
      rw [Std.ExtTreeMap.minKey?_eq_none_iff] at hmin
      rw [size, hmin] at hsize
      simp at hsize
    | some id =>
      obtain ⟨c, hfirst⟩ := exists_first hmin
      have hrest := hfirst.size_eq
      exact first hfirst (ih (r.drop id) (by omega))

-- One round of the loop: what it does outside and what it leaves, if any conversation is first.
def takeFirst? (r : Registry α ρ) : Option (List (Effect α ρ) × Registry α ρ) :=
  r.contexts.minKey?.map fun _ => (r.drainFirst.2, r.drainFirst.1)

theorem exhausts_takeFirst? (r : Registry α ρ) :
    Exhausts takeFirst? r (r.toList.map (·.teardown)) (empty r.config) := by
  induction r using induction_on_first with
  | empty config =>
    have hnone : takeFirst? (empty config : Registry α ρ) = none := by
      rw [takeFirst?, Option.map_eq_none_iff, Std.ExtTreeMap.minKey?_eq_none_iff]
      rfl
    rw [toList_empty]
    exact .stop hnone
  | first hfirst ih =>
    rw [hfirst.listed]
    refine .round ?_ ih
    rw [takeFirst?, hfirst.least, hfirst.drained]
    rfl

theorem drain_of_takeFirst?_none (hnone : r.takeFirst? = none) (rounds : Nat) :
    drain rounds r = (r, []) := by
  rw [takeFirst?, Option.map_eq_none_iff] at hnone
  have hdrained : r.drainFirst = (r, []) := by simp only [drainFirst, hnone]
  induction rounds with
  | zero => rfl
  | succ rounds ih => simp only [drain, hdrained, ih, List.append_nil]

theorem drainFirst_of_takeFirst?_some {rest : Registry α ρ} {effects : List (Effect α ρ)}
    (hsome : r.takeFirst? = some (effects, rest)) : r.drainFirst = (rest, effects) := by
  obtain ⟨_, _, heq⟩ := Option.map_eq_some_iff.mp hsome
  cases heq
  rfl

-- A bound on the rounds does not bind if it leaves room for the whole run.
theorem drain_of_exhausts {taken : List (List (Effect α ρ))} {last : Registry α ρ}
    (h : Exhausts takeFirst? r taken last) {rounds : Nat} (hrounds : taken.length ≤ rounds) :
    drain rounds r = (last, taken.flatten) := by
  induction h generalizing rounds with
  | stop hnone => exact drain_of_takeFirst?_none hnone rounds
  | round hnext _ ih =>
    cases rounds with
    | zero => cases hrounds
    | succ rounds =>
      simp only [drain, drainFirst_of_takeFirst?_some hnext, ih (Nat.le_of_succ_le_succ hrounds),
        List.flatten_cons]

theorem forgetAll_eq (r : Registry α ρ) :
    r.forgetAll = .done (empty r.config) () (r.toList.flatMap (·.teardown)) := by
  have hrounds : (r.toList.map (·.teardown)).length = r.size := by
    rw [List.length_map, length_toList]
  rw [forgetAll, drain_of_exhausts r.exhausts_takeFirst? (Nat.le_of_eq hrounds),
    List.flatMap_def]

end Registry

end Parley
