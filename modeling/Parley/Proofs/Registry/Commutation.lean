import Parley.Proofs.Registry.Representation
import Parley.Proofs.Registry.Subject

/-!
What is done about different identities does not touch. Main statements: whatever is done about one
identity leaves every other conversation as it is; and while there is room for two more, it does not
matter which of two identities is seen to first. With room for one only, it does.
-/

namespace Parley.Registry

variable {α ρ β γ : Type} {r r' : Registry α ρ} {id a b : Identity}

-- All that a call about one identity can see of a registry.
structure Alike (id : Identity) (r r' : Registry α ρ) : Prop where
  config : r.config = r'.config
  isFull : r.isFull = r'.isFull
  get? : r.get? id = r'.get? id

-- Two outcomes that differ at most in what stands under other identities.
structure Agree (id : Identity) (o o' : Reply α ρ β) : Prop where
  answer : o.answer = o'.answer
  effects : o.effects = o'.effects
  get? : o.after.get? id = o'.after.get? id

section Agree

variable (answer : Except Refusal β) (effects : List (Effect α ρ))

theorem Alike.agree_same (h : Alike id r r') :
    Agree id ⟨answer, r, effects⟩ ⟨answer, r', effects⟩ :=
  ⟨rfl, rfl, h.get?⟩

theorem agree_put (c : Conversation α ρ) :
    Agree id ⟨answer, r.put id c, effects⟩ ⟨answer, r'.put id c, effects⟩ :=
  ⟨rfl, rfl, (get?_put_self r id c).trans (get?_put_self r' id c).symm⟩

theorem agree_drop : Agree id ⟨answer, r.drop id, effects⟩ ⟨answer, r'.drop id, effects⟩ :=
  ⟨rfl, rfl, (get?_drop_self r id).trans (get?_drop_self r' id).symm⟩

theorem Agree.map {o o' : Reply α ρ β} (h : Agree id o o') (f : β → γ) :
    Agree id (o.map f) (o'.map f) where
  answer := congrArg (·.map f) h.answer
  effects := h.effects
  get? := h.get?

end Agree

section Alike

variable (h : Alike id r r')
include h

theorem Alike.agree_findContext (create : Bool) (onCreate : List (Conversation.Call α ρ)) :
    Agree id (r.findContext id create onCreate) (r'.findContext id create onCreate) := by
  cases hid : id.validated with
  | error refusal =>
    rw [findContext_of_invalid hid, findContext_of_invalid hid]
    exact h.agree_same _ _
  | ok valid =>
    obtain rfl := ((id.validated_eq_ok_iff valid).mp hid).1
    cases hget : r.get? id with
    | some c =>
      rw [findContext_of_found hid hget, findContext_of_found hid (h.get?.symm.trans hget)]
      exact h.agree_same _ _
    | none =>
      have hget' := h.get?.symm.trans hget
      cases create with
      | false =>
        rw [findContext_of_absent hid hget, findContext_of_absent hid hget']
        exact h.agree_same _ _
      | true =>
        cases hfull : r.isFull with
        | true =>
          rw [findContext_of_full hid hget hfull,
            findContext_of_full hid hget' (h.isFull.symm.trans hfull)]
          exact h.agree_same _ _
        | false =>
          rw [findContext_of_room hid hget hfull,
            findContext_of_room hid hget' (h.isFull.symm.trans hfull), h.config]
          exact agree_put _ _ _

theorem Alike.agree_findOrCreate (onCreate : List (Conversation.Call α ρ)) :
    Agree id (r.findOrCreate id onCreate) (r'.findOrCreate id onCreate) := by
  have hfind := h.agree_findContext true onCreate
  exact
    { answer := by simp only [findOrCreate, hfind.answer]
      effects := hfind.effects
      get? := hfind.get? }

theorem Alike.find?_eq : r.find? id = r'.find? id := by
  cases hid : id.validated with
  | error refusal => simp [find?, hid, Except.map]
  | ok valid =>
    obtain rfl := ((id.validated_eq_ok_iff valid).mp hid).1
    simp [find?, hid, Except.map, h.get?]

theorem Alike.agree_onContext (act : Conversation α ρ → Conversation.Reply α ρ β) :
    Agree id (r.onContext id act) (r'.onContext id act) := by
  unfold onContext
  rw [← h.find?_eq]
  cases r.find? id with
  | error refusal => exact h.agree_same _ _
  | ok found =>
    cases found with
    | none => exact h.agree_same _ _
    | some c => exact (agree_put (act c).answer (act c).effects (act c).after).map some

theorem Alike.agree_forget : Agree id (r.forget id) (r'.forget id) := by
  cases hget : r.get? id with
  | none =>
    rw [forget_of_absent hget, forget_of_absent (h.get?.symm.trans hget)]
    exact h.agree_same _ _
  | some c =>
    have hget' := h.get?.symm.trans hget
    by_cases hstate : c.state = .unconnected
    · rw [forget_of_unconnected hget hstate, forget_of_unconnected hget' hstate]
      exact agree_drop _ _
    · rw [forget_of_kept hget hstate, forget_of_kept hget' hstate]
      exact h.agree_same _ _

theorem Alike.agree_forgetFingerprint (target : Target) (cascade : Bool) :
    Agree id (r.forgetFingerprint id target cascade) (r'.forgetFingerprint id target cascade) := by
  cases hget : r.get? id with
  | none =>
    rw [forgetFingerprint_of_absent hget, forgetFingerprint_of_absent (h.get?.symm.trans hget)]
    exact h.agree_same _ _
  | some c =>
    have hget' := h.get?.symm.trans hget
    cases target with
    | root =>
      rw [forgetFingerprint_root hget, forgetFingerprint_root hget']
      split
      · exact h.agree_forget.map _
      · exact h.agree_same _ _
    | entry f =>
      cases hanswer : (c.forgetFingerprint f).answer with
      | error refusal =>
        rw [forgetFingerprint_of_refused hget hanswer, forgetFingerprint_of_refused hget' hanswer]
        exact agree_put _ _ _
      | ok _ =>
        by_cases hcascades : Cascades cascade (c.forgetFingerprint f).after
        · rw [forgetFingerprint_of_cascades hget hanswer hcascades,
            forgetFingerprint_of_cascades hget' hanswer hcascades]
          exact agree_drop _ _
        · rw [forgetFingerprint_of_removed hget hanswer hcascades,
            forgetFingerprint_of_removed hget' hanswer hcascades]
          exact agree_put _ _ _

theorem Alike.agree_perform {call : Call α ρ} (hsubject : call.subject? = some id) :
    Agree id (r.perform call) (r'.perform call) := by
  apply Call.of_subject hsubject
  · exact fun create onCreate => (h.agree_findContext create onCreate).map _
  · exact fun onCreate => (h.agree_findOrCreate onCreate).map _
  · exact fun asked => (h.agree_onContext (·.perform asked)).map _
  · exact h.agree_forget.map _
  · exact fun target cascade => (h.agree_forgetFingerprint target cascade).map _

end Alike

-- What can be done about one identity: a call, or anything at all with the conversation that is
-- found under it.
inductive Concerns (id : Identity) : {β : Type} → (Registry α ρ → Reply α ρ β) → Prop where
  | asked (call : Call α ρ) (hsubject : call.subject? = some id) : Concerns id (·.perform call)
  | found {β : Type} (act : Conversation α ρ → Conversation.Reply α ρ β) :
    Concerns id (·.onContext id act)

section Concerns

variable {s : Registry α ρ → Reply α ρ β} {t : Registry α ρ → Reply α ρ γ}

theorem Concerns.writes (hs : Concerns id s) (r : Registry α ρ) : Writes id r (s r).after := by
  cases hs with
  | asked call hsubject => exact r.writes_perform hsubject
  | found act => exact r.writes_onContext id act

theorem Concerns.agree (hs : Concerns id s) (h : Alike id r r') : Agree id (s r) (s r') := by
  cases hs with
  | asked call hsubject => exact h.agree_perform hsubject
  | found act => exact h.agree_onContext act

theorem Writes.size_le {after : Registry α ρ} (h : Writes id r after) :
    after.size ≤ r.size + 1 := by
  cases h with
  | same => omega
  | put c =>
    cases hget : r.get? id with
    | none => exact Nat.le_of_eq (size_put_of_none hget)
    | some _ =>
      rw [size_put_of_some hget]
      omega
  | drop =>
    have hle := size_drop_le r id
    omega

-- The order of the two steps is not seen: not in the registry that they leave, nor in the answers,
-- nor in what they do outside, the release of attached data among it.
structure Commute (r : Registry α ρ) (s : Registry α ρ → Reply α ρ β)
    (t : Registry α ρ → Reply α ρ γ) : Prop where
  after : (t (s r).after).after = (s (t r).after).after
  answer : (s (t r).after).answer = (s r).answer
  other_answer : (t (s r).after).answer = (t r).answer
  effects : (s (t r).after).effects = (s r).effects
  other_effects : (t (s r).after).effects = (t r).effects

section Room

variable (hroom : r.size + 2 ≤ r.config.maxContexts)
include hroom

-- One step about another identity is not seen from here: one place stays free.
theorem Concerns.alike (ht : Concerns b t) (hne : b ≠ a) : Alike a r (t r).after := by
  have hwrites := ht.writes r
  have hsize := hwrites.size_le
  refine { config := hwrites.config_eq.symm, isFull := ?_, get? := (hwrites.get?_of_ne hne).symm }
  simp only [isFull, hwrites.config_eq, decide_eq_decide]
  omega

theorem Concerns.commute (hs : Concerns a s) (ht : Concerns b t) (hne : a ≠ b) : Commute r s t := by
  have hsame : Agree a (s r) (s (t r).after) := hs.agree (ht.alike hroom hne.symm)
  have hother : Agree b (t r) (t (s r).after) := ht.agree (hs.alike hroom hne)
  have hst := ht.writes (s r).after
  have hts := hs.writes (t r).after
  refine ⟨eq_of_get? ?_ fun id => ?_, hsame.answer.symm, hother.answer.symm, hsame.effects.symm,
    hother.effects.symm⟩
  · rw [hst.config_eq, hts.config_eq, (hs.writes r).config_eq, (ht.writes r).config_eq]
  · by_cases ha : a = id
    · subst ha
      rw [hst.get?_of_ne hne.symm, hsame.get?]
    by_cases hb : b = id
    · subst hb
      rw [hts.get?_of_ne hne, hother.get?]
    rw [hst.get?_of_ne hb, hts.get?_of_ne ha, (hs.writes r).get?_of_ne ha,
      (ht.writes r).get?_of_ne hb]

end Room

-- In any registry, whatever is done about one identity leaves the conversations of all others as
-- they are; and with room for two more it commutes with whatever is done about another, however the
-- two are displayed.
theorem identities_independent (r : Registry α ρ) (hs : Concerns a s) :
    (∀ other, other ≠ a → (s r).after.get? other = r.get? other) ∧
    ∀ (b : Identity) (γ : Type) (t : Registry α ρ → Reply α ρ γ), Concerns b t → a ≠ b →
      r.size + 2 ≤ r.config.maxContexts → Commute r s t := by
  refine ⟨fun other hne => (hs.writes r).get?_of_ne hne.symm, ?_⟩
  intro b γ t ht hne hroom
  exact hs.commute hroom ht hne

end Concerns

section Slashes

open Sample (slashInUsername slashInAccount accented)

-- Two identities that are displayed alike, beside a third; with both of them the registry is full.
def beforeLookalikes : Registry Nat Unit :=
  ((empty { maxContexts := 3 }).performAll [.findOrCreate accented [.attach 1 (some ())]]).after

theorem identities_independent_lookalikes :
    let r := beforeLookalikes
    let s (r : Registry Nat Unit) := r.perform (.findOrCreate slashInUsername [.attach 2 none])
    let t (r : Registry Nat Unit) := r.perform (.findContext slashInAccount true [.forceSetup])
    let busy (r : Registry Nat Unit) := r.onContext accented (·.attach 3 none)
    slashInUsername.display = slashInAccount.display ∧ (t (s r).after).after.isFull = true ∧
      (s r).after.get? accented = r.get? accented ∧ Commute r s t ∧ Commute r s busy := by
  intro r s t busy
  have hs : Concerns slashInUsername s := .asked _ rfl
  obtain ⟨hothers, hcommute⟩ := identities_independent r hs
  have hroom : r.size + 2 ≤ r.config.maxContexts := by decide +kernel
  exact ⟨by decide, by decide +kernel, hothers accented (by decide),
    hcommute slashInAccount _ t (.asked _ rfl) (by decide) hroom,
    hcommute accented _ busy (.found _) (by decide) hroom⟩

end Slashes

-- For the last place, the first of two new identities takes it, and the other is refused.
theorem not_commute_of_last_place (hne : a ≠ b) (ha : a.validated = .ok a)
    (hb : b.validated = .ok b) (hfree : r.get? a = none) (hfree' : r.get? b = none)
    (hlast : r.size + 1 = r.config.maxContexts) (onCreate later : List (Conversation.Call α ρ)) :
    ¬ Commute r (·.findContext a true onCreate) (·.findContext b true later) := by
  intro hcommute
  have hroom : r.isFull = false := decide_eq_false (by omega)
  let taken := r.put a ((Conversation.fresh a r.config.limits).performAll onCreate).after
  have htaken : (r.findContext a true onCreate).after = taken := by
    rw [findContext_of_room ha hfree hroom]
    rfl
  have habsent : taken.get? b = none := (get?_put_of_ne hne).trans hfree'
  have hfull : taken.isFull = true := by
    rw [isFull, size_put_of_none hfree]
    exact decide_eq_true (Nat.le_of_eq hlast.symm)
  have hanswer := hcommute.other_answer
  rw [htaken, findContext_of_full hb habsent hfull, findContext_of_room hb hfree' hroom] at hanswer
  cases hanswer

end Parley.Registry
