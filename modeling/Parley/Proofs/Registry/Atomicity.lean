import Parley.Proofs.Registry.Pinning

/-!
What a refused call leaves behind. Main statement: in every registry, a call that is refused has
released nothing and changed nothing, but for a preshared secret that is too long, which still takes
away the one before.
-/

namespace Parley

namespace Outcome

variable {α ρ χ σ τ β γ : Type} {start : σ} {o : Outcome χ σ (Effect α ρ) β}

-- If the call is refused, it changed nothing and released nothing.
def Atomic (start : σ) (o : Outcome χ σ (Effect α ρ) β) : Prop :=
  ∀ refusal, o.answer = .error refusal → o.after = start ∧ Effect.releases o.effects = []

theorem atomic_done (after : σ) (value : β) (effects : List (Effect α ρ)) :
    Atomic start (.done after value effects : Outcome χ σ (Effect α ρ) β) := by
  intro refusal hrefused
  cases hrefused

theorem atomic_refused (reason : χ) {effects : List (Effect α ρ)}
    (hreleases : Effect.releases effects = []) :
    Atomic start (.refused reason start effects : Outcome χ σ (Effect α ρ) β) :=
  fun _ _ => ⟨rfl, hreleases⟩

theorem Atomic.map (h : Atomic start o) (f : β → γ) : Atomic start (o.map f) := by
  intro refusal hrefused
  rw [answer_map] at hrefused
  cases hanswer : o.answer with
  | error reason => exact h reason hanswer
  | ok value =>
    rw [hanswer] at hrefused
    cases hrefused

theorem Atomic.within (h : Atomic start o) (embed : σ → τ) :
    Atomic (embed start) (o.within embed) := by
  intro refusal hrefused
  obtain ⟨hafter, hreleases⟩ := h refusal hrefused
  exact ⟨congrArg embed hafter, hreleases⟩

end Outcome

open Outcome

namespace Conversation

variable {α ρ : Type} (c : Conversation α ρ)

theorem atomic_addFingerprint (f : Fingerprint) : Atomic c (c.addFingerprint f) := by
  unfold addFingerprint
  split
  · exact atomic_refused _ rfl
  · exact atomic_done _ _ _

theorem atomic_markConnected (f : Fingerprint) : Atomic c (c.markConnected f) := by
  rcases c.markConnected_cases f with ⟨_, heq⟩ | ⟨_, _, heq⟩ | ⟨_, _, heq⟩
  · rw [heq]
    exact atomic_refused _ rfl
  · rw [heq]
    exact atomic_refused _ rfl
  · rw [heq]
    exact atomic_done _ _ _

theorem atomic_setSessionKeys (slot : KeySlot) (keys : Option SessionKeys) :
    Atomic c (c.setSessionKeys slot keys) := by
  unfold setSessionKeys
  dsimp only
  split
  · exact atomic_done _ _ _
  · exact atomic_refused _ rfl

theorem atomic_saveMacKey (key : MacKey) : Atomic c (c.saveMacKey key) := by
  unfold saveMacKey
  split
  · exact atomic_done _ _ _
  · exact atomic_refused _ rfl

variable {c}

-- An index that led to no entry would lose the fingerprint although the call is refused.
theorem Guarded.atomic_forgetFingerprint (h : c.Guarded) (f : Fingerprint) :
    Atomic c (c.forgetFingerprint f) := by
  rcases h.forgetFingerprint_cases f with ⟨_, _, heq⟩ | ⟨_, _, heq⟩ | ⟨_, _, heq⟩
  · rw [heq]
    exact atomic_refused _ rfl
  · rw [heq]
    exact atomic_refused _ rfl
  · rw [heq]
    exact atomic_done _ _ _

-- The secret before is gone, and nothing else.
theorem setPresharedSecret_of_overlong {bytes : Array UInt8}
    (hlong : c.limits.maxPresharedSecretLength < bytes.size) :
    c.setPresharedSecret (some bytes) = .refused .presharedSecretTooLong
      { c with material := { c.material with presharedSecret := none } } [] := by
  have hsome : bytes.isEmpty = false := by
    rw [Array.isEmpty_eq_false_iff_exists_mem]
    exact ⟨bytes[0], Array.getElem_mem (by omega)⟩
  simp [setPresharedSecret, hsome, hlong]

theorem atomic_setPresharedSecret {secret : Option (Array UInt8)}
    (hfits : ∀ bytes, secret = some bytes → bytes.size ≤ c.limits.maxPresharedSecretLength) :
    Atomic c (c.setPresharedSecret secret) := by
  cases secret with
  | none => exact atomic_done _ _ _
  | some bytes =>
    have hfit := Nat.not_lt.mpr (hfits bytes rfl)
    simp only [setPresharedSecret, if_neg hfit]
    split
    · exact atomic_done _ _ _
    · exact atomic_done _ _ _

-- The one call that changes something although it is refused.
def Overlong (c : Conversation α ρ) (call : Call α ρ) : Prop :=
  ∃ bytes, call = .setPresharedSecret (some bytes) ∧
    c.limits.maxPresharedSecretLength < bytes.size

theorem Guarded.atomic_perform (h : c.Guarded) {call : Call α ρ} (hfits : ¬ c.Overlong call) :
    Atomic c (c.perform call) := by
  cases call with
  | addFingerprint f => exact (c.atomic_addFingerprint f).map _
  | forgetFingerprint f => exact (h.atomic_forgetFingerprint f).map _
  | markConnected f => exact (c.atomic_markConnected f).map _
  | setSessionKeys slot keys => exact (c.atomic_setSessionKeys slot keys).map _
  | saveMacKey key => exact (c.atomic_saveMacKey key).map _
  | setPresharedSecret secret =>
    refine (atomic_setPresharedSecret ?_).map _
    intro bytes hsecret
    exact Nat.not_lt.mp fun hlong => hfits ⟨bytes, by rw [hsecret], hlong⟩
  | forceSetup => exact (atomic_done _ _ _).map _
  | forceDisconnect => exact (atomic_done _ _ _).map _
  | attach data function => exact (atomic_done _ _ _).map _
  | _ => exact atomic_done _ _ _

end Conversation

namespace Registry

variable {α ρ : Type} {r : Registry α ρ} {id : Identity} {c : Conversation α ρ}

theorem atomic_findContext (create : Bool) (onCreate : List (Conversation.Call α ρ)) :
    Atomic r (r.findContext id create onCreate) := by
  unfold findContext
  split
  · exact atomic_refused _ rfl
  · split
    · exact atomic_done _ _ _
    · split
      · exact atomic_done _ _ _
      · split
        · exact atomic_refused _ rfl
        · exact atomic_done _ _ _

-- Asked to create, a search that is answered has found or made something.
theorem findContext_ne_none (onCreate : List (Conversation.Call α ρ)) :
    (r.findContext id true onCreate).answer ≠ .ok none := by
  unfold findContext
  split
  · exact fun h => nomatch h
  · split
    · exact fun h => nomatch h
    · rw [Bool.not_true, if_neg Bool.false_ne_true]
      split <;> exact fun h => nomatch h

theorem atomic_findOrCreate (onCreate : List (Conversation.Call α ρ)) :
    Atomic r (r.findOrCreate id onCreate) := by
  intro refusal hrefused
  cases hanswer : (r.findContext id true onCreate).answer with
  | error reason => exact atomic_findContext true onCreate reason hanswer
  | ok found =>
    cases found with
    | none => exact absurd hanswer (findContext_ne_none onCreate)
    | some pair =>
      simp only [findOrCreate, hanswer] at hrefused
      cases hrefused

theorem atomic_onContext {β : Type} {call : Conversation α ρ → Conversation.Reply α ρ β}
    (hcall : ∀ c, r.get? id = some c → Atomic c (call c)) : Atomic r (r.onContext id call) := by
  unfold onContext
  split
  · exact atomic_refused _ rfl
  · exact atomic_done _ _ _
  · next c hfound =>
    have hget := (find?_eq_ok_iff.mp hfound).2
    have hwithin := (hcall c hget).within (r.put id)
    rw [put_of_get? hget] at hwithin
    exact hwithin.map some

theorem atomic_forget (r : Registry α ρ) (id : Identity) : Atomic r (r.forget id) := by
  cases hget : r.get? id with
  | none =>
    rw [forget_of_absent hget]
    exact atomic_refused _ rfl
  | some c =>
    by_cases hstate : c.state = .unconnected
    · rw [forget_of_unconnected hget hstate]
      exact atomic_done _ _ _
    · rw [forget_of_kept hget hstate]
      exact atomic_refused _ rfl

-- Once the fingerprint is taken out, the call is answered.
theorem exists_answer_of_removed (hget : r.get? id = some c) {f : Fingerprint}
    (hremoved : (c.forgetFingerprint f).answer = .ok ()) (cascade : Bool) :
    ∃ removed, (r.forgetFingerprint id (.entry f) cascade).answer = .ok removed := by
  by_cases hcascades : Cascades cascade (c.forgetFingerprint f).after
  · rw [forgetFingerprint_of_cascades hget hremoved hcascades]
    exact ⟨_, rfl⟩
  · rw [forgetFingerprint_of_removed hget hremoved hcascades]
    exact ⟨_, rfl⟩

theorem atomic_forgetFingerprint (hguarded : ∀ c, r.get? id = some c → c.Guarded)
    (target : Target) (cascade : Bool) : Atomic r (r.forgetFingerprint id target cascade) := by
  cases hget : r.get? id with
  | none =>
    rw [forgetFingerprint_of_absent hget]
    exact atomic_refused _ rfl
  | some c =>
    cases target with
    | root =>
      rw [forgetFingerprint_root hget]
      split
      · exact (atomic_forget r id).map _
      · exact atomic_done _ _ _
    | entry f =>
      intro refusal hrefused
      cases hanswer : (c.forgetFingerprint f).answer with
      | error reason =>
        obtain ⟨hafter, hreleases⟩ := (hguarded c hget).atomic_forgetFingerprint f reason hanswer
        rw [forgetFingerprint_of_refused hget hanswer, hafter, put_of_get? hget]
        exact ⟨rfl, hreleases⟩
      | ok _ =>
        obtain ⟨removed, hremoved⟩ := exists_answer_of_removed hget hanswer cascade
        rw [hremoved] at hrefused
        cases hrefused

-- The one call that changes something although it is refused.
def Overlong (r : Registry α ρ) (call : Call α ρ) : Prop :=
  ∃ id c asked, r.get? id = some c ∧ call = .onContext id asked ∧ c.Overlong asked

theorem atomic_perform (hguarded : ∀ id c, r.get? id = some c → c.Guarded) {call : Call α ρ}
    (hfits : ¬ r.Overlong call) : Atomic r (r.perform call) := by
  cases call with
  | findContext id create onCreate => exact (atomic_findContext create onCreate).map _
  | findOrCreate id onCreate => exact (atomic_findOrCreate onCreate).map _
  | onContext id asked =>
    refine (atomic_onContext ?_).map _
    intro c hget
    exact (hguarded id c hget).atomic_perform fun hlong => hfits ⟨id, c, asked, hget, rfl, hlong⟩
  | forget id => exact (atomic_forget r id).map _
  | forgetFingerprint id target cascade =>
    exact (atomic_forgetFingerprint (hguarded id) target cascade).map _
  | forgetAll => exact (atomic_done _ _ _).map _

theorem perform_of_overlong (hid : id.validated = .ok id) (hget : r.get? id = some c)
    {bytes : Array UInt8} (hlong : c.limits.maxPresharedSecretLength < bytes.size) :
    r.perform (.onContext id (.setPresharedSecret (some bytes))) =
      .refused .presharedSecretTooLong
        (r.put id { c with material := { c.material with presharedSecret := none } }) [] := by
  have hfound : r.find? id = .ok (some c) := find?_eq_ok_iff.mpr ⟨hid, hget⟩
  simp only [perform, onContext, hfound, Conversation.perform,
    Conversation.setPresharedSecret_of_overlong hlong]
  rfl

-- In every registry, a refused call has changed nothing and released nothing. Too long a secret is
-- the exception: it takes away the secret before and nothing else. And where a fingerprint goes and
-- may take its conversation along, the second step is never the one to be refused.
theorem refused_unchanged (config : Config) (earlier : List (Call α ρ)) :
    let r : Registry α ρ := ((empty config).performAll earlier).after
    (∀ call, ¬ r.Overlong call → Atomic r (r.perform call)) ∧
    (∀ id c bytes, r.get? id = some c → c.limits.maxPresharedSecretLength < bytes.size →
      r.perform (.onContext id (.setPresharedSecret (some bytes))) =
        .refused .presharedSecretTooLong
          (r.put id { c with material := { c.material with presharedSecret := none } }) []) ∧
    (∀ id c f cascade, r.get? id = some c → (c.forgetFingerprint f).answer = .ok () →
      ∃ removed, (r.forgetFingerprint id (.entry f) cascade).answer = .ok removed) := by
  intro r
  have hgrown : Grown config r := grown_performAll config earlier
  refine ⟨fun call hfits => ?_, fun id c bytes hget hlong => ?_, fun id c f cascade hget hok => ?_⟩
  · exact atomic_perform (fun id c hget => hgrown.guarded hget) hfits
  · exact perform_of_overlong (hgrown.valid hget) hget hlong
  · exact exists_answer_of_removed hget hok cascade

section Crowded

open Sample (alice older here secretsOf keysOf)

-- Leaves no room for the used MAC key of the keys in force.
def crowding : List (Call Nat Unit) :=
  [.findOrCreate alice [.addFingerprint older, .setPresharedSecret (some #[1]),
    .setSessionKeys here (some (keysOf 1)), .onSessionKeys here .useSendMac,
    .saveMacKey (secretsOf 1).sendMac, .saveMacKey (secretsOf 1).recvMac]]

theorem refused_unchanged_crowded :
    let r : Registry Nat Unit := ((empty { limits := .tiny }).performAll crowding).after
    let clearing : Call Nat Unit := .onContext alice (.setSessionKeys here none)
    ((r.perform clearing).answer = .error .savedMacKeysFull ∧ (r.perform clearing).after = r) ∧
    (∃ c, r.get? alice = some c ∧
      r.perform (.onContext alice (.setPresharedSecret (some (Array.replicate 17 0)))) =
        .refused .presharedSecretTooLong
          (r.put alice { c with material := { c.material with presharedSecret := none } }) []) ∧
    ∃ removed, (r.forgetFingerprint alice (.entry older) true).answer = .ok removed := by
  intro r clearing
  obtain ⟨hatomic, hoverlong, hremoved⟩ := refused_unchanged { limits := .tiny } crowding
  have hview : (r.get? alice).map (fun c => (c.limits, (c.forgetFingerprint older).answer)) =
      some (.tiny, .ok ()) := rfl
  obtain ⟨c, hget, hc⟩ := Option.map_eq_some_iff.mp hview
  obtain ⟨hlimits, hok⟩ := Prod.mk.inj hc
  refine ⟨?_, ?_, ?_⟩
  · have hrefused : (r.perform clearing).answer = .error .savedMacKeysFull := rfl
    have hfits : ¬ r.Overlong clearing := by
      rintro ⟨_, _, asked, _, hcall, bytes, hasked, _⟩
      have hkeys : .setSessionKeys here none = asked := (Call.onContext.inj hcall).2
      rw [hasked] at hkeys
      cases hkeys
    exact ⟨hrefused, (hatomic clearing hfits _ hrefused).1⟩
  · have hlong : c.limits.maxPresharedSecretLength < (Array.replicate 17 (0 : UInt8)).size := by
      rw [hlimits]
      decide
    exact ⟨c, hget, hoverlong alice c _ hget hlong⟩
  · exact hremoved alice c older true hget hok

end Crowded

end Registry

end Parley
