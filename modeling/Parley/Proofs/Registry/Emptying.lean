import Parley.Proofs.Fingerprint.Emptying
import Parley.Proofs.Registry.Audit
import Parley.Proofs.Registry.Pinning

/-!
Emptying a registry, whatever its conversations are in the middle of. Main statement: the loop makes
as many rounds as there are conversations and takes them out in the order of identities, each with
all its fingerprints and its data; no guard of a removal would have objected; and what is left
cannot be told from a new registry.
-/

namespace Parley

open KnownFingerprints (pop?)

namespace Conversation

variable {α ρ : Type} {c : Conversation α ρ}

-- What becomes of a conversation that is disconnected and torn down.
structure Dismissed (c : Conversation α ρ) : Prop where
  -- two falls, the second of which finds nothing to wipe, then the data, then the end
  effects : c.teardown =
    [.log (.forcedToSetup c.id), .log (.forcedToUnconnected c.id),
      .log (.forcedToSetup c.id), .log (.forcedToUnconnected c.id)] ++
    Attachment.release c.attachment ++ [.log (.contextDestroyed c.id)]
  released : Effect.releases c.teardown = Attachment.due c.attachment
  -- the fingerprints are taken out one in a round until there is none, the newest first, and one
  -- that backs a session is no exception
  pops (popped : List KnownFingerprint) (last : KnownFingerprints) :
    Exhausts pop? c.known popped last ↔ popped = c.known.toList ∧ last = c.known.emptied
  rounds : c.known.toList.length = c.known.size
  newest_first : c.known.toList.Pairwise c.known.AddedAfter
  active (entry : KnownFingerprint) : c.active? = some entry → entry ∈ c.known.toList
  popped : c.forceDisconnect.after.destroy.answer = .ok c.known.toList
  left : c.forceDisconnect.after.destroy.after.known = c.known.emptied
  -- by then each of them could have been forgotten by name
  unguarded : c.forceDisconnect.after.performAll (c.known.fingerprints.map .forgetFingerprint) =
    ⟨c.known.fingerprints.map fun _ => .ok .done,
      { c.forceDisconnect.after with known := c.known.emptied }, []⟩

theorem events_teardown (c : Conversation α ρ) : Effect.events c.teardown =
    [.forcedToSetup c.id, .forcedToUnconnected c.id, .forcedToSetup c.id,
      .forcedToUnconnected c.id, .contextDestroyed c.id] := by
  rw [teardown, Effect.events_append, events_destroy]
  rfl

section Guarded

variable (h : c.Guarded)
include h

-- Out of session, the first fingerprint goes by its name as it goes from the front.
theorem Guarded.forgetFingerprint_first (hstate : c.state ≠ .connected) {entry : KnownFingerprint}
    {rest : List KnownFingerprint} (hlist : c.known.toList = entry :: rest) :
    c.forgetFingerprint entry.fingerprint = .done { c with known := c.known.popFirst.2 } () [] := by
  have hmem : entry.fingerprint ∈ c.known.fingerprints := by
    rw [KnownFingerprints.fingerprints, hlist]
    exact List.mem_cons_self
  have hfirst : c.known.first? = some entry := by
    rw [KnownFingerprints.first?_eq_head?, hlist]
    rfl
  rw [h.numbered.popFirst_eq_remove hfirst]
  rcases h.forgetFingerprint_cases entry.fingerprint with
    ⟨hconnected, _⟩ | ⟨_, hunlisted, _⟩ | ⟨_, _, hdone⟩
  · exact absurd hconnected hstate
  · exact absurd hmem hunlisted
  · exact hdone

theorem Guarded.forgetFingerprint_all (hstate : c.state ≠ .connected) :
    c.performAll (c.known.fingerprints.map .forgetFingerprint) =
      ⟨c.known.fingerprints.map fun _ => .ok .done, { c with known := c.known.emptied }, []⟩ := by
  simp only [KnownFingerprints.fingerprints]
  induction hlist : c.known.toList generalizing c with
  | nil =>
    rw [← h.numbered.eq_emptied hlist]
    rfl
  | cons entry rest ih =>
    obtain ⟨shorter, hshorter⟩ : ∃ d, d = { c with known := c.known.popFirst.2 } := ⟨_, rfl⟩
    have hfirst : c.forgetFingerprint entry.fingerprint = .done shorter () [] := by
      rw [h.forgetFingerprint_first hstate hlist, hshorter]
    have hguarded : shorter.Guarded := by
      have hafter := h.forgetFingerprint entry.fingerprint
      rwa [hfirst] at hafter
    have htail : shorter.known.toList = rest := by
      rw [hshorter, h.numbered.toList_popFirst, hlist, List.tail_cons]
    have hlast : { shorter with known := shorter.known.emptied } =
        { c with known := c.known.emptied } := by
      rw [hshorter, KnownFingerprints.emptied_popFirst]
    have hrest := ih hguarded (hshorter ▸ hstate) htail
    rw [hlast] at hrest
    simp only [performAll] at hrest
    simp only [performAll, List.map_cons, History.run, Conversation.perform, hfirst,
      Outcome.after_map, Outcome.done, hrest]
    rfl

theorem Guarded.destroy_eq : c.destroy =
    .done { c.toUnconnected with known := c.known.emptied, attachment := none } c.known.toList
      c.destroy.effects := by
  have hdrain : c.forceDisconnect.after.known.drain = (c.known.toList, c.known.emptied) :=
    h.numbered.drain_eq
  simp only [destroy, hdrain]
  rfl

theorem Guarded.dismissed : c.Dismissed where
  effects := c.teardown_eq
  released := c.releases_teardown
  pops := h.numbered.exhausts_pop?.iff
  rounds := KnownFingerprints.length_toList c.known
  newest_first := c.known.pairwise_addedAfter
  active entry hactive := by
    have hstate : c.state = .connected := by
      by_contra hother
      simp [active?, hother] at hactive
    obtain ⟨_, listed, hmem, _, _, hlisted⟩ := h.exists_active? hstate
    rw [hlisted] at hactive
    cases hactive
    exact hmem
  popped := congrArg Outcome.answer h.toUnconnected.destroy_eq
  left := congrArg (·.after.known) h.toUnconnected.destroy_eq
  unguarded := h.toUnconnected.forgetFingerprint_all fun hstate => nomatch hstate

end Guarded

end Conversation

namespace Registry

variable {α ρ : Type} {r : Registry α ρ} {config : Config}

-- What could be asked instead, conversation by conversation.
def farewells (r : Registry α ρ) : List (Call α ρ) :=
  r.toList.flatMap fun c => [.onContext c.id .forceDisconnect, .forget c.id]

-- Disconnected first, each conversation may be forgotten, and goes as it goes in the loop.
theorem Grown.performAll_farewells (h : Grown config r) :
    r.performAll r.farewells =
      ⟨r.toList.flatMap fun _ => [.ok (.context (some .done)), .ok .done], empty r.config,
        r.toList.flatMap (·.teardown)⟩ := by
  induction r using induction_on_first with
  | empty config =>
    rw [farewells, toList_empty]
    rfl
  | @first r id c hfirst ih =>
    obtain rfl := h.id_eq hfirst.found
    have hrest := ih (h.drop c.id)
    let parted := c.forceDisconnect.after
    have hparted : r.perform (.onContext c.id .forceDisconnect) =
        .done (r.put c.id parted) (.context (some .done)) c.forceDisconnect.effects := by
      rw [Registry.perform, onContext_of_found (h.valid hfirst.found) hfirst.found]
      rfl
    have hforgotten : (r.put c.id parted).perform (.forget c.id) =
        .done (r.drop c.id) .done parted.destroy.effects := by
      rw [Registry.perform, forget_of_unconnected (get?_put_self r c.id parted) rfl, drop_put]
      rfl
    simp only [performAll, farewells] at hrest
    simp only [performAll, farewells, hfirst.listed, List.flatMap_cons, List.cons_append,
      List.nil_append, History.run, hparted, hforgotten, Outcome.done, hrest]
    rw [← List.append_assoc]
    rfl

theorem events_flatMap_teardown (conversations : List (Conversation α ρ)) :
    (Effect.events (conversations.flatMap (·.teardown))).filter
      (fun event => event.message = "context destroyed") =
    conversations.map fun c => .contextDestroyed c.id := by
  induction conversations with
  | nil => rfl
  | cons c rest ih =>
    rw [List.flatMap_cons, Effect.events_append, List.filter_append, ih, c.events_teardown]
    rfl

-- All that is to be said of emptying a registry once.
structure Emptied (r : Registry α ρ) (o : Reply α ρ Unit) : Prop where
  reply : o = .done (empty r.config) () (r.toList.flatMap (·.teardown))
  -- the loop ends by itself, and it ends where the reply says
  loop (taken : List (List (Effect α ρ))) (last : Registry α ρ) :
    Exhausts takeFirst? r taken last ↔ taken = r.toList.map (·.teardown) ∧ last = o.after
  rounds : (r.toList.map (·.teardown)).length = r.size
  ascending : r.toList.Pairwise fun c d => c.id.Precedes d.id
  destroyed : (Effect.events o.effects).filter (fun event => event.message = "context destroyed") =
    r.toList.map fun c => .contextDestroyed c.id
  dismissed : ∀ c ∈ r.toList, c.Dismissed
  -- no guard warns, and none would have refused anything
  quiet : ∀ event ∈ Effect.events o.effects, event.level = .debug
  unguarded : r.performAll r.farewells =
    ⟨r.toList.flatMap fun _ => [.ok (.context (some .done)), .ok .done], o.after, o.effects⟩

theorem Grown.emptied (h : Grown config r) : Emptied r r.forgetAll where
  reply := r.forgetAll_eq
  loop := by
    rw [forgetAll_eq]
    exact r.exhausts_takeFirst?.iff
  rounds := by rw [List.length_map, length_toList]
  ascending := h.ascending
  destroyed := by
    rw [forgetAll_eq]
    exact events_flatMap_teardown r.toList
  dismissed c hmem := (h.guarded (h.get?_of_mem hmem)).dismissed
  quiet event hmem := by
    rw [forgetAll_eq] at hmem
    exact ((Conversation.parting_teardown r.toList).quiet event hmem).1
  unguarded := by
    rw [forgetAll_eq]
    exact h.performAll_farewells

theorem forgetAll_empty (config : Config) :
    (empty config : Registry α ρ).forgetAll = .done (empty config) () [] := by
  rw [forgetAll_eq, toList_empty]
  rfl

theorem Grown.after_forgetAll (h : Grown config r) : r.forgetAll.after = empty config := by
  rw [forgetAll_eq, h.config_eq]
  rfl

-- Emptied in the middle of its life, a registry lives on as a new one.
theorem Grown.live_forgetAll (h : Grown config r) (further : List (Call α ρ)) :
    r.live (.forgetAll :: further) =
      let new := (empty config : Registry α ρ).live further
      ⟨.ok (.done, []) :: new.answers, new.after, r.forgetAll.effects ++ new.effects⟩ := by
  have hemptied : r.report .forgetAll =
      .done (empty config) (.done, []) r.forgetAll.effects := by
    rw [← h.after_forgetAll]
    rfl
  simp only [live, History.run, hemptied]
  rfl

-- Whatever was done to a registry before, and whatever its conversations are in the middle of:
-- emptying it comes to what is said above. To empty it again makes no round and does nothing, and
-- to give the registry up is to empty it again. What is done to it afterwards comes to what it
-- would come to with a new one.
theorem emptied_for_good (config : Config) (calls : List (Call α ρ)) :
    let run := (empty config : Registry α ρ).live calls
    let r := run.after
    let o := r.forgetAll
    r.config = config ∧ Emptied r o ∧
    o.after.forgetAll = .done o.after () [] ∧ Exhausts takeFirst? o.after [] o.after ∧
    ∀ further : List (Call α ρ),
      let new := (empty config : Registry α ρ).live further
      o.after.live further = new ∧
      (empty config : Registry α ρ).live (calls ++ .forgetAll :: further) =
        ⟨run.answers ++ .ok (.done, []) :: new.answers, new.after,
          run.effects ++ o.effects ++ new.effects⟩ := by
  intro run r o
  have hgrown : Grown config r := grown_live config calls
  have hafter : o.after = empty config := hgrown.after_forgetAll
  have hstop := exhausts_takeFirst? (empty config : Registry α ρ)
  rw [toList_empty] at hstop
  rw [hafter]
  refine ⟨hgrown.config_eq, hgrown.emptied, forgetAll_empty config, hstop,
    fun further => ⟨rfl, ?_⟩⟩
  have hsplit : (empty config : Registry α ρ).live (calls ++ .forgetAll :: further) =
      let rest := r.live (.forgetAll :: further)
      ⟨run.answers ++ rest.answers, rest.after, run.effects ++ rest.effects⟩ :=
    History.run_append _ _ _ _
  rw [hsplit, hgrown.live_forgetAll further, List.append_assoc]

section Gathering

open Sample (alice bob carol older newer)

-- One is unconnected, one in a session that the older of two fingerprints backs, and one in its
-- setup; and one of the data is not to be given back.
def gathering : List (Call Nat Nat) :=
  [.findOrCreate carol [.attach 20 none],
    .findOrCreate bob [.attach 10 (some 1), .addFingerprint older, .addFingerprint newer,
      .forceSetup, .markConnected older],
    .findOrCreate alice [.addFingerprint newer, .forceSetup, .attach 30 (some 3)]]

theorem emptied_for_good_gathering :
    let r : Registry Nat Nat := ((empty {}).live gathering).after
    let o := r.forgetAll
    let falls (id : Identity) : List (Effect Nat Nat) :=
      [.log (.forcedToSetup id), .log (.forcedToUnconnected id), .log (.forcedToSetup id),
        .log (.forcedToUnconnected id)]
    r.toList.map (·.state) = [.setup, .connected, .unconnected] ∧
      (r.forget bob).answer = .error (.notUnconnected .connected) ∧
      (r.forgetFingerprint bob (.entry older) true).answer = .error .fingerprintInUse ∧
      o.effects = falls alice ++ [.release 3 30, .log (.contextDestroyed alice)] ++
        (falls bob ++ [.release 1 10, .log (.contextDestroyed bob)]) ++
        (falls carol ++ [.log (.contextDestroyed carol)]) ∧
      (∃ c ∈ r.toList, c.id = bob ∧
        c.forceDisconnect.after.destroy.answer = .ok [.unverified newer, .unverified older]) ∧
      (∃ taken, Exhausts takeFirst? r taken o.after ∧ taken.length = 3) ∧
      o.after.forgetAll.effects = [] ∧
      o.after.live gathering = (empty {}).live gathering := by
  intro r o falls
  obtain ⟨_, hemptied, hagain, _, hfurther⟩ := emptied_for_good {} gathering
  have heffects : o.effects = r.toList.flatMap (·.teardown) :=
    congrArg Outcome.effects hemptied.reply
  have hbob : (r.get? bob).map (fun c => (c.id, c.known.toList)) =
      some (bob, [.unverified newer, .unverified older]) := by decide +kernel
  obtain ⟨c, hget, hc⟩ := Option.map_eq_some_iff.mp hbob
  obtain ⟨hid, hknown⟩ := Prod.mk.inj hc
  have hmem : c ∈ r.toList := mem_toList_iff.mpr ⟨bob, hget⟩
  refine ⟨by decide +kernel, by decide +kernel, by decide +kernel, ?_, ⟨c, hmem, hid, ?_⟩,
    ⟨_, (hemptied.loop _ _).mpr ⟨rfl, rfl⟩, ?_⟩, ?_, ?_⟩
  · rw [heffects]
    decide +kernel
  · rw [(hemptied.dismissed c hmem).popped, hknown]
  · rw [hemptied.rounds]
    decide +kernel
  · exact congrArg Outcome.effects hagain
  · exact (hfurther gathering).1

end Gathering

end Registry

end Parley
