import Parley.Proofs.Registry.Atomicity
import Parley.Proofs.Registry.Creation
import Parley.Proofs.Registry.Representation
import Parley.Proofs.Registry.Subject

/-!
Looking for a conversation, and making it if it is missing. Main statement: in every registry, a
search finds what is there, full or not; what is missing it makes only if asked to and if there is
room, and then as if the identity had never been heard of, with the calls for a new conversation
made once; and whoever looks without creating sees the same.
-/

namespace Parley.Registry

variable {α ρ : Type}

-- A conversation was made, and nothing else has changed.
structure Made (r : Registry α ρ) (id : Identity) (onCreate : List (Conversation.Call α ρ))
    (o : Reply α ρ (Option (Conversation α ρ × Bool))) : Prop where
  -- a fresh conversation is announced, and what the calls make of it is handed out
  reply : let made := (Conversation.fresh id r.config.limits).performAll onCreate
    o = .done (r.put id made.after) (some (made.after, true))
      (.log (.newContext id) :: made.effects)
  -- each of the calls is made once, as it would be made on the conversation later
  once : let apart := r.performAll (.findContext id true [] :: onCreate.map (.onContext id))
    o.after = apart.after ∧ o.effects = apart.effects
  size : o.after.size = r.size + 1
  elsewhere (other : Identity) : other ≠ id → o.after.get? other = r.get? other

-- All that a search can come to.
structure Searched (r : Registry α ρ) (id : Identity) (create : Bool)
    (onCreate : List (Conversation.Call α ρ))
    (o : Reply α ρ (Option (Conversation α ρ × Bool))) : Prop where
  invalid (field : String) : id.missing? = some field → o = .refused (.missingField field) r []
  found (c : Conversation α ρ) : r.get? id = some c → o = .done r (some (c, false)) []
  absent : id.missing? = none → r.get? id = none → create = false → o = .done r none []
  full : id.missing? = none → r.get? id = none → create = true →
    r.config.maxContexts ≤ r.size → o = .refused .registryFull r []
  made : id.missing? = none → r.get? id = none → create = true →
    r.size < r.config.maxContexts → Made r id onCreate o

variable {r : Registry α ρ} {id : Identity} {config : Config}
  {onCreate : List (Conversation.Call α ρ)}

theorem isFull_iff : r.isFull = true ↔ r.config.maxContexts ≤ r.size := by
  rw [isFull, decide_eq_true_iff]

theorem validated_of_missing?_none (hnone : id.missing? = none) : id.validated = .ok id := by
  rw [id.validated_eq, hnone]

theorem made_findContext (hid : id.validated = .ok id) (hget : r.get? id = none)
    (hroom : r.isFull = false) : Made r id onCreate (r.findContext id true onCreate) where
  reply := findContext_of_room hid hget hroom
  once := findContext_eq_performAll hid hget hroom onCreate
  size := by
    rw [findContext_of_room hid hget hroom]
    exact size_put_of_none hget
  elsewhere other hne := (r.writes_findContext id true onCreate).get?_of_ne (Ne.symm hne)

theorem Grown.searched (h : Grown config r) (id : Identity) (create : Bool)
    (onCreate : List (Conversation.Call α ρ)) :
    Searched r id create onCreate (r.findContext id create onCreate) where
  invalid field hfield := by
    apply findContext_of_invalid
    rw [id.validated_eq, hfield]
  found c hget := findContext_of_found (h.valid hget) hget
  absent hnone hget hcreate := by
    rw [hcreate]
    exact findContext_of_absent (validated_of_missing?_none hnone) hget
  full hnone hget hcreate hfull := by
    rw [hcreate]
    exact findContext_of_full (validated_of_missing?_none hnone) hget (isFull_iff.mpr hfull)
  made hnone hget hcreate hroom := by
    have hfree : r.isFull = false := by
      rw [← Bool.not_eq_true, isFull_iff]
      omega
    rw [hcreate]
    exact made_findContext (validated_of_missing?_none hnone) hget hfree

theorem map_some_findOrCreate (r : Registry α ρ) (id : Identity)
    (onCreate : List (Conversation.Call α ρ)) :
    (r.findOrCreate id onCreate).map some = r.findContext id true onCreate := by
  let found := r.findContext id true onCreate
  have hanswer : ((r.findOrCreate id onCreate).map some).answer = found.answer := by
    simp only [Outcome.answer_map, findOrCreate, found]
    cases hfound : (r.findContext id true onCreate).answer with
    | error refusal => rfl
    | ok pair =>
      cases pair with
      | none => exact absurd hfound (findContext_ne_none onCreate)
      | some pair => rfl
  exact congrArg (fun answer => (⟨answer, found.after, found.effects⟩ : Reply α ρ _)) hanswer

theorem findContext_ne_unknown (r : Registry α ρ) (id : Identity)
    (onCreate : List (Conversation.Call α ρ)) :
    (r.findContext id true onCreate).answer ≠ .error .unknownContext := by
  unfold findContext
  split
  · next refusal hid =>
    obtain ⟨field, _, rfl⟩ := List.mem_map.mp (Identity.refusal_of_invalid hid)
    exact fun h => nomatch h
  · split
    · exact fun h => nomatch h
    · rw [Bool.not_true, if_neg Bool.false_ne_true]
      split <;> exact fun h => nomatch h

-- A look that cannot create is a search that may not.
theorem find?_eq_findContext (r : Registry α ρ) (id : Identity)
    (onCreate : List (Conversation.Call α ρ)) :
    r.find? id = (r.findContext id false onCreate).answer.map fun found => found.map (·.1) := by
  cases hid : id.validated with
  | error refusal =>
    rw [findContext_of_invalid hid, find?, hid]
    rfl
  | ok valid =>
    obtain rfl := ((id.validated_eq_ok_iff valid).mp hid).1
    rw [find?_eq_ok_iff.mpr ⟨hid, rfl⟩]
    cases hget : r.get? id with
    | some c =>
      rw [findContext_of_found hid hget]
      rfl
    | none =>
      rw [findContext_of_absent hid hget]
      rfl

-- What a look hands out for changing is what it hands out for reading.
theorem answer_onContext_self (r : Registry α ρ) (id : Identity) :
    (r.onContext id fun c => (.done c c [] : Conversation.Reply α ρ (Conversation α ρ))).answer =
      r.find? id := by
  unfold onContext
  split
  · next refusal hrefused => rw [hrefused]; rfl
  · next hnone => rw [hnone]; rfl
  · next c hfound => rw [hfound]; rfl

-- A search says of a conversation that it was there exactly if it was.
theorem Grown.get?_iff_findContext (h : Grown config r) (create : Bool)
    (onCreate : List (Conversation.Call α ρ)) (c : Conversation α ρ) :
    r.get? id = some c ↔ (r.findContext id create onCreate).answer = .ok (some (c, false)) := by
  constructor
  · intro hget
    rw [(h.searched id create onCreate).found c hget]
    rfl
  · unfold findContext
    split
    · exact fun hfound => nomatch hfound
    · next valid hid =>
      obtain rfl := ((id.validated_eq_ok_iff valid).mp hid).1
      split
      · next d hget =>
        intro hfound
        cases hfound
        exact hget
      · -- what was not there is not found, and what is made is said to be new
        split
        · exact fun hfound => nomatch hfound
        · split <;> exact fun hfound => nomatch hfound

-- In every registry, whatever stood under the identity before: a search comes to what is said
-- above, whether it may create or must; and whoever looks without creating sees what a search
-- finds.
theorem search_settled (config : Config) (calls : List (Call α ρ)) (id : Identity) :
    let r : Registry α ρ := ((empty config).performAll calls).after
    r.config = config ∧
    (∀ create onCreate, Searched r id create onCreate (r.findContext id create onCreate)) ∧
    (∀ onCreate, (r.findOrCreate id onCreate).map some = r.findContext id true onCreate ∧
      (r.findOrCreate id onCreate).answer ≠ .error .unknownContext) ∧
    (∀ create onCreate c, r.get? id = some c ↔
      (r.findContext id create onCreate).answer = .ok (some (c, false))) ∧
    (∀ onCreate, r.find? id =
      (r.findContext id false onCreate).answer.map fun found => found.map (·.1)) ∧
    (r.onContext id fun c => (.done c c [] : Conversation.Reply α ρ (Conversation α ρ))).answer =
      r.find? id := by
  intro r
  have hgrown : Grown config r := grown_performAll config calls
  refine ⟨hgrown.config_eq, hgrown.searched id, fun onCreate => ⟨?_, ?_⟩,
    hgrown.get?_iff_findContext, r.find?_eq_findContext id, r.answer_onContext_self id⟩
  · exact r.map_some_findOrCreate id onCreate
  · intro hunknown
    apply r.findContext_ne_unknown id onCreate
    rw [← map_some_findOrCreate, Outcome.answer_map, hunknown]
    rfl

section Reunion

open Sample (alice bob older)

-- With room for one: Alice was known with a fingerprint and at a later generation, and was
-- forgotten.
def reunion : List (Call Nat Unit) :=
  [.findOrCreate alice [.addFingerprint older, .bumpGeneration], .forget alice]

theorem search_settled_reunion :
    let before : Registry Nat Unit := ((empty { maxContexts := 1 }).performAll reunion).after
    let after : Registry Nat Unit := ((empty { maxContexts := 1 }).performAll
      (reunion ++ [.findOrCreate alice [.bumpGeneration]])).after
    let made := (Conversation.fresh alice .production).performAll [.bumpGeneration]
    (before.findContext alice true [.bumpGeneration]).answer =
      .ok (some (made.after, true)) ∧
    (before.findContext alice false [.bumpGeneration]) = .done before none [] ∧
    (∃ c, after.get? alice = some c ∧
      after.findContext alice true [.bumpGeneration] = .done after (some (c, false)) []) ∧
    after.findContext bob true [.bumpGeneration] = .refused .registryFull after [] ∧
    after.findContext ⟨"bob", "", ""⟩ true [] =
      .refused (.missingField "accountname") after [] := by
  intro before after made
  obtain ⟨_, hbefore, _⟩ := search_settled { maxContexts := 1 } reunion alice
  have hafter := search_settled { maxContexts := 1 }
    (reunion ++ [.findOrCreate alice [.bumpGeneration]])
  have habsent : before.get? alice = none := by
    rw [← Option.isNone_iff_eq_none]
    decide +kernel
  have hthere : (after.get? alice).isSome = true := by decide +kernel
  have hother : after.get? bob = none := by
    rw [← Option.isNone_iff_eq_none]
    decide +kernel
  obtain ⟨c, hget⟩ := Option.isSome_iff_exists.mp hthere
  have hroom : before.size < before.config.maxContexts := by decide +kernel
  have hfull : after.config.maxContexts ≤ after.size := by decide +kernel
  have hmade := (hbefore true [.bumpGeneration]).made rfl habsent rfl hroom
  refine ⟨?_, (hbefore false _).absent rfl habsent rfl, ⟨c, hget, ?_⟩, ?_, ?_⟩
  · rw [hmade.reply]
    rfl
  · exact ((hafter alice).2.1 true _).found c hget
  · exact ((hafter bob).2.1 true _).full rfl hother rfl hfull
  · exact ((hafter ⟨"bob", "", ""⟩).2.1 true []).invalid "accountname" rfl

end Reunion

end Parley.Registry
