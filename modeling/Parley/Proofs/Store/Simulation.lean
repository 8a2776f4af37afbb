import Parley.Proofs.Conversation.Record
import Parley.Proofs.Registry.Atomicity
import Parley.Proofs.Registry.Representation
import Parley.Proofs.Store.Request

/-!
A store as its registry seen from outside. Main statement: whatever was asked of a store, each call
does to its registry what its request does, every refusal is told exactly once, thrown or in one
line for the console, and where a call is refused or says no, nothing has changed, but for a
preshared secret that is too long.
-/

namespace Parley

theorem Outcome.exists_of_answer_map {χ σ ε β γ : Type} {o : Outcome χ σ ε β} {f : β → γ}
    {value : γ} (h : (o.map f).answer = .ok value) : ∃ b, o.answer = .ok b ∧ f b = value := by
  rw [answer_map] at h
  cases hanswer : o.answer with
  | error refusal =>
    rw [hanswer] at h
    cases h
  | ok b =>
    rw [hanswer] at h
    exact ⟨b, rfl, Except.ok.inj h⟩

namespace Conversation

variable {α ρ : Type} {c : Conversation α ρ} {call : Call α ρ} {answer : Answer α}

-- An answer that tells of nothing new.
def Answer.isIdle : Answer α → Bool
  | .entry _ created => !created
  | .known listed => !listed
  | _ => false

-- Where there is nothing to tell, the answer is no idle one.
theorem Answer.not_idle_of_map {β : Type} {o : Reply α ρ β}
    (hanswer : (o.map fun _ => (.done : Answer α)).answer = .ok answer) :
    answer.isIdle = false := by
  obtain ⟨_, _, rfl⟩ := Outcome.exists_of_answer_map hanswer
  rfl

theorem Guarded.after_of_idle (h : c.Guarded) (hanswer : (c.perform call).answer = .ok answer)
    (hidle : answer.isIdle = true) : (c.perform call).after = c := by
  cases call with
  | addFingerprint f =>
    cases hget : c.known.get? f with
    | some entry =>
      rw [Conversation.perform, h.addFingerprint_of_known hget]
      rfl
    | none =>
      obtain ⟨handed, rfl⟩ := h.created_eq_isNone f _ answer (congrArg _ hanswer)
      rw [hget] at hidle
      cases hidle
  | setTrust f label =>
    simp only [Conversation.perform, h.setTrust_eq] at hanswer ⊢
    cases hanswer
    have hunknown : c.known.get? f = none := by simpa [Answer.isIdle] using hidle
    have hindex := h.numbered.get?_eq_none_iff.mp hunknown
    rw [KnownFingerprints.setTrust_of_index_none label hindex]
    rfl
  | forgetFingerprint _ | markConnected _ | forceSetup | forceDisconnect | setSessionKeys _ _
  | saveMacKey _ | setPresharedSecret _ | attach _ _ =>
    rw [Answer.not_idle_of_map hanswer] at hidle
    cases hidle
  | _ =>
    cases hanswer
    cases hidle

end Conversation

namespace Registry

variable {α ρ : Type} {r : Registry α ρ} {config : Config} {request : Call α ρ}
  {answer : Answer α ρ}

def Answer.isIdle : Answer α ρ → Bool
  | .found none => true
  | .found (some (_, created)) => !created
  | .context none => true
  | .context (some answer) => answer.isIdle
  | .removed what => what = .nothing
  | _ => false

theorem after_findContext_of_idle {id : Identity} {create : Bool}
    {onCreate : List (Conversation.Call α ρ)}
    {found : Option (Conversation α ρ × Bool)}
    (hanswer : (r.findContext id create onCreate).answer = .ok found)
    (hidle : (Answer.found found).isIdle = true) :
    (r.findContext id create onCreate).after = r := by
  rcases r.findContext_cases id create onCreate with ⟨_, heq⟩ | ⟨_, heq⟩ | ⟨_, _, _, heq⟩
  · rw [heq]
    rfl
  · rw [heq]
    rfl
  · rw [heq] at hanswer
    cases hanswer
    cases hidle

theorem after_forgetFingerprint_of_nothing {id : Identity} {target : Target} {cascade : Bool}
    (hanswer : (r.forgetFingerprint id target cascade).answer = .ok .nothing) :
    (r.forgetFingerprint id target cascade).after = r := by
  cases hget : r.get? id with
  | none =>
    rw [forgetFingerprint_of_absent hget]
    rfl
  | some c =>
    cases target with
    | root =>
      rw [forgetFingerprint_root hget] at hanswer ⊢
      cases cascade with
      | false => rfl
      | true =>
        obtain ⟨_, _, hcontext⟩ := Outcome.exists_of_answer_map hanswer
        cases hcontext
    | entry f =>
      cases hforgotten : (c.forgetFingerprint f).answer with
      | error refusal =>
        rw [forgetFingerprint_of_refused hget hforgotten] at hanswer
        cases hanswer
      | ok _ =>
        by_cases hcascades : Cascades cascade (c.forgetFingerprint f).after
        · rw [forgetFingerprint_of_cascades hget hforgotten hcascades] at hanswer
          cases hanswer
        · rw [forgetFingerprint_of_removed hget hforgotten hcascades] at hanswer
          cases hanswer

theorem Grown.after_of_idle (h : Grown config r) (hanswer : (r.perform request).answer = .ok answer)
    (hidle : answer.isIdle = true) : (r.perform request).after = r := by
  cases request with
  | findContext id create onCreate =>
    obtain ⟨found, hfound, rfl⟩ := Outcome.exists_of_answer_map hanswer
    exact after_findContext_of_idle hfound hidle
  | findOrCreate id onCreate =>
    obtain ⟨pair, hpair, rfl⟩ := Outcome.exists_of_answer_map hanswer
    have hfound : (r.findContext id true onCreate).answer = .ok (some pair) := by
      cases hinner : (r.findContext id true onCreate).answer with
      | error refusal => simp [findOrCreate, hinner, Except.bind] at hpair
      | ok found =>
        cases found with
        | none => simp [findOrCreate, hinner, Except.bind] at hpair
        | some other => simpa [findOrCreate, hinner, Except.bind] using hpair
    exact after_findContext_of_idle hfound hidle
  | onContext id asked =>
    obtain ⟨answer, hcontext, rfl⟩ := Outcome.exists_of_answer_map hanswer
    change (r.onContext id (·.perform asked)).after = r
    rcases r.onContext_cases id (·.perform asked) with ⟨_, heq⟩ | heq | ⟨c, hget, heq⟩
    · rw [heq]
      rfl
    · rw [heq]
      rfl
    · rw [heq] at hcontext
      obtain ⟨inner, hinner, rfl⟩ := Outcome.exists_of_answer_map hcontext
      have hsame : (c.perform asked).after = c := (h.guarded hget).after_of_idle hinner hidle
      rw [heq, Outcome.after_map, Outcome.after_within, hsame, put_of_get? hget]
  | forget id =>
    obtain ⟨_, _, rfl⟩ := Outcome.exists_of_answer_map hanswer
    cases hidle
  | forgetFingerprint id target cascade =>
    obtain ⟨what, hwhat, rfl⟩ := Outcome.exists_of_answer_map hanswer
    exact after_forgetFingerprint_of_nothing (hwhat.trans (congrArg _ (of_decide_eq_true hidle)))
  | forgetAll =>
    obtain ⟨_, _, rfl⟩ := Outcome.exists_of_answer_map hanswer
    cases hidle

theorem Grown.refused_of_invalid (h : Grown config r) {id : Identity}
    (hsubject : request.subject? = some id) {refusal : Refusal}
    (hid : id.validated = .error refusal) :
    ∃ reason, (r.perform request).answer = .error reason := by
  have habsent : r.get? id = none := h.get?_of_invalid hid
  apply Call.of_subject hsubject
  · intro create onCreate
    exact ⟨refusal, by rw [Registry.perform, findContext_of_invalid hid]; rfl⟩
  · intro onCreate
    exact ⟨refusal, by rw [Registry.perform, findOrCreate, findContext_of_invalid hid]; rfl⟩
  · intro asked
    exact ⟨refusal, by simp [Registry.perform, onContext, find?, hid, Except.map, Outcome.refused]⟩
  · exact ⟨.unknownContext, by rw [Registry.perform, forget_of_absent habsent]; rfl⟩
  · intro target cascade
    exact ⟨.unknownContext, by rw [Registry.perform, forgetFingerprint_of_absent habsent]; rfl⟩

theorem answer_of_settled (h : r.settled request = .ok answer) :
    (r.perform request).answer = .ok answer := by
  unfold settled at h
  split at h
  · cases h
  · cases hanswer : (r.perform request).answer with
    | error refusal =>
      rw [hanswer] at h
      cases h
    | ok other =>
      rw [hanswer] at h
      change other.present = .ok answer at h
      have hsame : other = answer := by
        unfold Answer.present at h
        split at h
        · cases h
        · exact Except.ok.inj h
      rw [hsame]

-- What a host gets as a refusal has changed nothing.
theorem Grown.after_of_settled_error (h : Grown config r) (hfits : ¬ r.Overlong request)
    {refusal : Refusal} (hsettled : r.settled request = .error refusal) :
    (r.perform request).after = r := by
  have hatomic := atomic_perform (fun _ _ hget => h.guarded hget) hfits
  cases hanswer : (r.perform request).answer with
  | error reason => exact (hatomic reason hanswer).1
  | ok answer =>
    unfold settled at hsettled
    split at hsettled
    · next hinvalid =>
      obtain ⟨id, hsubject, hid⟩ := Option.map_eq_some_iff.mp hinvalid
      obtain ⟨reason, hrefused⟩ := h.refused_of_invalid hsubject hid
      cases hanswer.symm.trans hrefused
    · rw [hanswer] at hsettled
      have hnone : answer = .context none := by
        cases answer with
        | context found =>
          cases found with
          | none => rfl
          | some _ => cases hsettled
        | _ => cases hsettled
      exact h.after_of_idle hanswer (by rw [hnone]; rfl)

end Registry

namespace Store

variable {s : Store} {call : Call}

-- The methods that throw a refusal of the registry.
def Call.throws : Call → Bool
  | .findContext _ _ | .addFingerprint _ _ => true
  | _ => false

-- The registry refuses what the call asks of it.
def Refuses (s : Store) (call : Call) (refusal : Refusal) : Prop :=
  ∃ request, call.request? = some request ∧ s.registry.settled request = .error refusal

-- The registry does what the call asks of it.
def Accepts (s : Store) (call : Call) (answer : Registry.Answer Unit Empty) : Prop :=
  ∃ request, call.request? = some request ∧ s.registry.settled request = .ok answer

-- The one call that changes something although it is refused.
def Overlong (s : Store) (call : Call) : Prop :=
  ∃ id c bytes, s.registry.get? id = some c ∧ call = .setPresharedSecret id (some bytes) ∧
    c.limits.maxPresharedSecretLength < bytes.size

-- The store with what the request of a call leaves of its registry.
def requested (s : Store) (call : Call) : Store :=
  ⟨call.request?.elim s.registry fun request => (s.registry.perform request).after⟩

-- Only bytes of the wrong number are no fingerprint.
theorem Call.readError?_eq_some_iff {error : Fingerprint.ReadError} :
    call.readError? = some error ↔
      ∃ bytes, call.bytes? = some bytes ∧ bytes.size ≠ 20 ∧ error = .invalidLength bytes.size := by
  rw [Call.readError?, Option.bind_eq_some_iff]
  apply exists_congr
  intro bytes
  by_cases hsize : bytes.size = 20
  · simp [Fingerprint.ofBytes, hsize]
  · simp [Fingerprint.ofBytes, hsize, eq_comm]

-- Of all that a store requests, only a preshared secret can be too long.
theorem overlong_of_request {request : Registry.Call Unit Empty}
    (hrequest : call.request? = some request) (hlong : s.registry.Overlong request) :
    s.Overlong call := by
  obtain ⟨id, c, asked, hget, rfl, bytes, rfl, hsize⟩ := hlong
  cases call with
  | setPresharedSecret id' secret =>
    cases hrequest
    exact ⟨id, c, bytes, hget, rfl, hsize⟩
  | addFingerprint _ _ | setTrust _ _ _ | forgetFingerprint _ _ _ =>
    obtain ⟨_, _, hother⟩ := Option.map_eq_some_iff.mp hrequest
    cases hother
  | _ => cases hrequest

section Refuses

variable {refusal other : Refusal}

theorem Refuses.eq (h : s.Refuses call refusal) (hother : s.Refuses call other) :
    refusal = other := by
  obtain ⟨request, hrequest, hsettled⟩ := h
  obtain ⟨request', hrequest', hsettled'⟩ := hother
  obtain rfl : request = request' := Option.some.inj (hrequest.symm.trans hrequest')
  exact Except.error.inj (hsettled.symm.trans hsettled')

theorem Refuses.exists_iff (h : s.Refuses call refusal) (Told : Refusal → Prop) :
    (∃ other, s.Refuses call other ∧ Told other) ↔ Told refusal := by
  constructor
  · rintro ⟨other, hother, htold⟩
    rwa [h.eq hother]
  · intro htold
    exact ⟨refusal, h, htold⟩

theorem Accepts.not_refuses {answer : Registry.Answer Unit Empty} (h : s.Accepts call answer) :
    ¬ s.Refuses call refusal := by
  rintro ⟨request, hrequest, hrefused⟩
  obtain ⟨request', hrequest', haccepted⟩ := h
  obtain rfl : request = request' := Option.some.inj (hrequest.symm.trans hrequest')
  cases haccepted.symm.trans hrefused

theorem not_refuses_of_request (hrequest : call.request? = none) : ¬ s.Refuses call refusal := by
  rintro ⟨request, hsome, _⟩
  cases hrequest.symm.trans hsome

-- A refusal that is not for the console is thrown; emptying the registry is never refused.
theorem Refuses.throws (h : s.Refuses call refusal) (hreports : call.reports? = none) :
    call.throws = true := by
  obtain ⟨request, hrequest, hsettled⟩ := h
  cases call with
  | findContext id create => rfl
  | addFingerprint id bytes => rfl
  | forgetAll =>
    cases hrequest
    cases hsettled
  | contextCount | contextState _ | listFingerprints _ | getTrust _ _ => cases hrequest
  | _ => cases hreports

end Refuses

theorem Call.throws_of_reports {method : String} (hreports : call.reports? = some method) :
    call.throws = false := by
  cases call with
  | findContext id create => cases hreports
  | addFingerprint id bytes => cases hreports
  | _ => rfl

-- A host is told no where nothing is new, known or gone.
theorem Call.isIdle_of_told {answer : Registry.Answer Unit Empty}
    (htold : call.told answer = .flag false) : answer.isIdle = true := by
  unfold Call.told at htold
  split at htold
  · cases htold
  · simpa [Registry.Answer.isIdle] using htold
  · rfl
  · simpa [Registry.Answer.isIdle, Conversation.Answer.isIdle] using htold
  · simpa [Registry.Answer.isIdle, Conversation.Answer.isIdle] using htold
  · simpa [Registry.Answer.isIdle] using htold
  · cases htold

section Telling

variable {config : Config} (h : Registry.Grown config s.registry)
include h

-- Bytes that are no fingerprint are thrown; a call that only looks, or whose request is accepted,
-- is answered without a word; a refusal is thrown, or told to the console.
theorem perform_cases (call : Call) :
    (∃ error, call.readError? = some error ∧ s.perform call = .refused error.message s []) ∨
    (call.readError? = none ∧ call.request? = none ∧
      s.perform call = .done s (s.view call) []) ∨
    (∃ answer, call.readError? = none ∧ s.Accepts call answer ∧
      s.perform call = .done (s.requested call) (call.told answer) []) ∨
    (∃ refusal, call.readError? = none ∧ s.Refuses call refusal ∧ call.reports? = none ∧
      s.perform call = .refused refusal.message (s.requested call) []) ∨
    (∃ refusal method, call.readError? = none ∧ s.Refuses call refusal ∧
      call.reports? = some method ∧
      s.perform call = .done (s.requested call) (.flag false) [complaint method refusal]) := by
  rw [perform_eq_respond h]
  cases hread : call.readError? with
  | some error =>
    refine Or.inl ⟨error, rfl, ?_⟩
    simp only [respond, hread]
  | none =>
    refine Or.inr ?_
    cases hrequest : call.request? with
    | none =>
      refine Or.inl ⟨rfl, rfl, ?_⟩
      simp only [respond, hread, hrequest]
    | some request =>
      have hrequested : s.requested call = ⟨(s.registry.perform request).after⟩ := by
        rw [requested, hrequest, Option.elim_some]
      refine Or.inr ?_
      cases hsettled : s.registry.settled request with
      | ok answer =>
        refine Or.inl ⟨answer, rfl, ⟨request, hrequest, hsettled⟩, ?_⟩
        simp only [respond, hread, hrequest, hsettled, hrequested]
      | error refusal =>
        have hrefuses : s.Refuses call refusal := ⟨request, hrequest, hsettled⟩
        cases hreports : call.reports? with
        | none =>
          refine Or.inr (Or.inl ⟨refusal, rfl, hrefuses, rfl, ?_⟩)
          simp only [respond, hread, hrequest, hsettled, hreports, hrequested]
        | some method =>
          refine Or.inr (Or.inr ⟨refusal, method, rfl, hrefuses, rfl, ?_⟩)
          simp only [respond, hread, hrequest, hsettled, hreports, hrequested]

theorem thrown_iff (call : Call) (text : String) : (s.perform call).answer = .error text ↔
    (∃ error, call.readError? = some error ∧ error.message = text) ∨
      call.throws = true ∧ ∃ refusal, s.Refuses call refusal ∧ refusal.message = text := by
  rcases perform_cases h call with ⟨error, hread, heq⟩ | ⟨hread, hrequest, heq⟩ |
    ⟨answer, hread, haccepts, heq⟩ | ⟨refusal, hread, hrefuses, hreports, heq⟩ |
    ⟨refusal, method, hread, hrefuses, hreports, heq⟩
  · have hnone (refusal : Refusal) : ¬ s.Refuses call refusal :=
      not_refuses_of_request (Call.request?_of_readError hread)
    simp [heq, hread, hnone, Outcome.refused]
  · have hnone (refusal : Refusal) : ¬ s.Refuses call refusal := not_refuses_of_request hrequest
    simp [heq, hread, hnone, Outcome.done]
  · have hnone (refusal : Refusal) : ¬ s.Refuses call refusal := haccepts.not_refuses
    simp [heq, hread, hnone, Outcome.done]
  · have hthrows := hrefuses.throws hreports
    have hone := hrefuses.exists_iff fun other => other.message = text
    simp [heq, hread, hthrows, hone, Outcome.refused]
  · have hthrows := Call.throws_of_reports hreports
    simp [heq, hread, hthrows, Outcome.done]

theorem reported_iff (call : Call) (line : String) :
    (s.perform call).answer = .ok (.flag false) ∧ (s.perform call).effects = [line] ↔
      ∃ method refusal, call.reports? = some method ∧ s.Refuses call refusal ∧
        complaint method refusal = line := by
  rcases perform_cases h call with ⟨error, hread, heq⟩ | ⟨hread, hrequest, heq⟩ |
    ⟨answer, hread, haccepts, heq⟩ | ⟨refusal, hread, hrefuses, hreports, heq⟩ |
    ⟨refusal, method, hread, hrefuses, hreports, heq⟩
  · have hnone (refusal : Refusal) : ¬ s.Refuses call refusal :=
      not_refuses_of_request (Call.request?_of_readError hread)
    simp [heq, hnone, Outcome.refused]
  · have hnone (refusal : Refusal) : ¬ s.Refuses call refusal := not_refuses_of_request hrequest
    simp [heq, hnone, Outcome.done]
  · have hnone (refusal : Refusal) : ¬ s.Refuses call refusal := haccepts.not_refuses
    simp [heq, hnone, Outcome.done]
  · simp [heq, hreports, Outcome.refused]
  · have hone := hrefuses.exists_iff fun other => complaint method other = line
    simp [heq, hreports, hone, Outcome.done]

-- Only a refusal for the console is worth a line.
theorem effects_eq_nil (call : Call)
    (hquiet : ¬ ∃ method refusal, call.reports? = some method ∧ s.Refuses call refusal) :
    (s.perform call).effects = [] := by
  rcases perform_cases h call with ⟨error, _, heq⟩ | ⟨_, _, heq⟩ | ⟨answer, _, _, heq⟩ |
    ⟨refusal, _, _, _, heq⟩ | ⟨refusal, method, _, hrefuses, hreports, heq⟩
  · rw [heq]
    rfl
  · rw [heq]
    rfl
  · rw [heq]
    rfl
  · rw [heq]
    rfl
  · exact absurd ⟨method, refusal, hreports, hrefuses⟩ hquiet

-- What is accepted is answered as the registry answers it.
theorem answer_of_accepts {answer : Registry.Answer Unit Empty} (haccepts : s.Accepts call answer) :
    (s.perform call).answer = .ok (call.told answer) := by
  obtain ⟨request, hrequest, hsettled⟩ := haccepts
  have hread : call.readError? = none := by
    cases hread : call.readError? with
    | none => rfl
    | some error => cases (Call.request?_of_readError hread).symm.trans hrequest
  rw [perform_eq_respond h]
  simp only [respond, hread, hrequest, hsettled, Outcome.done]

theorem requested_of_refuses {refusal : Refusal} (hrefuses : s.Refuses call refusal)
    (hfits : ¬ s.Overlong call) : s.requested call = s := by
  obtain ⟨request, hrequest, hsettled⟩ := hrefuses
  have hafter : (s.registry.perform request).after = s.registry :=
    h.after_of_settled_error (fun hlong => hfits (overlong_of_request hrequest hlong)) hsettled
  rw [requested, hrequest, Option.elim_some, hafter]

theorem requested_of_told_no {answer : Registry.Answer Unit Empty}
    (haccepts : s.Accepts call answer) (htold : call.told answer = .flag false) :
    s.requested call = s := by
  obtain ⟨request, hrequest, hsettled⟩ := haccepts
  have hafter : (s.registry.perform request).after = s.registry :=
    h.after_of_idle (Registry.answer_of_settled hsettled) (Call.isIdle_of_told htold)
  rw [requested, hrequest, Option.elim_some, hafter]

-- Where a host gets no more than a refusal or a no, nothing has changed.
theorem after_of_no (hfits : ¬ s.Overlong call)
    (hno : (∃ text, (s.perform call).answer = .error text) ∨
      (s.perform call).answer = .ok (.flag false)) :
    (s.perform call).after = s := by
  rcases perform_cases h call with ⟨error, _, heq⟩ | ⟨_, _, heq⟩ | ⟨answer, _, haccepts, heq⟩ |
    ⟨refusal, _, hrefuses, _, heq⟩ | ⟨refusal, method, _, hrefuses, _, heq⟩
  · rw [heq]
    rfl
  · rw [heq]
    rfl
  · have htold : call.told answer = .flag false := by
      rw [heq] at hno
      simpa [Outcome.done] using hno
    rw [heq]
    exact requested_of_told_no h haccepts htold
  · rw [heq]
    exact requested_of_refuses h hrefuses hfits
  · rw [heq]
    exact requested_of_refuses h hrefuses hfits

-- The secret that is too long takes the one before it away.
theorem perform_of_overlong {id : Identity} {c : Conversation Unit Empty} {bytes : Array UInt8}
    (hget : s.registry.get? id = some c)
    (hlong : c.limits.maxPresharedSecretLength < bytes.size) :
    s.perform (.setPresharedSecret id (some bytes)) =
      .done ⟨s.registry.put id { c with material := { c.material with presharedSecret := none } }⟩
        (.flag false) [complaint "setPresharedSecret" .presharedSecretTooLong] := by
  have hid := h.valid hget
  have hperform := Registry.perform_of_overlong hid hget hlong
  have hsettled : s.registry.settled (.onContext id (.setPresharedSecret (some bytes))) =
      .error .presharedSecretTooLong := by
    rw [Registry.settled_of_valid rfl hid, hperform]
    rfl
  rw [perform_eq_respond h]
  simp only [respond, Call.readError?, Call.bytes?, Call.request?, Call.reports?, Option.bind_none,
    hsettled, hperform, Outcome.refused]

end Telling

-- However a store came to be as it is: its registry is the one that the requests made so far leave,
-- and a further call does to it what its request does. A call throws where the bytes are not
-- twenty, before anything else is looked at, or where what is asked of the registry by finding or
-- adding is refused; it writes one line, and says no, where anything else is refused, and nothing
-- otherwise. Where it throws or says no it has changed nothing, but for the preshared secret that
-- is too long.
theorem simulates (earlier : List Call) (call : Call) :
    let s := (empty.performAll earlier).after
    s.registry = ((Registry.empty {}).performAll (earlier.filterMap Call.request?)).after ∧
    (s.perform call).after.registry =
      call.request?.elim s.registry (fun request => (s.registry.perform request).after) ∧
    (∀ bytes, call.bytes? = some bytes → bytes.size ≠ 20 →
      s.perform call =
        .refused (Fingerprint.ReadError.invalidLength bytes.size).message s []) ∧
    (∀ text, (s.perform call).answer = .error text ↔
      (∃ bytes, call.bytes? = some bytes ∧ bytes.size ≠ 20 ∧
        (Fingerprint.ReadError.invalidLength bytes.size).message = text) ∨
      call.throws = true ∧ ∃ refusal, s.Refuses call refusal ∧ refusal.message = text) ∧
    (∀ line, (s.perform call).answer = .ok (.flag false) ∧ (s.perform call).effects = [line] ↔
      ∃ method refusal, call.reports? = some method ∧ s.Refuses call refusal ∧
        complaint method refusal = line) ∧
    ((¬ ∃ method refusal, call.reports? = some method ∧ s.Refuses call refusal) →
      (s.perform call).effects = []) ∧
    (∀ answer, s.Accepts call answer → (s.perform call).answer = .ok (call.told answer)) ∧
    (¬ s.Overlong call →
      (∃ text, (s.perform call).answer = .error text) ∨
        (s.perform call).answer = .ok (.flag false) →
      (s.perform call).after = s) ∧
    (∀ id c bytes, s.registry.get? id = some c →
      Limits.production.maxPresharedSecretLength < bytes.size →
      s.perform (.setPresharedSecret id (some bytes)) =
        .done
          ⟨s.registry.put id { c with material := { c.material with presharedSecret := none } }⟩
          (.flag false) [complaint "setPresharedSecret" .presharedSecretTooLong]) := by
  intro s
  have h : Registry.Grown {} s.registry := grown_performAll earlier
  refine ⟨registry_performAll_empty earlier, registry_perform h call, fun bytes hbytes hsize => ?_,
    fun text => ?_, reported_iff h call, effects_eq_nil h call, fun _ => answer_of_accepts h,
    after_of_no h, fun id c bytes hget hlong => ?_⟩
  · have hread := Call.readError?_eq_some_iff.mpr ⟨bytes, hbytes, hsize, rfl⟩
    simp only [perform_eq_respond h, respond, hread]
  · rw [thrown_iff h call text]
    apply or_congr_left
    simp only [Call.readError?_eq_some_iff]
    constructor
    · rintro ⟨_, ⟨bytes, hbytes, hsize, rfl⟩, htext⟩
      exact ⟨bytes, hbytes, hsize, htext⟩
    · rintro ⟨bytes, hbytes, hsize, htext⟩
      exact ⟨_, ⟨bytes, hbytes, hsize, rfl⟩, htext⟩
  · refine perform_of_overlong h hget ?_
    rw [(h.reachable hget).limits_eq]
    exact hlong

section Visit

open Sample (alice bob)

-- Alice is known, and has a secret.
def visit : List Call := [.findContext alice true, .setPresharedSecret alice (some #[1])]

theorem simulates_visit :
    let s := (empty.performAll visit).after
    s.perform (.getTrust alice #[1, 2]) =
      .refused "Invalid fingerprint length: 2 bytes" s [] ∧
    (s.perform (.forgetContext bob)).answer = .ok (.flag false) ∧
    (s.perform (.forgetContext bob)).effects =
      ["[WASM] forgetContext failed: Unknown context"] ∧
    (s.perform (.forgetContext bob)).after = s ∧
    (s.perform (.forceSetup alice)).answer = .ok (.flag true) ∧
    (s.perform (.forceSetup alice)).effects = [] ∧
    ∃ c, s.registry.get? alice = some c ∧ c.material.presharedSecret = some #[1] ∧
      s.perform (.setPresharedSecret alice (some (Array.replicate 65537 0))) =
        .done
          ⟨s.registry.put alice
            { c with material := { c.material with presharedSecret := none } }⟩
          (.flag false)
          ["[WASM] setPresharedSecret failed: Resource exhausted: preshared secret too long"] := by
  intro s
  have halice : (s.registry.get? alice).map (fun c => c.material.presharedSecret) =
      some (some #[1]) := by decide +kernel
  obtain ⟨c, hget, hsecret⟩ := Option.map_eq_some_iff.mp halice
  have hbob : s.registry.get? bob = none := Option.isNone_iff_eq_none.mp (by decide +kernel)
  obtain ⟨_, _, hshort, _⟩ := simulates visit (.getTrust alice #[1, 2])
  obtain ⟨_, _, _, _, hlines, _, _, hsame, _⟩ := simulates visit (.forgetContext bob)
  obtain ⟨_, _, _, _, _, hquiet, haccepted, _, hlong⟩ := simulates visit (.forceSetup alice)
  have hrefuses : s.Refuses (.forgetContext bob) .unknownContext := by
    refine ⟨.forget bob, rfl, ?_⟩
    rw [Registry.settled_of_valid rfl (by decide), Registry.perform,
      Registry.forget_of_absent hbob]
    rfl
  have haccepts : s.Accepts (.forceSetup alice) (.context (some .done)) := by
    refine ⟨.onContext alice .forceSetup, rfl, ?_⟩
    rw [Registry.settled_of_valid rfl (by decide), Registry.perform,
      Registry.onContext_of_found (by decide) hget]
    rfl
  have hreported := (hlines _).mpr ⟨_, _, rfl, hrefuses, rfl⟩
  refine ⟨hshort _ rfl (by decide), hreported.1, hreported.2, hsame ?_ (Or.inr hreported.1),
    haccepted _ haccepts, hquiet ?_, c, hget, hsecret, hlong alice c _ hget ?_⟩
  · rintro ⟨_, _, _, _, hcall, _⟩
    cases hcall
  · rintro ⟨_, refusal, _, hrefused⟩
    exact haccepts.not_refuses hrefused
  · rw [Array.size_replicate]
    decide

end Visit

end Store

end Parley
