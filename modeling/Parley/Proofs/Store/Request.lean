import Parley.Proofs.Registry.Creation
import Parley.Proofs.Registry.Reachable
import Parley.Proofs.Registry.Subject
import Parley.Store.Call

/-!
What a store asks of its registry. Main statements: a call makes one request at most, and answers
it in one of four ways, by the answer of the registry alone; and a run of calls leaves the registry
that their requests leave.
-/

namespace Parley

namespace Registry

variable {α ρ : Type} (r : Registry α ρ)

-- Nothing stands under an identity that is not valid.
theorem Grown.get?_of_invalid {config : Config} {r : Registry α ρ} (h : Grown config r)
    {id : Identity} {refusal : Refusal} (hid : id.validated = .error refusal) :
    r.get? id = none := by
  cases hget : r.get? id with
  | none => rfl
  | some c => cases hid.symm.trans (h.valid hget)

-- That there is no conversation to be asked is a refusal too.
def Answer.present : Answer α ρ → Except Refusal (Answer α ρ)
  | .context none => .error .unknownContext
  | answer => .ok answer

-- The answer to a request as a host gets it: the identity is looked at first.
def settled (request : Call α ρ) : Except Refusal (Answer α ρ) :=
  match request.subject?.map Identity.validated with
  | some (.error refusal) => .error refusal
  | _ => (r.perform request).answer.bind Answer.present

variable {r} {request : Call α ρ} {id : Identity}

theorem settled_of_invalid (hsubject : request.subject? = some id) {refusal : Refusal}
    (hid : id.validated = .error refusal) : r.settled request = .error refusal := by
  simp [settled, hsubject, hid]

theorem settled_of_valid (hsubject : request.subject? = some id) (hid : id.validated = .ok id) :
    r.settled request = (r.perform request).answer.bind Answer.present := by
  simp [settled, hsubject, hid]

end Registry

namespace Store

open Registry (Grown settled)

-- The bytes in a call that should be a fingerprint.
def Call.bytes? : Call → Option (Array UInt8)
  | .addFingerprint _ bytes | .setTrust _ bytes _ | .getTrust _ bytes
  | .forgetFingerprint _ bytes _ => some bytes
  | _ => none

-- What is wrong with them.
def Call.readError? (call : Call) : Option Fingerprint.ReadError :=
  call.bytes?.bind fun bytes =>
    match Fingerprint.ofBytes bytes with
    | .ok _ => none
    | .error error => some error

-- What a call asks of the registry; one that only looks asks nothing, and neither does one whose
-- fingerprint cannot be read.
def Call.request? : Call → Option (Registry.Call Unit Empty)
  | .findContext id create => some (.findContext id create [])
  | .addFingerprint id bytes =>
    (Fingerprint.ofBytes bytes).toOption.map fun f => .onContext id (.addFingerprint f)
  | .setTrust id bytes label =>
    (Fingerprint.ofBytes bytes).toOption.map fun f => .onContext id (.setTrust f label)
  | .setPresharedSecret id secret => some (.onContext id (.setPresharedSecret secret))
  | .forceSetup id => some (.onContext id .forceSetup)
  | .forceDisconnect id => some (.onContext id .forceDisconnect)
  | .forgetFingerprint id bytes cascade =>
    (Fingerprint.ofBytes bytes).toOption.map fun f => .forgetFingerprint id (.entry f) cascade
  | .forgetContext id => some (.forget id)
  | .forgetAll => some .forgetAll
  | .contextCount | .contextState _ | .listFingerprints _ | .getTrust _ _ => none

-- The name under which a call tells its refusals to the console, if it does.
def Call.reports? : Call → Option String
  | .setTrust _ _ _ => some "setTrust"
  | .setPresharedSecret _ _ => some "setPresharedSecret"
  | .forceSetup _ => some "forceSetup"
  | .forceDisconnect _ => some "forceDisconnect"
  | .forgetFingerprint _ _ _ => some "forgetFingerprint"
  | .forgetContext _ => some "forgetContext"
  | _ => none

-- What a host is told of an answer: whether something is new, known or gone.
def Call.told : Call → Registry.Answer Unit Empty → Answer
  | .forgetAll, _ => .done
  | _, .found (some (_, created)) => .flag created
  | _, .found none => .flag false
  | _, .context (some (.entry _ created)) => .flag created
  | _, .context (some (.known known)) => .flag known
  | _, .removed what => .flag (what ≠ .nothing)
  | _, _ => .flag true

-- What a call that only looks sees.
def view (s : Store) : Call → Answer
  | .contextCount => .count s.contextCount
  | .contextState id => .state (s.contextState id)
  | .listFingerprints id => .texts (s.listFingerprints id)
  | .getTrust id bytes =>
    .label (do (← (← s.context? id).known.get? (← (Fingerprint.ofBytes bytes).toOption)).trust)
  | _ => .done

-- The line that the console gets of a refusal.
def complaint (method : String) (refusal : Refusal) : String :=
  "[WASM] " ++ method ++ " failed: " ++ refusal.message

-- A call answered by the registry alone: what cannot be read is thrown; a request is passed on, and
-- a refusal thrown or told to the console.
def respond (s : Store) (call : Call) : Reply Answer :=
  match call.readError?, call.request? with
  | some error, _ => .refused error.message s []
  | none, none => .done s (s.view call) []
  | none, some request =>
    let after : Store := ⟨(s.registry.perform request).after⟩
    match s.registry.settled request, call.reports? with
    | .ok answer, _ => .done after (call.told answer) []
    | .error refusal, some method => .done after (.flag false) [complaint method refusal]
    | .error refusal, none => .refused refusal.message after []

variable {s : Store} {call : Call} {β : Type}

-- A reply of the registry that does what was requested and answers as it is to be seen.
structure Settles (r : Registry Unit Empty) (request : Registry.Call Unit Empty)
    (reply : Registry.Reply Unit Empty β) (answer : β → Registry.Answer Unit Empty) : Prop where
  after : reply.after = (r.perform request).after
  answer : reply.answer.map answer = r.settled request

-- The conversation of an identity that is asked, in each of the cases.
section Asking

variable {id : Identity} {act : Conversation Unit Empty → Conversation.Reply Unit Empty β}

theorem onContext_of_invalid {refusal : Refusal} (hid : id.validated = .error refusal) :
    s.onContext id act = .refused refusal s.registry [] := by
  simp [onContext, Registry.onContext, Registry.find?, hid, Except.map, Except.bind,
    Outcome.refused]

theorem onContext_of_absent (hid : id.validated = .ok id) (hget : s.registry.get? id = none) :
    s.onContext id act = .refused .unknownContext s.registry [] := by
  simp [onContext, Registry.onContext, Registry.find?, hid, hget, Except.map, Except.bind,
    Outcome.refused, Outcome.done]

theorem onContext_of_found (hid : id.validated = .ok id) {c : Conversation Unit Empty}
    (hget : s.registry.get? id = some c) :
    s.onContext id act = (act c).within (s.registry.put id) := by
  rw [onContext, Registry.onContext_of_found hid hget]
  cases hanswer : (act c).answer <;> simp [hanswer, Outcome.within, Except.map, Except.bind]

theorem onIdentity_of_invalid {next : Identity → Registry.Reply Unit Empty β} {refusal : Refusal}
    (hid : id.validated = .error refusal) :
    s.onIdentity id next = .refused refusal s.registry [] := by
  simp [onIdentity, hid]

theorem onIdentity_of_valid {next : Identity → Registry.Reply Unit Empty β}
    (hid : id.validated = .ok id) : s.onIdentity id next = next id := by
  simp [onIdentity, hid]

end Asking

section Settling

variable {id : Identity}

theorem settles_findContext (s : Store) (create : Bool) :
    Settles s.registry (.findContext id create []) (s.registry.findContext id create [])
      .found where
  after := rfl
  answer := by
    cases hid : id.validated with
    | error refusal =>
      rw [Registry.settled_of_invalid rfl hid, Registry.findContext_of_invalid hid]
      rfl
    | ok valid =>
      obtain rfl := ((id.validated_eq_ok_iff valid).mp hid).1
      rw [Registry.settled_of_valid rfl hid, Registry.perform, Outcome.answer_map]
      cases (s.registry.findContext id create []).answer <;> rfl

theorem settles_onContext (s : Store) {asked : Conversation.Call Unit Empty}
    {act : Conversation Unit Empty → Conversation.Reply Unit Empty β}
    {answer : β → Conversation.Answer Unit} (hact : ∀ c, c.perform asked = (act c).map answer) :
    Settles s.registry (.onContext id asked) (s.onContext id act)
      fun value => .context (some (answer value)) := by
  have hperform : s.registry.perform (.onContext id asked) =
      (s.registry.onContext id (·.perform asked)).map .context := rfl
  cases hid : id.validated with
  | error refusal =>
    have hrefused : s.registry.onContext id (·.perform asked) = .refused refusal s.registry [] := by
      simp [Registry.onContext, Registry.find?, hid, Except.map]
    rw [onContext_of_invalid hid]
    refine { after := ?_, answer := ?_ }
    · rw [hperform, hrefused]
      rfl
    · rw [Registry.settled_of_invalid rfl hid]
      rfl
  | ok valid =>
    obtain rfl := ((id.validated_eq_ok_iff valid).mp hid).1
    cases hget : s.registry.get? id with
    | none =>
      have habsent : s.registry.onContext id (·.perform asked) = .done s.registry none [] := by
        simp [Registry.onContext, Registry.find?, hid, hget, Except.map]
      rw [onContext_of_absent hid hget]
      refine { after := ?_, answer := ?_ }
      · rw [hperform, habsent]
        rfl
      · rw [Registry.settled_of_valid rfl hid, hperform, habsent]
        rfl
    | some c =>
      have hfound := Registry.onContext_of_found hid hget (·.perform asked)
      rw [onContext_of_found hid hget]
      refine { after := ?_, answer := ?_ }
      · rw [hperform, hfound, hact]
        rfl
      · rw [Registry.settled_of_valid rfl hid, hperform, hfound, hact]
        cases hanswer : (act c).answer with
        | error refusal => simp [hanswer, Except.map, Except.bind]
        | ok value =>
          simp [hanswer, Except.map, Except.bind]
          rfl

-- Under an identity that is not valid nothing stands, so that nothing is taken out.
theorem settles_onIdentity {request : Registry.Call Unit Empty}
    {next : Identity → Registry.Reply Unit Empty β} {answer : β → Registry.Answer Unit Empty}
    (hsubject : request.subject? = some id)
    (habsent : ∀ refusal, id.validated = .error refusal →
      (s.registry.perform request).after = s.registry)
    (hnext : s.registry.perform request = (next id).map answer)
    (hpresent : ∀ value, (answer value).present = .ok (answer value)) :
    Settles s.registry request (s.onIdentity id next) answer := by
  cases hid : id.validated with
  | error refusal =>
    rw [onIdentity_of_invalid hid]
    refine { after := (habsent refusal hid).symm, answer := ?_ }
    rw [Registry.settled_of_invalid hsubject hid]
    rfl
  | ok valid =>
    obtain rfl := ((id.validated_eq_ok_iff valid).mp hid).1
    rw [onIdentity_of_valid hid]
    refine { after := by rw [hnext, Outcome.after_map], answer := ?_ }
    rw [Registry.settled_of_valid hsubject hid, hnext, Outcome.answer_map]
    cases (next id).answer with
    | error refusal => rfl
    | ok value => exact (hpresent value).symm

theorem settles_forgetAll (s : Store) :
    Settles s.registry .forgetAll s.registry.forgetAll fun _ => .done where
  after := rfl
  answer := rfl

end Settling

section Responding

variable {γ : Type} {request : Registry.Call Unit Empty} {reply : Registry.Reply Unit Empty β}
  {answer : β → Registry.Answer Unit Empty}

theorem throwing_eq_respond (h : Settles s.registry request reply answer)
    (hread : call.readError? = none) (hrequest : call.request? = some request)
    (hreports : call.reports? = none) {value : β → γ} {wrap : γ → Answer}
    (htold : ∀ b, call.told (answer b) = wrap (value b)) :
    (throwing reply value).map wrap = s.respond call := by
  have hafter := h.after
  simp only [respond, hread, hrequest, hreports, ← h.answer, ← hafter, throwing]
  cases reply.answer with
  | error refusal => rfl
  | ok b => simp [Except.map, htold, Outcome.map, Outcome.done]

theorem reporting_eq_respond (h : Settles s.registry request reply answer)
    (hread : call.readError? = none) (hrequest : call.request? = some request) {method : String}
    (hreports : call.reports? = some method) {value : β → Bool}
    (htold : ∀ b, call.told (answer b) = .flag (value b)) :
    (reporting method reply value).map .flag = s.respond call := by
  have hafter := h.after
  simp only [respond, hread, hrequest, hreports, ← h.answer, ← hafter, reporting]
  cases reply.answer with
  | error refusal => rfl
  | ok b => simp [Except.map, htold, Outcome.map, Outcome.done]

-- A call on a conversation that answers nothing but that it was done.
theorem onContext_eq_respond {id : Identity} {asked : Conversation.Call Unit Empty}
    {act : Conversation Unit Empty → Conversation.Reply Unit Empty Unit}
    (hact : ∀ c, c.perform asked = (act c).map fun _ => .done) (hread : call.readError? = none)
    (hrequest : call.request? = some (.onContext id asked)) {method : String}
    (hreports : call.reports? = some method)
    (htold : call.told (.context (some .done)) = .flag true) :
    (reporting method (s.onContext id act) fun _ => true).map .flag = s.respond call :=
  reporting_eq_respond (s.settles_onContext hact) hread hrequest hreports fun _ => htold

-- Bytes that are no fingerprint are thrown whatever else the call says.
theorem withFingerprint_eq_respond {bytes : Array UInt8} {next : Fingerprint → Reply γ}
    {wrap : γ → Answer}
    (herror : ∀ error, Fingerprint.ofBytes bytes = .error error → call.readError? = some error)
    (hnext : ∀ f, Fingerprint.ofBytes bytes = .ok f → (next f).map wrap = s.respond call) :
    (s.withFingerprint bytes next).map wrap = s.respond call := by
  unfold withFingerprint
  cases hbytes : Fingerprint.ofBytes bytes with
  | error error =>
    simp only [respond, herror error hbytes]
    rfl
  | ok f => exact hnext f hbytes

variable {config : Config}

theorem perform_eq_respond (h : Grown config s.registry) (call : Call) :
    s.perform call = s.respond call := by
  cases call with
  | findContext id create =>
    refine throwing_eq_respond (s.settles_findContext create) rfl rfl rfl ?_
    rintro (_ | ⟨_, _⟩) <;> rfl
  | contextCount => rfl
  | contextState id => rfl
  | listFingerprints id => rfl
  | addFingerprint id bytes =>
    refine withFingerprint_eq_respond (fun error herror => ?_) fun f hf => ?_
    · simp [Call.readError?, Call.bytes?, herror]
    · have hsettles : Settles s.registry (.onContext id (.addFingerprint f))
          (s.onContext id (·.addFingerprint f))
          fun pair => .context (some (.entry pair.1 pair.2)) := s.settles_onContext fun _ => rfl
      refine throwing_eq_respond hsettles ?_ ?_ rfl fun _ => rfl
      · simp [Call.readError?, Call.bytes?, hf]
      · simp [Call.request?, hf, Except.toOption]
  | setTrust id bytes label =>
    refine withFingerprint_eq_respond (fun error herror => ?_) fun f hf => ?_
    · simp [Call.readError?, Call.bytes?, herror]
    · have hsettles : Settles s.registry (.onContext id (.setTrust f label))
          (s.onContext id fun c => .done (c.setTrust f label).2 (c.setTrust f label).1 [])
          fun known => .context (some (.known known)) := s.settles_onContext fun _ => rfl
      refine reporting_eq_respond hsettles ?_ ?_ rfl fun _ => rfl
      · simp [Call.readError?, Call.bytes?, hf]
      · simp [Call.request?, hf, Except.toOption]
  | getTrust id bytes =>
    refine withFingerprint_eq_respond (fun error herror => ?_) fun f hf => ?_
    · simp [Call.readError?, Call.bytes?, herror]
    · simp [respond, Call.readError?, Call.bytes?, Call.request?, view, hf, Except.toOption]
      rfl
  | setPresharedSecret id secret => exact onContext_eq_respond (fun _ => rfl) rfl rfl rfl rfl
  | forceSetup id => exact onContext_eq_respond (fun _ => rfl) rfl rfl rfl rfl
  | forceDisconnect id => exact onContext_eq_respond (fun _ => rfl) rfl rfl rfl rfl
  | forgetFingerprint id bytes cascade =>
    refine withFingerprint_eq_respond (fun error herror => ?_) fun f hf => ?_
    · simp [Call.readError?, Call.bytes?, herror]
    · have hsettles : Settles s.registry (.forgetFingerprint id (.entry f) cascade)
          (s.onIdentity id fun id => s.registry.forgetFingerprint id (.entry f) cascade)
          .removed := by
        refine settles_onIdentity rfl (fun refusal hid => ?_) rfl fun _ => rfl
        rw [Registry.perform, Registry.forgetFingerprint_of_absent (h.get?_of_invalid hid)]
        rfl
      refine reporting_eq_respond hsettles ?_ ?_ rfl fun _ => rfl
      · simp [Call.readError?, Call.bytes?, hf]
      · simp [Call.request?, hf, Except.toOption]
  | forgetContext id =>
    have hsettles : Settles s.registry (.forget id) (s.onIdentity id s.registry.forget)
        fun _ => .done := by
      refine settles_onIdentity rfl (fun refusal hid => ?_) rfl fun _ => rfl
      rw [Registry.perform, Registry.forget_of_absent (h.get?_of_invalid hid)]
      rfl
    exact reporting_eq_respond hsettles rfl rfl rfl fun _ => rfl
  | forgetAll => exact throwing_eq_respond s.settles_forgetAll rfl rfl rfl fun _ => rfl

end Responding

section Running

variable {config : Config}

theorem Call.request?_of_readError {error : Fingerprint.ReadError}
    (hread : call.readError? = some error) : call.request? = none := by
  obtain ⟨bytes, hbytes, hbad⟩ := Option.bind_eq_some_iff.mp hread
  have hnone : (Fingerprint.ofBytes bytes).toOption = none := by
    cases hof : Fingerprint.ofBytes bytes with
    | ok f => simp [hof] at hbad
    | error error => rfl
  cases call with
  | addFingerprint id bytes | setTrust id bytes label | forgetFingerprint id bytes cascade =>
    cases hbytes
    simp [Call.request?, hnone]
  | getTrust id bytes => rfl
  | _ => cases hbytes

-- One call leaves the registry as its request leaves it.
theorem registry_perform (h : Grown config s.registry) (call : Call) :
    (s.perform call).after.registry =
      call.request?.elim s.registry fun request => (s.registry.perform request).after := by
  rw [perform_eq_respond h]
  unfold respond
  split
  · next hread =>
    rw [Call.request?_of_readError hread]
    rfl
  · next hrequest =>
    rw [hrequest]
    rfl
  · next hrequest =>
    rw [hrequest]
    dsimp only
    split <;> rfl

theorem registry_performAll (h : Grown config s.registry) (calls : List Call) :
    (s.performAll calls).after.registry =
      (s.registry.performAll (calls.filterMap Call.request?)).after := by
  induction calls generalizing s with
  | nil => rfl
  | cons call calls ih =>
    have hfirst := registry_perform h call
    have hnext : Grown config (s.perform call).after.registry := by
      rw [hfirst]
      cases call.request? with
      | none => exact h
      | some request => exact h.perform request
    have hrest := ih hnext
    rw [hfirst] at hrest
    simp only [performAll, Registry.performAll, History.run] at hrest ⊢
    rw [hrest]
    cases hrequest : call.request? with
    | none => simp [hrequest]
    | some request => simp [hrequest, History.run]

-- A store that began new has a registry that began empty.
theorem registry_performAll_empty (calls : List Call) :
    (empty.performAll calls).after.registry =
      ((Registry.empty {}).performAll (calls.filterMap Call.request?)).after :=
  registry_performAll Registry.grown_empty calls

theorem grown_performAll (calls : List Call) :
    Grown {} (empty.performAll calls).after.registry := by
  rw [registry_performAll_empty]
  exact Registry.grown_performAll {} _

end Running

end Store

end Parley
