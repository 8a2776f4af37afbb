/-!
Every call on a value is answered or refused, leaves a value behind, and may do something outside
(write a log line, run a release function). `Outcome` keeps the three together and `History` strings
outcomes along a list of calls. Main statements: a history splits where its list of calls splits,
keeps what every call keeps, of the value alone or of the past and the value together, and follows
any view that every call follows, be the calls the same or images of each other.
-/

namespace Parley

-- The answer or the reason for refusing it (`χ`), the value afterwards (`σ`), and what the call did
-- outside (`ε`), in order.
structure Outcome (χ σ ε β : Type) where
  answer : Except χ β
  after : σ
  effects : List ε

namespace Outcome

variable {χ σ τ ε β γ δ : Type}

def done (after : σ) (value : β) (effects : List ε) : Outcome χ σ ε β :=
  ⟨.ok value, after, effects⟩

def refused (reason : χ) (after : σ) (effects : List ε) : Outcome χ σ ε β :=
  ⟨.error reason, after, effects⟩

def map (f : β → γ) (o : Outcome χ σ ε β) : Outcome χ σ ε γ :=
  ⟨o.answer.map f, o.after, o.effects⟩

-- The outcome on a part, seen as an outcome on the whole that holds it.
def within (embed : σ → τ) (o : Outcome χ σ ε β) : Outcome χ τ ε β :=
  ⟨o.answer, embed o.after, o.effects⟩

variable (o : Outcome χ σ ε β) (f : β → γ) (embed : σ → τ)

@[simp] theorem answer_map : (o.map f).answer = o.answer.map f := rfl

@[simp] theorem after_map : (o.map f).after = o.after := rfl

@[simp] theorem effects_map : (o.map f).effects = o.effects := rfl

@[simp] theorem answer_within : (o.within embed).answer = o.answer := rfl

@[simp] theorem after_within : (o.within embed).after = embed o.after := rfl

@[simp] theorem effects_within : (o.within embed).effects = o.effects := rfl

theorem map_within : (o.within embed).map f = (o.map f).within embed := rfl

theorem map_map (g : γ → δ) : (o.map f).map g = o.map fun value => g (f value) := by
  obtain ⟨answer, after, effects⟩ := o
  cases answer with
  | error reason => rfl
  | ok value => rfl

end Outcome

-- What a sequence of calls leaves behind: an answer for each, the final value, and all effects in
-- order.
structure History (χ σ ε β : Type) where
  answers : List (Except χ β)
  after : σ
  effects : List ε

namespace History

variable {χ σ τ ε β γ κ ι : Type}

-- Makes the calls one after another, each on what the one before left; a refusal stops nothing.
def run (step : σ → κ → Outcome χ σ ε β) (start : σ) : List κ → History χ σ ε β
  | [] => ⟨[], start, []⟩
  | call :: calls =>
    let first := step start call
    let rest := run step first.after calls
    ⟨first.answer :: rest.answers, rest.after, first.effects ++ rest.effects⟩

variable (step : σ → κ → Outcome χ σ ε β) (start : σ)

@[simp] theorem answers_length (calls : List κ) :
    (run step start calls).answers.length = calls.length := by
  induction calls generalizing start with
  | nil => rfl
  | cons call calls ih => simp [run, ih]

theorem run_append (calls more : List κ) :
    run step start (calls ++ more) =
      let first := run step start calls
      let rest := run step first.after more
      ⟨first.answers ++ rest.answers, rest.after, first.effects ++ rest.effects⟩ := by
  induction calls generalizing start with
  | nil => rfl
  | cons call calls ih => simp [run, ih]

theorem run_concat (calls : List κ) (call : κ) :
    run step start (calls ++ [call]) =
      let before := run step start calls
      let last := step before.after call
      ⟨before.answers ++ [last.answer], last.after, before.effects ++ last.effects⟩ := by
  simp [run_append, run]

variable {step start}

-- What each of the calls keeps, a history of them keeps.
theorem run_keeps_of_mem (Kept : σ → Prop) {calls : List κ}
    (hstep : ∀ value, ∀ call ∈ calls, Kept value → Kept (step value call).after)
    (hstart : Kept start) : Kept (run step start calls).after := by
  induction calls generalizing start with
  | nil => exact hstart
  | cons call calls ih =>
    have hfirst := hstep start call List.mem_cons_self hstart
    exact ih (fun value later hlater => hstep value later (List.mem_cons_of_mem call hlater)) hfirst

-- What every call keeps, a history keeps.
theorem run_keeps {Kept : σ → Prop}
    (hstep : ∀ value call, Kept value → Kept (step value call).after) (hstart : Kept start)
    (calls : List κ) : Kept (run step start calls).after :=
  run_keeps_of_mem Kept (fun value call _ => hstep value call) hstart

-- The calls with their answers, the latest first.
def past (step : σ → κ → Outcome χ σ ε β) (start : σ) (calls : List κ) :
    List (κ × Except χ β) :=
  (calls.zip (run step start calls).answers).reverse

theorem mem_calls_of_mem_past {step : σ → κ → Outcome χ σ ε β} {start : σ} {calls : List κ}
    {entry : κ × Except χ β} (h : entry ∈ past step start calls) : entry.1 ∈ calls :=
  (List.of_mem_zip (List.mem_reverse.mp h)).1

-- What every call keeps true of the past and the value together, a history does.
theorem run_recorded (Holds : List (κ × Except χ β) → σ → Prop)
    (hstep : ∀ earlier value call, Holds earlier value →
      Holds ((call, (step value call).answer) :: earlier) (step value call).after)
    {earlier : List (κ × Except χ β)} (hearlier : Holds earlier start) (calls : List κ) :
    Holds (past step start calls ++ earlier) (run step start calls).after := by
  induction calls generalizing start earlier with
  | nil => exact hearlier
  | cons call calls ih => simpa [past, run] using ih (hstep earlier start call hearlier)

-- If a view of the value takes every call to the same call on what is seen, it takes histories to
-- histories.
theorem run_view {step' : τ → κ → Outcome χ τ ε β} {Kept : σ → Prop} (view : σ → τ)
    (hkept : ∀ value call, Kept value → Kept (step value call).after)
    (hanswer : ∀ value call, Kept value →
      (step value call).answer = (step' (view value) call).answer)
    (hafter : ∀ value call, Kept value →
      view (step value call).after = (step' (view value) call).after)
    (hstart : Kept start) (calls : List κ) :
    (run step start calls).answers = (run step' (view start) calls).answers ∧
      view (run step start calls).after = (run step' (view start) calls).after := by
  induction calls generalizing start with
  | nil => exact ⟨rfl, rfl⟩
  | cons call calls ih =>
    have hnext := ih (hkept start call hstart)
    rw [hafter start call hstart] at hnext
    simp only [run, hanswer start call hstart, hnext, and_self]

-- If the image of a call, on a view of the value, comes to what the call comes to, seen that way,
-- then the same holds of histories.
theorem run_image {step' : τ → ι → Outcome χ τ ε γ} {view : σ → τ} {image : κ → ι} {told : β → γ}
    (hstep : ∀ value call,
      step' (view value) (image call) = ((step value call).map told).within view)
    (start : σ) (calls : List κ) :
    run step' (view start) (calls.map image) =
      let seen := run step start calls
      ⟨seen.answers.map (·.map told), view seen.after, seen.effects⟩ := by
  induction calls generalizing start with
  | nil => rfl
  | cons call calls ih =>
    have hrest := ih (step start call).after
    simp only [List.map_cons, run, hstep, Outcome.answer_within, Outcome.answer_map,
      Outcome.after_within, Outcome.after_map, Outcome.effects_within, Outcome.effects_map, hrest]

end History

end Parley
