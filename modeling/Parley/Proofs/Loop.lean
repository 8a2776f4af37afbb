/-!
A loop that takes something out in every round and goes on for as long as there is something to
take. Main statement: it has no two runs, so that how many rounds it makes, what it takes out and
what it leaves are settled by the value it begins with.
-/

namespace Parley

variable {σ ω : Type} {next : σ → Option (ω × σ)}

-- A run to the end, told by what it takes out, round by round, and by what is left when there is
-- nothing to take. Only the loop itself decides when it ends: no number of rounds is given.
inductive Exhausts (next : σ → Option (ω × σ)) : σ → List ω → σ → Prop where
  | stop {start : σ} (hnone : next start = none) : Exhausts next start [] start
  | round {start rest last : σ} {item : ω} {items : List ω}
    (hnext : next start = some (item, rest)) (hrest : Exhausts next rest items last) :
    Exhausts next start (item :: items) last

theorem Exhausts.unique {start last last' : σ} {items items' : List ω}
    (h : Exhausts next start items last) (h' : Exhausts next start items' last') :
    items' = items ∧ last' = last := by
  induction h generalizing items' with
  | stop hnone =>
    cases h' with
    | stop _ => exact ⟨rfl, rfl⟩
    | round hnext _ =>
      rw [hnone] at hnext
      cases hnext
  | round hnext _ ih =>
    cases h' with
    | stop hnone =>
      rw [hnext] at hnone
      cases hnone
    | round hnext' hrest' =>
      rw [hnext] at hnext'
      cases hnext'
      obtain ⟨hitems, hlast⟩ := ih hrest'
      exact ⟨congrArg _ hitems, hlast⟩

-- All that can be said of the runs of a loop, once one is known.
theorem Exhausts.iff {start last : σ} {items : List ω} (h : Exhausts next start items last)
    (items' : List ω) (last' : σ) :
    Exhausts next start items' last' ↔ items' = items ∧ last' = last := by
  constructor
  · exact h.unique
  · rintro ⟨rfl, rfl⟩
    exact h

end Parley
