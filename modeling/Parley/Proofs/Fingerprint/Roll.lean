import Parley.Outcome
import Parley.Proofs.Fingerprint.Numbering

/-!
The fingerprints of a peer beside a plain list of entries without repetition, the newest first. Main
statement: after any calls the two have given the same answers and show the same entries, whichever
way they are looked at.
-/

namespace Parley

namespace KnownFingerprints

-- What can be asked of the list.
inductive Call where
  | findOrInsert (f : Fingerprint)
  | remove (f : Fingerprint)
  | popFirst
  | setTrust (f : Fingerprint) (label : Option String)

inductive Answer where
  -- the entry found or made, and whether it is new
  | found (entry : KnownFingerprint) (created : Bool)
  -- the entry taken out or labelled, as it was before; nothing if there was none
  | entry (entry : Option KnownFingerprint)

def Answer.isCreation : Answer → Bool
  | found _ created => created
  | entry _ => false

-- Nothing is refused, and nothing happens outside.
abbrev Reply (σ : Type) := Outcome Empty σ Empty Answer

def perform (known : KnownFingerprints) : Call → Reply KnownFingerprints
  | .findOrInsert f =>
    let found := known.findOrInsert f
    .done found.known (.found found.entry found.created) []
  | .remove f =>
    let (entry, rest) := known.remove f
    .done rest (.entry entry) []
  | .popFirst =>
    let (entry, rest) := known.popFirst
    .done rest (.entry entry) []
  | .setTrust f label => .done (known.setTrust f label) (.entry (known.get? f)) []

-- How many of the answers tell of a new entry.
def creations (answers : List (Except Empty Answer)) : Nat :=
  answers.countP fun
    | .ok answer => answer.isCreation
    | .error impossible => nomatch impossible

end KnownFingerprints

open KnownFingerprints

abbrev Roll := List KnownFingerprint

namespace Roll

def lookup (roll : Roll) (f : Fingerprint) : Option KnownFingerprint :=
  roll.find? fun entry => entry.fingerprint = f

def perform (roll : Roll) : Call → Reply Roll
  | .findOrInsert f =>
    match roll.lookup f with
    | some entry => .done roll (.found entry false) []
    | none => .done (⟨f, none⟩ :: roll) (.found ⟨f, none⟩ true) []
  | .remove f => .done (roll.filter fun entry => entry.fingerprint ≠ f) (.entry (roll.lookup f)) []
  | .popFirst => .done roll.tail (.entry roll.head?) []
  | .setTrust f label =>
    let labelled := roll.map fun entry =>
      if entry.fingerprint = f then { entry with trust := label } else entry
    .done labelled (.entry (roll.lookup f)) []

-- Every way of looking at the fingerprints shows the roll, and no fingerprint stands in it twice.
structure Shown (roll : Roll) (known : KnownFingerprints) : Prop where
  nodup : (roll.map (·.fingerprint)).Nodup
  forward : known.toList = roll
  backward : known.byAge.toList.map (·.2) = roll.reverse
  size : known.size = roll.length
  isEmpty : known.isEmpty = roll.isEmpty
  first? : known.first? = roll.head?
  get? (f : Fingerprint) : known.get? f = roll.lookup f
  contains (f : Fingerprint) : known.contains f = true ↔ f ∈ roll.map (·.fingerprint)

theorem lookup_eq_some_iff {roll : Roll} (hnodup : (roll.map (·.fingerprint)).Nodup)
    {f : Fingerprint} {entry : KnownFingerprint} :
    roll.lookup f = some entry ↔ entry ∈ roll ∧ entry.fingerprint = f := by
  constructor
  · intro hentry
    refine ⟨List.mem_of_find?_eq_some hentry, ?_⟩
    have hholds := List.find?_some hentry
    rwa [decide_eq_true_iff] at hholds
  · rintro ⟨hmem, hf⟩
    induction roll with
    | nil => cases hmem
    | cons first rest ih =>
      obtain ⟨hfirst, hrest⟩ := List.nodup_cons.mp hnodup
      rcases List.mem_cons.mp hmem with rfl | hmem
      · simp [lookup, hf]
      · have hne : first.fingerprint ≠ f := by
          intro heq
          exact hfirst (List.mem_map.mpr ⟨entry, hmem, hf.trans heq.symm⟩)
        simpa [lookup, hne] using ih hrest hmem

end Roll

namespace KnownFingerprints

variable {known : KnownFingerprints}

theorem Numbered.get?_eq_lookup (h : known.Numbered) (f : Fingerprint) :
    known.get? f = Roll.lookup known.toList f := by
  apply Option.ext
  intro entry
  rw [h.get?_eq_some_iff, Roll.lookup_eq_some_iff h.nodup_fingerprints]

theorem Numbered.shown (h : known.Numbered) : Roll.Shown known.toList known where
  nodup := h.nodup_fingerprints
  forward := rfl
  backward := by rw [toList_eq_reverse, List.reverse_reverse]
  size := (length_toList known).symm
  isEmpty := isEmpty_toList.symm
  first? := first?_eq_head? known
  get? := h.get?_eq_lookup
  contains _ := h.contains_iff

theorem Numbered.perform (h : known.Numbered) (call : Call) :
    (known.perform call).after.Numbered := by
  cases call with
  | findOrInsert f => exact h.findOrInsert f
  | remove f => exact h.remove f
  | popFirst => exact h.popFirst
  | setTrust f label => exact h.setTrust f label

-- One call on the fingerprints is the same call on the roll.
theorem Numbered.perform_roll (h : known.Numbered) (call : Call) :
    (known.perform call).answer = (Roll.perform known.toList call).answer ∧
      (known.perform call).after.toList = (Roll.perform known.toList call).after := by
  cases call with
  | findOrInsert f =>
    simp only [Roll.perform, ← h.get?_eq_lookup]
    cases hget : known.get? f with
    | some entry =>
      simp only [KnownFingerprints.perform, findOrInsert_of_known hget]
      exact ⟨rfl, rfl⟩
    | none =>
      refine ⟨?_, h.toList_findOrInsert_of_unknown hget⟩
      simp only [KnownFingerprints.perform, h.findOrInsert_of_unknown hget]
      rfl
  | remove f =>
    refine ⟨?_, h.toList_remove f⟩
    change Except.ok (Answer.entry (known.remove f).1) = _
    rw [fst_remove, h.get?_eq_lookup]
    rfl
  | popFirst =>
    refine ⟨?_, h.toList_popFirst⟩
    change Except.ok (Answer.entry known.popFirst.1) = _
    rw [fst_popFirst h]
    rfl
  | setTrust f label =>
    refine ⟨?_, h.toList_setTrust f label⟩
    change Except.ok (Answer.entry (known.get? f)) = _
    rw [h.get?_eq_lookup]
    rfl

-- A new entry takes a number, and nothing else does.
theorem Numbered.nextNumber_perform (h : known.Numbered) (call : Call) :
    (known.perform call).after.nextNumber =
      known.nextNumber + creations [(known.perform call).answer] := by
  cases call with
  | findOrInsert f =>
    cases hget : known.get? f with
    | some entry =>
      simp only [KnownFingerprints.perform, findOrInsert_of_known hget]
      rfl
    | none =>
      simp only [KnownFingerprints.perform, h.findOrInsert_of_unknown hget]
      rfl
  | remove f => exact nextNumber_remove known f
  | popFirst => exact nextNumber_popFirst known
  | setTrust f label => exact nextNumber_setTrust known f label

theorem Numbered.nextNumber_run (h : known.Numbered) (calls : List Call) :
    (History.run KnownFingerprints.perform known calls).after.nextNumber =
      known.nextNumber + creations (History.run KnownFingerprints.perform known calls).answers := by
  induction calls generalizing known with
  | nil => rfl
  | cons call calls ih =>
    simp only [History.run]
    rw [ih (h.perform call), h.nextNumber_perform call, Nat.add_assoc, creations, creations,
      ← List.countP_append]
    rfl

-- Whatever was asked before, the fingerprints answer and look like the roll. The index and the
-- entries agree, and the next number counts the entries ever made, so that 64 bits hold it while
-- fewer than 2 ^ 64 are made.
theorem run_shows_roll (calls : List Call) :
    let made := History.run KnownFingerprints.perform empty calls
    let plain := History.run Roll.perform [] calls
    made.answers = plain.answers ∧ plain.after.Shown made.after ∧ made.after.Numbered ∧
      made.after.nextNumber = creations made.answers := by
  intro made plain
  have hkept : ∀ known call, Numbered known → (known.perform call).after.Numbered :=
    fun _ call h => h.perform call
  have hnumbered : made.after.Numbered := History.run_keeps hkept numbered_empty calls
  obtain ⟨hanswers, hafter⟩ := History.run_view toList hkept
    (fun _ call h => (h.perform_roll call).1) (fun _ call h => (h.perform_roll call).2)
    numbered_empty calls
  rw [toList_empty] at hanswers hafter
  refine ⟨hanswers, ?_, hnumbered, ?_⟩
  · rw [← hafter]
    exact hnumbered.shown
  · have hcount := numbered_empty.nextNumber_run calls
    rwa [show empty.nextNumber = 0 from rfl, Nat.zero_add] at hcount

end KnownFingerprints

end Parley
