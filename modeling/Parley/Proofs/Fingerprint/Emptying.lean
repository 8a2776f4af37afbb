import Parley.Proofs.Fingerprint.Numbering
import Parley.Proofs.Loop

/-!
Taking the fingerprints of a peer out from the front until there is none. Main statements: this ends
after as many rounds as there are entries, gives them up the newest first, and leaves nothing under
any number and nothing in the index; a bound on the rounds that is no less makes no difference.
-/

namespace Parley.KnownFingerprints

open OrderedMap

variable {known last : KnownFingerprints} {popped : List KnownFingerprint}

-- One round: the entry that goes, and the others.
def pop? (known : KnownFingerprints) : Option (KnownFingerprint × KnownFingerprints) :=
  known.popFirst.1.map fun entry => (entry, known.popFirst.2)

-- A list without entries that goes on counting where this one stands.
def emptied (known : KnownFingerprints) : KnownFingerprints :=
  { empty with nextNumber := known.nextNumber }

-- New entries get higher numbers.
def AddedAfter (known : KnownFingerprints) (newer older : KnownFingerprint) : Prop :=
  ∃ high low : Nat, known.byAge[high]? = some newer ∧ known.byAge[low]? = some older ∧ low < high

theorem pairwise_addedAfter (known : KnownFingerprints) :
    known.toList.Pairwise known.AddedAfter := by
  rw [toList_eq_reverse, List.pairwise_reverse, List.pairwise_map]
  apply (ascending_toList known.byAge).imp_of_mem
  intro older newer holder hnewer hlt
  exact ⟨newer.1, older.1, Std.ExtTreeMap.mem_toList_iff_getElem?_eq_some.mp hnewer,
    Std.ExtTreeMap.mem_toList_iff_getElem?_eq_some.mp holder, Nat.compare_eq_lt.mp hlt⟩

-- Without entries, nothing is left in the index either.
theorem Numbered.eq_emptied (h : known.Numbered) (hlist : known.toList = []) :
    known = known.emptied := by
  have hbyAge : known.byAge = ∅ := by
    have hempty : known.isEmpty = true := by
      rw [← isEmpty_toList, hlist]
      rfl
    exact Std.ExtTreeMap.isEmpty_iff.mp hempty
  have hindex : known.index = ∅ := by
    apply Std.ExtTreeMap.ext_getElem?
    intro f
    cases hf : known.index[f]? with
    | none => simp
    | some number =>
      obtain ⟨entry, hentry, _⟩ := (h.index_iff f number).mp hf
      simp [hbyAge] at hentry
  obtain ⟨byAge, index, nextNumber⟩ := known
  obtain rfl : byAge = ∅ := hbyAge
  obtain rfl : index = ∅ := hindex
  rfl

theorem emptied_popFirst (known : KnownFingerprints) :
    known.popFirst.2.emptied = known.emptied := by
  rw [emptied, nextNumber_popFirst, emptied]

theorem Numbered.exhausts_pop? (h : known.Numbered) :
    Exhausts pop? known known.toList known.emptied := by
  induction hlist : known.toList generalizing known with
  | nil =>
    rw [← h.eq_emptied hlist]
    apply Exhausts.stop
    rw [pop?, fst_popFirst h, hlist]
    rfl
  | cons entry rest ih =>
    have hrest : known.popFirst.2.toList = rest := by
      rw [h.toList_popFirst, hlist, List.tail_cons]
    have hmore := ih h.popFirst hrest
    rw [emptied_popFirst] at hmore
    refine .round ?_ hmore
    rw [pop?, fst_popFirst h, hlist]
    rfl

theorem popFirst_of_pop?_none (hnone : known.pop? = none) : known.popFirst = (none, known) := by
  cases hmax : known.byAge.maxKey? with
  | none => simp [popFirst, hmax]
  | some number =>
    obtain ⟨entry, hentry, _⟩ := toList_eq_append_of_maxKey? hmax
    simp [pop?, popFirst, hmax, hentry] at hnone

theorem popFirst_of_pop?_some {entry : KnownFingerprint} {rest : KnownFingerprints}
    (hsome : known.pop? = some (entry, rest)) : known.popFirst = (some entry, rest) := by
  obtain ⟨first, hfirst, heq⟩ := Option.map_eq_some_iff.mp hsome
  cases heq
  rw [← hfirst]

-- A bound on the rounds does not bind if it leaves room for the whole run.
theorem popMany_of_exhausts (h : Exhausts pop? known popped last) {rounds : Nat}
    (hrounds : popped.length ≤ rounds) : popMany rounds known = (popped, last) := by
  induction h generalizing rounds with
  | stop hnone =>
    cases rounds with
    | zero => rfl
    | succ rounds => rw [popMany, popFirst_of_pop?_none hnone]
  | round hnext _ ih =>
    cases rounds with
    | zero => cases hrounds
    | succ rounds =>
      rw [popMany, popFirst_of_pop?_some hnext]
      simp only [ih (Nat.le_of_succ_le_succ hrounds)]

theorem Numbered.drain_eq (h : known.Numbered) : known.drain = (known.toList, known.emptied) :=
  popMany_of_exhausts h.exhausts_pop? (Nat.le_of_eq (length_toList known))

end Parley.KnownFingerprints
