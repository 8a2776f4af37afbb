import Parley.Fingerprint.Text
import Parley.Text.Record

/-!
The fingerprints known of one peer, each with the label of trust that the user gave it, the most
recently added first.

Entries are kept by age: every new one gets the next sequence number, and an index leads from a
fingerprint to its number, so that neither looking up nor removing walks the list.
-/

namespace Parley

-- No label means that the fingerprint was never verified; the empty text is a label.
structure KnownFingerprint where
  fingerprint : Fingerprint
  trust : Option String
deriving DecidableEq

namespace KnownFingerprint

def unverified (f : Fingerprint) : KnownFingerprint := ⟨f, none⟩

def withTrust (entry : KnownFingerprint) (label : Option String) : KnownFingerprint :=
  { entry with trust := label }

@[simp] theorem fingerprint_withTrust (entry : KnownFingerprint) (label : Option String) :
    (entry.withTrust label).fingerprint = entry.fingerprint := rfl

def diagnostic (entry : KnownFingerprint) : String :=
  Text.record "FingerprintEntry"
    [("fingerprint", entry.fingerprint.diagnostic),
      ("trust", Text.optional (entry.trust.map Text.quoted))] .whole

end KnownFingerprint

structure KnownFingerprints where
  byAge : Std.ExtTreeMap Nat KnownFingerprint
  index : Std.ExtTreeMap Fingerprint Nat
  -- Counts the entries ever made, without a bound: 64 bits hold it until 2 ^ 64 are made, and lives
  -- as long as that are out of scope here.
  nextNumber : Nat

namespace KnownFingerprints

def empty : KnownFingerprints := ⟨∅, ∅, 0⟩

def size (known : KnownFingerprints) : Nat := known.byAge.size

def isEmpty (known : KnownFingerprints) : Bool := known.byAge.isEmpty

def contains (known : KnownFingerprints) (f : Fingerprint) : Bool := known.index.contains f

def get? (known : KnownFingerprints) (f : Fingerprint) : Option KnownFingerprint := do
  let number ← known.index[f]?
  known.byAge[number]?

-- The most recently added entry.
def first? (known : KnownFingerprints) : Option KnownFingerprint := do
  let number ← known.byAge.maxKey?
  known.byAge[number]?

-- The entries, the most recently added first.
def toList (known : KnownFingerprints) : List KnownFingerprint :=
  known.byAge.foldl (fun later _ entry => entry :: later) []

-- What a search that may add leaves behind: the entry, whether it is new, and the list.
structure Found where
  entry : KnownFingerprint
  created : Bool
  known : KnownFingerprints

-- The entry under a number; if the number is free, a fingerprint without a label takes it.
def occupy (known : KnownFingerprints) (number : Nat) (f : Fingerprint) (created : Bool) : Found :=
  let entry := (known.byAge[number]?).getD (.unverified f)
  ⟨entry, created, { known with byAge := known.byAge.insertIfNew number entry }⟩

-- A fingerprint that is there stays where it is, with its label; any other comes to the front.
def findOrInsert (known : KnownFingerprints) (f : Fingerprint) : Found :=
  match known.index[f]? with
  | some number => known.occupy number f false
  | none =>
    let number := known.nextNumber
    let indexed := { known with index := known.index.insert f number, nextNumber := number + 1 }
    indexed.occupy number f true

-- Labels the entry of a fingerprint; an unknown one has none, so nothing changes.
def setTrust (known : KnownFingerprints) (f : Fingerprint) (label : Option String) :
    KnownFingerprints :=
  match known.index[f]? with
  | some number => { known with byAge := known.byAge.modify number (·.withTrust label) }
  | none => known

-- Takes out the entry of a fingerprint; the others keep their order.
def remove (known : KnownFingerprints) (f : Fingerprint) :
    Option KnownFingerprint × KnownFingerprints :=
  match known.index[f]? with
  | some number =>
    (known.byAge[number]?,
      { known with byAge := known.byAge.erase number, index := known.index.erase f })
  | none => (none, known)

-- Takes out the most recently added entry.
def popFirst (known : KnownFingerprints) : Option KnownFingerprint × KnownFingerprints :=
  match known.byAge.maxKey? with
  | some number =>
    match known.byAge[number]? with
    | some entry =>
      (some entry,
        { known with
          byAge := known.byAge.erase number
          index := known.index.erase entry.fingerprint })
    | none => (none, known)
  | none => (none, known)

-- Takes out entries from the front, at most `rounds` of them, and says which.
def popMany : Nat → KnownFingerprints → List KnownFingerprint × KnownFingerprints
  | 0, known => ([], known)
  | rounds + 1, known =>
    match known.popFirst with
    | (some entry, rest) =>
      let popped := popMany rounds rest
      (entry :: popped.1, popped.2)
    | (none, rest) => ([], rest)

-- Takes out every entry.
def drain (known : KnownFingerprints) : List KnownFingerprint × KnownFingerprints :=
  popMany known.size known

theorem toList_eq_reverse (known : KnownFingerprints) :
    known.toList = (known.byAge.toList.map (·.2)).reverse := by
  have hfold (pairs : List (Nat × KnownFingerprint)) (later : List KnownFingerprint) :
      pairs.foldl (fun later pair => pair.2 :: later) later =
        (pairs.map (·.2)).reverse ++ later := by
    induction pairs generalizing later with
    | nil => rfl
    | cons pair rest ih => simp [ih]
  rw [toList, Std.ExtTreeMap.foldl_eq_foldl_toList, hfold, List.append_nil]

@[simp] theorem length_toList (known : KnownFingerprints) : known.toList.length = known.size := by
  rw [toList_eq_reverse, List.length_reverse, List.length_map, size,
    Std.ExtTreeMap.length_toList]

end KnownFingerprints

end Parley
