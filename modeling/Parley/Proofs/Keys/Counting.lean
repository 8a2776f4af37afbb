import Mathlib.Algebra.Group.Nat.Defs
import Mathlib.Data.List.Range
import Parley.Keys.Session

/-!
The sending counter as a number. Main statements: the next counter is one more, and after the last
of all comes zero; so of any keys, whatever else is asked of them, the counters handed out are the
numbers that follow the one they started from, and none comes twice before all others have come.
-/

namespace Parley

namespace Counter

-- The number of digits that begin with the least significant.
def littleEndian : List UInt8 → Nat
  | [] => 0
  | byte :: higher => byte.toNat + 256 * littleEndian higher

theorem littleEndian_lt (digits : List UInt8) : littleEndian digits < 256 ^ digits.length := by
  induction digits with
  | nil => exact Nat.one_pos
  | cons byte higher ih =>
    have hbyte := byte.toNat_lt
    rw [littleEndian, List.length_cons, Nat.pow_succ]
    omega

theorem littleEndian_injective {digits other : List UInt8} (hlength : digits.length = other.length)
    (h : littleEndian digits = littleEndian other) : digits = other := by
  induction digits generalizing other with
  | nil => exact (List.length_eq_zero_iff.mp hlength.symm).symm
  | cons byte higher ih =>
    obtain ⟨byte', higher', rfl⟩ := List.exists_cons_of_length_eq_add_one hlength.symm
    have hbyte := byte.toNat_lt
    have hbyte' := byte'.toNat_lt
    simp only [littleEndian] at h
    have hsame : byte = byte' := UInt8.toNat_inj.mp (by omega)
    have hrest : higher = higher' := ih (Nat.succ.inj hlength) (by omega)
    rw [hsame, hrest]

-- A byte that wraps carries over; if all do, the number starts over.
theorem littleEndian_increment (digits : List UInt8) :
    littleEndian (increment digits) = (littleEndian digits + 1) % 256 ^ digits.length := by
  induction digits with
  | nil => rfl
  | cons byte higher ih =>
    have hbyte := byte.toNat_lt
    have hnext : (byte + 1).toNat = (byte.toNat + 1) % 256 := UInt8.toNat_add byte 1
    rw [increment, List.length_cons, Nat.pow_succ']
    by_cases hwrap : byte + 1 = 0
    · have hzero : (byte + 1).toNat = 0 := congrArg UInt8.toNat hwrap
      have hsum : littleEndian (byte :: higher) + 1 = 256 * (littleEndian higher + 1) := by
        rw [littleEndian]
        omega
      rw [if_pos hwrap, littleEndian, ih, hzero, hsum, Nat.mul_mod_mul_left, Nat.zero_add]
    · have hpos : (byte + 1).toNat ≠ 0 := fun hzero => hwrap (UInt8.toNat_inj.mp hzero)
      have hsum : littleEndian ((byte + 1) :: higher) = littleEndian (byte :: higher) + 1 := by
        rw [littleEndian, littleEndian]
        omega
      have hlt := littleEndian_lt ((byte + 1) :: higher)
      rw [List.length_cons, Nat.pow_succ'] at hlt
      rw [if_neg hwrap, hsum, Nat.mod_eq_of_lt (hsum ▸ hlt)]

-- Eight digits of eight bits.
theorem pow_eight : 256 ^ 8 = 2 ^ 64 := rfl

variable (counter : Counter)

theorem value_eq : counter.value = littleEndian counter.bytes.toList.reverse := by
  have hfold (digits : List UInt8) :
      digits.foldr (fun byte n => 256 * n + byte.toNat) 0 = littleEndian digits := by
    induction digits with
    | nil => rfl
    | cons byte higher ih => rw [List.foldr_cons, ih, littleEndian, Nat.add_comm]
  rw [value, List.foldl_eq_foldr_reverse, hfold]

theorem value_lt : counter.value < 2 ^ 64 := by
  have hlt := littleEndian_lt counter.bytes.toList.reverse
  rwa [List.length_reverse, Vector.length_toList, ← value_eq, pow_eight] at hlt

theorem eq_of_value_eq {counter other : Counter} (h : counter.value = other.value) :
    counter = other := by
  rw [value_eq, value_eq] at h
  have hdigits := littleEndian_injective (by simp) h
  have hbytes := Vector.toList_inj.mp (List.reverse_inj.mp hdigits)
  cases counter
  cases other
  exact congrArg mk hbytes

theorem value_next : counter.next.value = (counter.value + 1) % 2 ^ 64 := by
  have hdigits : counter.next.bytes.toList.reverse = increment counter.bytes.toList.reverse :=
    List.reverse_reverse _
  rw [value_eq, hdigits, littleEndian_increment, ← value_eq, List.length_reverse,
    Vector.length_toList, pow_eight]

-- The eight bytes of a number, the most significant first; what does not fit is dropped.
def ofNat (n : Nat) : Counter :=
  ⟨Vector.ofFn fun i => UInt8.ofNat (n / 256 ^ (7 - i.val))⟩

theorem littleEndian_bytes (width n : Nat) :
    littleEndian ((List.range width).map fun i => UInt8.ofNat (n / 256 ^ i)) = n % 256 ^ width := by
  induction width generalizing n with
  | zero => exact (Nat.mod_one n).symm
  | succ width ih =>
    have hshift : (fun i => UInt8.ofNat (n / 256 ^ i)) ∘ Nat.succ =
        fun i => UInt8.ofNat (n / 256 / 256 ^ i) := by
      funext i
      rw [Function.comp_apply, Nat.pow_succ', Nat.div_div_eq_div_mul]
    have hfirst : (UInt8.ofNat (n / 256 ^ 0)).toNat = n % 256 := by
      rw [Nat.pow_zero, Nat.div_one]
      exact UInt8.toNat_ofNat'
    rw [List.range_succ_eq_map, List.map_cons, List.map_map, hshift, littleEndian, ih, hfirst,
      Nat.pow_succ', Nat.mod_mul]

theorem value_ofNat (n : Nat) : (ofNat n).value = n % 2 ^ 64 := by
  have hdigits : (ofNat n).bytes.toList.reverse =
      (List.range 8).map fun i => UInt8.ofNat (n / 256 ^ i) := by
    rw [ofNat, Vector.toList_ofFn]
    rfl
  rw [value_eq, hdigits, littleEndian_bytes, pow_eight]

theorem ofNat_value : ofNat counter.value = counter := by
  apply eq_of_value_eq
  rw [value_ofNat, Nat.mod_eq_of_lt counter.value_lt]

theorem next_ofNat (n : Nat) : (ofNat n).next = ofNat (n + 1) := by
  apply eq_of_value_eq
  rw [value_next, value_ofNat, value_ofNat, Nat.mod_add_mod]

theorem zero_eq_ofNat : zero = ofNat 0 := by
  decide

theorem ofNat_eq_iff {m n : Nat} : ofNat m = ofNat n ↔ m % 2 ^ 64 = n % 2 ^ 64 := by
  constructor
  · intro h
    rw [← value_ofNat, h, value_ofNat]
  · intro h
    apply eq_of_value_eq
    rw [value_ofNat, value_ofNat, h]

end Counter

namespace SessionKeys

def Answer.counter? : Answer → Option Counter
  | counter c => some c
  | macKey _ | done => none

-- The counters that a list of calls hands out, the first first.
def counters (keys : SessionKeys) : List Call → List Counter
  | [] => []
  | call :: calls =>
    (keys.perform call).1.counter?.toList ++ (keys.perform call).2.counters calls

variable (keys : SessionKeys)

theorem sendCounter_perform_of_ne {call : Call} (hcall : call ≠ .nextSendCounter) :
    (keys.perform call).2.sendCounter = keys.sendCounter := by
  cases call with
  | nextSendCounter => exact absurd rfl hcall
  | _ => rfl

theorem counter?_perform_of_ne {call : Call} (hcall : call ≠ .nextSendCounter) :
    (keys.perform call).1.counter? = none := by
  cases call with
  | nextSendCounter => exact absurd rfl hcall
  | _ => rfl

variable {keys} {start : Nat}

-- Asking for a counter counts up and does nothing else.
theorem perform_nextSendCounter (hstart : keys.sendCounter = .ofNat start) :
    keys.perform .nextSendCounter =
      (.counter (.ofNat (start + 1)), { keys with sendCounter := .ofNat (start + 1) }) := by
  rw [← Counter.next_ofNat, ← hstart]
  rfl

-- The numbers after the one to start from, as many as were asked for.
theorem counters_eq (hstart : keys.sendCounter = .ofNat start) (calls : List Call) :
    keys.counters calls = (List.range (calls.count .nextSendCounter)).map fun n =>
      .ofNat (start + n + 1) := by
  induction calls generalizing keys start with
  | nil => rfl
  | cons call calls ih =>
    by_cases hcall : call = .nextSendCounter
    · subst hcall
      rw [counters, perform_nextSendCounter hstart, ih rfl, List.count_cons_self,
        List.range_succ_eq_map, List.map_cons, List.map_map]
      refine congrArg (_ :: ·) (List.map_congr_left fun n _ => congrArg Counter.ofNat ?_)
      omega
    · rw [counters, counter?_perform_of_ne keys hcall,
        ih ((keys.sendCounter_perform_of_ne hcall).trans hstart), List.count_cons_of_ne hcall]
      rfl

theorem eq_of_getElem?_counters (hstart : keys.sendCounter = .ofNat start) {calls : List Call}
    {n : Nat} {counter : Counter} (hn : (keys.counters calls)[n]? = some counter) :
    counter = .ofNat (start + n + 1) := by
  rw [counters_eq hstart, List.getElem?_map, Option.map_eq_some_iff] at hn
  obtain ⟨m, hm, rfl⟩ := hn
  obtain ⟨_, rfl⟩ := List.getElem?_eq_some_iff.mp hm
  rw [List.getElem_range]

-- Fewer steps than there are counters do not lead back to the same one.
theorem counters_ne {calls : List Call} {m n : Nat} {counter later : Counter}
    (hm : (keys.counters calls)[m]? = some counter) (hn : (keys.counters calls)[n]? = some later)
    (hlt : m < n) (hnear : n - m < 2 ^ 64) : counter ≠ later := by
  have hstart := (Counter.ofNat_value keys.sendCounter).symm
  rw [eq_of_getElem?_counters hstart hm, eq_of_getElem?_counters hstart hn, ne_eq,
    Counter.ofNat_eq_iff]
  omega

end SessionKeys

end Parley
