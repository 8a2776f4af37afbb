import Mathlib.Order.Defs.Unbundled
import Parley.Identity

/-!
The order of identities spelled out. Main statements: one identity stands before another exactly if
its first different field has the lesser UTF-8 bytes, and this is a strict total order; and an
identity is refused for its first missing field and for nothing else.
-/

namespace Parley.Identity

-- A field counts only if the fields before it are equal.
def Precedes (a b : Identity) : Prop :=
  utf8 a.username < utf8 b.username ∨
    a.username = b.username ∧
      (utf8 a.accountname < utf8 b.accountname ∨
        a.accountname = b.accountname ∧ utf8 a.protocol < utf8 b.protocol)

theorem compare_bytes_eq_lt_iff {a b : List UInt8} : compare a b = .lt ↔ a < b := by
  induction a generalizing b with
  | nil =>
    cases b with
    | nil => simp
    | cons y ys => simp
  | cons x xs ih =>
    cases b with
    | nil => simp
    | cons y ys =>
      rw [List.compare_cons_cons, Ordering.then_eq_lt, Std.compare_eq_lt,
        Std.LawfulEqOrd.compare_eq_iff_eq, ih, List.cons_lt_cons_iff]

theorem utf8_inj {a b : String} : utf8 a = utf8 b ↔ a = b :=
  ⟨utf8_injective, congrArg utf8⟩

theorem compare_eq_lt_iff (a b : Identity) : compare a b = .lt ↔ a.Precedes b := by
  have hfields : compare a b = (compare (utf8 a.username) (utf8 b.username)).then
      ((compare (utf8 a.accountname) (utf8 b.accountname)).then
        (compare (utf8 a.protocol) (utf8 b.protocol))) := rfl
  rw [hfields]
  simp only [Ordering.then_eq_lt, compare_bytes_eq_lt_iff, Std.LawfulEqOrd.compare_eq_iff_eq,
    utf8_inj, Precedes]

instance : IsStrictTotalOrder Identity Precedes where
  irrefl a h := by
    rw [← compare_eq_lt_iff] at h
    simp at h
  trans a b c hab hbc := by
    rw [← compare_eq_lt_iff] at hab hbc ⊢
    exact Std.TransCmp.lt_trans hab hbc
  trichotomous a b hab hba := by
    rw [← compare_eq_lt_iff] at hab hba
    cases h : compare a b with
    | lt => exact absurd h hab
    | eq => exact eq_of_compare_eq h
    | gt => exact absurd (Std.OrientedCmp.gt_iff_lt.mp h) hba

-- The first field that holds nothing.
def missing? (id : Identity) : Option String :=
  let fields := [("username", id.username), ("accountname", id.accountname),
    ("protocol", id.protocol)]
  (fields.find? fun field => field.2 = "").map (·.1)

theorem validated_eq (id : Identity) :
    id.validated = match id.missing? with
      | some field => .error (.missingField field)
      | none => .ok id := by
  unfold validated missing?
  by_cases husername : id.username = ""
  · simp [husername]
  by_cases haccountname : id.accountname = ""
  · simp [husername, haccountname]
  by_cases hprotocol : id.protocol = ""
  · simp [husername, haccountname, hprotocol]
  · simp [husername, haccountname, hprotocol]

theorem refusal_of_invalid {id : Identity} {refusal : Refusal}
    (hid : id.validated = .error refusal) :
    refusal ∈ ["username", "accountname", "protocol"].map Refusal.missingField := by
  unfold validated at hid
  split at hid
  · cases hid
    decide
  · split at hid
    · cases hid
      decide
    · split at hid
      · cases hid
        decide
      · cases hid

theorem isPrecondition_of_invalid {id : Identity} {refusal : Refusal}
    (hid : id.validated = .error refusal) : refusal.isPrecondition = false := by
  obtain ⟨field, _, rfl⟩ := List.mem_map.mp (refusal_of_invalid hid)
  rfl

end Parley.Identity
