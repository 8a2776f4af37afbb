import Std.Data.ExtTreeMap
import Parley.Refusal

/-!
Who a conversation is with: the name of the peer, the local account, the protocol. Main statement:
the order of identities, field by field and byte by byte, is a total order in which only equal
identities compare equal.
-/

namespace Parley

structure Identity where
  username : String
  accountname : String
  protocol : String
deriving DecidableEq

namespace Identity

-- Every field must hold something; the first that does not is named.
def validated (id : Identity) : Except Refusal Identity :=
  if id.username = "" then .error (.missingField "username")
  else if id.accountname = "" then .error (.missingField "accountname")
  else if id.protocol = "" then .error (.missingField "protocol")
  else .ok id

-- The three names joined by slashes. A name may hold a slash itself, so different identities can
-- share this text.
def display (id : Identity) : String :=
  id.username ++ "/" ++ id.accountname ++ "/" ++ id.protocol

def diagnostic (id : Identity) : String :=
  Text.record "ContextId"
    [("username", Text.quoted id.username), ("accountname", Text.quoted id.accountname),
      ("protocol", Text.quoted id.protocol)] .whole

def utf8 (text : String) : List UInt8 :=
  text.toByteArray.data.toList

theorem utf8_injective {a b : String} (h : utf8 a = utf8 b) : a = b :=
  String.toByteArray_inj.mp (ByteArray.ext (Array.toList_inj.mp h))

-- By username, then account, then protocol, each by its UTF-8 bytes.
instance : Ord Identity where
  compare := compareLex (compareOn fun id => utf8 id.username)
    (compareLex (compareOn fun id => utf8 id.accountname) (compareOn fun id => utf8 id.protocol))

instance : Std.TransOrd Identity :=
  inferInstanceAs (Std.TransCmp (compareLex (compareOn fun id : Identity => utf8 id.username) _))

theorem eq_of_compare_eq {a b : Identity} (h : compare a b = .eq) : a = b := by
  have hfields : (compare (utf8 a.username) (utf8 b.username)).then
      ((compare (utf8 a.accountname) (utf8 b.accountname)).then
        (compare (utf8 a.protocol) (utf8 b.protocol))) = .eq := h
  simp only [Ordering.then_eq_eq, Std.LawfulEqOrd.compare_eq_iff_eq] at hfields
  cases a
  cases b
  simp only [mk.injEq]
  exact ⟨utf8_injective hfields.1, utf8_injective hfields.2.1, utf8_injective hfields.2.2⟩

instance : Std.LawfulEqOrd Identity where
  eq_of_compare := eq_of_compare_eq

theorem validated_eq_ok_iff (id other : Identity) :
    id.validated = .ok other ↔
      id = other ∧ id.username ≠ "" ∧ id.accountname ≠ "" ∧ id.protocol ≠ "" := by
  unfold validated
  by_cases hu : id.username = ""
  · simp [hu]
  by_cases ha : id.accountname = ""
  · simp [hu, ha]
  by_cases hp : id.protocol = ""
  · simp [hu, ha, hp]
  · simp [hu, ha, hp]

end Identity

end Parley
