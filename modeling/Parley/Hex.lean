import Parley.Text.Quoted

/-!
Bytes as hex digits. Writing gives two upper-case digits per byte, the high half first; reading
takes digits of either case and says what is wrong with any other text. Main statement: what is
written reads back.
-/

namespace Parley.Hex

-- An odd number of digits is reported before any digit is looked at; otherwise the first byte that
-- is no digit is reported with its place.
inductive Error where
  | oddLength
  | badByte (byte : UInt8) (position : Nat)
deriving DecidableEq

-- A byte that is no digit is shown as the character with its value.
def Error.message : Error → String
  | oddLength => "Odd number of digits"
  | badByte byte position =>
    "Invalid character " ++ Text.quotedChar (Char.ofNat byte.toNat) ++ " at position "
      ++ Nat.repr position

-- Digit of a half byte.
def upperDigit (half : Nat) : Char :=
  if half < 10 then Char.ofNat (48 + half) else Char.ofNat (55 + half)

def upperPair (byte : UInt8) : List Char :=
  [upperDigit (byte.toNat / 16), upperDigit (byte.toNat % 16)]

def encodeUpper (bytes : List UInt8) : List Char :=
  bytes.flatMap upperPair

-- Value of an ASCII digit, of either case.
def digitValue? (byte : UInt8) : Option Nat :=
  let code := byte.toNat
  if 48 ≤ code ∧ code ≤ 57 then some (code - 48)
  else if 65 ≤ code ∧ code ≤ 70 then some (code - 55)
  else if 97 ≤ code ∧ code ≤ 102 then some (code - 87)
  else none

def readDigit (byte : UInt8) (position : Nat) : Except Error Nat :=
  match digitValue? byte with
  | some value => .ok value
  | none => .error (.badByte byte position)

-- Reads pairs of digits from the left; `position` counts the bytes that came before.
def readPairs (position : Nat) : List UInt8 → Except Error (List UInt8)
  | high :: low :: rest => do
    let h ← readDigit high position
    let l ← readDigit low (position + 1)
    let bytes ← readPairs (position + 2) rest
    return UInt8.ofNat (16 * h + l) :: bytes
  | _ => .ok []

def decode (digits : List UInt8) : Except Error (List UInt8) :=
  if digits.length % 2 = 1 then .error .oddLength else readPairs 0 digits

theorem digitValue?_upperDigit (half : Nat) (h : half < 16) :
    digitValue? (UInt8.ofNat (upperDigit half).toNat) = some half := by
  revert half
  decide

private theorem readDigit_upperDigit (half position : Nat) (h : half < 16) :
    readDigit (UInt8.ofNat (upperDigit half).toNat) position = .ok half := by
  simp [readDigit, digitValue?_upperDigit half h]

theorem encodeUpper_length (bytes : List UInt8) :
    (encodeUpper bytes).length = 2 * bytes.length := by
  induction bytes with
  | nil => rfl
  | cons byte rest ih =>
    rw [encodeUpper, List.flatMap_cons, List.length_append]
    have : (rest.flatMap upperPair).length = 2 * rest.length := ih
    simp only [upperPair, List.length_cons, List.length_nil]
    omega

-- The two halves of a byte give it back.
private theorem ofNat_halves (byte : UInt8) :
    UInt8.ofNat (16 * (byte.toNat / 16) + byte.toNat % 16) = byte := by
  rw [Nat.div_add_mod]
  exact UInt8.ofNat_toNat

private theorem readPairs_encodeUpper (position : Nat) (bytes : List UInt8) :
    readPairs position ((encodeUpper bytes).map fun c => UInt8.ofNat c.toNat) = .ok bytes := by
  induction bytes generalizing position with
  | nil => rfl
  | cons byte rest ih =>
    have hhigh : byte.toNat / 16 < 16 := by have := byte.toNat_lt; omega
    have hlow : byte.toNat % 16 < 16 := by omega
    have hrest := ih (position + 2)
    simp only [encodeUpper] at hrest
    simp only [encodeUpper, List.flatMap_cons, upperPair, List.map_cons,
      List.cons_append, List.nil_append, readPairs,
      readDigit_upperDigit _ _ hhigh, readDigit_upperDigit _ _ hlow]
    simp only [bind, Except.bind, hrest, pure, Except.pure, ofNat_halves]

theorem decode_encodeUpper (bytes : List UInt8) :
    decode ((encodeUpper bytes).map fun c => UInt8.ofNat c.toNat) = .ok bytes := by
  have heven : ¬ ((encodeUpper bytes).map fun c => UInt8.ofNat c.toNat).length % 2 = 1 := by
    rw [List.length_map, encodeUpper_length]
    omega
  rw [decode, if_neg heven, readPairs_encodeUpper]

end Parley.Hex
