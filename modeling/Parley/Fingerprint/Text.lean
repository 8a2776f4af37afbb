import Parley.Fingerprint.Basic
import Parley.Hex
import Parley.Text.Classes

/-!
Fingerprints as people read and type them: five groups of eight upper-case hex digits. Reading takes
that form and any other with the same forty digits, in either case and with blanks anywhere.
-/

namespace Parley.Fingerprint

-- The `n`-th group of eight digits, counted from zero.
def group (digits : List Char) (n : Nat) : String :=
  String.ofList ((digits.drop (8 * n)).take 8)

def display (f : Fingerprint) : String :=
  String.intercalate " " ((List.range 5).map (group (Hex.encodeUpper f.bytes.toList)))

def diagnostic (f : Fingerprint) : String :=
  "Fingerprint(" ++ f.display ++ ")"

inductive ReadError where
  | invalidLength (bytes : Nat)
  | invalidHex (error : Hex.Error)
deriving DecidableEq

def ReadError.message : ReadError → String
  | invalidLength bytes => "Invalid fingerprint length: " ++ Nat.repr bytes ++ " bytes"
  | invalidHex error => "Invalid hex: " ++ error.message

def ofBytes (bytes : Array UInt8) : Except ReadError Fingerprint :=
  if h : bytes.size = 20 then .ok ⟨⟨bytes, h⟩⟩ else .error (.invalidLength bytes.size)

-- The UTF-8 bytes of a text without its blanks.
def compact (text : String) : List UInt8 :=
  (text.toList.filter fun c => !Text.isBlank c).flatMap String.utf8EncodeChar

def read (text : String) : Except ReadError Fingerprint :=
  match Hex.decode (compact text) with
  | .error error => .error (.invalidHex error)
  | .ok bytes => ofBytes bytes.toArray

end Parley.Fingerprint
