import Mathlib.Data.List.DropRight

/-! Text with the white space at both ends taken off, white space being what Unicode calls so, and text
from bytes that may not be UTF-8. -/
namespace SessionManager.Foundation

def isWhitespace (character : Char) : Bool :=
  let code := character.toNat
  9 ≤ code && code ≤ 13 || code = 0x20 || code = 0x85 || code = 0xA0 || code = 0x1680 ||
    0x2000 ≤ code && code ≤ 0x200A || code = 0x2028 || code = 0x2029 || code = 0x202F ||
    code = 0x205F || code = 0x3000

def trim (text : String) : String :=
  String.ofList ((text.toList.dropWhile isWhitespace).reverse.dropWhile isWhitespace).reverse

theorem dropWhile_rdropWhile_dropWhile {α : Type} (taken : α → Bool) (letters : List α) :
    ((letters.dropWhile taken).rdropWhile taken).dropWhile taken =
      (letters.dropWhile taken).rdropWhile taken := by
  cases rest : (letters.dropWhile taken).rdropWhile taken with
  | nil => rfl
  | cons =>
    -- what is left at the front is what stood there before the end was taken off
    obtain ⟨_, whole⟩ := List.rdropWhile_prefix _ (l := letters.dropWhile _)
    rw [rest] at whole
    have kept := List.head_dropWhile_not _ (l := _) (by rw [← whole]; exact nofun)
    simp only [← whole, List.cons_append, List.head_cons] at kept
    exact List.dropWhile_cons_of_neg (by simp [kept])

theorem trim_trim (text : String) : trim (trim text) = trim text := by
  have ends : ∀ letters : List Char, (letters.reverse.dropWhile isWhitespace).reverse =
      letters.rdropWhile isWhitespace := fun _ => rfl
  unfold trim
  rw [String.toList_ofList, ends, ends, dropWhile_rdropWhile_dropWhile, List.rdropWhile_idempotent]

/-- A character of which bytes are still missing: how many, what was read of it, and between which
bounds the next one must lie. -/
structure Begun where
  missing : Nat
  value : Nat
  low : Nat
  high : Nat

def replacement : Char := Char.ofNat 0xFFFD

/-- A first byte is a whole character, the start of one, or none. Overlong forms, surrogates and values
past the last character are cut off by the bounds on the second byte. -/
def leadByte (byte : Nat) : Char ⊕ Begun :=
  if byte < 0x80 then .inl (Char.ofNat byte)
  else if byte < 0xC2 then .inl replacement
  else if byte < 0xE0 then .inr ⟨1, byte - 0xC0, 0x80, 0xBF⟩
  else if byte < 0xF0 then
    .inr ⟨2, byte - 0xE0, if byte = 0xE0 then 0xA0 else 0x80, if byte = 0xED then 0x9F else 0xBF⟩
  else if byte < 0xF5 then
    .inr ⟨3, byte - 0xF0, if byte = 0xF0 then 0x90 else 0x80, if byte = 0xF4 then 0x8F else 0xBF⟩
  else .inl replacement

def Begun.next (begun : Begun) (byte : Nat) : Option (Char ⊕ Begun) :=
  if begun.low ≤ byte && byte ≤ begun.high then
    let value := begun.value * 64 + byte % 64
    if begun.missing = 1 then some (.inl (Char.ofNat value))
    else some (.inr ⟨begun.missing - 1, value, 0x80, 0xBF⟩)
  else none

/-- A character that breaks off is replaced as a whole, and the byte that breaks it is read anew. -/
def decodeLossy : Option Begun → List UInt8 → List Char
  | begun, [] => (begun.map fun _ => replacement).toList
  | begun, byte :: later =>
    let read := begun.bind fun begun => begun.next byte.toNat
    (if read.isNone then (begun.map fun _ => replacement).toList else []) ++
      match read.getD (leadByte byte.toNat) with
      | .inl character => character :: decodeLossy none later
      | .inr more => decodeLossy (some more) later

/-- `String::from_utf8_lossy` -/
def fromUtf8Lossy (bytes : List UInt8) : String := String.ofList (decodeLossy none bytes)

end SessionManager.Foundation
