import SessionManager.Foundation.Text

/-! SHA-256 of a text, with the 32-bit words as natural numbers, so that the kernel evaluates it. -/
namespace SessionManager.Foundation

namespace Sha256

def add (a b : Nat) : Nat := (a + b) % 0x100000000

/-- The word twice, side by side, holds each of its rotations. -/
def rotr (count word : Nat) : Nat := (word * 0x100000001) >>> count % 0x100000000

def mix (i j k word : Nat) : Nat := rotr i word ^^^ rotr j word ^^^ rotr k word

def fill (i j k word : Nat) : Nat := rotr i word ^^^ rotr j word ^^^ word >>> k

def choose (e f g : Nat) : Nat := (e &&& f) ^^^ ((0xffffffff - e) &&& g)

def majority (a b c : Nat) : Nat := (a &&& b) ^^^ (a &&& c) ^^^ (b &&& c)

def initial : List Nat :=
  [0x6a09e667, 0xbb67ae85, 0x3c6ef372, 0xa54ff53a, 0x510e527f, 0x9b05688c, 0x1f83d9ab, 0x5be0cd19]

def constants : List Nat :=
  [0x428a2f98, 0x71374491, 0xb5c0fbcf, 0xe9b5dba5, 0x3956c25b, 0x59f111f1, 0x923f82a4, 0xab1c5ed5,
    0xd807aa98, 0x12835b01, 0x243185be, 0x550c7dc3, 0x72be5d74, 0x80deb1fe, 0x9bdc06a7, 0xc19bf174,
    0xe49b69c1, 0xefbe4786, 0x0fc19dc6, 0x240ca1cc, 0x2de92c6f, 0x4a7484aa, 0x5cb0a9dc, 0x76f988da,
    0x983e5152, 0xa831c66d, 0xb00327c8, 0xbf597fc7, 0xc6e00bf3, 0xd5a79147, 0x06ca6351, 0x14292967,
    0x27b70a85, 0x2e1b2138, 0x4d2c6dfc, 0x53380d13, 0x650a7354, 0x766a0abb, 0x81c2c92e, 0x92722c85,
    0xa2bfe8a1, 0xa81a664b, 0xc24b8b70, 0xc76c51a3, 0xd192e819, 0xd6990624, 0xf40e3585, 0x106aa070,
    0x19a4c116, 0x1e376c08, 0x2748774c, 0x34b0bcb5, 0x391c0cb3, 0x4ed8aa4a, 0x5b9cca4f, 0x682e6ff3,
    0x748f82ee, 0x78a5636f, 0x84c87814, 0x8cc70208, 0x90befffa, 0xa4506ceb, 0xbef9a3f7, 0xc67178f2]

/-- One round for each constant, with the sixteen words of the message schedule that come next. -/
def rounds : List Nat → List Nat → List Nat → List Nat
  | constant :: constants, [a, b, c, d, e, f, g, h],
      [w0, w1, w2, w3, w4, w5, w6, w7, w8, w9, w10, w11, w12, w13, w14, w15] =>
    let mixed := add (add (add (add h (mix 6 11 25 e)) (choose e f g)) constant) w0
    let next := add (add (add w0 (fill 7 18 3 w1)) w9) (fill 17 19 10 w14)
    rounds constants
      [add (add mixed (mix 2 13 22 a)) (majority a b c), a, b, c, add d mixed, e, f, g]
      [w1, w2, w3, w4, w5, w6, w7, w8, w9, w10, w11, w12, w13, w14, w15, next]
  | _, state, _ => state

def compress (state block : List Nat) : List Nat :=
  List.zipWith add state (rounds constants state block)

def pad (bytes : List Nat) : List Nat :=
  bytes ++ 0x80 :: List.replicate ((119 - bytes.length % 64) % 64) 0 ++
    (List.range 8).map fun place => (bytes.length * 8) >>> (56 - 8 * place) % 256

def words : List Nat → List Nat
  | a :: b :: c :: d :: rest => (((a * 256 + b) * 256 + c) * 256 + d) :: words rest
  | _ => []

def hex (word : Nat) : List Char :=
  (List.range 8).map fun place => Nat.digitChar (word >>> (28 - 4 * place) % 16)

end Sha256

open Sha256 in
def sha256Text (text : String) : String :=
  let padded := words (pad ((text.toList.flatMap String.utf8EncodeChar).map UInt8.toNat))
  let state := (List.range (padded.length / 16)).foldl
    (fun state index => compress state ((padded.drop (16 * index)).take 16)) initial
  String.ofList (state.flatMap hex)

example : sha256Text "abc" =
    "ba7816bf8f01cfea414140de5dae2223b00361a396177a9cb410ff61f20015ad" := by
  decide +kernel

end SessionManager.Foundation
