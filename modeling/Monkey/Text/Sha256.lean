/-!
# SHA-256

The SHA-256 digest of a byte sequence (FIPS 180-4): the message is padded with a one bit,
zeros and its bit length to a multiple of 64 bytes, and each 64-byte block updates eight
32-bit words by 64 rounds of the compression function. Used for the keys of strings in hashes
and for fingerprints of results.
-/

namespace Monkey

namespace Sha256

/-- The round constants: the first 32 bits of the fractional parts of the cube roots of the
first 64 primes. -/
def roundConstants : Array UInt32 := #[
    0x428a2f98, 0x71374491, 0xb5c0fbcf, 0xe9b5dba5, 0x3956c25b, 0x59f111f1,
    0x923f82a4, 0xab1c5ed5, 0xd807aa98, 0x12835b01, 0x243185be, 0x550c7dc3,
    0x72be5d74, 0x80deb1fe, 0x9bdc06a7, 0xc19bf174, 0xe49b69c1, 0xefbe4786,
    0x0fc19dc6, 0x240ca1cc, 0x2de92c6f, 0x4a7484aa, 0x5cb0a9dc, 0x76f988da,
    0x983e5152, 0xa831c66d, 0xb00327c8, 0xbf597fc7, 0xc6e00bf3, 0xd5a79147,
    0x06ca6351, 0x14292967, 0x27b70a85, 0x2e1b2138, 0x4d2c6dfc, 0x53380d13,
    0x650a7354, 0x766a0abb, 0x81c2c92e, 0x92722c85, 0xa2bfe8a1, 0xa81a664b,
    0xc24b8b70, 0xc76c51a3, 0xd192e819, 0xd6990624, 0xf40e3585, 0x106aa070,
    0x19a4c116, 0x1e376c08, 0x2748774c, 0x34b0bcb5, 0x391c0cb3, 0x4ed8aa4a,
    0x5b9cca4f, 0x682e6ff3, 0x748f82ee, 0x78a5636f, 0x84c87814, 0x8cc70208,
    0x90befffa, 0xa4506ceb, 0xbef9a3f7, 0xc67178f2]

/-- The initial words: the first 32 bits of the fractional parts of the square roots of the
first 8 primes. -/
def initial : Array UInt32 :=
  #[0x6a09e667, 0xbb67ae85, 0x3c6ef372, 0xa54ff53a, 0x510e527f, 0x9b05688c, 0x1f83d9ab, 0x5be0cd19]

/-- Rotation of a word to the right by `n` bits. -/
def rotr (x : UInt32) (n : UInt32) : UInt32 := (x >>> n) ||| (x <<< (32 - n))

/-- The word at position `i` of an array, zero outside it. -/
def at! (a : Array UInt32) (i : Nat) : UInt32 := a.getD i 0

/-- The big-endian word of four bytes. -/
def word (b0 b1 b2 b3 : UInt8) : UInt32 :=
  (b0.toUInt32 <<< 24) ||| (b1.toUInt32 <<< 16) ||| (b2.toUInt32 <<< 8) ||| b3.toUInt32

/-- The sixteen words of a block of 64 bytes. -/
def blockWords : List UInt8 → List UInt32
  | b0 :: b1 :: b2 :: b3 :: rest => word b0 b1 b2 b3 :: blockWords rest
  | _ => []

/-- The message schedule: the sixteen words of the block extended to 64. -/
def schedule (ws : List UInt32) : Array UInt32 :=
  (List.range 48).foldl (fun (w : Array UInt32) i =>
    let j := i + 16
    let w15 := at! w (j - 15)
    let w2 := at! w (j - 2)
    let s0 := rotr w15 7 ^^^ rotr w15 18 ^^^ (w15 >>> 3)
    let s1 := rotr w2 17 ^^^ rotr w2 19 ^^^ (w2 >>> 10)
    w.push (at! w (j - 16) + s0 + at! w (j - 7) + s1)) ws.toArray

/-- One round of the compression function on the working words `a … h`. -/
def round (w : Array UInt32) (v : Array UInt32) (i : Nat) : Array UInt32 :=
  let a := at! v 0; let b := at! v 1; let c := at! v 2; let d := at! v 3
  let e := at! v 4; let f := at! v 5; let g := at! v 6; let h := at! v 7
  let s1 := rotr e 6 ^^^ rotr e 11 ^^^ rotr e 25
  let ch := (e &&& f) ^^^ ((~~~e) &&& g)
  let t1 := h + s1 + ch + at! roundConstants i + at! w i
  let s0 := rotr a 2 ^^^ rotr a 13 ^^^ rotr a 22
  let maj := (a &&& b) ^^^ (a &&& c) ^^^ (b &&& c)
  let t2 := s0 + maj
  #[t1 + t2, a, b, c, d + t1, e, f, g]

/-- The state after one block. -/
def compress (state : Array UInt32) (block : List UInt8) : Array UInt32 :=
  let w := schedule (blockWords block)
  let v := (List.range 64).foldl (round w) state
  (List.range 8).toArray.map fun i => at! state i + at! v i

/-- The message padded to a multiple of 64 bytes. -/
def pad (msg : List UInt8) : List UInt8 :=
  let len := msg.length
  let zeros := (64 + 56 - (len + 1) % 64) % 64
  let bits := 8 * len
  msg ++ [0x80] ++ List.replicate zeros 0 ++
    (List.range 8).reverse.map fun i => UInt8.ofNat (bits / Nat.pow 2 (8 * i) % 256)

/-- Runs the compression over the blocks of a padded message. -/
def blocks (state : Array UInt32) (msg : List UInt8) : Array UInt32 :=
  if _h : msg.length < 64 then state
  else blocks (compress state (msg.take 64)) (msg.drop 64)
termination_by msg.length
decreasing_by simp only [List.length_drop]; omega

/-- The digest of a byte sequence: 32 bytes. -/
def digest (msg : List UInt8) : List UInt8 :=
  (blocks initial (pad msg)).toList.flatMap fun (x : UInt32) =>
    [(x >>> 24).toUInt8, (x >>> 16).toUInt8, (x >>> 8).toUInt8, x.toUInt8]

/-- The digest written as 64 lowercase hexadecimal digits. -/
def hexDigest (msg : List UInt8) : String :=
  let hexDigit := fun (n : Nat) => if n < 10 then Char.ofNat (48 + n) else Char.ofNat (87 + n)
  String.ofList ((digest msg).flatMap fun b => [hexDigit (b.toNat / 16), hexDigit (b.toNat % 16)])

end Sha256

end Monkey
