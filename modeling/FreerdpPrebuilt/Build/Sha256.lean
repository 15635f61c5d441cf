import FreerdpPrebuilt.Basic

/-!
# The hand-written SHA-256

`sha256_hex` of `build.rs`: the padding loop, the message schedule, the 64 rounds of
a block, and the digest as lower-case hexadecimal.  The arrays of the source are
lists, written in place with `List.set`.  The one loop without a counter pads the
message; `sha256_terminates` says that it ends.
-/

namespace FreerdpPrebuilt
namespace Build

/-! ## Constants -/

/-- The round constants. -/
def K : List UInt32 := [
  0x428a2f98, 0x71374491, 0xb5c0fbcf, 0xe9b5dba5, 0x3956c25b, 0x59f111f1, 0x923f82a4, 0xab1c5ed5,
  0xd807aa98, 0x12835b01, 0x243185be, 0x550c7dc3, 0x72be5d74, 0x80deb1fe, 0x9bdc06a7, 0xc19bf174,
  0xe49b69c1, 0xefbe4786, 0x0fc19dc6, 0x240ca1cc, 0x2de92c6f, 0x4a7484aa, 0x5cb0a9dc, 0x76f988da,
  0x983e5152, 0xa831c66d, 0xb00327c8, 0xbf597fc7, 0xc6e00bf3, 0xd5a79147, 0x06ca6351, 0x14292967,
  0x27b70a85, 0x2e1b2138, 0x4d2c6dfc, 0x53380d13, 0x650a7354, 0x766a0abb, 0x81c2c92e, 0x92722c85,
  0xa2bfe8a1, 0xa81a664b, 0xc24b8b70, 0xc76c51a3, 0xd192e819, 0xd6990624, 0xf40e3585, 0x106aa070,
  0x19a4c116, 0x1e376c08, 0x2748774c, 0x34b0bcb5, 0x391c0cb3, 0x4ed8aa4a, 0x5b9cca4f, 0x682e6ff3,
  0x748f82ee, 0x78a5636f, 0x84c87814, 0x8cc70208, 0x90befffa, 0xa4506ceb, 0xbef9a3f7, 0xc67178f2]

/-- The eight words a digest begins with, and the eight variables of the rounds. -/
structure Hash where
  a : UInt32
  b : UInt32
  c : UInt32
  d : UInt32
  e : UInt32
  f : UInt32
  g : UInt32
  h : UInt32
  deriving DecidableEq

def initialHash : Hash :=
  ⟨0x6a09e667, 0xbb67ae85, 0x3c6ef372, 0xa54ff53a, 0x510e527f, 0x9b05688c, 0x1f83d9ab, 0x5be0cd19⟩

/-! ## Words and bytes -/

/-- `u32::rotate_right`, by less than 32. -/
def rotateRight (word count : UInt32) : UInt32 := (word >>> count) ||| (word <<< (32 - count))

/-- `u32::from_be_bytes` of the four bytes at a position. -/
def readBe32 (bytes : Bytes) (position : ℕ) : UInt32 :=
  let byte := fun i => (bytes.getD (position + i) 0).toNat
  UInt32.ofNat (16777216 * byte 0 + 65536 * byte 1 + 256 * byte 2 + byte 3)

/-- `u64::to_be_bytes`. -/
def be64 (value : UInt64) : Bytes :=
  [56, 48, 40, 32, 24, 16, 8, 0].map fun shift => UInt8.ofNat (value.toNat >>> shift)

def hexDigit (nibble : ℕ) : Char :=
  if nibble < 10 then Char.ofNat (48 + nibble) else Char.ofNat (87 + nibble)

/-- `format!("{word:08x}")`. -/
def hex8 (word : UInt32) : List Char :=
  [28, 24, 20, 16, 12, 8, 4, 0].map fun shift => hexDigit ((word.toNat >>> shift) % 16)

/-! ## The loops -/

/-- `while msg.len() % 64 != 56 { msg.push(0) }`, for so many turns at most. -/
def padZeros : ℕ → Bytes → Option Bytes
  | 0, _ => none
  | fuel + 1, msg => if msg.length % 64 ≠ 56 then padZeros fuel (msg ++ [0]) else some msg

/-- The padded message: a 1 bit, zeros, then the length in bits. -/
def padded (bytes : Bytes) : Option Bytes :=
  (padZeros 64 (bytes ++ [0x80])).map (· ++ be64 (UInt64.ofNat bytes.length * 8))

/-- `msg.chunks_exact(64)`. -/
def blocks (msg : Bytes) : List Bytes :=
  (List.range (msg.length / 64)).map fun i => (msg.drop (64 * i)).take 64

/-- One turn of the schedule's loop. -/
def extend (w : List UInt32) (i : ℕ) : List UInt32 :=
  let at_ := fun back => w.getD (i - back) 0
  let s0 := rotateRight (at_ 15) 7 ^^^ rotateRight (at_ 15) 18 ^^^ (at_ 15 >>> 3)
  let s1 := rotateRight (at_ 2) 17 ^^^ rotateRight (at_ 2) 19 ^^^ (at_ 2 >>> 10)
  w.set i (at_ 16 + s0 + at_ 7 + s1)

/-- The message schedule `w` of a block. -/
def schedule (block : Bytes) : List UInt32 :=
  let words := (List.range 16).map fun i => readBe32 block (4 * i)
  (List.range' 16 48).foldl extend (words ++ List.replicate 48 0)

/-- One round. -/
def round (w : List UInt32) (v : Hash) (i : ℕ) : Hash :=
  let s1 := rotateRight v.e 6 ^^^ rotateRight v.e 11 ^^^ rotateRight v.e 25
  let ch := (v.e &&& v.f) ^^^ (~~~v.e &&& v.g)
  let t1 := v.h + s1 + ch + K.getD i 0 + w.getD i 0
  let s0 := rotateRight v.a 2 ^^^ rotateRight v.a 13 ^^^ rotateRight v.a 22
  let maj := (v.a &&& v.b) ^^^ (v.a &&& v.c) ^^^ (v.b &&& v.c)
  let t2 := s0 + maj
  ⟨t1 + t2, v.a, v.b, v.c, v.d + t1, v.e, v.f, v.g⟩

/-- `*slot = slot.wrapping_add(add)`, for each of the eight. -/
def Hash.add (x y : Hash) : Hash :=
  ⟨x.a + y.a, x.b + y.b, x.c + y.c, x.d + y.d, x.e + y.e, x.f + y.f, x.g + y.g, x.h + y.h⟩

/-- What a block does to the hash. -/
def compress (hash : Hash) (block : Bytes) : Hash :=
  hash.add ((List.range 64).foldl (round (schedule block)) hash)

/-- `h.iter().map(|word| format!("{word:08x}")).collect()`. -/
def Hash.hex (hash : Hash) : List Char :=
  [hash.a, hash.b, hash.c, hash.d, hash.e, hash.f, hash.g, hash.h].flatMap hex8

/-- `sha256_hex`; `none` if the padding loop had not ended. -/
def sha256Hex (bytes : Bytes) : Option (List Char) :=
  (padded bytes).map fun msg => ((blocks msg).foldl compress initialHash).hex

/-! ## Termination -/

/-- The padding loop ends within the turns that are missing. -/
theorem padZeros_eq (fuel : ℕ) (msg : Bytes) (h : (56 + 64 - msg.length % 64) % 64 < fuel) :
    padZeros fuel msg =
      some (msg ++ List.replicate ((56 + 64 - msg.length % 64) % 64) 0) := by
  induction fuel generalizing msg with
  | zero => exact absurd h (Nat.not_lt_zero _)
  | succ fuel ih =>
    rw [padZeros]
    by_cases hdone : msg.length % 64 = 56
    · rw [if_neg (not_not.2 hdone), hdone]
      exact congrArg some (List.append_nil msg).symm
    · have hlength : (msg ++ [0]).length = msg.length + 1 := List.length_append
      have hmissing : (56 + 64 - msg.length % 64) % 64 =
          (56 + 64 - (msg ++ [(0 : UInt8)]).length % 64) % 64 + 1 := by
        rw [hlength]
        omega
      rw [if_pos hdone, ih (msg ++ [0]) (by omega), hmissing, List.replicate_succ,
        List.append_assoc]
      rfl

/-- **`sha256_hex` returns**, on every input. -/
theorem sha256_terminates (bytes : Bytes) : (sha256Hex bytes).isSome = true := by
  rw [sha256Hex, padded, padZeros_eq 64 _ (Nat.mod_lt _ (by decide))]
  rfl

end Build
end FreerdpPrebuilt
