import FreerdpPrebuilt.Lib.BitString
import Mathlib.Data.Nat.ModEq
import Mathlib.Data.Nat.NthRoot.Defs
import Mathlib.Data.Nat.Prime.Defs
import Mathlib.Order.Bounds.Defs

/-!
# SHA-256 by the standard

The hash function of FIPS 180-4 on bit strings, as the standard defines it: words
of 32 bits, the constants from the roots of primes, the padding to blocks of 512
bits, the message schedule by its recurrence, and the 64 rounds of a block.

* `zeros_isLeast`: the zeros of the padding are the least number that fits.
* `pad_injective`: messages whose lengths fit in 64 bits are told apart when padded.
* `primes_eq`: the primes whose roots are taken, listed.
-/

namespace Fips180

/-! ## Words -/

abbrev Word := BitVec 32

def Ch (x y z : Word) : Word := (x &&& y) ^^^ (~~~x &&& z)

def Maj (x y z : Word) : Word := (x &&& y) ^^^ (x &&& z) ^^^ (y &&& z)

/-- `Σ₀`, of the rounds. -/
def bigSigma0 (x : Word) : Word := x.rotateRight 2 ^^^ x.rotateRight 13 ^^^ x.rotateRight 22

/-- `Σ₁`, of the rounds. -/
def bigSigma1 (x : Word) : Word := x.rotateRight 6 ^^^ x.rotateRight 11 ^^^ x.rotateRight 25

/-- `σ₀`, of the schedule. -/
def smallSigma0 (x : Word) : Word := x.rotateRight 7 ^^^ x.rotateRight 18 ^^^ x >>> 3

/-- `σ₁`, of the schedule. -/
def smallSigma1 (x : Word) : Word := x.rotateRight 17 ^^^ x.rotateRight 19 ^^^ x >>> 10

/-! ## Constants -/

/-- The first 64 primes. -/
def primes : List ℕ := (List.range 312).filter Nat.Prime

/-- The first 32 bits of the fractional part of a root. -/
def rootFraction (n p : ℕ) : Word := BitVec.ofNat 32 (Nat.nthRoot n (p * 2 ^ (32 * n)))

/-- `K`: from the cube roots of the first 64 primes. -/
def constants : List Word := primes.map (rootFraction 3)

def K (t : ℕ) : Word := constants.getD t 0

/-- The eight words of a hash value, or the eight working variables. -/
structure Work where
  a : Word
  b : Word
  c : Word
  d : Word
  e : Word
  f : Word
  g : Word
  h : Word
  deriving DecidableEq

def Work.words (v : Work) : List Word := [v.a, v.b, v.c, v.d, v.e, v.f, v.g, v.h]

theorem Work.length_words (v : Work) : v.words.length = 8 := rfl

/-- `H⁽⁰⁾`: from the square roots of the first eight primes. -/
def initial : Work :=
  let H := fun i => rootFraction 2 (primes.getD i 0)
  ⟨H 0, H 1, H 2, H 3, H 4, H 5, H 6, H 7⟩

/-! ## Padding -/

/-- The zeros behind the 1 bit of a message of so many bits. -/
def zeros (l : ℕ) : ℕ := (959 - l % 512) % 512

/-- A 1 bit, zeros, and the length in 64 bits. -/
def pad (message : List Bool) : List Bool :=
  message ++ true :: (List.replicate (zeros message.length) false ++
    BitString.ofNat 64 message.length)

/-! ## A block -/

/-- `M_t`: a word of a block. -/
def word (block : List Bool) (t : ℕ) : Word :=
  BitVec.ofNat 32 (BitString.toNat ((block.drop (32 * t)).take 32))

/-- `W_t`: the message schedule. -/
def W (block : List Bool) (t : ℕ) : Word :=
  if t < 16 then word block t
  else smallSigma1 (W block (t - 2)) + W block (t - 7) + smallSigma0 (W block (t - 15)) +
    W block (t - 16)
termination_by t

/-- One round. -/
def round (block : List Bool) (t : ℕ) (v : Work) : Work :=
  let T1 := v.h + bigSigma1 v.e + Ch v.e v.f v.g + K t + W block t
  let T2 := bigSigma0 v.a + Maj v.a v.b v.c
  ⟨T1 + T2, v.a, v.b, v.c, v.d + T1, v.e, v.f, v.g⟩

/-- The working variables after so many rounds. -/
def rounds (block : List Bool) (v : Work) : ℕ → Work
  | 0 => v
  | t + 1 => round block t (rounds block v t)

def Work.add (x y : Work) : Work :=
  ⟨x.a + y.a, x.b + y.b, x.c + y.c, x.d + y.d, x.e + y.e, x.f + y.f, x.g + y.g, x.h + y.h⟩

/-- `H⁽ⁱ⁾` from `H⁽ⁱ⁻¹⁾` and the block. -/
def compress (H : Work) (block : List Bool) : Work := (rounds block H 64).add H

/-! ## The hash -/

/-- The 256 bits of the digest. -/
def sha256 (message : List Bool) : List Bool :=
  ((BitString.pieces 512 (pad message)).foldl compress initial).words.flatMap fun w =>
    BitString.ofNat 32 w.toNat

def hexDigits : List Char :=
  ['0', '1', '2', '3', '4', '5', '6', '7', '8', '9', 'a', 'b', 'c', 'd', 'e', 'f']

/-- Bits as lower-case hexadecimal, four to a digit. -/
def hex (bits : List Bool) : List Char :=
  (BitString.pieces 4 bits).map fun piece => hexDigits.getD (BitString.toNat piece) '0'

/-! ## Laws -/

/-- **The zeros are the least number that fits**: behind the 1 bit and so many zeros
there is room for the length in the last block. -/
theorem zeros_isLeast (l : ℕ) : IsLeast {k | l + 1 + k ≡ 448 [MOD 512]} (zeros l) := by
  constructor
  · show (l + 1 + zeros l) % 512 = 448 % 512
    rw [zeros]
    omega
  · intro k hk
    have hk : (l + 1 + k) % 512 = 448 % 512 := hk
    rw [zeros]
    omega

theorem length_pad (message : List Bool) :
    (pad message).length = message.length + 1 + zeros message.length + 64 := by
  rw [pad, List.length_append, List.length_cons, List.length_append, List.length_replicate,
    BitString.length_ofNat]
  omega

/-- **Padded messages are told apart**, if their lengths fit in 64 bits. -/
theorem pad_injective {m m' : List Bool} (hm : m.length < 2 ^ 64) (hm' : m'.length < 2 ^ 64)
    (h : pad m = pad m') : m = m' := by
  have hsplit : ∀ message, pad message = (message ++ true ::
      List.replicate (zeros message.length) false) ++ BitString.ofNat 64 message.length := by
    intro message
    rw [pad, List.append_assoc, List.cons_append]
  rw [hsplit, hsplit] at h
  have hends : (BitString.ofNat 64 m.length).length = (BitString.ofNat 64 m'.length).length := by
    rw [BitString.length_ofNat, BitString.length_ofNat]
  obtain ⟨hfront, hend⟩ := List.append_inj' h hends
  exact List.append_inj_left hfront (BitString.ofNat_injective hm hm' hend)

/-- The schedule begins with the words of the block. -/
theorem W_of_lt {block : List Bool} {t : ℕ} (h : t < 16) : W block t = word block t := by
  rw [W, if_pos h]

theorem W_of_le {block : List Bool} {t : ℕ} (h : 16 ≤ t) :
    W block t = smallSigma1 (W block (t - 2)) + W block (t - 7) +
      smallSigma0 (W block (t - 15)) + W block (t - 16) := by
  rw [W, if_neg (Nat.not_lt.2 h)]

/-- The 256 bits are 64 digits. -/
theorem length_hex_sha256 (message : List Bool) : (hex (sha256 message)).length = 64 := by
  have hword : ∀ w : Word, (BitString.ofNat 32 w.toNat).length = 32 := fun w =>
    BitString.length_ofNat 32 w.toNat
  rw [hex, List.length_map, BitString.pieces, List.length_map, List.length_range, sha256,
    BitString.length_flatMap hword, Work.length_words]

/-- Every digit is a digit, or a lower-case letter up to f. -/
theorem mem_hexDigits_of_mem_hex {bits : List Bool} {c : Char} (h : c ∈ hex bits) :
    c ∈ hexDigits := by
  obtain ⟨piece, -, rfl⟩ := List.mem_map.1 h
  rw [List.getD_eq_getElem?_getD]
  cases hget : hexDigits[BitString.toNat piece]? with
  | none => exact List.mem_cons_self
  | some c => exact List.mem_of_getElem? hget

/-! ## The primes -/

/-- A number below 324 is prime if no number below 18 divides it. -/
theorem prime_iff {p : ℕ} (h : p < 324) :
    Nat.Prime p ↔ 2 ≤ p ∧ ∀ d < 18, 2 ≤ d → d < p → ¬d ∣ p := by
  rw [Nat.prime_def_le_sqrt]
  constructor
  · rintro ⟨htwo, hnone⟩
    refine ⟨htwo, ?_⟩
    intro d _ hd hlt hdvd
    -- Of a divisor and its cofactor, one is at most the square root.
    obtain ⟨c, rfl⟩ := hdvd
    have hc : 2 ≤ c := by
      by_contra hsmall
      have hone : c = 0 ∨ c = 1 := by omega
      rcases hone with rfl | rfl <;> omega
    rcases Nat.le_total d c with hdc | hcd
    · exact hnone d hd (Nat.le_sqrt.2 (Nat.mul_le_mul_left d hdc)) (Nat.dvd_mul_right d c)
    · exact hnone c hc (Nat.le_sqrt.2 (Nat.mul_le_mul_right c hcd)) (Nat.dvd_mul_left c d)
  · rintro ⟨htwo, hnone⟩
    refine ⟨htwo, ?_⟩
    intro d hd hroot hdvd
    have hsmall : d < 18 := Nat.lt_of_le_of_lt hroot (Nat.sqrt_lt.2 h)
    have hlt : d < p := Nat.lt_of_le_of_lt hroot (Nat.sqrt_lt_self htwo)
    exact hnone d hsmall hd hlt hdvd

theorem primes_eq : primes = [2, 3, 5, 7, 11, 13, 17, 19, 23, 29, 31, 37, 41, 43, 47, 53, 59, 61,
    67, 71, 73, 79, 83, 89, 97, 101, 103, 107, 109, 113, 127, 131, 137, 139, 149, 151, 157, 163,
    167, 173, 179, 181, 191, 193, 197, 199, 211, 223, 227, 229, 233, 239, 241, 251, 257, 263, 269,
    271, 277, 281, 283, 293, 307, 311] := by
  have hfilter : primes = (List.range 312).filter fun p =>
      decide (2 ≤ p ∧ ∀ d < 18, 2 ≤ d → d < p → ¬d ∣ p) := by
    rw [primes]
    apply List.filter_congr
    intro p hp
    have hlt := List.mem_range.1 hp
    exact decide_eq_decide.2 (prime_iff (by omega))
  rw [hfilter]
  decide +kernel

end Fips180
