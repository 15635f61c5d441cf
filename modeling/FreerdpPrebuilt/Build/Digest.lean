import FreerdpPrebuilt.Build.Sha256
import FreerdpPrebuilt.Lib.Fips180

/-!
# The hand-written SHA-256 against the standard

`sha256_hex` works on bytes and on arrays written in place; the standard pads a bit
string, takes the words of the schedule from a recurrence, and its constants from
the roots of primes.  The two are compared loop by loop.

* **Padding.**  `ofBytes_padded`: the bits of the padded message are the standard's
  padding of the bits of the message.
* **Schedule.**  `schedule_spec`: after the loop, every place of `w` holds its word.
* **Rounds.**  `work_rounds`: the eight variables are the standard's after every
  round, and so are the words of the hash after every block (`work_blocks`).
* **Digits.**  `hex_hash`: the digest's digits are those of its bits.

`sha256Hex_isFips` puts them together.
-/

namespace FreerdpPrebuilt
namespace Build

open BitString (ofBytes pieces)
open Fips180 (Word Work)

/-! ## Words -/

/-- Rotation by two shifts. -/
theorem toBitVec_rotateRight (x count : UInt32) (hpos : 0 < count.toNat)
    (hlt : count.toNat < 32) :
    (rotateRight x count).toBitVec = x.toBitVec.rotateRight count.toNat := by
  have hle : count ≤ 32 := UInt32.le_iff_toNat_le.2 (Nat.le_of_lt hlt)
  have hright : (count.toBitVec % 32).toNat = count.toNat := Nat.mod_eq_of_lt hlt
  have hleft : ((32 - count).toBitVec % 32).toNat = 32 - count.toNat := by
    have hsub : (32 - count).toNat = 32 - count.toNat := UInt32.toNat_sub_of_le _ _ hle
    have hmod : (32 - count.toNat) % 32 = 32 - count.toNat := Nat.mod_eq_of_lt (by omega)
    rw [← hsub] at hmod
    rw [← hsub]
    exact hmod
  rw [rotateRight, UInt32.toBitVec_or, UInt32.toBitVec_shiftRight, UInt32.toBitVec_shiftLeft,
    BitVec.rotateRight_def, Nat.mod_eq_of_lt hlt, BitVec.ushiftRight_eq', BitVec.shiftLeft_eq',
    hright, hleft]

theorem readBe32_drop (bytes : Bytes) (position : ℕ) :
    readBe32 bytes position = readBe32 (bytes.drop position) 0 := by
  simp only [readBe32, List.getD_eq_getElem?_getD, List.getElem?_drop, Nat.zero_add, Nat.add_zero]

theorem toNat_ofBytes_cons (b : UInt8) (bytes : Bytes) :
    BitString.toNat (ofBytes (b :: bytes)) =
      b.toNat * 2 ^ (8 * bytes.length) + BitString.toNat (ofBytes bytes) := by
  have hcons : ofBytes (b :: bytes) = BitString.ofNat 8 b.toNat ++ ofBytes bytes := rfl
  rw [hcons, BitString.toNat_append, BitString.toNat_ofNat, BitString.length_ofBytes,
    Nat.mod_eq_of_lt b.toNat_lt]

/-- The word read at a place is the number that the four bytes there write. -/
theorem readBe32_eq {bytes : Bytes} {position : ℕ} (h : position + 4 ≤ bytes.length) :
    readBe32 bytes position =
      UInt32.ofNat (BitString.toNat (ofBytes ((bytes.drop position).take 4))) := by
  rw [readBe32_drop]
  have hlength : 4 ≤ (bytes.drop position).length := by
    rw [List.length_drop]
    omega
  generalize bytes.drop position = rest at hlength
  match rest, hlength with
  | b0 :: b1 :: b2 :: b3 :: rest, _ =>
    have hvalue : BitString.toNat (ofBytes [b0, b1, b2, b3]) =
        16777216 * b0.toNat + 65536 * b1.toNat + 256 * b2.toNat + b3.toNat := by
      rw [toNat_ofBytes_cons, toNat_ofBytes_cons, toNat_ofBytes_cons, toNat_ofBytes_cons]
      simp only [List.length_cons, List.length_nil, ofBytes, List.flatMap_nil, BitString.toNat]
      omega
    have htake : (b0 :: b1 :: b2 :: b3 :: rest).take 4 = [b0, b1, b2, b3] := rfl
    rw [htake, hvalue]
    rfl

/-- A word of a block is that of its bits. -/
theorem toBitVec_readBe32 {block : Bytes} {t : ℕ} (h : 4 * t + 4 ≤ block.length) :
    (readBe32 block (4 * t)).toBitVec = Fips180.word (ofBytes block) t := by
  have hskip : 32 * t = 8 * (4 * t) := by omega
  have hbits : ((ofBytes block).drop (32 * t)).take 32 = ofBytes ((block.drop (4 * t)).take 4) := by
    rw [hskip, ofBytes, BitString.drop_flatMap BitString.length_byte]
    exact BitString.take_flatMap BitString.length_byte _ 4
  rw [readBe32_eq h, Fips180.word, hbits]
  rfl

/-! ## The schedule -/

theorem toBitVec_smallSigma0 (x : UInt32) :
    (rotateRight x 7 ^^^ rotateRight x 18 ^^^ (x >>> 3)).toBitVec =
      Fips180.smallSigma0 x.toBitVec := by
  simp (disch := decide) only [UInt32.toBitVec_xor, toBitVec_rotateRight]
  rfl

theorem toBitVec_smallSigma1 (x : UInt32) :
    (rotateRight x 17 ^^^ rotateRight x 19 ^^^ (x >>> 10)).toBitVec =
      Fips180.smallSigma1 x.toBitVec := by
  simp (disch := decide) only [UInt32.toBitVec_xor, toBitVec_rotateRight]
  rfl

/-- The first so many places of `w` hold the words of the block's schedule. -/
structure Scheduled (block : Bytes) (w : List UInt32) (n : ℕ) : Prop where
  length : w.length = 64
  word : ∀ t < n, (w.getD t 0).toBitVec = Fips180.W (ofBytes block) t

/-- The schedule begins with the words of the block. -/
theorem scheduled_words {block : Bytes} (h : block.length = 64) :
    Scheduled block ((List.range 16).map (fun i => readBe32 block (4 * i)) ++
      List.replicate 48 0) 16 := by
  refine ⟨by rw [List.length_append, List.length_map, List.length_range, List.length_replicate], ?_⟩
  intro t ht
  have hinside : t < ((List.range 16).map fun i => readBe32 block (4 * i)).length := by
    rwa [List.length_map, List.length_range]
  rw [List.getD_append _ _ _ _ hinside, List.getD_eq_getElem _ _ hinside, List.getElem_map,
    List.getElem_range, toBitVec_readBe32 (by omega), Fips180.W_of_lt ht]

/-- A turn of the loop writes the next word. -/
theorem Scheduled.extend {block : Bytes} {w : List UInt32} {i : ℕ} (h : Scheduled block w i)
    (hlow : 16 ≤ i) (hhigh : i < 64) : Scheduled block (extend w i) (i + 1) := by
  refine ⟨by rw [Build.extend, List.length_set, h.length], ?_⟩
  intro t ht
  rw [Build.extend, List.getD_eq_getElem?_getD, List.getElem?_set]
  by_cases hnew : i = t
  · rw [if_pos hnew, if_pos (by rw [h.length]; exact hhigh), Option.getD_some, ← hnew,
      UInt32.toBitVec_add, UInt32.toBitVec_add, UInt32.toBitVec_add, toBitVec_smallSigma0,
      toBitVec_smallSigma1, h.word _ (by omega), h.word _ (by omega), h.word _ (by omega),
      h.word _ (by omega), Fips180.W_of_le hlow]
    ac_rfl
  · rw [if_neg hnew, ← List.getD_eq_getElem?_getD]
    exact h.word t (by omega)

/-- **The loop computes the message schedule.** -/
theorem schedule_spec {block : Bytes} (h : block.length = 64) :
    Scheduled block (schedule block) 64 := by
  have hrun : ∀ n ≤ 48, Scheduled block ((List.range' 16 n).foldl Build.extend
      ((List.range 16).map (fun i => readBe32 block (4 * i)) ++ List.replicate 48 0)) (16 + n) := by
    intro n
    induction n with
    | zero => exact fun _ => scheduled_words h
    | succ n ih =>
      intro hn
      rw [List.range'_concat, List.foldl_append, Nat.one_mul]
      exact (ih (Nat.le_of_succ_le hn)).extend (Nat.le_add_right 16 n) (by omega)
  exact hrun 48 (Nat.le_refl 48)

/-! ## The rounds -/

/-- The eight words, as the standard has them. -/
def Hash.work (v : Hash) : Work :=
  ⟨v.a.toBitVec, v.b.toBitVec, v.c.toBitVec, v.d.toBitVec, v.e.toBitVec, v.f.toBitVec,
    v.g.toBitVec, v.h.toBitVec⟩

/-- **The table of constants** holds the fractions of the primes' cube roots. -/
theorem map_K : K.map UInt32.toBitVec = Fips180.constants := by
  rw [Fips180.constants, Fips180.primes_eq]
  decide +kernel

theorem toBitVec_K (t : ℕ) : (K.getD t 0).toBitVec = Fips180.K t := by
  rw [Fips180.K, ← map_K]
  exact (List.getD_map K 0 UInt32.toBitVec).symm

/-- **The hash begins** with the fractions of the primes' square roots. -/
theorem work_initialHash : initialHash.work = Fips180.initial := by
  rw [Fips180.initial, Fips180.primes_eq]
  decide +kernel

theorem toBitVec_bigSigma0 (x : UInt32) :
    (rotateRight x 2 ^^^ rotateRight x 13 ^^^ rotateRight x 22).toBitVec =
      Fips180.bigSigma0 x.toBitVec := by
  simp (disch := decide) only [UInt32.toBitVec_xor, toBitVec_rotateRight]
  rfl

theorem toBitVec_bigSigma1 (x : UInt32) :
    (rotateRight x 6 ^^^ rotateRight x 11 ^^^ rotateRight x 25).toBitVec =
      Fips180.bigSigma1 x.toBitVec := by
  simp (disch := decide) only [UInt32.toBitVec_xor, toBitVec_rotateRight]
  rfl

/-- One round. -/
theorem work_round {block : Bytes} {w : List UInt32} (hw : Scheduled block w 64) (v : Hash) {t : ℕ}
    (ht : t < 64) : (round w v t).work = Fips180.round (ofBytes block) t v.work := by
  simp only [Hash.work, round, Fips180.round, UInt32.toBitVec_add, toBitVec_bigSigma0,
    toBitVec_bigSigma1, toBitVec_K, hw.word t ht]
  rfl

/-- **The loop computes the rounds**, one after the other. -/
theorem work_rounds {block : Bytes} {w : List UInt32} (hw : Scheduled block w 64) (v : Hash) {n : ℕ}
    (hn : n ≤ 64) :
    ((List.range n).foldl (round w) v).work = Fips180.rounds (ofBytes block) v.work n := by
  induction n with
  | zero => rfl
  | succ n ih =>
    rw [List.range_succ, List.foldl_append, Fips180.rounds, ← ih (Nat.le_of_succ_le hn)]
    exact work_round hw _ hn

theorem work_add (x y : Hash) : (x.add y).work = y.work.add x.work := by
  simp only [Hash.work, Hash.add, Work.add, UInt32.toBitVec_add, BitVec.add_comm]

/-- What a block does to the hash. -/
theorem work_compress {block : Bytes} (h : block.length = 64) (v : Hash) :
    (compress v block).work = Fips180.compress v.work (ofBytes block) := by
  rw [compress, work_add, work_rounds (schedule_spec h) v (Nat.le_refl 64), Fips180.compress]

/-- **The blocks are taken in order.** -/
theorem work_blocks {bs : List Bytes} (h : ∀ block ∈ bs, block.length = 64) (v : Hash) :
    (bs.foldl compress v).work = (bs.map ofBytes).foldl Fips180.compress v.work := by
  induction bs generalizing v with
  | nil => rfl
  | cons block bs ih =>
    obtain ⟨hblock, hrest⟩ := List.forall_mem_cons.1 h
    rw [List.foldl_cons, ih hrest, work_compress hblock, List.map_cons, List.foldl_cons]

/-! ## The padding -/

/-- The length's eight bytes are its 64 bits. -/
theorem ofBytes_be64 (value : UInt64) : ofBytes (be64 value) = BitString.ofNat 64 value.toNat := by
  have hshifts : be64 value =
      (BitString.shifts 8 8).map fun shift => UInt8.ofNat (value.toNat >>> shift) := rfl
  rw [hshifts, ofBytes, List.flatMap_map, BitString.ofNat_mul 8 8]
  simp only [BitString.ofNat_byte]

/-- The padded message. -/
theorem padded_eq (bytes : Bytes) : padded bytes =
    some (bytes ++ [0x80] ++ List.replicate ((56 + 64 - (bytes.length + 1) % 64) % 64) 0 ++
      be64 (UInt64.ofNat bytes.length * 8)) := by
  have hlength : (bytes ++ [(0x80 : UInt8)]).length = bytes.length + 1 := List.length_append
  rw [padded, padZeros_eq 64 _ (Nat.mod_lt _ (by decide)), hlength, Option.map_some]

/-- The missing zero bytes, behind the seven zeros of the byte that holds the 1 bit. -/
theorem zeros_eq (n : ℕ) :
    Fips180.zeros (8 * n) = 7 + 8 * ((56 + 64 - (n + 1) % 64) % 64) := by
  rw [Fips180.zeros]
  omega

/-- **The padding loop pads by the standard.** -/
theorem ofBytes_padded (bytes : Bytes) :
    (padded bytes).map ofBytes = some (Fips180.pad (ofBytes bytes)) := by
  have hone : ofBytes [0x80] = true :: List.replicate 7 false := rfl
  have hlength : (UInt64.ofNat bytes.length * 8).toNat = 8 * bytes.length % 2 ^ 64 := by
    rw [UInt64.toNat_mul, UInt64.toNat_ofNat', Nat.mod_mul_mod, Nat.mul_comm]
    rfl
  rw [padded_eq, Option.map_some, Fips180.pad, BitString.length_ofBytes, zeros_eq,
    BitString.ofBytes_append, BitString.ofBytes_append, BitString.ofBytes_append, hone,
    BitString.ofBytes_replicate_zero, ofBytes_be64, hlength, BitString.ofNat_mod (Nat.le_refl 64),
    List.append_assoc, List.append_assoc, List.cons_append,
    ← List.append_assoc (List.replicate 7 _), List.replicate_append_replicate]

/-! ## The digits -/

/-- A digit is that of its four bits. -/
theorem hexDigit_eq (n : ℕ) : hexDigit (n % 16) =
    Fips180.hexDigits.getD (BitString.toNat (BitString.ofNat 4 n)) '0' := by
  have hdigits : ∀ nibble < 16, hexDigit nibble = Fips180.hexDigits.getD nibble '0' := by decide
  rw [BitString.toNat_ofNat]
  exact hdigits _ (Nat.mod_lt n (by decide))

/-- The eight digits of a word are those of its bits. -/
theorem hex8_eq (word : UInt32) : hex8 word = Fips180.hex (BitString.ofNat 32 word.toNat) := by
  have hshifts : hex8 word =
      (BitString.shifts 4 8).map fun shift => hexDigit ((word.toNat >>> shift) % 16) := rfl
  have hpieces : pieces 4 (BitString.ofNat 32 word.toNat) =
      (BitString.shifts 4 8).map fun shift => BitString.ofNat 4 (word.toNat >>> shift) := by
    rw [BitString.ofNat_mul 4 8]
    exact BitString.pieces_flatMap_self (by decide) (fun _ => BitString.length_ofNat 4 _) _
  rw [hshifts, Fips180.hex, hpieces, List.map_map]
  apply List.map_congr_left
  intro shift _
  exact hexDigit_eq _

/-- **The digits of a hash** are those of its bits. -/
theorem hex_hash (v : Hash) : v.hex =
    Fips180.hex (v.work.words.flatMap fun w => BitString.ofNat 32 w.toNat) := by
  have hword : ∀ w : Word, (BitString.ofNat 32 w.toNat).length = 4 * 8 := fun w =>
    BitString.length_ofNat 32 w.toNat
  rw [Fips180.hex, BitString.pieces_flatMap_of_length (by decide) hword, List.map_flatMap]
  have hwords : v.work.words =
      [v.a, v.b, v.c, v.d, v.e, v.f, v.g, v.h].map UInt32.toBitVec := rfl
  have hdigits : hex8 = fun word => Fips180.hex (BitString.ofNat 32 word.toNat) := funext hex8_eq
  rw [hwords, List.flatMap_map, Hash.hex, hdigits]
  rfl

/-! ## The digest -/

/-- What `sha256_hex` is to compute, part by part. -/
structure IsFips (bytes : Bytes) : Prop where
  /-- It returns the digits of the digest. -/
  digest : sha256Hex bytes = some (Fips180.hex (Fips180.sha256 (ofBytes bytes)))
  /-- They are 64 digits, in lower case. -/
  digits : (Fips180.hex (Fips180.sha256 (ofBytes bytes))).length = 64 ∧
    ∀ c ∈ Fips180.hex (Fips180.sha256 (ofBytes bytes)), c ∈ Fips180.hexDigits
  /-- The padding loop ends.  It leaves a 1 bit, the least number of zeros, and the
  length in 64 bits behind the message, in whole blocks. -/
  padding : ∃ msg zeros, padded bytes = some msg ∧
    IsLeast {k | 8 * bytes.length + 1 + k ≡ 448 [MOD 512]} zeros ∧
    ofBytes msg = ofBytes bytes ++ true ::
      (List.replicate zeros false ++ BitString.ofNat 64 (8 * bytes.length)) ∧
    64 ∣ msg.length
  /-- No other message is padded to the same. -/
  injective : ∀ other : Bytes, 8 * other.length < 2 ^ 64 → padded other = padded bytes →
    other = bytes
  /-- The blocks are the standard's.  Each one's schedule and each one's effect on
  any hash are the standard's, and the hash is that of the blocks in order. -/
  blocks : ∀ msg, padded bytes = some msg →
    (blocks msg).map ofBytes = pieces 512 (Fips180.pad (ofBytes bytes)) ∧
    (∀ block ∈ blocks msg,
      (∀ t < 64, ((schedule block).getD t 0).toBitVec = Fips180.W (ofBytes block) t) ∧
      ∀ v : Hash, (compress v block).work = Fips180.compress v.work (ofBytes block)) ∧
    ((blocks msg).foldl compress initialHash).work =
      (pieces 512 (Fips180.pad (ofBytes bytes))).foldl Fips180.compress Fips180.initial

theorem length_of_mem_blocks {msg block : Bytes} (h : block ∈ blocks msg) : block.length = 64 :=
  BitString.length_of_mem_pieces h

/-- The blocks of the padded message, as the standard cuts them. -/
theorem map_blocks {bytes msg : Bytes} (h : padded bytes = some msg) :
    (blocks msg).map ofBytes = pieces 512 (Fips180.pad (ofBytes bytes)) := by
  have hbits := ofBytes_padded bytes
  rw [h, Option.map_some, Option.some.injEq] at hbits
  rw [← hbits]
  exact (BitString.pieces_flatMap BitString.length_byte (by decide) msg 64).symm

/-- The hash of the padded message's blocks. -/
theorem work_hash {bytes msg : Bytes} (h : padded bytes = some msg) :
    ((blocks msg).foldl compress initialHash).work =
      (pieces 512 (Fips180.pad (ofBytes bytes))).foldl Fips180.compress Fips180.initial := by
  rw [work_blocks (fun _ => length_of_mem_blocks), map_blocks h, work_initialHash]

/-- The digits of the digest, as every program that follows the standard has them. -/
def sha256Of (bytes : Bytes) : List Char := Fips180.hex (Fips180.sha256 (ofBytes bytes))

/-- The code's digits are the standard's. -/
theorem sha256Hex_eq (bytes : Bytes) : sha256Hex bytes = some (sha256Of bytes) := by
  have hpadded := padded_eq bytes
  rw [sha256Hex, hpadded, Option.map_some, hex_hash, work_hash hpadded, sha256Of, Fips180.sha256]

/-- **`sha256_hex` is SHA-256**: on every byte string of fewer than `2 ^ 64` bits, in
its padding, its schedule, its rounds and its digits. -/
theorem sha256Hex_isFips (bytes : Bytes) (h : 8 * bytes.length < 2 ^ 64) : IsFips bytes := by
  have hpadded := padded_eq bytes
  generalize bytes ++ [0x80] ++ List.replicate ((56 + 64 - (bytes.length + 1) % 64) % 64) 0 ++
    be64 (UInt64.ofNat bytes.length * 8) = msg at hpadded
  have hbits : ofBytes msg = Fips180.pad (ofBytes bytes) := by
    have hmap := ofBytes_padded bytes
    rwa [hpadded, Option.map_some, Option.some.injEq] at hmap
  refine ⟨sha256Hex_eq bytes, ?_, ?_, ?_, ?_⟩
  · exact ⟨Fips180.length_hex_sha256 _, fun c => Fips180.mem_hexDigits_of_mem_hex⟩
  · refine ⟨msg, Fips180.zeros (8 * bytes.length), hpadded, Fips180.zeros_isLeast _, ?_, ?_⟩
    · rw [hbits, Fips180.pad, BitString.length_ofBytes]
    · have hlength := congrArg List.length hbits
      rw [Fips180.length_pad, BitString.length_ofBytes, BitString.length_ofBytes, zeros_eq]
        at hlength
      omega
  · intro other hother hsame
    have hpads : Fips180.pad (ofBytes other) = Fips180.pad (ofBytes bytes) := by
      rw [← Option.some.injEq, ← ofBytes_padded, ← ofBytes_padded, hsame]
    rw [← BitString.length_ofBytes] at h hother
    exact BitString.ofBytes_injective (Fips180.pad_injective hother h hpads)
  · intro msg' hmsg
    refine ⟨map_blocks hmsg, ?_, work_hash hmsg⟩
    intro block hblock
    have hblock := length_of_mem_blocks hblock
    exact ⟨(schedule_spec hblock).word, work_compress hblock⟩

/-- The three letters of the shortest published vector. -/
def abc : Bytes := [0x61, 0x62, 0x63]

/-- The standard's digest of them, through the code's. -/
theorem sha256Hex_abc : IsFips abc ∧ Fips180.hex (Fips180.sha256 (ofBytes abc)) =
    "ba7816bf8f01cfea414140de5dae2223b00361a396177a9cb410ff61f20015ad".toList := by
  have habc := sha256Hex_isFips abc (by decide)
  have hcode : sha256Hex abc =
      some "ba7816bf8f01cfea414140de5dae2223b00361a396177a9cb410ff61f20015ad".toList := by
    decide +kernel
  exact ⟨habc, Option.some.inj (habc.digest.symm.trans hcode)⟩

end Build
end FreerdpPrebuilt
