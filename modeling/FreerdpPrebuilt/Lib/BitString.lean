import Mathlib.Data.List.Basic
import Mathlib.Data.List.GetD
import Mathlib.Data.Nat.Prime.Defs
import Mathlib.Tactic.Common

/-!
# Bit strings

Strings of bits, the most significant first, as standards for hash functions write
them.

* `ofNat` and `toNat`: a number as so many bits, and the number bits write.
  `ofNat_add` and `ofNat_mul` cut a number into the bits of its digits, and
  `toNat_append` puts it together.
* `ofBytes`: the bits of a byte string, one byte after the other.
* `pieces`: a list cut into pieces of one length.  `pieces_flatMap` and
  `pieces_flatMap_of_length` say how that goes with writing every element as so
  many others.
-/

namespace BitString

/-! ## Numbers -/

/-- The lowest `width` bits of a number. -/
def ofNat : ℕ → ℕ → List Bool
  | 0, _ => []
  | width + 1, n => n.testBit width :: ofNat width n

/-- The number that bits write. -/
def toNat : List Bool → ℕ
  | [] => 0
  | b :: bits => b.toNat * 2 ^ bits.length + toNat bits

@[simp] theorem length_ofNat (width n : ℕ) : (ofNat width n).length = width := by
  induction width with
  | zero => rfl
  | succ width ih => rw [ofNat, List.length_cons, ih]

theorem ofNat_zero (width : ℕ) : ofNat width 0 = List.replicate width false := by
  induction width with
  | zero => rfl
  | succ width ih => rw [ofNat, ih, Nat.zero_testBit, List.replicate_succ]

/-- The bits above do not matter. -/
theorem ofNat_mod {width bound : ℕ} (h : width ≤ bound) (n : ℕ) :
    ofNat width (n % 2 ^ bound) = ofNat width n := by
  induction width with
  | zero => rfl
  | succ width ih =>
    rw [ofNat, ofNat, ih (Nat.le_of_succ_le h), Nat.testBit_mod_two_pow,
      decide_eq_true (Nat.lt_of_succ_le h), Bool.true_and]

/-- The high bits, then the low ones. -/
theorem ofNat_add (high low n : ℕ) :
    ofNat (high + low) n = ofNat high (n >>> low) ++ ofNat low n := by
  induction high with
  | zero => rw [Nat.zero_add, ofNat, List.nil_append]
  | succ high ih =>
    rw [Nat.succ_add, ofNat, ih, ofNat, Nat.testBit_shiftRight, Nat.add_comm low,
      List.cons_append]

/-- The shifts that bring each digit of so many bits to the bottom. -/
def shifts (width : ℕ) : ℕ → List ℕ
  | 0 => []
  | count + 1 => width * count :: shifts width count

/-- A number is the bits of its digits. -/
theorem ofNat_mul (width count n : ℕ) : ofNat (width * count) n =
    (shifts width count).flatMap fun shift => ofNat width (n >>> shift) := by
  induction count with
  | zero => rfl
  | succ count ih =>
    rw [Nat.mul_succ, Nat.add_comm, ofNat_add, shifts, List.flatMap_cons, ih]

theorem toNat_append (high low : List Bool) :
    toNat (high ++ low) = toNat high * 2 ^ low.length + toNat low := by
  induction high with
  | nil => simp only [List.nil_append, toNat, Nat.zero_mul, Nat.zero_add]
  | cons b high ih =>
    rw [List.cons_append, toNat, ih, toNat, List.length_append, Nat.pow_add, Nat.add_mul,
      Nat.mul_assoc, Nat.add_assoc]

/-- **The bits of a number write it.** -/
theorem toNat_ofNat (width n : ℕ) : toNat (ofNat width n) = n % 2 ^ width := by
  induction width with
  | zero => rw [ofNat, toNat, Nat.pow_zero, Nat.mod_one]
  | succ width ih =>
    rw [ofNat, toNat, ih, length_ofNat, Nat.toNat_testBit, Nat.mod_pow_succ, Nat.add_comm,
      Nat.mul_comm]

/-- Numbers that fit are told apart by their bits. -/
theorem ofNat_injective {width n m : ℕ} (hn : n < 2 ^ width) (hm : m < 2 ^ width)
    (h : ofNat width n = ofNat width m) : n = m := by
  have hvalue := congrArg toNat h
  rwa [toNat_ofNat, toNat_ofNat, Nat.mod_eq_of_lt hn, Nat.mod_eq_of_lt hm] at hvalue

/-! ## Elements of one length -/

section

variable {α β : Type*} {f : α → List β} {width : ℕ}

theorem length_flatMap (h : ∀ a, (f a).length = width) (l : List α) :
    (l.flatMap f).length = width * l.length := by
  induction l with
  | nil => rfl
  | cons a l ih => rw [List.flatMap_cons, List.length_append, h, ih, List.length_cons,
      Nat.mul_succ, Nat.add_comm]

theorem take_flatMap (h : ∀ a, (f a).length = width) (l : List α) (n : ℕ) :
    (l.flatMap f).take (width * n) = (l.take n).flatMap f := by
  induction l generalizing n with
  | nil => rw [List.flatMap_nil, List.take_nil, List.take_nil, List.flatMap_nil]
  | cons a l ih =>
    cases n with
    | zero => rfl
    | succ n =>
      rw [List.take_succ_cons, List.flatMap_cons, List.flatMap_cons, ← ih n, Nat.mul_succ,
        Nat.add_comm, ← h a, List.take_length_add_append]

theorem drop_flatMap (h : ∀ a, (f a).length = width) (l : List α) (n : ℕ) :
    (l.flatMap f).drop (width * n) = (l.drop n).flatMap f := by
  induction l generalizing n with
  | nil => rw [List.flatMap_nil, List.drop_nil, List.drop_nil, List.flatMap_nil]
  | cons a l ih =>
    cases n with
    | zero => rfl
    | succ n =>
      rw [List.drop_succ_cons, List.flatMap_cons, ← ih n, Nat.mul_succ, Nat.add_comm, ← h a,
        List.drop_length_add_append]

theorem flatMap_injective (h : ∀ a, (f a).length = width) (hpos : 0 < width)
    (hf : Function.Injective f) : Function.Injective (List.flatMap f) := by
  intro l l' hl
  have hlength : l.length = l'.length := by
    have hwritten := congrArg List.length hl
    rw [length_flatMap h, length_flatMap h] at hwritten
    exact Nat.eq_of_mul_eq_mul_left hpos hwritten
  induction l generalizing l' with
  | nil => exact (List.eq_nil_of_length_eq_zero hlength.symm).symm
  | cons a l ih =>
    cases l' with
    | nil => exact absurd hlength (Nat.succ_ne_zero _)
    | cons b l' =>
      rw [List.flatMap_cons, List.flatMap_cons] at hl
      obtain ⟨hhead, htail⟩ := List.append_inj hl ((h a).trans (h b).symm)
      rw [hf hhead, ih htail (Nat.succ.inj hlength)]

/-! ## Pieces of one length -/

/-- A list cut into pieces; what is too short for another is left out. -/
def pieces (n : ℕ) (l : List α) : List (List α) :=
  (List.range (l.length / n)).map fun i => (l.drop (n * i)).take n

theorem length_of_mem_pieces {n : ℕ} {l piece : List α} (h : piece ∈ pieces n l) :
    piece.length = n := by
  obtain ⟨i, hi, rfl⟩ := List.mem_map.1 h
  have hroom : (i + 1) * n ≤ l.length :=
    Nat.le_trans (Nat.mul_le_mul_right n (List.mem_range.1 hi)) (Nat.div_mul_le_self _ _)
  rw [Nat.succ_mul, Nat.mul_comm] at hroom
  rw [List.length_take, List.length_drop]
  omega

/-- Pieces of what is written are what pieces are written as. -/
theorem pieces_flatMap (h : ∀ a, (f a).length = width) (hpos : 0 < width) (l : List α) (n : ℕ) :
    pieces (width * n) (l.flatMap f) = (pieces n l).map (List.flatMap f) := by
  have hcount : (l.flatMap f).length / (width * n) = l.length / n := by
    rw [length_flatMap h, Nat.mul_div_mul_left _ _ hpos]
  rw [pieces, pieces, hcount, List.map_map]
  apply List.map_congr_left
  intro i _
  rw [Nat.mul_assoc, drop_flatMap h, take_flatMap h]
  rfl

theorem pieces_append {n : ℕ} (hpos : 0 < n) {l : List α} {k : ℕ} (hl : l.length = n * k)
    (l' : List α) : pieces n (l ++ l') = pieces n l ++ pieces n l' := by
  have hcount : (l ++ l').length / n = k + l'.length / n := by
    rw [List.length_append, hl, Nat.mul_add_div hpos]
  have hfirst : l.length / n = k := by rw [hl, Nat.mul_div_cancel_left _ hpos]
  rw [pieces, pieces, pieces, hcount, hfirst, List.range_add, List.map_append, List.map_map]
  congr 1
  · apply List.map_congr_left
    intro i hi
    have hroom : n * i + n ≤ l.length := by
      rw [hl, ← Nat.mul_succ]
      exact Nat.mul_le_mul_left n (List.mem_range.1 hi)
    rw [List.drop_append_of_le_length (by omega), List.take_append_of_le_length]
    rw [List.length_drop]
    omega
  · apply List.map_congr_left
    intro i _
    have hskip : n * (k + i) = l.length + n * i := by rw [Nat.mul_add, hl]
    show ((l ++ l').drop (n * (k + i))).take n = _
    rw [hskip, List.drop_length_add_append]

/-- Each element is cut by itself, if it is written as whole pieces. -/
theorem pieces_flatMap_of_length {n k : ℕ} (hpos : 0 < n) (h : ∀ a, (f a).length = n * k)
    (l : List α) : pieces n (l.flatMap f) = l.flatMap fun a => pieces n (f a) := by
  induction l with
  | nil => rw [List.flatMap_nil, List.flatMap_nil, pieces, List.length_nil, Nat.zero_div]; rfl
  | cons a l ih => rw [List.flatMap_cons, List.flatMap_cons, pieces_append hpos (h a), ih]

/-- Elements of the length of a piece are the pieces. -/
theorem pieces_flatMap_self {n : ℕ} (hpos : 0 < n) (h : ∀ a, (f a).length = n) (l : List α) :
    pieces n (l.flatMap f) = l.map f := by
  have hone : ∀ a, pieces n (f a) = [f a] := by
    intro a
    rw [pieces, h, Nat.div_self hpos, List.range_one, List.map_singleton, Nat.mul_zero,
      List.drop_zero, ← h a, List.take_length]
  have hk : ∀ a, (f a).length = n * 1 := fun a => by rw [h, Nat.mul_one]
  rw [pieces_flatMap_of_length hpos hk, List.map_eq_flatMap]
  simp only [hone]

end

/-! ## Bytes -/

/-- The bits of a byte string. -/
def ofBytes (bytes : List UInt8) : List Bool := bytes.flatMap fun b => ofNat 8 b.toNat

theorem length_byte (b : UInt8) : (ofNat 8 b.toNat).length = 8 := length_ofNat _ _

@[simp] theorem length_ofBytes (bytes : List UInt8) : (ofBytes bytes).length = 8 * bytes.length :=
  length_flatMap length_byte bytes

theorem ofBytes_append (first second : List UInt8) :
    ofBytes (first ++ second) = ofBytes first ++ ofBytes second := List.flatMap_append

theorem ofBytes_replicate_zero (n : ℕ) :
    ofBytes (List.replicate n 0) = List.replicate (8 * n) false := by
  induction n with
  | zero => rfl
  | succ n ih =>
    have hbyte : ofNat 8 (0 : UInt8).toNat = List.replicate 8 false := ofNat_zero 8
    rw [List.replicate_succ, ofBytes, List.flatMap_cons, hbyte]
    rw [ofBytes] at ih
    rw [ih, List.replicate_append_replicate, Nat.mul_succ, Nat.add_comm]

/-- A byte is the lowest bits of the number it is cut from. -/
theorem ofNat_byte (n : ℕ) : ofNat 8 (UInt8.ofNat n).toNat = ofNat 8 n := by
  rw [UInt8.toNat_ofNat', ofNat_mod (Nat.le_refl 8)]

/-- **Byte strings are told apart by their bits.** -/
theorem ofBytes_injective : Function.Injective ofBytes := by
  refine flatMap_injective length_byte (by decide) ?_
  intro a b hab
  exact UInt8.toNat.inj (ofNat_injective a.toNat_lt b.toNat_lt hab)

end BitString
