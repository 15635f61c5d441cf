import Mathlib.Data.List.Basic
import Mathlib.Tactic.Common

/-!
# Text on the wire

Two things a message needs to carry text.

* A **terminated string** has no length in front of it: its elements are written
  one after the other, and a last one that stands for the end.  `Code.read` finds
  the end by reading elements until it meets that one.  `Code.read_flatMap`: it
  reads back every string the terminator does not occur in, whatever follows.
* **UTF-16** writes a character as one code unit or two.  `decode` reads the
  units back and refuses a surrogate without its partner.  `decode_encode` is the
  round trip, and `zero_mem_encode` says that only U+0000 puts a zero among the
  units.
-/

namespace WireText

variable {α β : Type*}

/-! ## Terminated strings -/

/-- How one element is written, and how one is read off the front. -/
structure Code (α β : Type*) where
  encode : α → List β
  next : List β → Option (α × List β)
  /-- An element is read back, whatever follows. -/
  next_encode : ∀ a rest, next (encode a ++ rest) = some (a, rest)
  /-- No element is written as nothing. -/
  encode_ne_nil : ∀ a, encode a ≠ []

/-- Read elements up to the first that is `stop`, in so many turns at most: the
elements, and what follows the end. -/
def Code.readWithin [DecidableEq α] (C : Code α β) (stop : α) :
    ℕ → List β → Option (List α × List β)
  | 0, _ => none
  | fuel + 1, l =>
    match C.next l with
    | none => none
    | some (a, rest) =>
      if a = stop then some ([], rest)
      else (C.readWithin stop fuel rest).map fun (as, after) => (a :: as, after)

/-- No string has more elements than it was written with. -/
def Code.read [DecidableEq α] (C : Code α β) (stop : α) (l : List β) :
    Option (List α × List β) :=
  C.readWithin stop l.length l

theorem Code.length_le_flatMap (C : Code α β) (as : List α) :
    as.length ≤ (as.flatMap C.encode).length := by
  induction as with
  | nil => exact Nat.zero_le _
  | cons a as ih =>
    have hpos := List.length_pos_of_ne_nil (C.encode_ne_nil a)
    rw [List.flatMap_cons, List.length_append, List.length_cons]
    omega

theorem Code.readWithin_flatMap [DecidableEq α] (C : Code α β) {stop : α} {as : List α}
    {fuel : ℕ} (hstop : stop ∉ as) (hfuel : as.length < fuel) (rest : List β) :
    C.readWithin stop fuel (as.flatMap C.encode ++ (C.encode stop ++ rest)) =
      some (as, rest) := by
  induction as generalizing fuel with
  | nil =>
    obtain ⟨n, rfl⟩ := Nat.exists_eq_add_of_lt hfuel
    rw [List.flatMap_nil, List.nil_append, Code.readWithin, C.next_encode]
    exact if_pos rfl
  | cons a as ih =>
    obtain ⟨hne, hstop⟩ := not_or.1 (fun h => hstop (List.mem_cons.2 h))
    obtain ⟨n, rfl⟩ : ∃ n, fuel = n + 1 := ⟨fuel - 1, by omega⟩
    have hrest := ih hstop (Nat.lt_of_succ_lt_succ hfuel)
    rw [List.flatMap_cons, List.append_assoc, Code.readWithin, C.next_encode]
    simp only [if_neg (Ne.symm hne), hrest, Option.map_some]

/-- **A terminated string is read back**, and what follows it is left, if the
terminator does not occur in it. -/
theorem Code.read_flatMap [DecidableEq α] (C : Code α β) {stop : α} {as : List α}
    (hstop : stop ∉ as) (rest : List β) :
    C.read stop (as.flatMap C.encode ++ (C.encode stop ++ rest)) = some (as, rest) := by
  refine C.readWithin_flatMap hstop ?_ rest
  have has := C.length_le_flatMap as
  have hend := List.length_pos_of_ne_nil (C.encode_ne_nil stop)
  rw [List.length_append, List.length_append]
  omega

/-- Elements that are written as themselves. -/
def Code.plain (α : Type*) : Code α α where
  encode a := [a]
  next
    | [] => none
    | a :: rest => some (a, rest)
  next_encode _ _ := rfl
  encode_ne_nil _ := List.cons_ne_nil _ _

/-! ## UTF-16 -/

/-- The code units of one character. -/
def encodeChar (c : Char) : List UInt16 :=
  if c.toNat < 0x10000 then [UInt16.ofNat c.toNat]
  else [UInt16.ofNat (0xD800 + (c.toNat - 0x10000) / 0x400),
    UInt16.ofNat (0xDC00 + (c.toNat - 0x10000) % 0x400)]

def encode (cs : List Char) : List UInt16 := cs.flatMap encodeChar

/-- The first unit of a surrogate pair. -/
def isHigh (unit : UInt16) : Bool := decide (0xD800 ≤ unit.toNat ∧ unit.toNat < 0xDC00)

/-- The second unit of a surrogate pair. -/
def isLow (unit : UInt16) : Bool := decide (0xDC00 ≤ unit.toNat ∧ unit.toNat < 0xE000)

/-- The character of a surrogate pair. -/
def pairChar (high low : UInt16) : Char :=
  Char.ofNat (0x10000 + (high.toNat - 0xD800) * 0x400 + (low.toNat - 0xDC00))

/-- The characters of code units; `none` where a surrogate has no partner. -/
def decode : List UInt16 → Option (List Char)
  | [] => some []
  | unit :: units =>
    if isLow unit then none
    else if isHigh unit then
      match units with
      | [] => none
      | low :: rest =>
        if isLow low then (decode rest).map (pairChar unit low :: ·) else none
    else (decode units).map (Char.ofNat unit.toNat :: ·)

/-- A unit that is no surrogate is a character. -/
theorem decode_single {unit : UInt16} (hlow : isLow unit = false) (hhigh : isHigh unit = false)
    (rest : List UInt16) :
    decode (unit :: rest) = (decode rest).map (Char.ofNat unit.toNat :: ·) := by
  rw [decode.eq_def]
  simp only [hlow, hhigh, Bool.false_eq_true, if_false]

/-- Two units that are partners are a character. -/
theorem decode_pair {high low : UInt16} (hhigh : isHigh high = true) (hlow : isLow low = true)
    (rest : List UInt16) :
    decode (high :: low :: rest) = (decode rest).map (pairChar high low :: ·) := by
  have hother : isLow high = false := by
    have hbound := (of_decide_eq_true hhigh).2
    exact decide_eq_false (by omega)
  rw [decode.eq_def]
  simp only [hother, hhigh, hlow, Bool.false_eq_true, if_false, if_true]

/-- A character is a scalar value. -/
theorem toNat_lt (c : Char) : c.toNat < 0xD800 ∨ 0xDFFF < c.toNat ∧ c.toNat < 0x110000 := c.valid

theorem toNat_unit {n : ℕ} (h : n < 0x10000) : (UInt16.ofNat n).toNat = n :=
  UInt16.toNat_ofNat_of_lt' h

/-- The two units of a character beyond the first plane, as numbers. -/
theorem toNat_high (c : Char) : (UInt16.ofNat (0xD800 + (c.toNat - 0x10000) / 0x400)).toNat =
    0xD800 + (c.toNat - 0x10000) / 0x400 := by
  have hvalid := toNat_lt c
  exact toNat_unit (by omega)

theorem toNat_low (c : Char) : (UInt16.ofNat (0xDC00 + (c.toNat - 0x10000) % 0x400)).toNat =
    0xDC00 + (c.toNat - 0x10000) % 0x400 :=
  toNat_unit (by omega)

theorem decode_encodeChar_append (c : Char) (rest : List UInt16) :
    decode (encodeChar c ++ rest) = (decode rest).map (c :: ·) := by
  have hvalid := toNat_lt c
  unfold encodeChar
  split
  · rename_i hone
    have hunit := toNat_unit hone
    have hlow : isLow (UInt16.ofNat c.toNat) = false := by
      rw [isLow, hunit]
      exact decide_eq_false (by omega)
    have hhigh : isHigh (UInt16.ofNat c.toNat) = false := by
      rw [isHigh, hunit]
      exact decide_eq_false (by omega)
    rw [List.singleton_append, decode_single hlow hhigh, hunit, Char.ofNat_toNat]
  · rename_i htwo
    have hhigh : isHigh (UInt16.ofNat (0xD800 + (c.toNat - 0x10000) / 0x400)) = true := by
      rw [isHigh, toNat_high]
      exact decide_eq_true (by omega)
    have hlow : isLow (UInt16.ofNat (0xDC00 + (c.toNat - 0x10000) % 0x400)) = true := by
      rw [isLow, toNat_low]
      exact decide_eq_true (by omega)
    have hscalar : 0x10000 + (0xD800 + (c.toNat - 0x10000) / 0x400 - 0xD800) * 0x400 +
        (0xDC00 + (c.toNat - 0x10000) % 0x400 - 0xDC00) = c.toNat := by omega
    rw [List.cons_append, List.singleton_append, decode_pair hhigh hlow, pairChar, toNat_high,
      toNat_low, hscalar, Char.ofNat_toNat]

/-- **The units of a text decode to it.** -/
theorem decode_encode (cs : List Char) : decode (encode cs) = some cs := by
  induction cs with
  | nil => rfl
  | cons c cs ih =>
    rw [encode, List.flatMap_cons, decode_encodeChar_append]
    rw [encode] at ih
    rw [ih]
    rfl

theorem encode_append (cs ds : List Char) : encode (cs ++ ds) = encode cs ++ encode ds :=
  List.flatMap_append

/-- Only U+0000 has a zero among its units. -/
theorem zero_mem_encodeChar (c : Char) : 0 ∈ encodeChar c ↔ c = Char.ofNat 0 := by
  constructor
  · intro hzero
    have hnat : c.toNat = 0 := by
      unfold encodeChar at hzero
      split at hzero
      · rename_i hone
        have hunit := congrArg UInt16.toNat (List.mem_singleton.1 hzero)
        rw [toNat_unit hone] at hunit
        exact hunit.symm
      · rcases List.mem_cons.1 hzero with hhigh | hlow
        · have hunit := congrArg UInt16.toNat hhigh
          rw [toNat_high, UInt16.toNat_zero] at hunit
          omega
        · have hunit := congrArg UInt16.toNat (List.mem_singleton.1 hlow)
          rw [toNat_low, UInt16.toNat_zero] at hunit
          omega
    rw [← hnat, Char.ofNat_toNat]
  · rintro rfl
    decide

/-- **Only U+0000 puts a zero among the units of a text.** -/
theorem zero_mem_encode (cs : List Char) : 0 ∈ encode cs ↔ Char.ofNat 0 ∈ cs := by
  rw [encode, List.mem_flatMap]
  constructor
  · rintro ⟨c, hc, hzero⟩
    rwa [← (zero_mem_encodeChar c).1 hzero]
  · intro hnul
    exact ⟨_, hnul, (zero_mem_encodeChar _).2 rfl⟩

end WireText
