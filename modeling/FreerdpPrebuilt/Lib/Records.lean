import Mathlib.Data.List.Basic
import Mathlib.Tactic.Common

/-!
# A walk over records of varying length

A table on the wire is a run of records one after the other.  Each begins with a
base of a fixed length, and the base says how long the record is.  A parser is
given the bytes, how many records to look at, and where the first one begins; it
goes on for as long as another base fits.  A record may be read as a value, or
passed over.

* `walk` is that loop, over a `Layout`: the base, and how a record at a position
  is measured and read.
* `mul_length_visits_le`: whatever the bytes, it visits no more records than bases fit.
* `walk_encode`: on the bytes of encoded records the walk stays in step with
  them, from any position, whatever stands before and behind.
-/

namespace Records

variable {α β ρ : Type*}

/-- How the records of a table are laid out. -/
structure Layout (α β : Type*) where
  /-- The length of a record's base. -/
  base : ℕ
  /-- How long the record at a position is. -/
  size : List α → ℕ → ℕ
  /-- What it is read as, if anything. -/
  read : List α → ℕ → Option β

/-! ## The walk -/

/-- The positions a walk visits: at most `n`, from one on, while a base fits. -/
def Layout.visits (L : Layout α β) (bytes : List α) : ℕ → ℕ → List ℕ
  | 0, _ => []
  | n + 1, position =>
    if bytes.length < position + L.base then []
    else position :: L.visits bytes n (position + L.size bytes position)

/-- What the walk reads. -/
def Layout.walk (L : Layout α β) (bytes : List α) (n position : ℕ) : List β :=
  (L.visits bytes n position).filterMap (L.read bytes)

variable {L : Layout α β} {bytes : List α}

theorem visits_succ_of_lt {position : ℕ} (n : ℕ) (h : bytes.length < position + L.base) :
    L.visits bytes (n + 1) position = [] := if_pos h

theorem visits_succ_of_le {position : ℕ} (n : ℕ) (h : position + L.base ≤ bytes.length) :
    L.visits bytes (n + 1) position =
      position :: L.visits bytes n (position + L.size bytes position) :=
  if_neg (Nat.not_lt.2 h)

/-- **The walk visits no more records than bases fit**, if no record is shorter
than its base. -/
theorem mul_length_visits_le (hsize : ∀ p, L.base ≤ L.size bytes p) (n position : ℕ) :
    L.base * (L.visits bytes n position).length ≤ bytes.length - position := by
  induction n generalizing position with
  | zero => exact Nat.zero_le _
  | succ n ih =>
    by_cases hfits : bytes.length < position + L.base
    · rw [visits_succ_of_lt n hfits]
      exact Nat.zero_le _
    · have hnext := ih (position + L.size bytes position)
      have hstep := hsize position
      rw [visits_succ_of_le n (Nat.not_lt.1 hfits), List.length_cons, Nat.mul_succ]
      omega

/-! ## Encoded records -/

/-- An encoding of records that a layout fits: wherever a record stands, it is
measured and read as itself. -/
structure Encodes (L : Layout α β) (encode : ρ → List α) (value : ρ → Option β) : Prop where
  base_le : ∀ r, L.base ≤ (encode r).length
  size : ∀ before r after, L.size (before ++ (encode r ++ after)) before.length = (encode r).length
  read : ∀ before r after, L.read (before ++ (encode r ++ after)) before.length = value r

variable {encode : ρ → List α} {value : ρ → Option β}

/-- **The walk stays in step with the records.**  It reads the first `n`, or all of
them if no other base fits behind them. -/
theorem walk_encode (hL : Encodes L encode value) (records : List ρ) (before after : List α)
    (n : ℕ) (hn : n ≤ records.length ∨ after.length < L.base) :
    L.walk (before ++ (records.flatMap encode ++ after)) n before.length =
      (records.take n).filterMap value := by
  induction records generalizing before n with
  | nil =>
    cases n with
    | zero => rfl
    | succ n =>
      have hend : (before ++ (([] : List ρ).flatMap encode ++ after)).length <
          before.length + L.base := by
        have hafter := hn.resolve_left (Nat.not_succ_le_zero n)
        simpa using hafter
      rw [Layout.walk, visits_succ_of_lt n hend]
      rfl
  | cons r records ih =>
    cases n with
    | zero => rfl
    | succ n =>
      have hrest := ih (before ++ encode r) n (hn.imp_left Nat.le_of_succ_le_succ)
      rw [List.length_append, List.append_assoc, ← List.append_assoc (encode r)] at hrest
      rw [List.flatMap_cons, List.take_succ_cons, List.filterMap_cons]
      generalize htail : encode r ++ records.flatMap encode ++ after = tail at hrest ⊢
      have htail : tail = encode r ++ (records.flatMap encode ++ after) := by
        rw [← htail, List.append_assoc]
      have hfits : before.length + L.base ≤ (before ++ tail).length := by
        have hbase := hL.base_le r
        rw [htail, List.length_append, List.length_append]
        omega
      have hsize : L.size (before ++ tail) before.length = (encode r).length := by
        rw [htail]
        exact hL.size before r _
      have hread : L.read (before ++ tail) before.length = value r := by
        rw [htail]
        exact hL.read before r _
      rw [Layout.walk, visits_succ_of_le n hfits, List.filterMap_cons, hread, hsize]
      rw [Layout.walk] at hrest
      rw [hrest]

end Records
