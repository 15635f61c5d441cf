import Mathlib.Data.List.Basic
import Mathlib.Tactic.Common
import Mathlib.Tactic.Ring
import Mathlib.Tactic.Linarith

/-!
# Rectangles in strided buffers

A picture of rows lies in a flat buffer, one row every `stride` elements.  A
rectangle of it is a stretch of each of some consecutive rows: from `left`, `n`
elements, in the rows `first`, `first + 1`, and so on.

* `copy` — overwrite a stretch of one buffer by a stretch of another, if both
  are there.
* `copyRows` — do so row by row, between buffers of different strides.
* `copyRows_spec` — when both rectangles lie in their buffers, every element of
  the one becomes that of the other, and nothing else changes.
* `slice` — read a stretch, if it is there.

Both partial operations answer `none` where the buffer does not reach, so that
being in bounds is something to prove.
-/

namespace Strided

variable {α : Type*}

/-- Overwrite the `n` elements of `dst` from `d` by those of `src` from `s`. -/
def copy (src dst : List α) (s d n : ℕ) : Option (List α) :=
  if s + n ≤ src.length ∧ d + n ≤ dst.length then
    some (dst.take d ++ (src.drop s).take n ++ dst.drop (d + n))
  else none

/-- Read the elements from `s` up to `e`. -/
def slice (l : List α) (s e : ℕ) : Option (List α) :=
  if s ≤ e ∧ e ≤ l.length then some ((l.drop s).take (e - s)) else none

theorem exists_copy {src dst : List α} {s d n : ℕ} (hs : s + n ≤ src.length)
    (hd : d + n ≤ dst.length) : ∃ r, copy src dst s d n = some r :=
  ⟨_, if_pos ⟨hs, hd⟩⟩

theorem length_of_copy {src dst r : List α} {s d n : ℕ} (h : copy src dst s d n = some r) :
    r.length = dst.length := by
  unfold copy at h
  split_ifs at h with hb
  obtain rfl := Option.some.inj h
  simp only [List.length_append, List.length_take, List.length_drop]
  omega

/-- What a copy leaves in each place. -/
theorem getElem?_of_copy {src dst r : List α} {s d n : ℕ} (h : copy src dst s d n = some r)
    (i : ℕ) : r[i]? = if d ≤ i ∧ i < d + n then src[s + (i - d)]? else dst[i]? := by
  unfold copy at h
  split_ifs at h with hb
  obtain rfl := Option.some.inj h
  obtain ⟨hs, hd⟩ := hb
  have htake : (dst.take d).length = d := by
    rw [List.length_take]
    omega
  have hmid : (dst.take d ++ (src.drop s).take n).length = d + n := by
    rw [List.length_append, htake, List.length_take, List.length_drop]
    omega
  by_cases hlow : i < d
  · rw [if_neg (by omega), List.getElem?_append_left (by omega),
      List.getElem?_append_left (by omega), List.getElem?_take_of_lt hlow]
  · by_cases hin : i < d + n
    · rw [if_pos (by omega), List.getElem?_append_left (by omega),
        List.getElem?_append_right (by omega), htake, List.getElem?_take_of_lt (by omega),
        List.getElem?_drop]
    · rw [if_neg (by omega), List.getElem?_append_right (by omega), hmid, List.getElem?_drop]
      congr 1
      omega

theorem slice_eq {l : List α} {s e : ℕ} (hse : s ≤ e) (he : e ≤ l.length) :
    slice l s e = some ((l.drop s).take (e - s)) := if_pos ⟨hse, he⟩

/-! ## Row by row -/

/-- The end of a row's stretch lies before the end of the row. -/
theorem stretch_le {stride left n row rows : ℕ} (hl : left + n ≤ stride) (hr : row < rows) :
    row * stride + left + n ≤ rows * stride := by
  have hrow : (row + 1) * stride ≤ rows * stride := Nat.mul_le_mul_right _ hr
  have hsucc : (row + 1) * stride = row * stride + stride := by ring
  omega

/-- Copy `n` elements a row, each row from the place `s` gives to the place `d`
gives. -/
def copyRows (src dst : List α) (s d : ℕ → ℕ) (n rows : ℕ) : Option (List α) :=
  (List.range rows).foldlM (fun dst row => copy src dst (s row) (d row) n) dst

/-- **A rectangle is copied, and nothing else.**  The places are those of the
rows from `first`, at `left`; both strides leave room for the stretch, and both
buffers for the rows. -/
theorem copyRows_spec {src dst : List α} {s d : ℕ → ℕ} {ss ds first left n rows : ℕ}
    (hs : ∀ row < rows, s row = (first + row) * ss + left)
    (hd : ∀ row < rows, d row = (first + row) * ds + left) (hss : left + n ≤ ss)
    (hds : left + n ≤ ds) (hsrc : (first + rows) * ss ≤ src.length)
    (hdst : (first + rows) * ds ≤ dst.length) :
    ∃ r, copyRows src dst s d n rows = some r ∧ r.length = dst.length ∧
      (∀ row j, row < rows → j < n →
        r[(first + row) * ds + left + j]? = src[(first + row) * ss + left + j]?) ∧
      ∀ i, (∀ row j, row < rows → j < n → i ≠ (first + row) * ds + left + j) →
        r[i]? = dst[i]? := by
  induction rows with
  | zero => exact ⟨dst, rfl, rfl, fun row j hr => absurd hr (Nat.not_lt_zero row), fun _ _ => rfl⟩
  | succ k ih =>
    have hmono : ∀ stride, (first + k) * stride ≤ (first + (k + 1)) * stride :=
      fun stride => Nat.mul_le_mul_right stride (by omega)
    obtain ⟨r, hr, hlen, hin, hout⟩ := ih (fun row hrow => hs row (by omega))
      (fun row hrow => hd row (by omega)) (le_trans (hmono ss) hsrc) (le_trans (hmono ds) hdst)
    have hlast : first + k < first + (k + 1) := by omega
    have hfrom : (first + k) * ss + left + n ≤ src.length := le_trans (stretch_le hss hlast) hsrc
    have hto : (first + k) * ds + left + n ≤ r.length := by
      rw [hlen]
      exact le_trans (stretch_le hds hlast) hdst
    obtain ⟨r', hr'⟩ := exists_copy hfrom hto
    refine ⟨r', ?_, (length_of_copy hr').trans hlen, ?_, ?_⟩
    · rw [copyRows, List.range_succ, List.foldlM_append]
      rw [copyRows] at hr
      rw [hr]
      simp [hs k (by omega), hd k (by omega), hr']
    · intro row j hrow hj
      rw [getElem?_of_copy hr']
      by_cases hk : row = k
      · subst hk
        rw [if_pos (by omega)]
        congr 1
        omega
      · have hne : ¬ ((first + k) * ds + left ≤ (first + row) * ds + left + j ∧
            (first + row) * ds + left + j < (first + k) * ds + left + n) := by
          rintro ⟨hlow, -⟩
          have := stretch_le hds (show first + row < first + k by omega)
          omega
        rw [if_neg hne]
        exact hin row j (by omega) hj
    · intro i hi
      have hnot : ¬ ((first + k) * ds + left ≤ i ∧ i < (first + k) * ds + left + n) := by
        rintro ⟨hlow, hhigh⟩
        refine hi k (i - ((first + k) * ds + left)) (by omega) (by omega) ?_
        omega
      rw [getElem?_of_copy hr', if_neg hnot]
      exact hout i fun row j hrow hj => hi row j (by omega) hj

/-- What a slice holds. -/
theorem getElem?_of_slice {l r : List α} {s e : ℕ} (h : slice l s e = some r) :
    r.length = e - s ∧ ∀ j, j < e - s → r[j]? = l[s + j]? := by
  unfold slice at h
  split_ifs at h with hb
  obtain rfl := Option.some.inj h
  refine ⟨?_, ?_⟩
  · rw [List.length_take, List.length_drop]
    omega
  · intro j hj
    rw [List.getElem?_take_of_lt hj, List.getElem?_drop]

end Strided
