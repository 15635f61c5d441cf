import Mathlib.Logic.Function.Basic
import Mathlib.Data.List.Basic
import Mathlib.Tactic.Common

/-!
# Writes made one after another, until one is refused

A store is filled from a table: each line names a key and a value, and the first that is
refused is the last that is tried.

* `run_eq_none`, `run_eq_some` — all are accepted and made, or all before one that is
  refused.
* `run_read` — in a table with no key twice, every line is what is read in the end.
-/

namespace Writes

variable {κ ν ε : Type*} [DecidableEq κ] (refuses : κ × ν → Option ε)

/-- Make the writes, up to the first that is refused. -/
def run : List (κ × ν) → (κ → ν) → (κ → ν) × Option ε
  | [], s => (s, none)
  | w :: ws, s =>
    match refuses w with
    | some e => (s, some e)
    | none => run ws (Function.update s w.1 w.2)

variable {refuses} {ws : List (κ × ν)} {s : κ → ν} {w : κ × ν} {e : ε}

theorem run_cons_of_none (h : refuses w = none) :
    run refuses (w :: ws) s = run refuses ws (Function.update s w.1 w.2) := by
  rw [run, h]

theorem run_cons_of_some (h : refuses w = some e) : run refuses (w :: ws) s = (s, some e) := by
  rw [run, h]

/-- **All goes well** if nothing is refused. -/
theorem run_eq_none : (run refuses ws s).2 = none ↔ ∀ w ∈ ws, refuses w = none := by
  induction ws generalizing s with
  | nil => simp [run]
  | cons w ws ih =>
    cases hw : refuses w with
    | none => rw [run_cons_of_none hw, ih, List.forall_mem_cons, and_iff_right hw]
    | some e =>
      rw [run_cons_of_some hw, List.forall_mem_cons, hw]
      simp

/-- **What is refused** is a line of the table, and what stands before it has been written. -/
theorem run_eq_some (h : (run refuses ws s).2 = some e) : ∃ before w after,
    ws = before ++ w :: after ∧ refuses w = some e ∧ (∀ w ∈ before, refuses w = none) ∧
      (run refuses ws s).1 = (run refuses before s).1 := by
  induction ws generalizing s with
  | nil => cases h
  | cons w ws ih =>
    cases hw : refuses w with
    | some e' =>
      rw [run_cons_of_some hw] at h ⊢
      cases h
      exact ⟨[], w, ws, rfl, hw, by simp, rfl⟩
    | none =>
      rw [run_cons_of_none hw] at h ⊢
      obtain ⟨before, w', after, rfl, hrefused, hbefore, hread⟩ := ih h
      refine ⟨w :: before, w', after, rfl, hrefused, ?_, ?_⟩
      · intro x hx
        rcases List.mem_cons.1 hx with rfl | hx
        · exact hw
        · exact hbefore x hx
      · rw [hread, run_cons_of_none hw]

/-- The error is that of the first line that has one. -/
theorem run_snd : (run refuses ws s).2 = ws.findSome? refuses := by
  induction ws generalizing s with
  | nil => rfl
  | cons w ws ih =>
    cases hw : refuses w with
    | none => rw [run_cons_of_none hw, ih, List.findSome?_cons, hw]
    | some e => rw [run_cons_of_some hw, List.findSome?_cons, hw]

/-- A key that is not in the table reads as before. -/
theorem run_of_not_mem {k : κ} (hk : k ∉ ws.map Prod.fst) : (run refuses ws s).1 k = s k := by
  induction ws generalizing s with
  | nil => rfl
  | cons w ws ih =>
    rw [List.map_cons, List.mem_cons, not_or] at hk
    cases hw : refuses w with
    | none => rw [run_cons_of_none hw, ih hk.2, Function.update_of_ne hk.1]
    | some e => rw [run_cons_of_some hw]

/-- **What is written stays**, if no key is written twice. -/
theorem run_read (hnodup : (ws.map Prod.fst).Nodup) (h : (run refuses ws s).2 = none)
    (hw : w ∈ ws) : (run refuses ws s).1 w.1 = w.2 := by
  induction ws generalizing s with
  | nil => cases hw
  | cons first ws ih =>
    have hfirst : refuses first = none := run_eq_none.1 h first List.mem_cons_self
    rw [run_cons_of_none hfirst] at h ⊢
    rw [List.map_cons, List.nodup_cons] at hnodup
    rcases List.mem_cons.1 hw with rfl | hw
    · rw [run_of_not_mem hnodup.1, Function.update_self]
    · exact ih hnodup.2 h hw

end Writes
