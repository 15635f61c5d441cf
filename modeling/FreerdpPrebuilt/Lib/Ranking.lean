import FreerdpPrebuilt.Lib.Machine
import Mathlib.Data.List.Induction

/-!
# Steps that run out

A machine among others comes to its end when its own steps use something up and
the steps of the others do not give it back.  A **rank** is a number of steps
left: a step of its own lowers it, any other step does not raise it.

* `Machine.Run.stem` — the state a run is in at any point of it.
* `Machine.Run.ranked` — from a state where the rank is meaningful, a run goes on
  for no more steps of its own than the rank says.
-/

namespace Labelled
namespace Machine

variable {σ α ω : Type*} {M : Machine σ α ω} {before after : List (Move σ α ω)} {t : σ}

/-- What a run begins with is a run. -/
theorem Run.stem (hr : M.Run (before ++ after) t) : ∃ s, M.Run before s := by
  cases after with
  | nil =>
    rw [List.append_nil] at hr
    exact ⟨t, hr⟩
  | cons m after => exact ⟨m.src, hr.cut.1⟩

/-- A run is where its last move led. -/
theorem Run.eq_last {h : List (Move σ α ω)} (hr : M.Run h t) :
    t = (h.getLast?.map Move.dst).getD M.init := by
  cases hr with
  | nil => rfl
  | snoc => simp

/-- A run is in one state. -/
theorem Run.state_unique {h : List (Move σ α ω)} {s : σ} (hr : M.Run h s) (hr' : M.Run h t) :
    s = t :=
  hr.eq_last.trans hr'.eq_last.symm

/-- **The rank rule.**  If every step from a state with `I` keeps `I`, lowers
`rank` when it is its own and never raises it, then a run that goes on from a
state with `I` takes at most as many steps of its own as the rank has fallen. -/
theorem Run.ranked {I : σ → Prop} {rank : σ → ℕ} {own : Move σ α ω → Bool}
    (hstep : ∀ s a t o, I s → M.step s a = some (t, o) →
      I t ∧ rank t + (own ⟨s, a, o, t⟩).toNat ≤ rank s)
    (hr : M.Run (before ++ after) t) {s : σ} (hbefore : M.Run before s) (hI : I s) :
    I t ∧ rank t + after.countP own ≤ rank s := by
  induction after using List.reverseRec generalizing t with
  | nil =>
    rw [List.append_nil] at hr
    obtain rfl := hr.state_unique hbefore
    exact ⟨hI, Nat.le_refl _⟩
  | append_singleton after m ih =>
    rw [← List.append_assoc] at hr
    obtain ⟨hcut, hs⟩ := hr.cut
    obtain rfl : m.dst = t := (hcut.snoc hs).state_unique hr
    obtain ⟨hsrc, hleft⟩ := ih hcut
    obtain ⟨hdst, hfall⟩ := hstep m.src m.act m.dst m.out hsrc hs
    refine ⟨hdst, ?_⟩
    have hcount : [m].countP own = (own m).toNat := by
      cases ho : own m <;> simp [ho]
    have hsame : own ⟨m.src, m.act, m.out, m.dst⟩ = own m := rfl
    rw [hsame] at hfall
    rw [List.countP_append, hcount]
    omega

end Machine
end Labelled
