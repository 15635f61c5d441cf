import FreerdpPrebuilt.Lib.Machine
import Mathlib.Data.List.Induction

/-!
# What a history says last

Promises about a running program are often about the last thing that happened:
the last down has had no up since, the list in force is the last one sent.  A
function `f` picks from each move what it says on the matter, `none` if nothing;
`latest f h` is what the history `h` says last.  A move that takes an earlier
one back says so with a value of its own.

* `latest_snoc` — one more move: it has the last word, or none.
* `latest_eq_some`, `latest_eq_none` — what the last word means: it was said, and nothing on the
  matter has been said since.
* `Machine.logged` — a machine that carries its whole history along, so that
  each move can be compared with what came before it.
-/

namespace Labelled

variable {μ β : Type*} {f : μ → Option β} {h : List μ} {b : β}

/-- The last thing `h` says, by `f`. -/
def latest (f : μ → Option β) (h : List μ) : Option β := (h.filterMap f).getLast?

@[simp] theorem latest_nil (f : μ → Option β) : latest f [] = none := rfl

/-- One more move has the last word, if it has any. -/
theorem latest_snoc (f : μ → Option β) (h : List μ) (m : μ) :
    latest f (h ++ [m]) = (f m).or (latest f h) := by
  rw [latest, latest, List.filterMap_append, List.getLast?_append]
  cases hm : f m <;> simp [hm]

theorem latest_snoc_of_none {m : μ} (hm : f m = none) : latest f (h ++ [m]) = latest f h := by
  rw [latest_snoc, hm, Option.none_or]

theorem latest_snoc_of_some {m : μ} (hm : f m = some b) : latest f (h ++ [m]) = some b := by
  rw [latest_snoc, hm, Option.some_or]

/-- Of two histories, the later one has the last word, if it has any. -/
theorem latest_append (f : μ → Option β) (h k : List μ) :
    latest f (h ++ k) = (latest f k).or (latest f h) := by
  rw [latest, latest, latest, List.filterMap_append, List.getLast?_append]

/-- A history that says nothing has no move that does. -/
theorem latest_eq_none : latest f h = none ↔ ∀ m ∈ h, f m = none := by
  rw [latest, List.getLast?_eq_none_iff, List.filterMap_eq_nil_iff]

/-- **What the last word means.**  Some move said it, and no later one had
anything to say. -/
theorem latest_eq_some : latest f h = some b ↔
    ∃ before m after, h = before ++ m :: after ∧ f m = some b ∧ ∀ k ∈ after, f k = none := by
  induction h using List.reverseRec with
  | nil => simp
  | append_singleton h m ih =>
    cases hm : f m with
    | some c =>
      rw [latest_snoc_of_some hm]
      constructor
      · intro hb
        exact ⟨h, m, [], rfl, hm.trans hb, by simp⟩
      · rintro ⟨before, k, after, hsplit, hk, hquiet⟩
        rcases Machine.split_snoc hsplit with ⟨-, -, rfl⟩ | ⟨after', rfl, -⟩
        · exact hm.symm.trans hk
        · rw [hquiet m (by simp)] at hm
          cases hm
    | none =>
      rw [latest_snoc_of_none hm, ih]
      constructor
      · rintro ⟨before, k, after, rfl, hk, hquiet⟩
        refine ⟨before, k, after ++ [m], by simp, hk, ?_⟩
        intro x hx
        rcases List.mem_append.1 hx with hx | hx
        · exact hquiet x hx
        · rw [List.mem_singleton.1 hx]
          exact hm
      · rintro ⟨before, k, after, hsplit, hk, hquiet⟩
        rcases Machine.split_snoc hsplit with ⟨-, -, rfl⟩ | ⟨after', rfl, rfl⟩
        · rw [hm] at hk
          cases hk
        · exact ⟨before, k, after', rfl, hk, fun x hx => hquiet x (by simp [hx])⟩

/-! ## A machine that carries its history -/

variable {σ α ω : Type*}

/-- The machine with everything that has happened as its history variable. -/
def Machine.logged (M : Machine σ α ω) : Machine (σ × List (Move σ α ω)) α ω :=
  M.observe [] fun log m => log ++ [m]

/-- In a logged run, a state comes with the run that led to it. -/
theorem Machine.Run.of_logged {M : Machine σ α ω}
    {h : List (Move (σ × List (Move σ α ω)) α ω)} {s : σ × List (Move σ α ω)}
    (hr : M.logged.Run h s) : M.Run s.2 s.1 := by
  induction hr with
  | nil => exact .nil
  | snoc _ hs ih =>
    obtain ⟨hstep, hlog⟩ := Machine.observe_step.1 hs
    rw [hlog]
    exact ih.snoc hstep

/-- **What holds of every run holds before every move of a logged one.** -/
theorem Machine.Run.logged_src {M : Machine σ α ω}
    {h : List (Move (σ × List (Move σ α ω)) α ω)} {s : σ × List (Move σ α ω)}
    (hr : M.logged.Run h s) {m : Move (σ × List (Move σ α ω)) α ω} (hm : m ∈ h) :
    M.Run m.src.2 m.src.1 ∧ M.step m.src.1 m.act = some (m.dst.1, m.out) := by
  obtain ⟨before, after, rfl⟩ := List.append_of_mem hm
  obtain ⟨hbefore, hs⟩ := hr.cut
  exact ⟨hbefore.of_logged, (Machine.observe_step.1 hs).1⟩

end Labelled
