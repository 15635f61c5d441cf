import Mathlib.Data.List.Basic
import Mathlib.Tactic.Common

/-!
# Labelled machines, their runs, and history variables

A program that reacts to calls is a **machine**: an initial state and a partial
step function that takes an action to a new state and the list of things the
world sees happen on the way.  A run is recorded move by move, so that what is
claimed of a run can speak of the states it passes through, of the actions it
was given and of what was observed.

* `Machine.Run` — the runs, and `Machine.exec` — the function that computes one
  from a list of actions.
* `Machine.Run.invariant` — what every step preserves holds in every state
  reached.
* `Machine.Run.guarded` — the same for runs whose moves all meet a condition,
  the form in which "the program is right as long as …" is stated.
* `Machine.Run.promise_iff` — the form in which "exactly as long as …" is, for a
  promise about moves; `guarded_iff` is the case of an invariant.
* `Machine.observe` — a machine with a **history variable**: a value computed
  from the moves and read by nobody.  `Run.forget` and `Run.record` say that it
  adds and removes no runs.
* `Machine.Run.simulate` — every run of one machine is a run of another one
  that shows the same.
-/

namespace Labelled

variable {σ α ω γ : Type*}

/-- One recorded step of a machine: the state it was taken in, the action, what
the world saw, and the state it led to. -/
structure Move (σ α ω : Type*) where
  /-- The state before. -/
  src : σ
  /-- The action. -/
  act : α
  /-- What was observed, in order. -/
  out : List ω
  /-- The state after. -/
  dst : σ

/-- A deterministic labelled machine.  All choice is in the actions; an action
that cannot happen in a state has no step there. -/
structure Machine (σ α ω : Type*) where
  /-- The state every run starts in. -/
  init : σ
  /-- The state an action leads to, with what is observed. -/
  step : σ → α → Option (σ × List ω)

namespace Machine

/-- `M.Run h s`: the moves `h`, in order, lead from the initial state to `s`. -/
inductive Run (M : Machine σ α ω) : List (Move σ α ω) → σ → Prop
  | nil : Run M [] M.init
  | snoc {h : List (Move σ α ω)} {s t : σ} {a : α} {o : List ω} : Run M h s →
      M.step s a = some (t, o) → Run M (h ++ [⟨s, a, o, t⟩]) t

/-- Continue a run by a list of actions, as long as each of them can happen. -/
def execFrom (M : Machine σ α ω) (h : List (Move σ α ω)) (s : σ) :
    List α → Option (List (Move σ α ω) × σ)
  | [] => some (h, s)
  | a :: as =>
    match M.step s a with
    | none => none
    | some (t, o) => M.execFrom (h ++ [⟨s, a, o, t⟩]) t as

/-- The run a list of actions makes. -/
def exec (M : Machine σ α ω) (as : List α) : Option (List (Move σ α ω) × σ) :=
  M.execFrom [] M.init as

variable {M : Machine σ α ω} {h : List (Move σ α ω)} {s : σ}

theorem run_of_execFrom {as : List α} {r : List (Move σ α ω) × σ} (hr : M.Run h s)
    (he : M.execFrom h s as = some r) : M.Run r.1 r.2 := by
  induction as generalizing h s with
  | nil => cases he; exact hr
  | cons a as ih =>
    rw [execFrom] at he
    cases hs : M.step s a with
    | none => rw [hs] at he; simp at he
    | some r' => rw [hs] at he; exact ih (hr.snoc hs) he

/-- What `exec` computes is a run. -/
theorem run_of_exec {as : List α} {r : List (Move σ α ω) × σ} (he : M.exec as = some r) :
    M.Run r.1 r.2 :=
  run_of_execFrom .nil he

/-- The run a list of actions makes, once it is known to make one. -/
theorem run_get (M : Machine σ α ω) (as : List α) (he : (M.exec as).isSome = true) :
    M.Run ((M.exec as).get he).1 ((M.exec as).get he).2 :=
  run_of_exec (Option.some_get he).symm

/-- Where a list that goes on is cut: at its end, or before it. -/
theorem split_snoc {μ : Type*} {l before after : List μ} {x m : μ}
    (hh : l ++ [x] = before ++ m :: after) :
    (after = [] ∧ before = l ∧ m = x) ∨
      ∃ after', after = after' ++ [x] ∧ l = before ++ m :: after' := by
  rcases List.eq_nil_or_concat' after with rfl | ⟨after', last, rfl⟩
  · obtain ⟨rfl, hlast⟩ := List.append_inj' hh rfl
    exact .inl ⟨rfl, rfl, (List.singleton_inj.1 hlast).symm⟩
  · rw [← List.cons_append, ← List.append_assoc] at hh
    obtain ⟨rfl, hlast⟩ := List.append_inj' hh rfl
    obtain rfl := List.singleton_inj.1 hlast
    exact .inr ⟨after', rfl, rfl⟩

namespace Run

/-- Every recorded move is a step of the machine. -/
theorem step_of_mem (hr : M.Run h s) : ∀ m ∈ h, M.step m.src m.act = some (m.dst, m.out) := by
  induction hr with
  | nil => simp
  | snoc hr hs ih =>
    intro m hm
    rcases List.mem_append.1 hm with hm | hm
    · exact ih m hm
    · rw [List.mem_singleton.1 hm]; exact hs

/-- A run can be cut at any of its moves. -/
theorem cut {before after : List (Move σ α ω)} {m : Move σ α ω}
    (hr : M.Run (before ++ m :: after) s) :
    M.Run before m.src ∧ M.step m.src m.act = some (m.dst, m.out) := by
  generalize hh : before ++ m :: after = h at hr
  induction hr generalizing after with
  | nil => simp at hh
  | snoc hr hs ih =>
    rcases split_snoc hh.symm with ⟨-, rfl, rfl⟩ | ⟨after', -, heq⟩
    · exact ⟨hr, hs⟩
    · exact ih heq.symm

/-- **The invariant rule.**  What holds at the start and is preserved by every
step holds in every state reached. -/
theorem invariant {I : σ → Prop} (hinit : I M.init)
    (hstep : ∀ s a t o, I s → M.step s a = some (t, o) → I t) (hr : M.Run h s) : I s := by
  induction hr with
  | nil => exact hinit
  | snoc _ hs ih => exact hstep _ _ _ _ ih hs

/-- **The invariant rule under a condition.**  If every step whose move meets
`g` preserves `I`, then `I` holds at both ends of every move of a run whose
moves all meet `g`, and at its end. -/
theorem guarded {I : σ → Prop} {g : Move σ α ω → Prop} (hinit : I M.init)
    (hstep : ∀ s a t o, I s → M.step s a = some (t, o) → g ⟨s, a, o, t⟩ → I t)
    (hr : M.Run h s) (hg : ∀ m ∈ h, g m) : I s ∧ ∀ m ∈ h, I m.src ∧ I m.dst := by
  induction hr with
  | nil => exact ⟨hinit, by simp⟩
  | snoc _ hs ih =>
    obtain ⟨hI, hall⟩ := ih fun m hm => hg m (List.mem_append_left _ hm)
    have hnext := hstep _ _ _ _ hI hs (hg _ (by simp))
    refine ⟨hnext, fun m hm => ?_⟩
    rcases List.mem_append.1 hm with hm | hm
    · exact hall m hm
    · rw [List.mem_singleton.1 hm]; exact ⟨hI, hnext⟩

/-- **The exact condition for a promise.**  Suppose that a move from a state with
`I` keeps the promise `P` exactly when it meets `g`, and that keeping it leads to
a state with `I`.  Then all moves of a run keep the promise if and only if all
meet `g`. -/
theorem promise_iff {I : σ → Prop} {P g : Move σ α ω → Prop} (hinit : I M.init) (hr : M.Run h s)
    (hkeep : ∀ m ∈ h, M.step m.src m.act = some (m.dst, m.out) → I m.src → P m → I m.dst)
    (hstep : ∀ m ∈ h, M.step m.src m.act = some (m.dst, m.out) → I m.src → (P m ↔ g m)) :
    (∀ m ∈ h, P m) ↔ ∀ m ∈ h, g m := by
  suffices hboth : ((∀ m ∈ h, P m) → I s) ∧ ((∀ m ∈ h, P m) ↔ ∀ m ∈ h, g m) from hboth.2
  induction hr with
  | nil => simpa using hinit
  | @snoc h s t a o hr hs ih =>
    have hnext := hkeep ⟨s, a, o, t⟩ (by simp) hs
    have hlast := hstep ⟨s, a, o, t⟩ (by simp) hs
    obtain ⟨hend, hiff⟩ := ih (fun m hm => hkeep m (List.mem_append_left _ hm))
      fun m hm => hstep m (List.mem_append_left _ hm)
    simp only [List.forall_mem_append, List.forall_mem_singleton]
    refine ⟨fun hall => hnext (hend hall.1) hall.2, ?_, ?_⟩
    · rintro ⟨hall, hP⟩
      exact ⟨hiff.1 hall, (hlast (hend hall)).1 hP⟩
    · rintro ⟨hall, hg⟩
      have hbefore := hiff.2 hall
      exact ⟨hbefore, (hlast (hend hbefore)).2 hg⟩

/-- **The exact condition for an invariant.**  If from a state with `I` a move
leads to one with `I` exactly when it meets `g`, then `I` holds after every move
of a run if and only if all its moves meet `g`. -/
theorem guarded_iff {I : σ → Prop} {g : Move σ α ω → Prop} (hinit : I M.init) (hr : M.Run h s)
    (hstep : ∀ m ∈ h, M.step m.src m.act = some (m.dst, m.out) → I m.src → (I m.dst ↔ g m)) :
    (∀ m ∈ h, I m.dst) ↔ ∀ m ∈ h, g m :=
  hr.promise_iff hinit (fun _ _ _ _ hdst => hdst) hstep

/-- An invariant of a machine holds at both ends of every move of a run. -/
theorem invariant_mem {I : σ → Prop} (hinit : I M.init)
    (hstep : ∀ s a t o, I s → M.step s a = some (t, o) → I t) (hr : M.Run h s) :
    ∀ m ∈ h, I m.src ∧ I m.dst :=
  (guarded (g := fun _ => True) hinit (fun s a t o hI hs _ => hstep s a t o hI hs) hr
    fun _ _ => trivial).2

end Run

/-! ## History variables -/

/-- The machine with a history variable `γ`, updated from each move by `see`. -/
def observe (M : Machine σ α ω) (g₀ : γ) (see : γ → Move σ α ω → γ) : Machine (σ × γ) α ω where
  init := (M.init, g₀)
  step s a := (M.step s.1 a).map fun r => ((r.1, see s.2 ⟨s.1, a, r.2, r.1⟩), r.2)

theorem observe_step {g₀ : γ} {see : γ → Move σ α ω → γ} {s t : σ × γ} {a : α} {o : List ω} :
    (M.observe g₀ see).step s a = some (t, o) ↔
      M.step s.1 a = some (t.1, o) ∧ t.2 = see s.2 ⟨s.1, a, o, t.1⟩ := by
  obtain ⟨t, g⟩ := t
  cases hs : M.step s.1 a with
  | none => simp [observe, hs]
  | some r =>
    obtain ⟨t', o'⟩ := r
    simp only [observe, hs, Option.map_some, Option.some.injEq, Prod.mk.injEq]
    constructor
    · rintro ⟨⟨rfl, rfl⟩, rfl⟩; exact ⟨⟨rfl, rfl⟩, rfl⟩
    · rintro ⟨⟨rfl, rfl⟩, rfl⟩; exact ⟨⟨rfl, rfl⟩, rfl⟩

end Machine

/-- A move with its history variable dropped. -/
def Move.forget (m : Move (σ × γ) α ω) : Move σ α ω := ⟨m.src.1, m.act, m.out, m.dst.1⟩

namespace Machine

variable {M : Machine σ α ω} {g₀ : γ} {see : γ → Move σ α ω → γ}

/-- Dropping the history variable leaves a run of the machine itself. -/
theorem Run.forget {h : List (Move (σ × γ) α ω)} {s : σ × γ} (hr : (M.observe g₀ see).Run h s) :
    M.Run (h.map Move.forget) s.1 := by
  induction hr with
  | nil => exact .nil
  | snoc _ hs ih =>
    rw [List.map_append]
    exact ih.snoc (observe_step.1 hs).1

/-- Every run of the machine can be made with the history variable on. -/
theorem Run.record {h : List (Move σ α ω)} {s : σ} (hr : M.Run h s) :
    ∃ h' g, (M.observe g₀ see).Run h' (s, g) ∧ h'.map Move.forget = h := by
  induction hr with
  | nil => exact ⟨[], g₀, .nil, rfl⟩
  | @snoc h s t a o _ hs ih =>
    obtain ⟨h', g, hr', rfl⟩ := ih
    have hnext : (M.observe g₀ see).step (s, g) a = some ((t, see g ⟨s, a, o, t⟩), o) :=
      observe_step.2 ⟨hs, rfl⟩
    exact ⟨_, _, hr'.snoc hnext, by simp [Move.forget]⟩

/-! ## Traces and simulation -/

/-- Everything observed in a run, in order. -/
def trace (h : List (Move σ α ω)) : List ω := h.flatMap Move.out

@[simp] theorem trace_nil : trace ([] : List (Move σ α ω)) = [] := rfl

@[simp] theorem trace_snoc (h : List (Move σ α ω)) (m : Move σ α ω) :
    trace (h ++ [m]) = trace h ++ m.out := by
  simp [trace]

/-- **The simulation rule.**  If each step of `M` from a state with `I` is,
through `f` and `g`, a step of `N` or no change to `N` at all, then every run of
`M` is a run of `N` that shows the same. -/
theorem Run.simulate {σ' α' ω' : Type*} {N : Machine σ' α' ω'} {I : σ → Prop} {f : σ → σ'}
    {g : ω → Option ω'} (hinit : f M.init = N.init) (hI : ∀ h s, M.Run h s → I s)
    (hstep : ∀ s a t o, I s → M.step s a = some (t, o) →
      (f t = f s ∧ o.filterMap g = []) ∨ ∃ b, N.step (f s) b = some (f t, o.filterMap g))
    {h : List (Move σ α ω)} {s : σ} (hr : M.Run h s) :
    ∃ h', N.Run h' (f s) ∧ trace h' = (trace h).filterMap g := by
  induction hr with
  | nil =>
    rw [hinit]
    exact ⟨[], .nil, rfl⟩
  | @snoc h s t a o hr hs ih =>
    obtain ⟨h', hr', htrace⟩ := ih
    rcases hstep s a t o (hI h s hr) hs with ⟨hsame, hquiet⟩ | ⟨b, hb⟩
    · refine ⟨h', by rw [hsame]; exact hr', ?_⟩
      rw [trace_snoc, List.filterMap_append, hquiet, List.append_nil, htrace]
    · refine ⟨_, hr'.snoc hb, ?_⟩
      rw [trace_snoc, trace_snoc, List.filterMap_append, htrace]

end Machine

end Labelled
