import FreerdpPrebuilt.Lib.Machine
import Mathlib.Algebra.Order.Group.Multiset
import Mathlib.Logic.Function.Basic

/-!
# Allocations and their owners

Memory that passes through foreign hands as raw pointers is freed by whoever was
told to free it, or by nobody.  Here an allocation is a **block** with a number
of owners: a box has one owner for as long as it lives, a reference-counted block
as many as there are counted references to it.  Blocks are numbered as they are
made and a number is never used again, so that a pointer to a block that is gone
stays one.

* `Heap.run` — what a list of events does to a heap, or `none` at the first
  memory fault: a use or a release of what is not alive, a number used twice.
* `Accounts` — the owners a program can point at are the owners there are.
* `Triple` — the rules for keeping the accounts: a list of events takes one set
  of references to another, without a fault, whatever the heap.
* `run_of_triples` — a machine whose steps keep the accounts has no memory
  fault in any run, and in every state reached what is alive is what the state
  owns: nothing is freed early, and nothing leaks.
-/

namespace Ownership

open Labelled

/-- One block: not made yet, alive with this many owners besides one, or gone. -/
inductive Cell
  | fresh
  | held (others : ℕ)
  | freed
  deriving DecidableEq, Repr

/-- How many owners a block has. -/
def Cell.owners : Cell → ℕ
  | .held others => others + 1
  | .fresh | .freed => 0

/-- What a program does with its memory. -/
inductive Event
  /-- A block is made, with one owner. -/
  | alloc (block : ℕ)
  /-- A counted reference to a block is made from another. -/
  | retain (block : ℕ)
  /-- One owner gives a block up; with the last one it is freed. -/
  | release (block : ℕ)
  /-- A block is read or written. -/
  | access (block : ℕ)
  deriving DecidableEq, Repr

abbrev Heap := ℕ → Cell

/-- No block has been made. -/
def Heap.empty : Heap := fun _ => .fresh

/-- One event, or `none` for a memory fault. -/
def Heap.after (hp : Heap) : Event → Option Heap
  | .alloc b => if hp b = .fresh then some (Function.update hp b (.held 0)) else none
  | .retain b =>
    match hp b with
    | .held n => some (Function.update hp b (.held (n + 1)))
    | _ => none
  | .release b =>
    match hp b with
    | .held 0 => some (Function.update hp b .freed)
    | .held (n + 1) => some (Function.update hp b (.held n))
    | _ => none
  | .access b =>
    match hp b with
    | .held _ => some hp
    | _ => none

/-- A list of events, up to the first memory fault. -/
def Heap.run : Heap → List Event → Option Heap
  | hp, [] => some hp
  | hp, e :: es =>
    match hp.after e with
    | none => none
    | some hp' => hp'.run es

theorem Heap.run_append (hp : Heap) (es es' : List Event) :
    hp.run (es ++ es') = (hp.run es).bind fun hp' => hp'.run es' := by
  induction es generalizing hp with
  | nil => rfl
  | cons e es ih =>
    simp only [List.cons_append, Heap.run]
    cases hp.after e with
    | none => rfl
    | some hp' => exact ih hp'

/-- A block that no counted reference is made to has one owner at most. -/
theorem Heap.owners_le_one {hp hp' : Heap} {es : List Event} {b : ℕ} (hes : .retain b ∉ es)
    (hone : (hp b).owners ≤ 1) (hrun : hp.run es = some hp') : (hp' b).owners ≤ 1 := by
  induction es generalizing hp with
  | nil =>
    cases hrun
    exact hone
  | cons e es ih =>
    rw [List.mem_cons, not_or] at hes
    rw [Heap.run] at hrun
    cases he : hp.after e with
    | none =>
      rw [he] at hrun
      cases hrun
    | some hp₁ =>
      rw [he] at hrun
      refine ih hes.2 ?_ hrun
      cases e with
      | alloc c =>
        simp only [Heap.after] at he
        split_ifs at he with hfresh
        cases he
        by_cases hc : b = c
        · subst hc
          simp [Cell.owners]
        · rw [Function.update_of_ne hc]
          exact hone
      | retain c =>
        have hc : b ≠ c := fun hc => hes.1 (by rw [hc])
        simp only [Heap.after] at he
        split at he
        · cases he
          rw [Function.update_of_ne hc]
          exact hone
        · cases he
      | release c =>
        by_cases hc : b = c
        · subst hc
          simp only [Heap.after] at he
          split at he
          · cases he
            simp [Cell.owners]
          · next n hheld =>
            rw [hheld, Cell.owners] at hone
            omega
          · cases he
        · simp only [Heap.after] at he
          split at he
          · cases he
            rw [Function.update_of_ne hc]
            exact hone
          · cases he
            rw [Function.update_of_ne hc]
            exact hone
          · cases he
      | access c =>
        simp only [Heap.after] at he
        split at he
        · cases he
          exact hone
        · cases he

/-! ## The accounts -/

/-- The references `refs` account for every owner there is, and no block from
`next` on has been made. -/
structure Accounts (refs : Multiset ℕ) (next : ℕ) (hp : Heap) : Prop where
  owners : ∀ b, (hp b).owners = refs.count b
  unmade : ∀ b, next ≤ b → hp b = .fresh

variable {refs refs' refs'' : Multiset ℕ} {next next' next'' : ℕ} {hp : Heap}

/-- What is referred to is alive. -/
theorem Accounts.held {b : ℕ} (ha : Accounts refs next hp) (hb : b ∈ refs) :
    ∃ others, hp b = .held others := by
  have hpos : 0 < (hp b).owners := by rw [ha.owners]; exact Multiset.count_pos.2 hb
  cases hc : hp b with
  | held others => exact ⟨others, rfl⟩
  | fresh => rw [hc] at hpos; exact absurd hpos (lt_irrefl 0)
  | freed => rw [hc] at hpos; exact absurd hpos (lt_irrefl 0)

/-- **Nothing leaks.**  What is alive is referred to. -/
theorem Accounts.mem_of_held {b others : ℕ} (ha : Accounts refs next hp)
    (hb : hp b = .held others) : b ∈ refs := by
  refine Multiset.count_pos.1 ?_
  rw [← ha.owners, hb]
  exact Nat.succ_pos others

theorem Accounts.empty : Accounts 0 0 Heap.empty := ⟨fun _ => rfl, fun _ _ => rfl⟩

/-! ## The rules -/

/-- From any heap accounted for by `refs`, the events go without a fault and
leave one accounted for by `refs'`. -/
def Triple (refs : Multiset ℕ) (next : ℕ) (es : List Event) (refs' : Multiset ℕ) (next' : ℕ) :
    Prop :=
  ∀ hp, Accounts refs next hp → ∃ hp', hp.run es = some hp' ∧ Accounts refs' next' hp'

theorem Triple.skip (refs : Multiset ℕ) (next : ℕ) : Triple refs next [] refs next :=
  fun hp ha => ⟨hp, rfl, ha⟩

/-- One event after another. -/
theorem Triple.append {es es' : List Event} (h : Triple refs next es refs' next')
    (h' : Triple refs' next' es' refs'' next'') : Triple refs next (es ++ es') refs'' next'' := by
  intro hp ha
  obtain ⟨hp', hrun, ha'⟩ := h hp ha
  obtain ⟨hp'', hrun', ha''⟩ := h' hp' ha'
  exact ⟨hp'', by rw [Heap.run_append, hrun]; exact hrun', ha''⟩

theorem Triple.cons {e : Event} {es : List Event} (h : Triple refs next [e] refs' next')
    (h' : Triple refs' next' es refs'' next'') : Triple refs next (e :: es) refs'' next'' :=
  h.append h'

/-- The references may be listed in any order. -/
theorem Triple.congr {es : List Event} (h : Triple refs next es refs' next') {r r' : Multiset ℕ}
    (hr : r = refs) (hr' : refs' = r') : Triple r next es r' next' := by
  rw [hr, ← hr']
  exact h

/-- A single event that the heap has an answer to. -/
theorem Triple.of_after {e : Event}
    (h : ∀ hp, Accounts refs next hp → ∃ hp', hp.after e = some hp' ∧ Accounts refs' next' hp') :
    Triple refs next [e] refs' next' := by
  intro hp ha
  obtain ⟨hp', hafter, ha'⟩ := h hp ha
  exact ⟨hp', by simp [Heap.run, hafter], ha'⟩

/-- A block can be read as long as somebody refers to it. -/
theorem Triple.access {b : ℕ} (hb : b ∈ refs) : Triple refs next [.access b] refs next := by
  refine .of_after fun hp ha => ⟨hp, ?_, ha⟩
  obtain ⟨others, hheld⟩ := ha.held hb
  simp [Heap.after, hheld]

/-- So can several. -/
theorem Triple.accesses {bs : List ℕ} (hbs : ∀ b ∈ bs, b ∈ refs) :
    Triple refs next (bs.map .access) refs next := by
  induction bs with
  | nil => exact .skip refs next
  | cons b bs ih =>
    obtain ⟨hb, hrest⟩ := List.forall_mem_cons.1 hbs
    exact (Triple.access hb).cons (ih hrest)

/-- A new block has the next number, and one owner. -/
theorem Triple.alloc (refs : Multiset ℕ) (next : ℕ) :
    Triple refs next [.alloc next] (next ::ₘ refs) (next + 1) := by
  refine .of_after fun hp ha => ⟨Function.update hp next (.held 0), ?_, ?_, ?_⟩
  · simp [Heap.after, ha.unmade next le_rfl]
  · intro b
    by_cases hb : b = next
    · subst hb
      have hzero : refs.count b = 0 := by rw [← ha.owners, ha.unmade b le_rfl]; rfl
      simp [Cell.owners, hzero]
    · rw [Function.update_of_ne hb, ha.owners, Multiset.count_cons_of_ne hb]
  · intro b hb
    rw [Function.update_of_ne (by omega)]
    exact ha.unmade b (by omega)

/-- A counted reference is made from another. -/
theorem Triple.retain {b : ℕ} (hb : b ∈ refs) :
    Triple refs next [.retain b] (b ::ₘ refs) next := by
  refine .of_after fun hp ha => ?_
  obtain ⟨others, hheld⟩ := ha.held hb
  refine ⟨Function.update hp b (.held (others + 1)), by simp [Heap.after, hheld], ?_, ?_⟩
  · intro c
    by_cases hc : c = b
    · subst hc
      have hcount := ha.owners c
      rw [hheld] at hcount
      rw [Function.update_self, Multiset.count_cons_self, ← hcount]
      rfl
    · rw [Function.update_of_ne hc, ha.owners, Multiset.count_cons_of_ne hc]
  · intro c hc
    have hne : c ≠ b := by
      rintro rfl
      rw [ha.unmade c hc] at hheld
      cases hheld
    rw [Function.update_of_ne hne]
    exact ha.unmade c hc

/-- An owner gives its reference up. -/
theorem Triple.release (b : ℕ) (refs : Multiset ℕ) (next : ℕ) :
    Triple (b ::ₘ refs) next [.release b] refs next := by
  refine .of_after fun hp ha => ?_
  obtain ⟨others, hheld⟩ := ha.held (Multiset.mem_cons_self b refs)
  have hcount := ha.owners b
  rw [hheld, Multiset.count_cons_self] at hcount
  have hunmade : ∀ c, next ≤ c → c ≠ b := by
    rintro c hc rfl
    rw [ha.unmade c hc] at hheld
    cases hheld
  cases others with
  | zero =>
    refine ⟨Function.update hp b .freed, by simp [Heap.after, hheld], fun c => ?_, fun c hc => ?_⟩
    · by_cases hc : c = b
      · subst hc
        rw [Function.update_self]
        exact Nat.succ.inj hcount
      · rw [Function.update_of_ne hc, ha.owners, Multiset.count_cons_of_ne hc]
    · rw [Function.update_of_ne (hunmade c hc)]
      exact ha.unmade c hc
  | succ n =>
    refine ⟨Function.update hp b (.held n), by simp [Heap.after, hheld], fun c => ?_,
      fun c hc => ?_⟩
    · by_cases hc : c = b
      · subst hc
        rw [Function.update_self]
        exact Nat.succ.inj hcount
      · rw [Function.update_of_ne hc, ha.owners, Multiset.count_cons_of_ne hc]
    · rw [Function.update_of_ne (hunmade c hc)]
      exact ha.unmade c hc

/-- Several owners give their references up. -/
theorem Triple.releases (bs : List ℕ) (refs : Multiset ℕ) (next : ℕ) :
    Triple ((bs : Multiset ℕ) + refs) next (bs.map .release) refs next := by
  induction bs with
  | nil => exact (Triple.skip refs next).congr (by simp) rfl
  | cons b bs ih =>
    refine ((Triple.release b ((bs : Multiset ℕ) + refs) next).cons ih).congr ?_ rfl
    rw [← Multiset.cons_coe, Multiset.cons_add]

/-! ## Owners kept in a list -/

/-- What is found is taken out. -/
theorem perm_of_find? {α : Type*} {f : α → Bool} {l : List α} {a : α} (h : l.find? f = some a) :
    l.Perm (a :: l.eraseP f) := by
  induction l with
  | nil => cases h
  | cons b l ih =>
    cases hb : f b with
    | true =>
      rw [List.find?_cons_of_pos hb] at h
      obtain rfl := Option.some.inj h
      rw [List.eraseP_cons_of_pos hb]
    | false =>
      have hneg : ¬ f b = true := by simp [hb]
      rw [List.find?_cons_of_neg hneg] at h
      rw [List.eraseP_cons_of_neg hneg]
      exact ((ih h).cons b).trans (List.Perm.swap a b _)

/-! ## Machines that keep their accounts -/

variable {σ α ω : Type*} {M : Machine σ α ω}

/-- **The rule for machines.**  If every step of a machine takes the references of the
state before to those of the state after, then no run has a memory fault, and in
every state reached the owners there are are those the state refers to. -/
theorem run_of_triples {I : σ → Prop} {event : ω → Option Event} {refs : σ → Multiset ℕ}
    {next : σ → ℕ} {hp₀ : Heap} (hinit : Accounts (refs M.init) (next M.init) hp₀)
    (hI : ∀ h s, M.Run h s → I s)
    (hstep : ∀ s a t o, I s → M.step s a = some (t, o) →
      Triple (refs s) (next s) (o.filterMap event) (refs t) (next t))
    {h : List (Move σ α ω)} {s : σ} (hr : M.Run h s) :
    ∃ hp, hp₀.run ((Machine.trace h).filterMap event) = some hp ∧
      Accounts (refs s) (next s) hp := by
  induction hr with
  | nil => exact ⟨hp₀, rfl, hinit⟩
  | @snoc h s t a o hr hs ih =>
    obtain ⟨hp, hrun, ha⟩ := ih
    obtain ⟨hp', hrun', ha'⟩ := hstep s a t o (hI h s hr) hs hp ha
    refine ⟨hp', ?_, ha'⟩
    rw [Machine.trace_snoc, List.filterMap_append, Heap.run_append, hrun]
    exact hrun'

end Ownership
