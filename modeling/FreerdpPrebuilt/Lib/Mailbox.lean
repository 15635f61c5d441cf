import FreerdpPrebuilt.Lib.Machine

/-!
# A queue with a manual-reset event

Any number of posters hand items to one taker.  A poster appends under a lock
and **then** signals; the taker resets the signal and **then** takes the whole
queue.  Both are two steps, and everybody else may come in between.

* `Mailbox.wakes` — an item that waits has a signal set, a signal on its way, or
  a taker that has already reset and will find it.  The taker may therefore
  sleep on the signal.
* `Mailbox.conserves` — the batches taken, followed by what is still queued, are
  the items in the order they were appended.

The order within each of the two operations is what `wakes` rests on: a reset
after the take would swallow the signal of an item appended in between, and a
signal before the append would be reset with nothing there to take.
-/

namespace Labelled

variable {ι α : Type*}

/-- The queue and its event. -/
structure Mailbox (α : Type*) where
  queue : List α
  signalled : Bool

/-- The mailbox and its users: who is between its append and its signal, and
whether the taker is between its reset and its take. -/
structure Mailbox.Users (ι α : Type*) where
  box : Mailbox α
  posting : ι → Bool
  taking : Bool

/-- What the users do. -/
inductive Mailbox.Act (ι α : Type*)
  | append (poster : ι) (item : α)
  | signal (poster : ι)
  | reset
  | take

/-- What is seen of the queue. -/
inductive Mailbox.Note (α : Type*)
  | appended (item : α)
  | taken (batch : List α)
  deriving DecidableEq

namespace Mailbox

/-- The users of an empty mailbox, all idle. -/
def Users.idle : Users ι α := ⟨⟨[], false⟩, fun _ => false, false⟩

variable [DecidableEq ι]

/-- The mailbox as a machine. -/
def machine : Machine (Users ι α) (Act ι α) (Note α) where
  init := .idle
  step s
    | .append i a =>
      if s.posting i = false then
        some ({ s with
          box := { s.box with queue := s.box.queue ++ [a] }
          posting := Function.update s.posting i true }, [.appended a])
      else none
    | .signal i =>
      if s.posting i = true then
        some ({ s with
          box := { s.box with signalled := true }
          posting := Function.update s.posting i false }, [])
      else none
    | .reset =>
      if s.taking = false then
        some ({ s with box := { s.box with signalled := false }, taking := true }, [])
      else none
    | .take =>
      if s.taking = true then
        some ({ s with box := { s.box with queue := [] }, taking := false }, [.taken s.box.queue])
      else none

/-! ## No lost wakeup -/

/-- Whoever has an item waiting has a signal, or somebody who will see to it. -/
def Wakes (s : Users ι α) : Prop :=
  s.box.queue ≠ [] → s.box.signalled = false → (∃ i, s.posting i = true) ∨ s.taking = true

/-- Each step sees to it by itself, whatever was before. -/
theorem wakes_of_step {s t : Users ι α} {a : Act ι α} {o : List (Note α)}
    (hs : machine.step s a = some (t, o)) : Wakes t := by
  intro hne hoff
  cases a with
  | append i a =>
    obtain ⟨-, rfl, -⟩ := by simpa [machine] using hs
    exact .inl ⟨i, by simp⟩
  | signal i =>
    obtain ⟨-, rfl, -⟩ := by simpa [machine] using hs
    simp at hoff
  | reset =>
    obtain ⟨-, rfl, -⟩ := by simpa [machine] using hs
    exact .inr rfl
  | take =>
    obtain ⟨-, rfl, -⟩ := by simpa [machine] using hs
    simp at hne

variable {h : List (Move (Users ι α) (Act ι α) (Note α))} {s : Users ι α}

/-- **No lost wakeup.**  In every state reached, an item that waits without a
signal has a poster about to signal, or a taker about to take. -/
theorem wakes (hr : machine.Run h s) : Wakes s := by
  cases hr with
  | nil => exact fun hne => absurd rfl hne
  | snoc _ hs => exact wakes_of_step hs

/-! ## No lost item -/

/-- The item a note is about, if one was appended. -/
def Note.item : Note α → Option α
  | .appended a => some a
  | .taken _ => none

/-- The batch a note is about, if one was taken. -/
def Note.batch : Note α → Option (List α)
  | .appended _ => none
  | .taken batch => some batch

/-- **No lost item.**  The batches taken, followed by the queue, are the items
in the order they were appended. -/
theorem conserves (hr : machine.Run h s) :
    ((Machine.trace h).filterMap Note.batch).flatten ++ s.box.queue =
      (Machine.trace h).filterMap Note.item := by
  induction hr with
  | nil => rfl
  | @snoc h s t a o hr hs ih =>
    rw [Machine.trace_snoc]
    rw [List.filterMap_append, List.filterMap_append, List.flatten_append, ← ih]
    cases a with
    | append i a =>
      obtain ⟨-, rfl, rfl⟩ := by simpa [machine] using hs
      simp [Note.item, Note.batch]
    | signal i =>
      obtain ⟨-, rfl, rfl⟩ := by simpa [machine] using hs
      simp [Note.item, Note.batch]
    | reset =>
      obtain ⟨-, rfl, rfl⟩ := by simpa [machine] using hs
      simp [Note.item, Note.batch]
    | take =>
      obtain ⟨-, rfl, rfl⟩ := by simpa [machine] using hs
      simp [Note.item, Note.batch]

end Mailbox

end Labelled
