import FreerdpPrebuilt.Session.Thread
import Mathlib.Logic.Function.Basic

/-!
# The session at the grain of its atomic steps

`FreerdpPrebuilt.Session.Thread` treats a push as one step, which is enough for
what can reach the context.  Two questions need a finer grain.  Whether a
command can be left behind depends on what happens between the two halves of a
push, by any number of threads at once; whether a connection attempt outlives
an abort depends on when exactly `freerdp_connect` and `freerdp_reconnect`
begin.

The machine here is the same session, with the same stages, and with those steps
taken apart.
-/

namespace FreerdpPrebuilt
namespace Session

open Labelled

/-- A thread that pushes commands. -/
inductive Producer
  /-- A thread of the caller's, or a channel's own. -/
  | thread (id : ℕ)
  /-- The thread in `Drop for Session`. -/
  | dropping
  /-- The session thread, in a callback. -/
  | session
  deriving DecidableEq

/-- A session, who is half way through a push, and whether `reconnect_resize`
has come as far as `freerdp_reconnect`. -/
structure Interleaving where
  session : State
  /-- The threads between their append and their `SetEvent`. -/
  signalling : Producer → Bool
  reconnecting : Bool

namespace Interleaving

/-- A session as `Session::start` leaves it. -/
def start : Interleaving := ⟨.start, fun _ => false, false⟩

/-- What is seen of the queue and of the connection attempts, besides what is
seen of the session. -/
inductive Seen
  | session (obs : Obs)
  | appended (command : Command)
  | drained (batch : List Command)
  | connectBegins
  | reconnectBegins
  deriving DecidableEq

/-- What can happen next. -/
inductive Act
  /-- `freerdp_client_context_new` answers. -/
  | newContext (ctx : Ptr)
  /-- The session thread takes its next step. -/
  | thread (answer : Answer)
  /-- `reconnect_resize` has taken the session down and set the new size, and
  calls `freerdp_reconnect`. -/
  | reconnect
  /-- The first half of a push. -/
  | append (producer : Producer) (command : Command)
  /-- The second half. -/
  | setEvent (producer : Producer)
  /-- `abort_connect`, the first thing `Drop for Session` does. -/
  | abortConnect
  /-- The join in `Drop for Session` returns. -/
  | join
  deriving DecidableEq

/-- Whether the session thread is in FreeRDP's hands, which may call back. -/
def callsBack : Pc → Bool
  | .connected .connecting | .connected (.execute _) | .connected .reconnecting
  | .connected .checkHandles | .withdrawn _ | .unwinding => true
  | _ => false

/-- Who may push what: only the drop pushes `Shutdown`, once it has aborted. -/
def mayAppend (s : Interleaving) : Producer → Command → Bool
  | .thread _, command => command != .shutdown
  | .dropping, command => command == .shutdown && s.session.dropPc == .aborted
  | .session, command => command != .shutdown && callsBack s.session.pc

/-- Whether the world can give this answer.  Nothing in `drain` can panic: it
recovers a poisoned lock, and takes the queue without allocating. -/
def admits (s : Interleaving) (answer : Answer) : Bool :=
  match s.session.pc, answer with
  | .connected .drain, .panicked | .connected .take, .panicked => false
  | .connected .reconnecting, .ok => s.reconnecting
  | _, _ => true

/-- What a step of the session thread shows of the queue and of the attempts. -/
def shows (sh : Shared) : Pc → Answer → List Seen
  | .connected .connect, .ok => [.connectBegins]
  | .connected .take, .ok => [.drained sh.take.1]
  | _, _ => []

/-- One step of the session thread, when it is not in a push of its own. -/
def threadStep (s : Interleaving) (answer : Answer) : Option (Interleaving × List Seen) :=
  if s.signalling .session = false ∧ s.admits answer = true then
    (s.session.advance answer).map fun r =>
      ({ s with session := r.1, reconnecting := false },
        shows s.session.shared s.session.pc answer ++ r.2.map .session)
  else none

/-- The first half of a push. -/
def append (s : Interleaving) (producer : Producer) (command : Command) : Interleaving :=
  { s with
    session := { s.session with shared := s.session.shared.append command }
    signalling := Function.update s.signalling producer true }

/-- The second half of a push.  For the thread that drops, the join is next. -/
def setEvent (s : Interleaving) (producer : Producer) : Interleaving :=
  { s with
    session :=
      { s.session with
        shared := s.session.shared.setEvent
        dropPc := if producer = .dropping then .joining else s.session.dropPc }
    signalling := Function.update s.signalling producer false }

@[simp] theorem append_signalling (s : Interleaving) (producer : Producer) (command : Command) :
    (s.append producer command).signalling = Function.update s.signalling producer true := rfl

@[simp] theorem setEvent_signalling (s : Interleaving) (producer : Producer) :
    (s.setEvent producer).signalling = Function.update s.signalling producer false := rfl

/-- The steps of `Drop for Session` that are not its push. -/
def dropStep (s : Interleaving) : Option (Interleaving × List Seen) :=
  s.session.dropStep.map fun r => ({ s with session := r.1 }, r.2.map .session)

/-- **The session at the grain of its atomic steps.** -/
def machine : Machine Interleaving Act Seen where
  init := start
  step s
    | .newContext ctx =>
      (Session.machine.step s.session (.newContext ctx)).map fun r =>
        ({ s with session := r.1 }, r.2.map .session)
    | .thread answer => s.threadStep answer
    | .reconnect =>
      if s.session.pc = .connected .reconnecting ∧ s.reconnecting = false then
        some ({ s with reconnecting := true }, [.reconnectBegins])
      else none
    | .append producer command =>
      if s.signalling producer = false ∧ s.mayAppend producer command = true then
        some (s.append producer command, [.appended command])
      else none
    | .setEvent producer =>
      if s.signalling producer = true then some (s.setEvent producer, []) else none
    | .abortConnect => if s.session.dropPc = .holding then s.dropStep else none
    | .join => if s.session.dropPc = .joining then s.dropStep else none

/-! ## What each step does -/

theorem threadStep_eq_some {s t : Interleaving} {answer : Answer} {o : List Seen} :
    s.threadStep answer = some (t, o) ↔
      (s.signalling .session = false ∧ s.admits answer = true) ∧
      ∃ r, s.session.advance answer = some r ∧
        t = { s with session := r.1, reconnecting := false } ∧
        o = shows s.session.shared s.session.pc answer ++ r.2.map .session := by
  unfold threadStep
  split_ifs with hg
  · simp only [Option.map_eq_some_iff, Prod.mk.injEq, hg, true_and]
    constructor
    · rintro ⟨r, hr, rfl, rfl⟩
      exact ⟨r, hr, rfl, rfl⟩
    · rintro ⟨r, hr, rfl, rfl⟩
      exact ⟨r, hr, rfl, rfl⟩
  · simp [hg]

theorem step_newContext {s t : Interleaving} {ctx : Ptr} {o : List Seen}
    (hs : machine.step s (.newContext ctx) = some (t, o)) :
    s.session.pc = .entry ∧ t.session.shared = s.session.shared ∧ t.signalling = s.signalling ∧
      (t.session.pc = .guarded ∨ ∃ result, t.session.pc = .finished result) ∧
      ∃ obs : List Obs, o = obs.map .session := by
  obtain ⟨r, hr, heq⟩ := Option.map_eq_some_iff.1 hs
  obtain ⟨rfl, rfl⟩ := Prod.mk.inj heq
  by_cases he : s.session.pc = .entry
  · by_cases hc : ctx = Ptr.null
    · obtain rfl := by simpa [Session.machine, he, hc] using hr
      exact ⟨he, rfl, rfl, .inr ⟨_, rfl⟩, _, rfl⟩
    · obtain rfl := by simpa [Session.machine, he, hc] using hr
      exact ⟨he, rfl, rfl, .inl rfl, _, rfl⟩
  · simp [Session.machine, he] at hr

theorem step_abortConnect {s t : Interleaving} {o : List Seen}
    (hs : machine.step s .abortConnect = some (t, o)) :
    t = { s with session :=
        { s.session with shared := s.session.shared.abortConnect.1, dropPc := .aborted } } ∧
      ∃ obs : List Obs, o = obs.map .session := by
  by_cases hd : s.session.dropPc = .holding
  · obtain ⟨rfl, rfl⟩ := by simpa [machine, hd, dropStep, State.dropStep] using hs
    exact ⟨rfl, (s.session.shared.abortConnect.2.toList.map .abortSignal), by simp⟩
  · simp [machine, hd] at hs

theorem step_join {s t : Interleaving} {o : List Seen}
    (hs : machine.step s .join = some (t, o)) :
    t = { s with session := { s.session with dropPc := .joined } } ∧ o = [] := by
  by_cases hd : s.session.dropPc = .joining
  · cases hpc : s.session.pc with
    | finished result =>
      obtain ⟨rfl, rfl⟩ := by simpa [machine, hd, dropStep, State.dropStep, hpc] using hs
      exact ⟨by rw [← hpc], rfl⟩
    | _ => simp [machine, hd, dropStep, State.dropStep, hpc] at hs
  · simp [machine, hd] at hs

end Interleaving

/-! ## What a step of the session thread does to what is shared -/

/-- Only `drain` touches what the threads share, and only its first half leads
to its second. -/
theorem Stage.next_shared {sh sh' : Shared} {stage : Stage} {answer : Answer} {n : Next}
    (h : stage.next sh answer = some (sh', n)) (hd : stage ≠ .drain) (ht : stage ≠ .take) :
    sh' = sh ∧ n ≠ .goto .take := by
  unfold Stage.next at h
  split at h <;> first | (split at h) | skip
  all_goals first
    | (simp only [Option.some.injEq, Prod.mk.injEq] at h; obtain ⟨rfl, rfl⟩ := h; simp_all)
    | simp_all

/-- The connect comes next only from a read that found the flag down. -/
theorem Stage.next_connect {sh sh' : Shared} {stage : Stage} {answer : Answer}
    (h : stage.next sh answer = some (sh', .goto .connect)) :
    stage = .abortRequested ∧ sh.abortRequested = false := by
  unfold Stage.next at h
  split at h <;> first | (split at h) | skip
  all_goals simp_all

/-- A reconnect comes next only from a due one. -/
theorem Stage.next_reconnecting {sh sh' : Shared} {stage : Stage} {answer : Answer}
    (h : stage.next sh answer = some (sh', .goto .reconnecting)) :
    stage = .due ∧ answer = .due := by
  unfold Stage.next at h
  split at h <;> first | (split at h) | skip
  all_goals simp_all

/-- The session thread is in `run_connected`, which says what comes next; or it
is outside, leaves queue, event and flag alone, and enters at the start if it
does. -/
theorem State.advance_cases {s t : State} {answer : Answer} {o : List Obs}
    (h : s.advance answer = some (t, o)) :
    (∃ stage sh n, s.pc = .connected stage ∧ stage.next s.shared answer = some (sh, n) ∧
        t = s.leave sh n) ∨
      ((∀ stage, s.pc ≠ .connected stage) ∧ t.shared.queue = s.shared.queue ∧
        t.shared.wake = s.shared.wake ∧ t.shared.abortRequested = s.shared.abortRequested ∧
        ∀ stage, t.pc = .connected stage → stage = .installCallbacks) := by
  unfold State.advance at h
  cases hpc : s.pc with
  | connected stage =>
    rw [hpc] at h
    obtain ⟨⟨sh, n⟩, hn, heq⟩ := Option.map_eq_some_iff.1 h
    obtain ⟨rfl, rfl⟩ := Prod.mk.inj heq
    exact .inl ⟨stage, sh, n, rfl, hn, rfl⟩
  | entry =>
    rw [hpc] at h
    cases h
  | finished result =>
    rw [hpc] at h
    cases h
  | published =>
    rw [hpc] at h
    obtain ⟨rfl, -⟩ := Prod.mk.inj (Option.some.inj h)
    exact .inr ⟨by simp, rfl, rfl, rfl, fun stage hto => (Pc.connected.inj hto).symm⟩
  | _ =>
    rw [hpc] at h
    obtain ⟨rfl, -⟩ := Prod.mk.inj (Option.some.inj h)
    exact .inr ⟨by simp, rfl, rfl, rfl, fun stage hto => by cases hto⟩

end Session
end FreerdpPrebuilt
