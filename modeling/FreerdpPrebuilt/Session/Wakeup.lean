import FreerdpPrebuilt.Session.Interleave
import FreerdpPrebuilt.Lib.Mailbox

/-!
# No lost wakeup, no lost command

The session thread sleeps on the event of the command queue.  Its threads use
the queue as a mailbox (`FreerdpPrebuilt.Lib.Mailbox`): `push` is an append and
then a signal, `drain` a reset and then a take, and nothing else touches either.
`mailbox_step` is that simulation, and `commands_arrive` what it gives: the
thread never sleeps through a command, and takes the commands as they were
appended.
-/

namespace FreerdpPrebuilt
namespace Session
namespace Interleaving

open Labelled

/-! ## The queue as a mailbox -/

/-- The queue, its event and its users. -/
def mailbox (s : Interleaving) : Mailbox.Users Producer Command :=
  ⟨⟨s.session.shared.queue, s.session.shared.wake⟩, s.signalling,
    decide (s.session.pc = .connected .take)⟩

/-- What is seen of the mailbox. -/
def Seen.note : Seen → Option (Mailbox.Note Command)
  | .appended command => some (.appended command)
  | .drained batch => some (.taken batch)
  | .session _ | .connectBegins | .reconnectBegins => none

/-- The command appended, if one was. -/
def Seen.command : Seen → Option Command
  | .appended command => some command
  | _ => none

/-- The batch drained, if one was. -/
def Seen.batch : Seen → Option (List Command)
  | .drained batch => some batch
  | _ => none

theorem Seen.note_item (x : Seen) : x.note.bind Mailbox.Note.item = x.command := by
  cases x <;> rfl

theorem Seen.note_batch (x : Seen) : x.note.bind Mailbox.Note.batch = x.batch := by
  cases x <;> rfl

/-- What is seen of the session is nothing of the mailbox. -/
theorem filterMap_note_session (o : List Obs) : (o.map Seen.session).filterMap Seen.note = [] := by
  induction o with
  | nil => rfl
  | cons x o ih => simp [Seen.note]

/-- **The session thread and the queue.**  A step of it resets, takes, or leaves
the queue and its event alone. -/
theorem advance_mailbox {s t : State} {answer : Answer} {o : List Obs}
    (h : s.advance answer = some (t, o)) :
    (s.pc = .connected .drain ∧ answer = .ok ∧ t.shared = s.shared.resetEvent ∧
        t.pc = .connected .take) ∨
      (s.pc = .connected .take ∧ answer = .ok ∧ t.shared = s.shared.take.2 ∧
        t.pc ≠ .connected .take) ∨
      (t.shared.queue = s.shared.queue ∧ t.shared.wake = s.shared.wake ∧
        t.pc ≠ .connected .take ∧ (s.pc = .connected .take → answer = .panicked)) := by
  rcases State.advance_cases h with ⟨stage, sh, n, hpc, hn, rfl⟩ | ⟨hnot, hqueue, hwake, -, hto⟩
  · by_cases hd : stage = .drain
    · subst hd
      cases answer <;> simp [Stage.next] at hn
      · obtain ⟨rfl, rfl⟩ := hn
        exact .inl ⟨hpc, rfl, rfl, rfl⟩
      · obtain ⟨rfl, rfl⟩ := hn
        exact .inr (.inr ⟨rfl, rfl, by simp [State.leave], by simp [hpc]⟩)
    · by_cases ht : stage = .take
      · subst ht
        cases answer <;> simp [Stage.next] at hn
        · obtain ⟨rfl, rfl⟩ := hn
          exact .inr (.inl ⟨hpc, rfl, rfl, by simp [State.leave]⟩)
        · obtain ⟨rfl, rfl⟩ := hn
          exact .inr (.inr ⟨rfl, rfl, by simp [State.leave], fun _ => rfl⟩)
      · obtain ⟨rfl, hne⟩ := Stage.next_shared hn hd ht
        refine .inr (.inr ?_)
        cases n with
        | goto stage' =>
          have hne' : stage' ≠ .take := fun heq => hne (by rw [heq])
          simp [State.leave, hpc, ht, hne']
        | _ => simp [State.leave, hpc, ht]
  · refine .inr (.inr ⟨hqueue, hwake, ?_, fun htake => absurd htake (hnot _)⟩)
    intro htake
    cases hto _ htake

/-- What a step shows of the mailbox is the batch it takes, if it takes one. -/
theorem shows_note (sh : Shared) (pc : Pc) (answer : Answer) :
    (shows sh pc answer).filterMap Seen.note =
      if pc = .connected .take ∧ answer = .ok then [.taken sh.queue] else [] := by
  unfold shows
  split
  · simp [Seen.note]
  · simp [Seen.note, Shared.take]
  · next hne => rw [if_neg fun h => hne h.1 h.2, List.filterMap_nil]

/-- **The session uses the queue as a mailbox.**  Each of its steps is a step of
the mailbox, or does nothing to it. -/
theorem mailbox_step {s t : Interleaving} {a : Act} {o : List Seen}
    (hs : machine.step s a = some (t, o)) :
    (t.mailbox = s.mailbox ∧ o.filterMap Seen.note = []) ∨
      ∃ b, Mailbox.machine.step s.mailbox b = some (t.mailbox, o.filterMap Seen.note) := by
  cases a with
  | newContext ctx =>
    obtain ⟨hpc, hshared, hsignals, hpc', obs, rfl⟩ := step_newContext hs
    refine .inl ⟨?_, filterMap_note_session obs⟩
    rcases hpc' with hpc' | ⟨result, hpc'⟩ <;>
      simp [mailbox, hshared, hsignals, hpc, hpc']
  | thread answer =>
    obtain ⟨⟨-, hadmit⟩, ⟨u, obs⟩, hr, rfl, rfl⟩ := threadStep_eq_some.1 hs
    rw [List.filterMap_append, filterMap_note_session, List.append_nil, shows_note]
    rcases advance_mailbox hr with ⟨hpc, rfl, hsh, hpc'⟩ | ⟨hpc, rfl, hsh, hpc'⟩ |
      ⟨hqueue, hwake, hpc', htake⟩
    · refine .inr ⟨.reset, ?_⟩
      simp [Mailbox.machine, mailbox, hpc, hsh, hpc', Shared.resetEvent]
    · refine .inr ⟨.take, ?_⟩
      simp [Mailbox.machine, mailbox, hpc, hsh, hpc', Shared.take]
    · have hpc : s.session.pc ≠ .connected .take := by
        intro hpc
        simp [admits, hpc, htake hpc] at hadmit
      refine .inl ⟨?_, by rw [if_neg fun h => hpc h.1]⟩
      simp [mailbox, hqueue, hwake, hpc, hpc']
  | reconnect =>
    obtain ⟨-, rfl, rfl⟩ := by simpa [machine] using hs
    exact .inl ⟨rfl, rfl⟩
  | append producer command =>
    obtain ⟨⟨hfree, -⟩, rfl, rfl⟩ := by simpa [machine] using hs
    refine .inr ⟨.append producer command, ?_⟩
    simp only [Mailbox.machine, mailbox, hfree, if_true]
    rfl
  | setEvent producer =>
    obtain ⟨hbusy, rfl, rfl⟩ := by simpa [machine] using hs
    refine .inr ⟨.signal producer, ?_⟩
    simp only [Mailbox.machine, mailbox, hbusy, if_true]
    rfl
  | abortConnect =>
    obtain ⟨rfl, obs, rfl⟩ := step_abortConnect hs
    exact .inl ⟨rfl, filterMap_note_session obs⟩
  | join =>
    obtain ⟨rfl, rfl⟩ := step_join hs
    exact .inl ⟨rfl, rfl⟩

/-! ## While the session thread is in a push -/

/-- The session thread pushes in a callback only, so never while it sleeps or
drains. -/
def PushesInCallback (s : Interleaving) : Prop :=
  s.signalling .session = true → callsBack s.session.pc = true

theorem PushesInCallback.step {s t : Interleaving} {a : Act} {o : List Seen}
    (hI : PushesInCallback s) (hs : machine.step s a = some (t, o)) : PushesInCallback t := by
  intro hbusy
  cases a with
  | newContext ctx =>
    obtain ⟨hpc, -, hsignals, -, -⟩ := step_newContext hs
    rw [hsignals] at hbusy
    have hcalls := hI hbusy
    rw [hpc] at hcalls
    cases hcalls
  | thread answer =>
    obtain ⟨⟨hfree, -⟩, r, -, rfl, -⟩ := threadStep_eq_some.1 hs
    rw [show s.signalling .session = true from hbusy] at hfree
    cases hfree
  | reconnect =>
    obtain ⟨-, rfl, -⟩ := by simpa [machine] using hs
    exact hI hbusy
  | append producer command =>
    obtain ⟨⟨-, hmay⟩, rfl, -⟩ := by simpa [machine] using hs
    by_cases hp : producer = .session
    · subst hp
      simp only [mayAppend, Bool.and_eq_true] at hmay
      exact hmay.2
    · refine hI ?_
      rwa [append_signalling, Function.update_of_ne (Ne.symm hp)] at hbusy
  | setEvent producer =>
    obtain ⟨-, rfl, -⟩ := by simpa [machine] using hs
    by_cases hp : producer = .session
    · subst hp
      simp [setEvent] at hbusy
    · refine hI ?_
      rwa [setEvent_signalling, Function.update_of_ne (Ne.symm hp)] at hbusy
  | abortConnect =>
    obtain ⟨rfl, -⟩ := step_abortConnect hs
    exact hI hbusy
  | join =>
    obtain ⟨rfl, -⟩ := step_join hs
    exact hI hbusy

/-! ## The whole run -/

variable {h : List (Move Interleaving Act Seen)} {s : Interleaving}

/-- Every run of the session is a run of the mailbox. -/
theorem mailbox_run (hr : machine.Run h s) :
    ∃ h', Mailbox.machine.Run h' s.mailbox ∧
      Machine.trace h' = (Machine.trace h).filterMap Seen.note :=
  hr.simulate (I := fun _ => True) (f := mailbox) (g := Seen.note) rfl (fun _ _ _ => trivial)
    fun _ _ _ _ _ hs => mailbox_step hs

/-- **No lost wakeup and no lost command.**  A command that waits while the
event is down has a producer about to signal, or a session thread about to take
it; while the session thread sleeps, it is a producer of another thread.  And
the batches drained, followed by the queue, are the commands in the order they
were appended. -/
theorem commands_arrive (hr : machine.Run h s) :
    (s.session.shared.queue ≠ [] → s.session.shared.wake = false →
      (∃ producer, s.signalling producer = true) ∨ s.session.pc = .connected .take) ∧
    (s.session.pc = .connected .wait → s.session.shared.queue ≠ [] →
      s.session.shared.wake = false →
      ∃ producer, producer ≠ .session ∧ s.signalling producer = true) ∧
    ((Machine.trace h).filterMap Seen.batch).flatten ++ s.session.shared.queue =
      (Machine.trace h).filterMap Seen.command := by
  obtain ⟨h', hr', htrace⟩ := mailbox_run hr
  have hwakes : s.session.shared.queue ≠ [] → s.session.shared.wake = false →
      (∃ producer, s.signalling producer = true) ∨ s.session.pc = .connected .take := by
    intro hne hoff
    exact (Mailbox.wakes hr' hne hoff).imp_right of_decide_eq_true
  refine ⟨hwakes, ?_, ?_⟩
  · intro hpc hne hoff
    rcases hwakes hne hoff with ⟨producer, hbusy⟩ | htake
    · refine ⟨producer, ?_, hbusy⟩
      rintro rfl
      have hI : PushesInCallback s :=
        hr.invariant (fun hbusy => by cases hbusy) fun _ _ _ _ hI hs => hI.step hs
      have hcalls := hI hbusy
      rw [hpc] at hcalls
      cases hcalls
    · rw [hpc] at htake
      cases htake
  · have hkept := Mailbox.conserves hr'
    rw [htrace, List.filterMap_filterMap, List.filterMap_filterMap] at hkept
    simp only [Seen.note_item, Seen.note_batch] at hkept
    exact hkept

/-- A session as far as the top of its event loop. -/
def startsUp : List Act := .newContext 1 :: List.replicate 9 (.thread .ok)

/-- One push is drained, with the second thread's append just before the take;
then the session thread goes back to sleep while a third is half way through. -/
def threePushes : List Act :=
  startsUp ++ [.append (.thread 0) .refresh, .setEvent (.thread 0), .thread .ok, .thread .ok,
    .append (.thread 1) (.key true 30), .thread .ok, .setEvent (.thread 1)] ++
    List.replicate 11 (.thread .ok) ++ [.append (.thread 2) (.key false 30)]

theorem commands_arrive_threePushes : ∃ h s, machine.Run h s ∧
    s.session.pc = .connected .wait ∧ s.session.shared.queue = [.key false 30] ∧
    s.session.shared.wake = false ∧
    (∃ producer, producer ≠ .session ∧ s.signalling producer = true) ∧
    ((Machine.trace h).filterMap Seen.batch).flatten ++ s.session.shared.queue =
      [.refresh, .key true 30, .key false 30] := by
  have hrun := machine.run_get threePushes (by decide)
  obtain ⟨-, hsleeps, hkept⟩ := commands_arrive hrun
  exact ⟨_, _, hrun, by decide, by decide, by decide,
    hsleeps (by decide) (by decide) (by decide), hkept.trans (by decide)⟩

end Interleaving
end Session
end FreerdpPrebuilt
