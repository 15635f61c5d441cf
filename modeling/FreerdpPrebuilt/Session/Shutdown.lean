import FreerdpPrebuilt.Session.Wakeup
import FreerdpPrebuilt.Lib.Ranking

/-!
# A session that is asked to end does

`Drop for Session` queues `Shutdown` and joins the session thread.  The join
returns if that thread gets to its end, whatever else is queued meanwhile: other
threads may push for ever, and each drain takes all there is.

What bounds the thread is that commands are taken in order.  Behind the last
drain before `Shutdown` there is one more, and that one takes it; only the
commands queued before it are executed first.  `Pc.stepsLeft` counts the steps on
the longest way there and out, and `shutdown_ends` says that each step of the
thread uses one up, that nobody else's adds any, and that the thread stops at its
end and nowhere before it.
-/

namespace FreerdpPrebuilt
namespace Session

open Labelled

/-! ## The steps left -/

/-- The commands the session thread has in hand. -/
def Pc.inHand : Pc → List Command
  | .connected (.execute batch) => batch
  | _ => []

/-- The most steps from a stage to the take of the next drain. -/
def Stage.toTake : Stage → ℕ
  | .take => 0
  | .drain => 1
  | .wait => 2
  | .checkHandles | .reconnecting | .connecting => 3
  | .due | .connect => 4
  | .execute batch => batch.length + 5
  | .abortRequested => 5
  | .installProvider => 6
  | .subscribeChannels => 7
  | .applySettings => 8
  | .installCallbacks => 9

/-- The most steps the session thread takes once `Shutdown` is queued or in hand:
to the take, through the commands ahead of it, and out. -/
def Pc.stepsLeft (queue : List Command) : Pc → ℕ
  | .entry => queue.idxOf .shutdown + 18
  | .guarded => queue.idxOf .shutdown + 17
  | .published => queue.idxOf .shutdown + 16
  | .connected stage =>
    if .shutdown ∈ (Pc.connected stage).inHand then (Pc.connected stage).inHand.idxOf .shutdown + 5
    else stage.toTake + queue.idxOf .shutdown + 6
  | .returned _ => 4
  | .withdrawn _ => 3
  | .disconnected _ | .unwinding => 2
  | .dropped _ | .unwindingDisconnected => 1
  | .finished _ => 0

/-- `Shutdown` is queued or in hand, or the thread has left its loop. -/
def Pc.asked (queue : List Command) (pc : Pc) : Prop :=
  .shutdown ∈ queue ∨ .shutdown ∈ pc.inHand ∨ pc.stepsLeft queue ≤ 4

/-- Where a stage leads. -/
def Next.pc : Next → Pc
  | .goto stage => .connected stage
  | .ret result => .returned result
  | .unwind => .unwinding

@[simp] theorem State.leave_pc (s : State) (sh : Shared) (n : Next) :
    (s.leave sh n).pc = n.pc := by
  cases n <;> rfl

@[simp] theorem State.leave_shared (s : State) (sh : Shared) (n : Next) :
    (s.leave sh n).shared = sh := by
  cases n <;> rfl

theorem Pc.stepsLeft_le (queue : List Command) (pc : Pc) :
    pc.stepsLeft queue ≤ pc.inHand.length + queue.idxOf .shutdown + 18 := by
  cases pc with
  | connected stage =>
    simp only [stepsLeft]
    split_ifs with hin
    · have hlt := List.idxOf_lt_length_of_mem hin
      omega
    · have hlong : stage.toTake ≤ (Pc.connected stage).inHand.length + 9 := by
        cases stage <;> simp [Stage.toTake, inHand]
      omega
  | _ => simp only [stepsLeft]; omega

/-! ## One step of the session thread -/

/-- Inside the loop, `Shutdown` is queued or in hand. -/
theorem Pc.asked_connected {queue : List Command} {stage : Stage} :
    (Pc.connected stage).asked queue ↔
      .shutdown ∈ queue ∨ .shutdown ∈ (Pc.connected stage).inHand := by
  refine ⟨?_, fun h => h.elim .inl fun h => .inr (.inl h)⟩
  rintro (h | h | h)
  · exact .inl h
  · exact .inr h
  · simp only [stepsLeft] at h
    split_ifs at h <;> omega

/-- Before the loop it is queued. -/
theorem Pc.queued_of_asked {queue : List Command} {pc : Pc}
    (hpc : pc = .entry ∨ pc = .guarded ∨ pc = .published) (hask : pc.asked queue) :
    .shutdown ∈ queue := by
  rcases hask with hask | hask | hask
  · exact hask
  · rcases hpc with rfl | rfl | rfl <;> exact absurd hask List.not_mem_nil
  · rcases hpc with rfl | rfl | rfl <;> simp only [stepsLeft] at hask <;> omega

/-- What is queued behind `Shutdown` adds no steps. -/
theorem Pc.asked_append {queue : List Command} {pc : Pc} (hask : pc.asked queue)
    (command : Command) : pc.asked (queue ++ [command]) ∧
      pc.stepsLeft (queue ++ [command]) = pc.stepsLeft queue := by
  by_cases hin : Command.shutdown ∈ queue
  · refine ⟨.inl (List.mem_append_left _ hin), ?_⟩
    cases pc <;> simp only [stepsLeft, List.idxOf_append_of_mem hin]
  · have hnot : ¬ (pc = .entry ∨ pc = .guarded ∨ pc = .published) :=
      fun hpc => hin (queued_of_asked hpc hask)
    have hsame : pc.stepsLeft (queue ++ [command]) = pc.stepsLeft queue := by
      cases pc with
      | entry | guarded | published => simp at hnot
      | connected stage =>
        have hhand := (asked_connected.1 hask).resolve_left hin
        simp only [stepsLeft, if_pos hhand]
      | _ => rfl
    refine ⟨.inr ?_, hsame⟩
    rw [hsame]
    exact hask.resolve_left hin

/-- A panic leads out, and so does a result. -/
theorem Pc.stepsLeft_out {queue queue' : List Command} {stage : Stage} {n : Next}
    (hn : ∀ stage, n ≠ .goto stage) : n.pc.asked queue' ∧
      n.pc.stepsLeft queue' < (Pc.connected stage).stepsLeft queue := by
  have hfew : n.pc.stepsLeft queue' ≤ 4 := by
    cases n with
    | goto stage => exact absurd rfl (hn stage)
    | ret result => exact Nat.le_refl 4
    | unwind =>
      change 2 ≤ 4
      omega
  refine ⟨.inr (.inr hfew), Nat.lt_of_le_of_lt hfew ?_⟩
  simp only [stepsLeft]
  split_ifs <;> omega

/-- Executing what is in hand, up to `Shutdown`. -/
theorem Stage.execute_uses {sh sh' : Shared} {batch : List Command} {stage : Stage}
    (h : (Stage.execute batch).next sh .ok = some (sh', .goto stage))
    (hask : (Pc.connected (.execute batch)).asked sh.queue) :
    (Pc.connected stage).asked sh'.queue ∧ (Pc.connected stage).stepsLeft sh'.queue <
      (Pc.connected (.execute batch)).stepsLeft sh.queue := by
  rw [Pc.asked_connected] at hask ⊢
  cases batch with
  | nil =>
    obtain ⟨rfl, rfl⟩ := by simpa [Stage.next] using h
    exact ⟨hask, by simp [Pc.stepsLeft, Pc.inHand, Stage.toTake]⟩
  | cons command batch =>
    by_cases hc : command = .shutdown
    · subst hc
      simp [Stage.next] at h
    · obtain ⟨rfl, rfl⟩ : sh = sh' ∧ Stage.execute batch = stage := by
        cases command <;> first | exact absurd rfl hc | simpa [Stage.next] using h
      have hne : ¬ Command.shutdown = command := fun heq => hc heq.symm
      refine ⟨by simpa [Pc.inHand, hne] using hask, ?_⟩
      by_cases hin : Command.shutdown ∈ batch
      · simp [Pc.stepsLeft, Pc.inHand, hin, List.idxOf_cons_ne batch hc]
      · simp [Pc.stepsLeft, Pc.inHand, hin, hne, Stage.toTake]

/-- The take has all that was queued in hand. -/
theorem Stage.take_uses {sh : Shared} (hin : .shutdown ∈ sh.queue) :
    (Pc.connected (.execute sh.take.1)).asked sh.take.2.queue ∧
      (Pc.connected (.execute sh.take.1)).stepsLeft sh.take.2.queue <
        (Pc.connected .take).stepsLeft sh.queue := by
  refine ⟨Pc.asked_connected.2 (.inr hin), ?_⟩
  simp [Pc.stepsLeft, Pc.inHand, Shared.take, hin, toTake]

/-- **A stage uses up a step.** -/
theorem Stage.next_uses {sh sh' : Shared} {stage : Stage} {answer : Answer} {n : Next}
    (h : stage.next sh answer = some (sh', n)) (hask : (Pc.connected stage).asked sh.queue) :
    n.pc.asked sh'.queue ∧ n.pc.stepsLeft sh'.queue < (Pc.connected stage).stepsLeft sh.queue := by
  cases n with
  | ret result => exact Pc.stepsLeft_out fun stage => Next.noConfusion
  | unwind => exact Pc.stepsLeft_out fun stage => Next.noConfusion
  | goto stage' =>
    cases stage with
    | execute batch =>
      cases answer with
      | ok => exact execute_uses h hask
      | _ => simp [Stage.next] at h
    | take =>
      have hin : Command.shutdown ∈ sh.queue := by simpa [Pc.asked_connected, Pc.inHand] using hask
      cases answer with
      | ok =>
        obtain ⟨rfl, rfl⟩ := by simpa [Stage.next] using h
        exact take_uses hin
      | _ => simp [Stage.next] at h
    | drain =>
      cases answer with
      | ok =>
        obtain ⟨rfl, rfl⟩ := by simpa [Stage.next] using h
        rw [Pc.asked_connected] at hask
        refine ⟨Pc.asked_connected.2 hask, ?_⟩
        simp [Pc.stepsLeft, Pc.inHand, toTake, Next.pc, Shared.resetEvent]
      | _ => simp [Stage.next] at h
    | abortRequested =>
      cases answer with
      | ok =>
        simp only [Stage.next] at h
        split at h <;> cases h
        rw [Pc.asked_connected] at hask
        refine ⟨Pc.asked_connected.2 hask, ?_⟩
        simp [Pc.stepsLeft, Pc.inHand, toTake, Next.pc]
      | _ => simp [Stage.next] at h
    | _ =>
      rw [Pc.asked_connected] at hask
      cases answer <;> simp [Stage.next] at h
      all_goals
        obtain ⟨rfl, rfl⟩ := h
        exact ⟨Pc.asked_connected.2 hask, by simp [Pc.stepsLeft, Pc.inHand, toTake, Next.pc]⟩

/-- The session thread uses up a step with every step it takes. -/
theorem State.advance_uses {s t : State} {answer : Answer} {o : List Obs}
    (h : s.advance answer = some (t, o)) (hask : s.pc.asked s.shared.queue) :
    t.pc.asked t.shared.queue ∧ t.pc.stepsLeft t.shared.queue < s.pc.stepsLeft s.shared.queue := by
  cases hpc : s.pc with
  | connected stage =>
    rw [State.advance, hpc] at h
    obtain ⟨⟨sh, n⟩, hn, heq⟩ := Option.map_eq_some_iff.1 h
    obtain ⟨rfl, rfl⟩ := Prod.mk.inj heq
    rw [leave_pc, leave_shared]
    exact Stage.next_uses hn (hpc ▸ hask)
  | entry | finished =>
    rw [State.advance, hpc] at h
    cases h
  | guarded =>
    rw [State.advance, hpc] at h
    cases h
    refine ⟨.inl (Pc.queued_of_asked (.inr (.inl rfl)) (hpc ▸ hask)), ?_⟩
    simp [Pc.stepsLeft, Shared.publishContext]
  | published =>
    rw [State.advance, hpc] at h
    cases h
    refine ⟨.inl (Pc.queued_of_asked (.inr (.inr rfl)) (hpc ▸ hask)), ?_⟩
    simp [Pc.stepsLeft, Pc.inHand, Stage.toTake]
    omega
  | _ =>
    rw [State.advance, hpc] at h
    cases h
    refine ⟨.inr (.inr ?_), ?_⟩ <;> simp [Pc.stepsLeft]

namespace Interleaving

/-! ## Everybody's steps -/

/-- `Shutdown` is on its way to the session thread. -/
def Asked (s : Interleaving) : Prop := s.session.pc.asked s.session.shared.queue

/-- The steps the session thread has left. -/
def stepsLeft (s : Interleaving) : ℕ := s.session.pc.stepsLeft s.session.shared.queue

/-- The steps counted: the session thread's way through `run`. -/
def Act.isThread : Act → Bool
  | .newContext _ | .thread _ => true
  | .reconnect | .append _ _ | .setEvent _ | .abortConnect | .join => false

/-- **A step that is counted**: it takes the session thread through a stage of `run`.  What a
callback pushes inside a call of FreeRDP's is not counted, and neither is the moment at which
`reconnect_resize` comes to `freerdp_reconnect`, once at most in its stage. -/
def isThreadStep (m : Move Interleaving Act Seen) : Bool := m.act.isThread

variable {s t : Interleaving} {a : Act} {o : List Seen}

/-- The session thread uses up its steps, and nobody gives it more. -/
theorem Asked.step (hI : Asked s) (hs : machine.step s a = some (t, o)) :
    Asked t ∧ stepsLeft t + a.isThread.toNat ≤ stepsLeft s := by
  cases a with
  | newContext ctx =>
    obtain ⟨hpc, hshared, -, hpc', -⟩ := step_newContext hs
    rw [Asked, hpc] at hI
    have hin := Pc.queued_of_asked (.inl rfl) hI
    rw [Asked, stepsLeft, stepsLeft, hshared, hpc]
    rcases hpc' with hpc' | ⟨result, hpc'⟩
    · rw [hpc']
      exact ⟨.inl hin, Nat.le_refl _⟩
    · rw [hpc']
      refine ⟨.inl hin, ?_⟩
      simp [Pc.stepsLeft, Act.isThread]
  | thread answer =>
    obtain ⟨-, r, hr, rfl, -⟩ := threadStep_eq_some.1 hs
    exact State.advance_uses hr hI
  | reconnect =>
    obtain ⟨-, rfl, -⟩ := by simpa [machine] using hs
    exact ⟨hI, Nat.le_refl _⟩
  | append producer command =>
    obtain ⟨-, rfl, -⟩ := by simpa [machine] using hs
    obtain ⟨hask, hsame⟩ := Pc.asked_append hI command
    exact ⟨hask, Nat.le_of_eq hsame⟩
  | setEvent producer =>
    obtain ⟨-, rfl, -⟩ := by simpa [machine] using hs
    exact ⟨hI, Nat.le_refl _⟩
  | abortConnect =>
    obtain ⟨rfl, -⟩ := step_abortConnect hs
    exact ⟨hI, Nat.le_refl _⟩
  | join =>
    obtain ⟨rfl, -⟩ := step_join hs
    exact ⟨hI, Nat.le_refl _⟩

/-- Once `Shutdown` is queued it is on its way, for good. -/
theorem asked_of_appended {h : List (Move Interleaving Act Seen)} (hr : machine.Run h s)
    (happ : .appended .shutdown ∈ Machine.trace h) : Asked s := by
  induction hr with
  | nil => cases happ
  | @snoc h s t a o hr hs ih =>
    rw [Machine.trace_snoc] at happ
    rcases List.mem_append.1 happ with happ | happ
    · exact ((ih happ).step hs).1
    · cases a with
      | append producer command =>
        obtain ⟨-, rfl, rfl⟩ := by simpa [machine] using hs
        obtain rfl : Command.shutdown = command := by simpa using happ
        exact .inl (List.mem_append_right _ (List.mem_singleton_self _))
      | newContext ctx =>
        obtain ⟨-, -, -, -, obs, rfl⟩ := step_newContext hs
        simp at happ
      | thread answer =>
        obtain ⟨-, r, -, -, rfl⟩ := threadStep_eq_some.1 hs
        rcases List.mem_append.1 happ with happ | happ
        · simp only [shows] at happ
          split at happ <;> simp at happ
        · simp at happ
      | reconnect =>
        obtain ⟨-, -, rfl⟩ := by simpa [machine] using hs
        simp at happ
      | setEvent producer =>
        obtain ⟨-, -, rfl⟩ := by simpa [machine] using hs
        simp at happ
      | abortConnect =>
        obtain ⟨-, obs, rfl⟩ := step_abortConnect hs
        simp at happ
      | join =>
        obtain ⟨-, rfl⟩ := step_join hs
        simp at happ

/-! ## The session thread is never stuck -/

/-- The session thread's own steps: those counted, the `freerdp_reconnect` inside
`reconnect_resize`, and the second half of a push in a callback. -/
def Act.isOwn : Act → Bool
  | .newContext _ | .thread _ | .reconnect | .setEvent .session => true
  | .append _ _ | .setEvent _ | .abortConnect | .join => false

/-- Short of its end the session thread has a step to take, and one that needs
no panic. -/
theorem thread_goes_on (s : Interleaving) (hnot : ∀ result, s.session.pc ≠ .finished result) :
    ∃ a : Act, a.isOwn = true ∧ a ≠ .thread .panicked ∧ (machine.step s a).isSome = true := by
  cases hpush : s.signalling .session with
  | true => exact ⟨.setEvent .session, rfl, by simp, by simp [machine, hpush]⟩
  | false =>
    have hok : s.session.pc ≠ .entry →
        (s.session.pc = .connected .reconnecting → s.reconnecting = true) →
        (machine.step s (.thread .ok)).isSome = true := by
      intro hentry hrec
      have hadmit : s.admits .ok = true := by
        unfold admits
        split <;> simp_all
      simp only [machine, threadStep, hpush, hadmit, and_self, if_true, Option.isSome_map]
      unfold State.advance
      cases hpc : s.session.pc with
      | entry => exact absurd hpc hentry
      | finished result => exact absurd hpc (hnot result)
      | connected stage =>
        cases stage with
        | execute batch =>
          cases batch with
          | nil => rfl
          | cons command batch => cases command <;> rfl
        | abortRequested =>
          simp only [Stage.next, Option.isSome_map]
          split <;> rfl
        | _ => rfl
      | _ => rfl
    by_cases hentry : s.session.pc = .entry
    · exact ⟨.newContext Ptr.null, rfl, by simp, by simp [machine, Session.machine, hentry]⟩
    · by_cases hrec : s.session.pc = .connected .reconnecting ∧ s.reconnecting = false
      · exact ⟨.reconnect, rfl, by simp, by simp [machine, hrec]⟩
      · refine ⟨.thread .ok, rfl, by simp, hok hentry fun hpc => ?_⟩
        by_contra hoff
        exact hrec ⟨hpc, by simpa using hoff⟩

/-- A `Shutdown` whose push is complete has the event up, or is about to be taken. -/
def Woken (s : Interleaving) : Prop :=
  .shutdown ∈ s.session.shared.queue → s.signalling .dropping = false →
    s.session.shared.wake = true ∨ s.session.pc = .connected .take

theorem Woken.step (hI : Woken s) (hs : machine.step s a = some (t, o)) : Woken t := by
  intro hin hfree
  cases a with
  | newContext ctx =>
    obtain ⟨hpc, hshared, hsignals, -, -⟩ := step_newContext hs
    rw [hshared] at hin ⊢
    rw [hsignals] at hfree
    refine .inl ((hI hin hfree).resolve_right ?_)
    rw [hpc]
    exact Pc.noConfusion
  | thread answer =>
    obtain ⟨⟨-, hadmit⟩, ⟨u, obs⟩, hr, rfl, -⟩ := threadStep_eq_some.1 hs
    rcases advance_mailbox hr with ⟨-, -, -, hpc⟩ | ⟨-, -, hsh, -⟩ | ⟨hqueue, hwake, -, htake⟩
    · exact .inr hpc
    · simp [hsh, Shared.take] at hin
    · rw [show ({ s with session := u, reconnecting := false } : Interleaving).session = u from rfl,
        hqueue] at hin
      refine .inl (hwake.trans ((hI hin hfree).resolve_right fun hpc => ?_))
      simp [admits, hpc, htake hpc] at hadmit
  | reconnect =>
    obtain ⟨-, rfl, -⟩ := by simpa [machine] using hs
    exact hI hin hfree
  | append producer command =>
    obtain ⟨⟨-, hmay⟩, rfl, -⟩ := by simpa [machine] using hs
    by_cases hp : producer = .dropping
    · subst hp
      simp at hfree
    · have hne : command ≠ .shutdown := by
        cases producer with
        | dropping => exact absurd rfl hp
        | thread id => simpa [mayAppend] using hmay
        | session =>
          simp only [mayAppend, Bool.and_eq_true, bne_iff_ne] at hmay
          exact hmay.1
      rw [append_signalling, Function.update_of_ne (Ne.symm hp)] at hfree
      refine hI ?_ hfree
      rcases List.mem_append.1 hin with hin | hin
      · exact hin
      · exact absurd (List.mem_singleton.1 hin).symm hne
  | setEvent producer =>
    obtain ⟨-, rfl, -⟩ := by simpa [machine] using hs
    exact .inl rfl
  | abortConnect =>
    obtain ⟨rfl, -⟩ := step_abortConnect hs
    exact hI hin hfree
  | join =>
    obtain ⟨rfl, -⟩ := step_join hs
    exact hI hin hfree

/-! ## The end -/

variable {before after : List (Move Interleaving Act Seen)}

/-- **A session that is asked to end does.**  Once `Shutdown` is queued the
session thread goes through at most one stage for each command in its hand, one for each
queued before `Shutdown`, and eighteen more, whatever the other threads do and
push, and whatever FreeRDP's callbacks push inside a stage.  It does not stop before its
end, needs no panic to get there, and does not sleep through the `Shutdown`. -/
theorem shutdown_ends (hr : machine.Run (before ++ after) t)
    (hask : .appended .shutdown ∈ Machine.trace before) :
    ∃ s, machine.Run before s ∧
      after.countP isThreadStep ≤
        s.session.pc.inHand.length + s.session.shared.queue.idxOf .shutdown + 18 ∧
      ((∀ a : Act, a.isOwn = true → a ≠ .thread .panicked → machine.step t a = none) →
        ∃ result, t.session.pc = .finished result) ∧
      (t.session.pc = .connected .wait → t.signalling .dropping = false →
        t.session.shared.wake = true) := by
  obtain ⟨s, hbefore⟩ := hr.stem
  have hI := asked_of_appended hbefore hask
  have hstep : ∀ s a t o, Asked s → machine.step s a = some (t, o) → Asked t ∧
      stepsLeft t + (isThreadStep ⟨s, a, o, t⟩).toNat ≤ stepsLeft s :=
    fun _ _ _ _ hI hs => hI.step hs
  obtain ⟨hasked, hused⟩ := hr.ranked hstep hbefore hI
  refine ⟨s, hbefore, ?_, fun hstuck => ?_, fun hpc hfree => ?_⟩
  · have hbound := Pc.stepsLeft_le s.session.shared.queue s.session.pc
    rw [stepsLeft, stepsLeft] at hused
    omega
  · by_contra hnot
    obtain ⟨a, hown, hcalm, hgoes⟩ := thread_goes_on t fun result hpc => hnot ⟨result, hpc⟩
    rw [hstuck a hown hcalm] at hgoes
    cases hgoes
  · have hwoken : Woken t := hr.invariant (I := Woken) (fun hin => absurd hin List.not_mem_nil)
      fun _ _ _ _ hI hs => hI.step hs
    rw [Asked, hpc, Pc.asked_connected] at hasked
    have hin := hasked.resolve_right List.not_mem_nil
    refine (hwoken hin hfree).resolve_right fun htake => ?_
    rw [hpc] at htake
    cases htake

/-- A session that is dropped while it sleeps, with a command ahead of `Shutdown`
and one behind it. -/
def droppedAsleep : List Act :=
  startsUp ++ [.append (.thread 0) .refresh, .setEvent (.thread 0), .abortConnect,
    .append .dropping .shutdown, .setEvent .dropping, .append (.thread 0) (.key true 30),
    .setEvent (.thread 0)] ++ List.replicate 9 (.thread .ok)

theorem shutdown_ends_droppedAsleep : ∃ before after s t,
    machine.Run before s ∧ machine.Run (before ++ after) t ∧
      s.session.pc = .connected .wait ∧ after.countP isThreadStep = 9 ∧
      after.countP isThreadStep ≤
        s.session.pc.inHand.length + s.session.shared.queue.idxOf .shutdown + 18 ∧
      t.session.pc = .finished .ok := by
  have hrun := machine.run_get droppedAsleep (by decide)
  rw [← List.take_append_drop 14 ((machine.exec droppedAsleep).get (by decide)).1] at hrun
  obtain ⟨s, hbefore, hfew, -, -⟩ := shutdown_ends hrun (by decide)
  refine ⟨_, _, s, _, hbefore, hrun, ?_, by decide, hfew, by decide⟩
  rw [hbefore.eq_last]
  decide

end Interleaving

end Session
end FreerdpPrebuilt
