import FreerdpPrebuilt.Session.Interleave
import FreerdpPrebuilt.Session.Lifetime

/-!
# An abort and the connection attempts after it

Dropping a session raises a flag and then queues a `Shutdown`, and either is
meant to be enough: the flag before there is an event loop to read the queue,
the command from then on.  `freerdp_connect` is guarded by a read of the flag.
`freerdp_reconnect` is guarded by neither: a resize that falls due after the
abort, and before the `Shutdown` is drained, starts a second blocking attempt
(`aborted_session_reconnects`).

`attempts_heed_the_abort` says what guard is missing.  As long as no reconnect
is taken up after the abort, and no abort comes while one is being prepared, no
attempt begins with the flag up, save in the window the source documents.
`attempt_follows` says that nothing less will do.
-/

namespace FreerdpPrebuilt
namespace Session
namespace Interleaving

open Labelled

/-! ## What is recorded of a run -/

/-- Where the session thread stood when the abort was requested. -/
def seeAbort (g : Option Pc) (m : Move Interleaving Act Seen) : Option Pc :=
  match m.act with
  | .abortConnect => some m.src.session.pc
  | _ => g

abbrev Watched := Interleaving × Option Pc

/-- The session with that record as its history variable. -/
def watched : Machine Watched Act Seen := machine.observe none seeAbort

/-- Somebody has asked the session to stop. -/
def aborted (s : Interleaving) : Bool := s.session.shared.abortRequested

/-- The request came in the documented window: after the read of the flag, and
before the `freerdp_connect` it guards. -/
def inWindow (g : Option Pc) : Bool := g == some (.connected .connect)

/-! ## What is claimed of one move -/

/-- The observation is the start of a connection attempt. -/
def Seen.isAttempt : Seen → Bool
  | .connectBegins | .reconnectBegins => true
  | _ => false

/-- No attempt begins with the flag up, unless it went up in the window. -/
def heedsAbort (m : Move Watched Act Seen) : Bool :=
  !m.out.any Seen.isAttempt || !m.src.1.aborted || inWindow m.src.2

/-- A due reconnect is not taken up once the session is to stop, and the session
is not asked to stop between that and the call of `freerdp_reconnect`. -/
def resumesUnasked (m : Move Watched Act Seen) : Bool :=
  match m.act with
  | .thread .due =>
    m.src.1.session.pc != .connected .due || !m.src.1.aborted || inWindow m.src.2
  | .abortConnect => m.src.1.session.pc != .connected .reconnecting || m.src.1.reconnecting
  | _ => true

/-! ## Where the two attempts come from -/

/-- A step of the session thread leaves the flag alone, and it comes to the two
attempts from one place each. -/
theorem advance_attempt {s t : State} {answer : Answer} {o : List Obs}
    (h : s.advance answer = some (t, o)) :
    t.shared.abortRequested = s.shared.abortRequested ∧
      (t.pc = .connected .connect → s.shared.abortRequested = false) ∧
      (t.pc = .connected .reconnecting → s.pc = .connected .due ∧ answer = .due) := by
  rcases State.advance_cases h with ⟨stage, sh, n, hpc, hn, rfl⟩ | ⟨-, -, -, hflag, hto⟩
  · have hflag : sh.abortRequested = s.shared.abortRequested := by
      rw [Shared.abortRequested, (Stage.next_spec hn).1, Shared.abortRequested]
    cases n with
    | goto stage' =>
      refine ⟨hflag, ?_, ?_⟩
      · intro hto
        obtain rfl : stage' = .connect := by simpa [State.leave] using hto
        exact (Stage.next_connect hn).2
      · intro hto
        obtain rfl : stage' = .reconnecting := by simpa [State.leave] using hto
        obtain ⟨rfl, rfl⟩ := Stage.next_reconnecting hn
        exact ⟨hpc, rfl⟩
    | _ => exact ⟨hflag, by simp [State.leave], by simp [State.leave]⟩
  · refine ⟨hflag, ?_, ?_⟩
    · intro hconnect
      cases hto _ hconnect
    · intro hreconnect
      cases hto _ hreconnect

/-- The attempts a step of the session thread begins are connects. -/
theorem isAttempt_shows {sh : Shared} {pc : Pc} {answer : Answer}
    (h : (shows sh pc answer).any Seen.isAttempt = true) : pc = .connected .connect := by
  unfold shows at h
  split at h
  · rfl
  · cases h
  · cases h

theorem isAttempt_session (o : List Obs) : (o.map Seen.session).any Seen.isAttempt = false := by
  induction o with
  | nil => rfl
  | cons x o ih => simp [Seen.isAttempt]

/-! ## The invariant -/

/-- About to connect, or to reconnect, with the flag up: then it went up in the
window. -/
structure Heeds (s : Watched) : Prop where
  connect : s.1.session.pc = .connected .connect → s.1.aborted = true → inWindow s.2 = true
  reconnect : s.1.session.pc = .connected .reconnecting → s.1.reconnecting = false →
    s.1.aborted = true → inWindow s.2 = true

variable {s t : Watched} {a : Act} {o : List Seen}

theorem Heeds.step (hI : Heeds s) (hs : watched.step s a = some (t, o))
    (hg : resumesUnasked ⟨s, a, o, t⟩ = true) : Heeds t := by
  obtain ⟨s, g⟩ := s
  obtain ⟨t, g'⟩ := t
  obtain ⟨hstep, hsee⟩ := Machine.observe_step.1 hs
  have hstep : machine.step s a = some (t, o) := hstep
  cases a with
  | newContext ctx =>
    obtain ⟨-, -, -, hpc, -⟩ := step_newContext hstep
    constructor
    · intro hto
      rcases hpc with hpc | ⟨result, hpc⟩ <;> exact absurd (hpc.symm.trans hto) (by simp)
    · intro hto
      rcases hpc with hpc | ⟨result, hpc⟩ <;> exact absurd (hpc.symm.trans hto) (by simp)
  | thread answer =>
    obtain ⟨-, r, hr, rfl, -⟩ := threadStep_eq_some.1 hstep
    obtain ⟨hflag, hconnect, hreconnect⟩ := advance_attempt hr
    have hflag : aborted ⟨r.1, s.signalling, false⟩ = s.aborted := hflag
    obtain rfl : g' = g := hsee
    constructor
    · intro hto hup
      have hdown : s.aborted = false := hconnect hto
      rw [hflag, hdown] at hup
      cases hup
    · intro hto _ hup
      obtain ⟨hdue, rfl⟩ := hreconnect hto
      have hup : s.aborted = true := hflag ▸ hup
      simpa [resumesUnasked, hdue, hup] using hg
  | reconnect =>
    obtain ⟨-, rfl, -⟩ := by simpa [machine] using hstep
    obtain rfl : g' = g := hsee
    exact ⟨hI.connect, fun _ hbegun => absurd hbegun (by simp)⟩
  | append producer command =>
    obtain ⟨-, rfl, -⟩ := by simpa [machine] using hstep
    obtain rfl : g' = g := hsee
    exact ⟨hI.connect, hI.reconnect⟩
  | setEvent producer =>
    obtain ⟨-, rfl, -⟩ := by simpa [machine] using hstep
    obtain rfl : g' = g := hsee
    exact ⟨hI.connect, hI.reconnect⟩
  | abortConnect =>
    obtain ⟨rfl, -⟩ := step_abortConnect hstep
    obtain rfl : g' = some s.session.pc := hsee
    constructor
    · intro hpc _
      have hpc : s.session.pc = .connected .connect := hpc
      simp [inWindow, hpc]
    · intro hpc hbegun _
      have hpc : s.session.pc = .connected .reconnecting := hpc
      have hbegun : s.reconnecting = false := hbegun
      simp [resumesUnasked, hpc, hbegun] at hg
  | join =>
    obtain ⟨rfl, -⟩ := step_join hstep
    obtain rfl : g' = g := hsee
    exact ⟨hI.connect, hI.reconnect⟩

theorem Heeds.attempt (hI : Heeds s) (hs : watched.step s a = some (t, o)) :
    heedsAbort ⟨s, a, o, t⟩ = true := by
  have hstep : machine.step s.1 a = some (t.1, o) := (Machine.observe_step.1 hs).1
  by_contra hbad
  simp only [heedsAbort, Bool.or_eq_true, Bool.not_eq_true', not_or, Bool.not_eq_false,
    Bool.not_eq_true] at hbad
  obtain ⟨⟨hattempt, hup⟩, hout⟩ := hbad
  cases a with
  | newContext ctx =>
    obtain ⟨-, -, -, -, obs, rfl⟩ := step_newContext hstep
    rw [isAttempt_session] at hattempt
    cases hattempt
  | thread answer =>
    obtain ⟨-, r, -, -, rfl⟩ := threadStep_eq_some.1 hstep
    rw [List.any_append, isAttempt_session, Bool.or_false] at hattempt
    have hwindow := hI.connect (isAttempt_shows hattempt) hup
    rw [hwindow] at hout
    cases hout
  | reconnect =>
    obtain ⟨⟨hpc, hbegun⟩, -, -⟩ := by simpa [machine] using hstep
    have hwindow := hI.reconnect hpc hbegun hup
    rw [hwindow] at hout
    cases hout
  | append producer command =>
    obtain ⟨-, -, rfl⟩ := by simpa [machine] using hstep
    cases hattempt
  | setEvent producer =>
    obtain ⟨-, -, rfl⟩ := by simpa [machine] using hstep
    cases hattempt
  | abortConnect =>
    obtain ⟨-, obs, rfl⟩ := step_abortConnect hstep
    rw [isAttempt_session] at hattempt
    cases hattempt
  | join =>
    obtain ⟨-, rfl⟩ := step_join hstep
    cases hattempt

/-! ## The whole run -/

variable {h : List (Move Watched Act Seen)}

/-- **Connection attempts heed the abort, as long as reconnects do.**  In a run
in which no due reconnect is taken up after the abort, and no abort comes while
one is being prepared, neither `freerdp_connect` nor `freerdp_reconnect` ever
begins with the flag up, unless it went up in the documented window. -/
theorem attempts_heed_the_abort (hr : watched.Run h s)
    (hg : ∀ m ∈ h, resumesUnasked m = true) : ∀ m ∈ h, heedsAbort m = true := by
  have hstart : Heeds watched.init := by
    constructor
    · intro hpc
      cases hpc
    · intro hpc
      cases hpc
  obtain ⟨-, hall⟩ := hr.guarded (I := Heeds) (g := fun m => resumesUnasked m = true) hstart
    (fun _ _ _ _ hI hs hg => hI.step hs hg) hg
  intro m hm
  exact (hall m hm).1.attempt (hr.step_of_mem m hm)

/-- The other direction: after a move that breaks the condition, the very next
thing the session thread may do is to begin an attempt with the flag up. -/
theorem attempt_follows (hs : watched.step s a = some (t, o))
    (hbad : resumesUnasked ⟨s, a, o, t⟩ = false) :
    ∃ u, watched.step t .reconnect = some (u, [.reconnectBegins]) ∧
      heedsAbort ⟨t, .reconnect, [.reconnectBegins], u⟩ = false := by
  obtain ⟨s, g⟩ := s
  obtain ⟨t, g'⟩ := t
  obtain ⟨hstep, hsee⟩ := Machine.observe_step.1 hs
  have hstep : machine.step s a = some (t, o) := hstep
  -- an attempt can begin, the flag is up, and it did not go up in the window
  suffices hready : t.session.pc = .connected .reconnecting ∧ t.reconnecting = false ∧
      t.aborted = true ∧ inWindow g' = false by
    obtain ⟨hpc, hbegun, hup, hout⟩ := hready
    refine ⟨({ t with reconnecting := true }, g'), ?_, ?_⟩
    · refine Machine.observe_step.2 ⟨?_, rfl⟩
      simp [machine, hpc, hbegun]
    · simp [heedsAbort, Seen.isAttempt, hup, hout]
  cases a with
  | thread answer =>
    cases answer with
    | due =>
      obtain ⟨-, r, hr, rfl, -⟩ := threadStep_eq_some.1 hstep
      obtain rfl : g' = g := hsee
      simp only [resumesUnasked, Bool.or_eq_false_iff, bne_eq_false_iff_eq, Bool.not_eq_false']
        at hbad
      obtain ⟨⟨hdue, hup⟩, hout⟩ := hbad
      have hflag := (advance_attempt hr).1
      have hdue : s.session.pc = .connected .due := hdue
      simp only [State.advance, hdue, Stage.next, Option.map_some, Option.some.injEq] at hr
      subst hr
      exact ⟨rfl, rfl, hflag.trans hup, hout⟩
    | _ => cases hbad
  | abortConnect =>
    obtain ⟨rfl, -⟩ := step_abortConnect hstep
    obtain rfl : g' = some s.session.pc := hsee
    simp only [resumesUnasked, Bool.or_eq_false_iff, bne_eq_false_iff_eq] at hbad
    obtain ⟨hpc, hbegun⟩ := hbad
    exact ⟨hpc, hbegun, rfl, by simp [inWindow, hpc]⟩
  | _ => cases hbad

/-! ## Two sessions -/

/-- A session whose caller resizes it, up to the point where the debounce of the
reconnect has passed. -/
def resizes : List Act :=
  .newContext 1 :: List.replicate 9 (.thread .ok) ++
    [.append (.thread 0) (.resize ⟨800, 600, 100, 0⟩), .setEvent (.thread 0)] ++
    List.replicate 11 (.thread .ok)

/-- The session is resized by a reconnect, and dropped once it is back. -/
def resizedAndDropped : List Act :=
  resizes ++ [.thread .due, .reconnect, .thread .ok, .abortConnect,
    .append .dropping .shutdown, .setEvent .dropping, .thread .ok, .thread .ok, .thread .ok,
    .thread .ok]

theorem attempts_heed_the_abort_resizedAndDropped : ∃ h s, watched.Run h s ∧
    s.1.aborted = true ∧ (∃ m ∈ h, m.out = [.reconnectBegins]) ∧
    ∀ m ∈ h, heedsAbort m = true := by
  have hrun := watched.run_get resizedAndDropped (by decide)
  exact ⟨_, _, hrun, by decide, by decide, attempts_heed_the_abort hrun (by decide)⟩

/-- **The attempt that outlives its session.**  The session is dropped after its
thread has drained the queue, and the resize falls due. -/
theorem aborted_session_reconnects : ∃ h s, watched.Run h s ∧
    ¬ ∀ m ∈ h, heedsAbort m = true :=
  ⟨_, _, watched.run_get (resizes ++ [.abortConnect, .thread .due, .reconnect]) (by decide),
    by decide⟩

end Interleaving
end Session
end FreerdpPrebuilt
