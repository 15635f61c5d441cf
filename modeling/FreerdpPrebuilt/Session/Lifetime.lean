import FreerdpPrebuilt.Session.Thread

/-!
# The context outlives everybody who can signal it

`run` publishes the context so that another thread can abort a connect, and
must withdraw it before the guard frees it.  The withdrawal is a line of code
after `run_connected`; the free is in a destructor.  A return passes both, a
panic only the second.

The proof keeps one table, `Custody`: for each point of the session thread, who
may still reach the context and what has been given back.  `context_lifetime`
reads both directions off its last rows.
-/

namespace FreerdpPrebuilt
namespace Session

open Labelled

/-! ## What is recorded of a run -/

/-- The history of a session: the memory given back, in order, and whether a
panic left `run_connected`. -/
structure Watch where
  released : List Obs
  panicked : Bool
  deriving DecidableEq

/-- The calls that give memory back. -/
def Obs.isRelease : Obs → Bool
  | .contextFreed | .bridgeReclaimed => true
  | .abortSignal _ | .ended _ => false

/-- Whether the session thread stands inside `run_connected`. -/
def Pc.inConnected : Pc → Bool
  | .connected _ => true
  | _ => false

/-- Whether the step is a panic of some code inside `run_connected`. -/
def panicsAt (pc : Pc) (act : Act) : Bool := pc.inConnected && act == .thread .panicked

/-- Record one move. -/
def Watch.see (w : Watch) (m : Move State Act Obs) : Watch :=
  ⟨w.released ++ m.out.filter Obs.isRelease, w.panicked || panicsAt m.src.pc m.act⟩

abbrev Watched := State × Watch

/-- The session with that record as its history variable. -/
def watched : Machine Watched Act Obs := machine.observe ⟨[], false⟩ Watch.see

/-! ## What is claimed of one move -/

/-- Nobody can reach a context that is not alive. -/
def noDangling (s : State) : Bool := s.shared.context.ctx == Ptr.null || s.context == .live

/-- One observed call respects the lifetimes: an abort signals a live context,
the context is freed once it is withdrawn, the bridge box goes after it. -/
def soundObs (s : State) : Obs → Bool
  | .abortSignal ctx => ctx == s.ctx && s.context == .live
  | .contextFreed => s.context == .live && s.shared.context.ctx == Ptr.null
  | .bridgeReclaimed => s.bridge == .live && s.context == .freed
  | .ended _ => true

/-- One move respects the lifetimes. -/
def soundMove (m : Move Watched Act Obs) : Bool :=
  m.out.all (soundObs m.src.1) && noDangling m.dst.1

/-- The move is a panic inside `run_connected`. -/
def panics (m : Move Watched Act Obs) : Bool := panicsAt m.src.1.pc m.act

/-! ## The table -/

/-- What a session holds: its own pointer, the published one, the two pieces of
memory, what has been given back, and whether it is unwinding. -/
structure Held where
  ctx : Ptr
  published : Ptr
  context : Block
  bridge : Block
  released : List Obs
  panicked : Bool

/-- What this session holds. -/
def held (s : Watched) : Held :=
  ⟨s.1.ctx, s.1.shared.context.ctx, s.1.context, s.1.bridge, s.2.released, s.2.panicked⟩

/-- Before there is a context, and when there never was one. -/
def Held.nothing : Held := ⟨Ptr.null, Ptr.null, .unallocated, .unallocated, [], false⟩

/-- **Who holds what, at each point of the session thread.**  The three ways a
session can be over differ only in the last row: without a context, after a
return, after a panic. -/
def Held.At (x : Held) : Pc → Prop
  | .entry => x = .nothing
  | .guarded => x.ctx ≠ Ptr.null ∧ x = ⟨x.ctx, Ptr.null, .live, .unallocated, [], false⟩
  | .published => x.ctx ≠ Ptr.null ∧ x = ⟨x.ctx, x.ctx, .live, .unallocated, [], false⟩
  | .connected _ | .returned _ =>
    x.ctx ≠ Ptr.null ∧ x = ⟨x.ctx, x.ctx, .live, .live, [], false⟩
  | .withdrawn _ | .disconnected _ =>
    x.ctx ≠ Ptr.null ∧ x = ⟨x.ctx, Ptr.null, .live, .live, [], false⟩
  | .dropped _ =>
    x.ctx ≠ Ptr.null ∧ x = ⟨x.ctx, Ptr.null, .freed, .live, [.contextFreed], false⟩
  | .unwinding | .unwindingDisconnected =>
    x.ctx ≠ Ptr.null ∧ x = ⟨x.ctx, x.ctx, .live, .live, [], true⟩
  | .finished _ =>
    x = .nothing ∨
      (x.ctx ≠ Ptr.null ∧
        x = ⟨x.ctx, Ptr.null, .freed, .freed, [.contextFreed, .bridgeReclaimed], false⟩) ∨
      (x.ctx ≠ Ptr.null ∧ x = ⟨x.ctx, x.ctx, .freed, .live, [.contextFreed], true⟩)

/-- The table holds. -/
def Custody (s : Watched) : Prop := (held s).At s.1.pc

/-- No stage touches the published context, and the only way to unwind is to
panic. -/
theorem Stage.next_spec {sh sh' : Shared} {stage : Stage} {answer : Answer} {n : Next}
    (h : stage.next sh answer = some (sh', n)) :
    sh'.context = sh.context ∧ (n = .unwind ↔ answer = .panicked) := by
  unfold Stage.next at h
  split at h <;> first | (split at h) | skip
  all_goals first
    | (simp only [Option.some.injEq, Prod.mk.injEq] at h; obtain ⟨rfl, rfl⟩ := h; simp_all)
    | simp at h
  all_goals rfl

/-- What a stage calls on the context is an abort of the session's own. -/
theorem Stage.mem_signals {ctx : Ptr} {stage : Stage} {answer : Answer} {o : Obs}
    (h : o ∈ stage.signals ctx answer) : o = .abortSignal ctx := by
  unfold Stage.signals at h
  split at h
  · exact List.mem_singleton.1 h
  · exact absurd h (List.not_mem_nil)

/-- A stage gives no memory back. -/
theorem Stage.signals_release (ctx : Ptr) (stage : Stage) (answer : Answer) :
    (stage.signals ctx answer).filter Obs.isRelease = [] := by
  refine List.filter_eq_nil_iff.2 fun o ho => ?_
  rw [Stage.mem_signals ho]
  simp [Obs.isRelease]

/-! ## Every step keeps the table -/

/-- A step that changes nothing but the queue, its event and the request to
stop keeps the table. -/
theorem Custody.of_same {s t : Watched} (hI : Custody s) (hpc : t.1.pc = s.1.pc)
    (hheld : held t = held s) : Custody t := by
  unfold Custody
  rw [hpc, hheld]
  exact hI

theorem Custody.newContext {s t : Watched} {ctx : Ptr} {o : List Obs} (hI : Custody s)
    (hs : watched.step s (.newContext ctx) = some (t, o)) : Custody t := by
  obtain ⟨hstep, hsee⟩ := Machine.observe_step.1 hs
  obtain ⟨t, w⟩ := t
  obtain ⟨⟨⟨queue, wake, ⟨published, aborted⟩⟩, pc, dropPc, c, context, bridge⟩, released,
    panicked⟩ := s
  simp only [machine] at hstep hsee
  by_cases hpc : pc = .entry
  · subst hpc
    obtain ⟨hctx, hpub, hc, hb, hr, hp⟩ := Held.mk.inj hI
    simp only at hctx hpub hc hb hr hp
    subst hctx hpub hc hb hr hp
    rw [if_pos rfl] at hstep
    by_cases hnull : ctx = Ptr.null
    · rw [if_pos hnull] at hstep
      obtain ⟨rfl, rfl⟩ := Prod.mk.inj (Option.some.inj hstep)
      subst hsee
      exact .inl rfl
    · rw [if_neg hnull] at hstep
      obtain ⟨rfl, rfl⟩ := Prod.mk.inj (Option.some.inj hstep)
      subst hsee
      exact ⟨hnull, rfl⟩
  · rw [if_neg hpc] at hstep
    exact absurd hstep (by simp)

/-- The thread's own steps, row by row. -/
theorem Custody.advance {s t : Watched} {answer : Answer} {o : List Obs} (hI : Custody s)
    (hs : watched.step s (.thread answer) = some (t, o)) : Custody t := by
  obtain ⟨hstep, hsee⟩ := Machine.observe_step.1 hs
  obtain ⟨t, w⟩ := t
  obtain ⟨⟨⟨queue, wake, ⟨published, aborted⟩⟩, pc, dropPc, c, context, bridge⟩, released,
    panicked⟩ := s
  simp only at hsee
  subst hsee
  cases pc with
  | entry => exact absurd hstep (by simp [machine, State.advance])
  | finished r => exact absurd hstep (by simp [machine, State.advance])
  | connected stage =>
    obtain ⟨hne, hheld⟩ := hI
    obtain ⟨-, hpub, hc, hb, hr, hp⟩ := Held.mk.inj hheld
    simp only at hpub hc hb hr hp
    subst hpub hc hb hr hp
    obtain ⟨⟨sh', n⟩, hnext, hleave⟩ := Option.map_eq_some_iff.1 hstep
    obtain ⟨rfl, rfl⟩ := Prod.mk.inj hleave
    obtain ⟨hctx, hunwind⟩ := Stage.next_spec hnext
    have hrel := Stage.signals_release published stage answer
    have hsh : sh'.context.ctx = published := congrArg ContextPtr.ctx hctx
    cases n with
    | unwind =>
      have hans := hunwind.1 rfl
      subst hans
      refine ⟨hne, ?_⟩
      simp [held, State.leave, Watch.see, hrel, hsh, panicsAt, Pc.inConnected]
    | _ =>
      have hans : answer ≠ .panicked := fun h => absurd (hunwind.2 h) (by simp)
      refine ⟨hne, ?_⟩
      simp [held, State.leave, Watch.see, hrel, hsh, panicsAt, Pc.inConnected, hans]
  | dropped r =>
    obtain ⟨hne, hheld⟩ := hI
    obtain ⟨-, hpub, hc, hb, hr, hp⟩ := Held.mk.inj hheld
    simp only at hpub hc hb hr hp
    subst hpub hc hb hr hp
    obtain ⟨rfl, rfl⟩ := Prod.mk.inj (Option.some.inj hstep)
    exact .inr (.inl ⟨hne, rfl⟩)
  | unwindingDisconnected =>
    obtain ⟨hne, hheld⟩ := hI
    obtain ⟨-, hpub, hc, hb, hr, hp⟩ := Held.mk.inj hheld
    simp only at hpub hc hb hr hp
    subst hpub hc hb hr hp
    obtain ⟨rfl, rfl⟩ := Prod.mk.inj (Option.some.inj hstep)
    exact .inr (.inr ⟨hne, rfl⟩)
  | _ =>
    -- the straight-line steps: the row below is the row above, one field changed
    obtain ⟨hne, hheld⟩ := hI
    obtain ⟨-, hpub, hc, hb, hr, hp⟩ := Held.mk.inj hheld
    simp only at hpub hc hb hr hp
    subst hpub hc hb hr hp
    obtain ⟨rfl, rfl⟩ := Prod.mk.inj (Option.some.inj hstep)
    exact ⟨hne, rfl⟩

theorem Custody.drop {s t : Watched} {o : List Obs} (hI : Custody s)
    (hs : watched.step s .drop = some (t, o)) : Custody t := by
  obtain ⟨hstep, hsee⟩ := Machine.observe_step.1 hs
  obtain ⟨t, w⟩ := t
  simp only at hsee
  have hquiet : ∀ x : Option Ptr,
      (x.toList.map Obs.abortSignal).filter Obs.isRelease = [] := by
    intro x; cases x <;> rfl
  simp only [machine, State.dropStep] at hstep
  split at hstep
  · obtain ⟨rfl, rfl⟩ := Prod.mk.inj (Option.some.inj hstep)
    refine hI.of_same rfl ?_
    simp [held, hsee, Watch.see, hquiet, panicsAt, Shared.abortConnect]
  · obtain ⟨rfl, rfl⟩ := Prod.mk.inj (Option.some.inj hstep)
    refine hI.of_same rfl ?_
    simp [held, hsee, Watch.see, panicsAt, Shared.push, Shared.append, Shared.setEvent]
  · split at hstep
    · obtain ⟨rfl, rfl⟩ := Prod.mk.inj (Option.some.inj hstep)
      refine hI.of_same rfl ?_
      simp [held, hsee, Watch.see, panicsAt]
    · exact absurd hstep (by simp)
  · exact absurd hstep (by simp)

/-- **Every step of a session keeps the table.** -/
theorem Custody.step {s t : Watched} {a : Act} {o : List Obs} (hI : Custody s)
    (hs : watched.step s a = some (t, o)) : Custody t := by
  cases a with
  | newContext ctx => exact hI.newContext hs
  | thread answer => exact hI.advance hs
  | drop => exact hI.drop hs
  | push command =>
    obtain ⟨hstep, hsee⟩ := Machine.observe_step.1 hs
    obtain ⟨t, w⟩ := t
    simp only [machine] at hstep hsee
    by_cases hc : command = .shutdown
    · rw [if_pos hc] at hstep
      exact absurd hstep (by simp)
    · rw [if_neg hc] at hstep
      obtain ⟨rfl, rfl⟩ := Prod.mk.inj (Option.some.inj hstep)
      refine hI.of_same rfl ?_
      simp [held, hsee, Watch.see, panicsAt, Shared.push, Shared.append, Shared.setEvent]

theorem custody_start : Custody watched.init := rfl

theorem custody_of_run {h : List (Move Watched Act Obs)} {s : Watched} (hr : watched.Run h s) :
    Custody s :=
  hr.invariant custody_start fun _ _ _ _ hI hs => hI.step hs

/-! ## What the table says of one move -/

/-- As long as nothing panicked, whatever is published is the session's own
context, and it is alive. -/
theorem Custody.of_published {s : Watched} (hI : Custody s) (hp : s.2.panicked = false)
    (hpub : s.1.shared.context.ctx ≠ Ptr.null) :
    s.1.shared.context.ctx = s.1.ctx ∧ s.1.context = .live := by
  obtain ⟨⟨⟨queue, wake, ⟨published, aborted⟩⟩, pc, dropPc, c, context, bridge⟩, released,
    panicked⟩ := s
  simp only at hp hpub ⊢
  subst hp
  cases pc with
  | entry =>
    obtain ⟨-, hnull, -⟩ := Held.mk.inj hI
    exact absurd hnull hpub
  | finished r =>
    rcases hI with hheld | ⟨-, hheld⟩ | ⟨-, hheld⟩
    · obtain ⟨-, hnull, -⟩ := Held.mk.inj hheld
      exact absurd hnull hpub
    · obtain ⟨-, hnull, -⟩ := Held.mk.inj hheld
      exact absurd hnull hpub
    · obtain ⟨-, -, -, -, -, hpanic⟩ := Held.mk.inj hheld
      exact absurd hpanic (by simp)
  | _ =>
    obtain ⟨-, hheld⟩ := hI
    obtain ⟨-, hctx, hc, -, -, -⟩ := Held.mk.inj hheld
    first
      | exact ⟨hctx, hc⟩
      | exact absurd hctx hpub

theorem Custody.noDangling {s : Watched} (hI : Custody s) (hp : s.2.panicked = false) :
    noDangling s.1 = true := by
  unfold Session.noDangling
  by_cases hpub : s.1.shared.context.ctx = Ptr.null
  · simp [hpub]
  · simp [(hI.of_published hp hpub).2]

/-- A move that leaves the session without a panic was taken without one. -/
theorem panicked_of_step {s t : Watched} {a : Act} {o : List Obs}
    (hs : watched.step s a = some (t, o)) :
    t.2.panicked = (s.2.panicked || panicsAt s.1.pc a) := by
  rw [(Machine.observe_step.1 hs).2]
  rfl

/-- **A move of a session that has not panicked respects the lifetimes.** -/
theorem Custody.soundMove {s t : Watched} {a : Act} {o : List Obs} (hI : Custody s)
    (hs : watched.step s a = some (t, o)) (hp : t.2.panicked = false) :
    soundMove ⟨s, a, o, t⟩ = true := by
  have hsp : s.2.panicked = false := by
    rw [panicked_of_step hs] at hp
    exact (Bool.or_eq_false_iff.1 hp).1
  have hdst := (hI.step hs).noDangling hp
  have hstep := (Machine.observe_step.1 hs).1
  suffices hall : ∀ x ∈ o, soundObs s.1 x = true by
    simp only [Session.soundMove, hdst, Bool.and_true]
    exact List.all_eq_true.2 hall
  intro x hx
  cases a with
  | newContext ctx =>
    simp only [machine] at hstep
    split_ifs at hstep
    · obtain ⟨-, rfl⟩ := Prod.mk.inj (Option.some.inj hstep)
      rw [List.mem_singleton.1 hx]
      rfl
    · obtain ⟨-, rfl⟩ := Prod.mk.inj (Option.some.inj hstep)
      exact absurd hx List.not_mem_nil
  | push command =>
    simp only [machine] at hstep
    split_ifs at hstep
    obtain ⟨-, rfl⟩ := Prod.mk.inj (Option.some.inj hstep)
    exact absurd hx List.not_mem_nil
  | drop =>
    simp only [machine, State.dropStep] at hstep
    split at hstep
    · obtain ⟨-, rfl⟩ := Prod.mk.inj (Option.some.inj hstep)
      by_cases hpub : s.1.shared.context.ctx = Ptr.null
      · simp [Shared.abortConnect, hpub] at hx
      · obtain ⟨hctx, hc⟩ := hI.of_published hsp hpub
        have hx : x = .abortSignal s.1.shared.context.ctx := by
          simpa [Shared.abortConnect, hpub] using hx
        rw [hx]
        simp [soundObs, hctx, hc]
    · obtain ⟨-, rfl⟩ := Prod.mk.inj (Option.some.inj hstep)
      exact absurd hx List.not_mem_nil
    · split at hstep
      · obtain ⟨-, rfl⟩ := Prod.mk.inj (Option.some.inj hstep)
        exact absurd hx List.not_mem_nil
      · exact absurd hstep (by simp)
    · exact absurd hstep (by simp)
  | thread answer =>
    obtain ⟨⟨⟨queue, wake, ⟨published, aborted⟩⟩, pc, dropPc, c, context, bridge⟩, released,
      panicked⟩ := s
    cases pc with
    | entry => exact absurd hstep (by simp [machine, State.advance])
    | finished r => exact absurd hstep (by simp [machine, State.advance])
    | connected stage =>
      obtain ⟨-, hheld⟩ := hI
      obtain ⟨-, -, hc, -, -, -⟩ := Held.mk.inj hheld
      obtain ⟨⟨sh', n⟩, -, hleave⟩ := Option.map_eq_some_iff.1 hstep
      obtain ⟨-, rfl⟩ := Prod.mk.inj hleave
      rw [Stage.mem_signals hx]
      simpa [soundObs] using hc
    | disconnected r =>
      obtain ⟨-, hheld⟩ := hI
      obtain ⟨-, hpub, hc, -, -, -⟩ := Held.mk.inj hheld
      obtain ⟨-, rfl⟩ := Prod.mk.inj (Option.some.inj hstep)
      rw [List.mem_singleton.1 hx]
      simpa [soundObs] using ⟨hc, hpub⟩
    | dropped r =>
      obtain ⟨-, hheld⟩ := hI
      obtain ⟨-, -, hc, hb, -, -⟩ := Held.mk.inj hheld
      obtain ⟨-, rfl⟩ := Prod.mk.inj (Option.some.inj hstep)
      rcases List.mem_cons.1 hx with rfl | hx
      · simpa [soundObs] using ⟨hb, hc⟩
      · rw [List.mem_singleton.1 hx]
        rfl
    | unwindingDisconnected =>
      obtain ⟨-, hheld⟩ := hI
      obtain ⟨-, -, -, -, -, hpanic⟩ := Held.mk.inj hheld
      exact absurd (hsp.symm.trans hpanic) (by simp)
    | _ =>
      obtain ⟨-, rfl⟩ := Prod.mk.inj (Option.some.inj hstep)
      exact absurd hx List.not_mem_nil

/-- The record of a panic says whether there was one. -/
theorem panicked_eq {h : List (Move Watched Act Obs)} {s : Watched} (hr : watched.Run h s) :
    s.2.panicked = h.any panics := by
  induction hr with
  | nil => rfl
  | snoc hr hs ih =>
    rw [panicked_of_step hs, ih, List.any_append]
    simp [panics]

/-! ## The result -/

/-- **The context outlives everybody who can signal it, unless a panic leaves
`run_connected`.**  Without one, every move of every interleaving respects the
lifetimes.  And of a session that is over, having had a context, the whole
promise (every move sound, the context freed once and the bridge box once after
it) holds exactly when nothing in `run_connected` panicked. -/
theorem context_lifetime {h : List (Move Watched Act Obs)} {s : Watched} (hr : watched.Run h s) :
    ((∀ m ∈ h, panics m = false) → ∀ m ∈ h, soundMove m = true) ∧
      ∀ r, s.1.pc = .finished r → s.1.ctx ≠ Ptr.null →
        (((∀ m ∈ h, soundMove m = true) ∧ s.2.released = [.contextFreed, .bridgeReclaimed]) ↔
          ∀ m ∈ h, panics m = false) := by
  have hsound : (∀ m ∈ h, panics m = false) → ∀ m ∈ h, soundMove m = true := by
    intro hnone
    have hstep := fun s a t o (hI : Custody s ∧ s.2.panicked = false)
        (hs : watched.step s a = some (t, o)) (hg : panics ⟨s, a, o, t⟩ = false) =>
      show Custody t ∧ t.2.panicked = false from
        ⟨hI.1.step hs, by rw [panicked_of_step hs, hI.2]; exact hg⟩
    obtain ⟨-, hall⟩ := hr.guarded (g := fun m => panics m = false) ⟨custody_start, rfl⟩ hstep hnone
    intro m hm
    exact (hall m hm).1.1.soundMove (hr.step_of_mem m hm) (hall m hm).2.2
  refine ⟨hsound, fun r hpc hne => ⟨fun ⟨_, hrel⟩ => ?_, fun hnone => ⟨hsound hnone, ?_⟩⟩⟩
  · -- a session that panicked has given back the context only
    have hI := custody_of_run hr
    rw [Custody, hpc] at hI
    suffices hp : s.2.panicked = false by
      rw [panicked_eq hr] at hp
      exact fun m hm => by simpa using List.any_eq_false.1 hp m hm
    rcases hI with hheld | ⟨-, hheld⟩ | ⟨-, hheld⟩
    · exact (Held.mk.inj hheld).2.2.2.2.2
    · exact (Held.mk.inj hheld).2.2.2.2.2
    · have hone : s.2.released = [.contextFreed] := (Held.mk.inj hheld).2.2.2.2.1
      rw [hone] at hrel
      exact absurd hrel (by simp)
  · have hp : s.2.panicked = false := by
      rw [panicked_eq hr]
      exact List.any_eq_false.2 fun m hm => by simp [hnone m hm]
    have hI := custody_of_run hr
    rw [Custody, hpc] at hI
    rcases hI with hheld | ⟨-, hheld⟩ | ⟨-, hheld⟩
    · exact absurd (Held.mk.inj hheld).1 hne
    · exact (Held.mk.inj hheld).2.2.2.2.1
    · exact absurd (hp.symm.trans (Held.mk.inj hheld).2.2.2.2.2) (by simp)

/-- A session as far as its event loop's first wait. -/
def connectActs : List Act := .newContext 1 :: List.replicate 9 (.thread .ok)

/-- A session dropped while it waits: the abort, the queued `Shutdown` read by
the loop, the cleanup, and the join. -/
def dropActs : List Act :=
  connectActs ++ [.drop, .drop] ++ List.replicate 8 (.thread .ok) ++ [.drop]

/-- A session whose reconnect panics on its way (its report goes to a standard
error that is gone), dropped after the thread is over. -/
def panicActs : List Act :=
  connectActs ++ List.replicate 4 (.thread .ok) ++
    [.thread .due, .thread .panicked, .thread .ok, .thread .ok, .drop]

/-- The promise kept, on a session dropped while it waits. -/
theorem context_lifetime_dropped : ∃ h s, watched.Run h s ∧ s.1.pc = .finished .ok ∧
    (∀ m ∈ h, soundMove m = true) ∧ s.2.released = [.contextFreed, .bridgeReclaimed] := by
  have hrun := watched.run_get dropActs (by decide)
  refine ⟨_, _, hrun, by decide, ?_⟩
  exact ((context_lifetime hrun).2 .ok (by decide) (by decide)).2 (by decide)

/-- **After a panic the drop signals a freed context.**  The destructor freed
it, nothing withdrew it, and the bridge box is never reclaimed. -/
theorem panic_leaves_context_published : ∃ h s, watched.Run h s ∧
    s.1.context = .freed ∧ s.1.bridge = .live ∧
    (∃ m ∈ h, m.out = [.abortSignal 1] ∧ m.src.1.context = .freed) ∧
    s.2.released = [.contextFreed] := by
  have hrun := watched.run_get panicActs (by decide)
  exact ⟨_, _, hrun, by decide, by decide, by decide, by decide⟩

end Session
end FreerdpPrebuilt
