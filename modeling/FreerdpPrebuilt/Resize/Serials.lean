import FreerdpPrebuilt.Resize.Route

/-!
# The serial numbers are read by nobody

`ResizeRequest.serial` is no field of the source: it numbers the requests so
that laws about their order can be stated.  `step_forgetSerials` says that the
model may carry it: no step depends on it.
-/

namespace FreerdpPrebuilt
namespace Resize

open Session (Shared)

/-- The request as the source has it. -/
def unnumbered (request : ResizeRequest) : ResizeRequest := { request with serial := 0 }

/-- The command as the source has it. -/
def forgetCommand : Command → Command
  | .resize request => .resize (unnumbered request)
  | command => command

/-- The session as the source has it. -/
def State.forgetSerials (st : State) : State :=
  { st with
    bridge := { st.bridge with
      pendingResize := st.bridge.pendingResize.map unnumbered
      pendingReconnect := st.bridge.pendingReconnect.map fun pending =>
        ⟨unnumbered pending.request, pending.since⟩ }
    shared := { st.shared with queue := st.shared.queue.map forgetCommand }
    batch := st.batch.map fun batch => batch.map forgetCommand
    nextSerial := 0 }

/-- What was observed, as the source has it. -/
def forgetObs : Obs → Obs
  | .layout request => .layout (unnumbered request)
  | .reconnect request => .reconnect (unnumbered request)
  | .resizeReady maxMonitors maxArea => .resizeReady maxMonitors maxArea

/-- A step's result, as the source has it. -/
def forgetResult (r : State × List Obs) : State × List Obs :=
  (r.1.forgetSerials, r.2.map forgetObs)

@[simp] theorem unnumbered_unnumbered (request : ResizeRequest) :
    unnumbered (unnumbered request) = unnumbered request := rfl

@[simp] theorem unnumbered_mk (width height scalePercent serial : ℕ) :
    unnumbered ⟨width, height, scalePercent, serial⟩ = ⟨width, height, scalePercent, 0⟩ := rfl

@[simp] theorem monitorLayout_unnumbered (request : ResizeRequest) :
    monitorLayout (unnumbered request) = monitorLayout request := rfl

@[simp] theorem forgetCommand_resize (request : ResizeRequest) :
    forgetCommand (.resize request) = .resize (unnumbered request) := rfl

@[simp] theorem forgetCommand_shutdown : forgetCommand .shutdown = .shutdown := rfl

@[simp] theorem forgetCommand_forgetCommand (command : Command) :
    forgetCommand (forgetCommand command) = forgetCommand command := by
  cases command <;> rfl

@[simp] theorem forgetSerials_forgetSerials (st : State) :
    st.forgetSerials.forgetSerials = st.forgetSerials := by
  simp [State.forgetSerials, Function.comp_def]

theorem resize_forgetSerials (st : State) (request : ResizeRequest) (accepted : Bool) :
    forgetResult (resize st.forgetSerials (unnumbered request) accepted) =
      forgetResult (resize st request accepted) := by
  unfold resize
  have hsame : st.forgetSerials.settings.same (unnumbered request) =
      st.settings.same request := rfl
  have hroute : st.forgetSerials.byReconnect = st.byReconnect := rfl
  rw [hsame, hroute]
  split
  · simp [forgetResult]
  · split
    · simp [forgetResult, State.forgetSerials, Function.comp_def]
    · unfold requestResize
      have hdisp : st.forgetSerials.bridge.disp = st.bridge.disp := rfl
      have hready : st.forgetSerials.bridge.resizeReady = st.bridge.resizeReady := rfl
      rw [hdisp, hready]
      split
      · simp [forgetResult, State.hold, State.forgetSerials, Function.comp_def]
      · split
        · unfold sendMonitorLayout
          split
          · simp [forgetResult, State.forgetSerials, Function.comp_def, forgetObs]
          · simp [forgetResult]
        · simp [forgetResult, State.hold, State.forgetSerials, Function.comp_def]

theorem execute_forgetSerials (st : State) (command : Command) (accepted : Bool) :
    forgetResult (execute st.forgetSerials (forgetCommand command) accepted) =
      forgetResult (execute st command accepted) := by
  cases command with
  | resize request => exact resize_forgetSerials st request accepted
  | _ => simp [execute, forgetCommand, forgetResult]

/-- A reconnect brings both to the same settings, and to the same answer. -/
theorem reconnectResize_forgetSerials (st st' : State)
    (h : st'.forgetSerials = st.forgetSerials) (request : ResizeRequest)
    (answers : ReconnectAnswers) :
    (reconnectResize st' (unnumbered request) answers).1.forgetSerials =
      (reconnectResize st request answers).1.forgetSerials ∧
    (reconnectResize st' (unnumbered request) answers).2 =
      (reconnectResize st request answers).2 := by
  unfold reconnectResize
  have hsizes : reconnectSizes (unnumbered request) = reconnectSizes request := rfl
  simp only [State.forgetSerials, State.mk.injEq, Bridge.mk.injEq] at h
  have hset : st'.settings = st.settings := h.1
  simp only [hsizes, hset]
  split
  · split
    · split <;> simp_all [State.forgetSerials]
    · simp_all [State.forgetSerials]
  · simp_all [State.forgetSerials]

theorem finished_forgetSerials {st st' : State} (h : st'.forgetSerials = st.forgetSerials)
    (finished : Bool) :
    State.forgetSerials { st' with finished } = State.forgetSerials { st with finished } :=
  congrArg (fun s : State => { s with finished }) h

theorem due_forgetSerials (st : State) (answers : ReconnectAnswers) :
    forgetResult (st.forgetSerials.due answers) = forgetResult (st.due answers) := by
  unfold State.due
  have hready : st.forgetSerials.ready = st.ready.map fun pending =>
      ⟨unnumbered pending.request, pending.since⟩ := by
    unfold State.ready
    rw [State.forgetSerials]
    cases hp : st.bridge.pendingReconnect with
    | none => rfl
    | some pending => simp [Option.filter_some, apply_ite]
  rw [hready]
  cases hr : st.ready with
  | none => simp [forgetResult, State.forgetSerials, Function.comp_def]
  | some pending =>
    obtain ⟨hstate, hok⟩ := reconnectResize_forgetSerials
      { st with batch := none, bridge := { st.bridge with pendingReconnect := none } }
      { st.forgetSerials with
        batch := none, bridge := { st.forgetSerials.bridge with pendingReconnect := none } }
      (by simp [State.forgetSerials, Function.comp_def]) pending.request answers
    simp only [Option.map_some, forgetResult, hok, List.map_cons, List.map_nil, forgetObs,
      unnumbered_unnumbered, Prod.mk.injEq, and_true]
    exact finished_forgetSerials hstate _

/-- **No step reads a serial number.**  A session and the same session without
its numbers take the same steps, and show the same. -/
theorem step_forgetSerials (st : State) (a : Act) :
    (step st.forgetSerials a).map forgetResult = (step st a).map forgetResult := by
  have hfinished : st.forgetSerials.finished = st.finished := rfl
  have hbatch : st.forgetSerials.batch = st.batch.map fun batch => batch.map forgetCommand := rfl
  cases a with
  | inputResize width height scalePercent =>
    simp [step, State.inputResize, forgetResult, State.forgetSerials, Shared.push, Shared.append,
      Shared.setEvent, Function.comp_def]
  | push command =>
    simp only [step]
    split <;> simp [forgetResult, State.forgetSerials, Shared.push, Shared.append,
      Shared.setEvent, Function.comp_def]
  | drain =>
    simp only [step, hfinished, hbatch]
    cases hb : st.batch with
    | some batch => rfl
    | none =>
      simp only [Option.map_none]
      split <;> simp [forgetResult, State.forgetSerials, Shared.drain, Shared.take,
        Shared.resetEvent, Function.comp_def]
  | execute accepted =>
    simp only [step, hfinished, hbatch]
    split
    · rfl
    · cases hb : st.batch with
      | none => rfl
      | some batch =>
        cases batch with
        | nil => rfl
        | cons command batch =>
          have hexec := execute_forgetSerials { st with batch := some batch } command accepted
          cases command with
          | shutdown => simp [forgetResult, State.forgetSerials, Function.comp_def]
          | _ => exact congrArg some hexec
  | due answers =>
    simp only [step, hfinished, hbatch]
    split
    · rfl
    · cases hb : st.batch with
      | none => rfl
      | some batch =>
        cases batch with
        | nil => exact congrArg some (due_forgetSerials st answers)
        | cons command batch => rfl
  | ended =>
    have hnone : st.forgetSerials.batch = none ↔ st.batch = none := by simp [hbatch]
    simp only [step, hnone]
    split <;> simp [forgetResult, State.forgetSerials, Function.comp_def]
  | channelConnected pInterface =>
    cases pInterface <;> simp [step, forgetResult, State.forgetSerials, Function.comp_def]
  | displayControlCaps disp maxMonitors areaFactorA areaFactorB =>
    simp only [step, displayControlCaps]
    split
    · simp [forgetResult]
    · cases hp : st.bridge.pendingResize <;>
        simp [hp, forgetResult, State.forgetSerials, Function.comp_def, Shared.push,
          Shared.append, Shared.setEvent]
  | serverApply =>
    have hserver : st.forgetSerials.server = st.server := rfl
    simp only [step, hserver]
    split <;> simp [forgetResult, State.forgetSerials, Function.comp_def]
  | _ => simp [step, forgetResult, State.forgetSerials, Function.comp_def]

end Resize
end FreerdpPrebuilt
