import FreerdpPrebuilt.Session.Thread

/-!
# The two ways a resize can go

`resize` sends a request on one of two routes: a monitor layout over the `disp`
channel, or, on a session whose sound would not survive a reactivation, a
reconnect at the new size.  On the way a request can sit in three places: the
command queue, `pending_resize` while the channel is not ready, and
`pending_reconnect` while the debounce runs.  This file transcribes the
functions that move it, and the event loop and the callbacks that call them.

The far side is modelled as far as a request needs it: the desktop the server
shows, the density it applies, and the layouts on their way to it.
-/

namespace FreerdpPrebuilt
namespace Resize

open Labelled
open Session (Shared)

/-! ## Settings -/

/-- The fields of `rdpSettings` a resize reads or writes. -/
structure Settings where
  desktopWidth : ℕ
  desktopHeight : ℕ
  desktopScaleFactor : ℕ
  deviceScaleFactor : ℕ
  supportGraphicsPipeline : Bool
  deriving DecidableEq

/-- The keys `reconnect_resize` writes. -/
inductive SettingKey
  | desktopWidth
  | desktopHeight
  | desktopScaleFactor
  | deviceScaleFactor
  deriving DecidableEq, Repr

/-- `freerdp_settings_set_uint32`, when it is accepted. -/
def Settings.setUint32 (settings : Settings) : SettingKey → ℕ → Settings
  | .desktopWidth, value => { settings with desktopWidth := value }
  | .desktopHeight, value => { settings with desktopHeight := value }
  | .desktopScaleFactor, value => { settings with desktopScaleFactor := value }
  | .deviceScaleFactor, value => { settings with deviceScaleFactor := value }

/-- Write the fields in order, up to the first that is rejected, and say whether
all were taken. -/
def Settings.writeAll (accepts : SettingKey → Bool) :
    Settings → List (SettingKey × ℕ) → Settings × Bool
  | settings, [] => (settings, true)
  | settings, (key, value) :: rest =>
    if accepts key then (settings.setUint32 key value).writeAll accepts rest
    else (settings, false)

/-- Whether the request is for the desktop already on screen: the `same` of
`resize`. -/
def Settings.same (settings : Settings) (request : ResizeRequest) : Bool :=
  request.width == settings.desktopWidth && request.height == settings.desktopHeight
    && request.scalePercent == settings.desktopScaleFactor

/-! ## What the session keeps of a resize -/

/-- `RECONNECT_DEBOUNCE`, in milliseconds. -/
def RECONNECT_DEBOUNCE : ℕ := 300

/-- A resize waiting out `RECONNECT_DEBOUNCE` before it costs a reconnect. -/
structure PendingReconnect where
  request : ResizeRequest
  since : ℕ
  deriving DecidableEq

/-- The `disp` interface, as far as the plugin has filled it in. -/
structure DispClientContext where
  /-- Whether `SendMonitorLayout` is set. -/
  sendMonitorLayout : Bool
  deriving DecidableEq

/-- The part of `Bridge` a resize touches. -/
structure Bridge where
  disp : Option DispClientContext
  /-- Whether the server's DisplayControl capabilities have arrived. -/
  resizeReady : Bool
  /-- The most recent size asked for before the channel was ready. -/
  pendingResize : Option ResizeRequest
  audioDevicesSeen : ℕ
  /-- Whether sound has negotiated over the dynamic transport; never unset. -/
  audioDynamicNegotiated : Bool
  pendingReconnect : Option PendingReconnect
  deriving DecidableEq

/-- One `DISPLAY_CONTROL_MONITOR_LAYOUT`. -/
structure MonitorLayout where
  primary : Bool
  left : ℕ
  top : ℕ
  width : ℕ
  height : ℕ
  physicalWidth : ℕ
  physicalHeight : ℕ
  orientation : ℕ
  desktopScaleFactor : ℕ
  deviceScaleFactor : ℕ
  deriving DecidableEq

/-- One monitor, at the size asked for. -/
def monitorLayout (request : ResizeRequest) : MonitorLayout where
  primary := true
  left := 0
  top := 0
  width := request.width
  height := request.height
  physicalWidth := 0
  physicalHeight := 0
  orientation := 0
  desktopScaleFactor := request.scalePercent
  deviceScaleFactor := 100

/-- The server's side: the desktop it shows, the density it last applied, and
the layouts it has not got to. -/
structure Server where
  width : ℕ
  height : ℕ
  scale : ℕ
  inFlight : List MonitorLayout
  deriving DecidableEq

/-- A connected session, as a resize sees it. -/
structure State where
  settings : Settings
  bridge : Bridge
  shared : Shared
  /-- The commands the event loop has drained and not executed: `none` outside
  the loop over them. -/
  batch : Option (List Command)
  /-- The clock, in milliseconds. -/
  now : ℕ
  /-- The number the next call of `Input::resize` gets. -/
  nextSerial : ℕ
  server : Server
  /-- Whether the event loop has returned. -/
  finished : Bool
  deriving DecidableEq

/-- What a session asks of the server, and what it reports. -/
inductive Obs
  /-- `SendMonitorLayout` is called for this request. -/
  | layout (request : ResizeRequest)
  /-- `reconnect_resize` is called for this request. -/
  | reconnect (request : ResizeRequest)
  /-- `Event::ResizeReady`. -/
  | resizeReady (maxMonitors maxArea : ℕ)
  deriving DecidableEq

/-! ## The functions -/

/-- `send_monitor_layout`.  A layout the channel rejects is reported on standard
error and otherwise forgotten. -/
def sendMonitorLayout (st : State) (disp : DispClientContext) (request : ResizeRequest)
    (accepted : Bool) : State × List Obs :=
  if disp.sendMonitorLayout then
    let inFlight := if accepted then st.server.inFlight ++ [monitorLayout request]
      else st.server.inFlight
    ({ st with server := { st.server with inFlight } }, [.layout request])
  else (st, [])

/-- Hold a request until the channel is ready; it takes the place of the one
held before. -/
def State.hold (st : State) (request : ResizeRequest) : State :=
  { st with bridge := { st.bridge with pendingResize := some request } }

/-- `request_resize`. -/
def requestResize (st : State) (request : ResizeRequest) (accepted : Bool) : State × List Obs :=
  match st.bridge.disp with
  | none => (st.hold request, [])
  | some disp =>
    if st.bridge.resizeReady then sendMonitorLayout st disp request accepted
    else (st.hold request, [])

/-- Whether the session resizes by reconnecting. -/
def State.byReconnect (st : State) : Bool :=
  !st.settings.supportGraphicsPipeline && st.bridge.audioDynamicNegotiated

/-- `resize`. -/
def resize (st : State) (request : ResizeRequest) (accepted : Bool) : State × List Obs :=
  if st.settings.same request then (st, [])
  else if st.byReconnect then
    ({ st with bridge :=
        { st.bridge with pendingReconnect := some ⟨request, st.now⟩ } }, [])
  else requestResize st request accepted

/-- `execute`.  The other commands touch nothing a resize reads. -/
def execute (st : State) (command : Command) (accepted : Bool) : State × List Obs :=
  match command with
  | .resize request => resize st request accepted
  | _ => (st, [])

/-- What FreeRDP answers to the calls of `reconnect_resize`. -/
structure ReconnectAnswers where
  /-- `freerdp_disconnect_before_reconnect_context`. -/
  disconnected : Bool
  accepts : SettingKey → Bool
  /-- `freerdp_reconnect`, with the size the server activated at. -/
  reconnected : Option (ℕ × ℕ)
  /-- `desktop_resize`. -/
  resized : Bool

/-- The writes of `reconnect_resize`. -/
def reconnectSizes (request : ResizeRequest) : List (SettingKey × ℕ) :=
  [(.desktopWidth, request.width), (.desktopHeight, request.height),
    (.desktopScaleFactor, request.scalePercent), (.deviceScaleFactor, 100)]

/-- `reconnect_resize`: down, the new size into settings, up, and the size the
server activated at followed. -/
def reconnectResize (st : State) (request : ResizeRequest) (answers : ReconnectAnswers) :
    State × Bool :=
  if answers.disconnected then
    let st := { st with bridge := { st.bridge with audioDevicesSeen := 0 } }
    let (settings, taken) := st.settings.writeAll answers.accepts (reconnectSizes request)
    let st := { st with settings }
    if taken then
      match answers.reconnected with
      | none => (st, false)
      | some (width, height) =>
        -- the layouts on their way went down with the connection
        ({ st with
            settings := { st.settings with desktopWidth := width, desktopHeight := height }
            server := ⟨width, height, st.settings.desktopScaleFactor, []⟩ }, answers.resized)
    else (st, false)
  else (st, false)

/-- The pending reconnect whose debounce has passed. -/
def State.ready (st : State) : Option PendingReconnect :=
  st.bridge.pendingReconnect.filter fun pending => RECONNECT_DEBOUNCE ≤ st.now - pending.since

/-- The part of `event_loop` after a batch: a reconnect that is due is taken and
performed, and a failed one ends the loop. -/
def State.due (st : State) (answers : ReconnectAnswers) : State × List Obs :=
  match st.ready with
  | none => ({ st with batch := none }, [])
  | some pending =>
    let st := { st with batch := none, bridge := { st.bridge with pendingReconnect := none } }
    let (st, ok) := reconnectResize st pending.request answers
    ({ st with finished := !ok }, [.reconnect pending.request])

/-- `display_control_caps`: ready from now on, and what was held goes back on
the queue. -/
def displayControlCaps (st : State) (disp : Ptr) (maxMonitors areaFactorA areaFactorB : ℕ) :
    State × List Obs :=
  if disp = Ptr.null then (st, [])
  else
    let st := { st with bridge := { st.bridge with resizeReady := true } }
    let obs := [Obs.resizeReady maxMonitors (areaFactorA * areaFactorB)]
    match st.bridge.pendingResize with
    | none => (st, obs)
    | some request =>
      ({ st with
          bridge := { st.bridge with pendingResize := none }
          shared := st.shared.push (.resize request) }, obs)

/-- `Input::resize`. -/
def State.inputResize (st : State) (width height scalePercent : ℕ) : State :=
  let size := sanitiseSize width height
  let request : ResizeRequest := ⟨size.1, size.2, sanitiseScale scalePercent, st.nextSerial⟩
  { st with shared := st.shared.push (.resize request), nextSerial := st.nextSerial + 1 }

/-! ## The session as a machine -/

/-- What can happen next. -/
inductive Act
  /-- A caller asks for a size and a density. -/
  | inputResize (width height scalePercent : ℕ)
  /-- A caller queues another command. -/
  | push (command : Command)
  /-- The event loop drains the queue. -/
  | drain
  /-- The event loop executes the next command of the batch; a layout, if it
  sends one, is accepted by the channel or not. -/
  | execute (accepted : Bool)
  /-- The event loop has executed the batch. -/
  | due (answers : ReconnectAnswers)
  /-- The event loop returns for another reason. -/
  | ended
  | tick (milliseconds : ℕ)
  | channelConnected (pInterface : Option DispClientContext)
  | channelDisconnected
  | displayControlCaps (disp : Ptr) (maxMonitors areaFactorA areaFactorB : ℕ)
  /-- A device is minted for `rdpsnd`. -/
  | audioDevice
  /-- Sound is negotiated over the dynamic transport. -/
  | audioNegotiated
  /-- The server applies the oldest layout it has been sent. -/
  | serverApply
  /-- The server resizes its desktop on its own. -/
  | serverResize (width height : ℕ)

/-- A session that has just connected, with the server at the size and density
it connected with. -/
def State.start (settings : Settings) : State where
  settings := settings
  bridge := ⟨none, false, none, 0, false, none⟩
  shared := .new
  batch := none
  now := 0
  nextSerial := 0
  server := ⟨settings.desktopWidth, settings.desktopHeight, settings.desktopScaleFactor, []⟩
  finished := false

/-- One step. -/
def step (st : State) : Act → Option (State × List Obs)
  | .inputResize width height scalePercent => some (st.inputResize width height scalePercent, [])
  | .push command =>
    if command.request = none then some ({ st with shared := st.shared.push command }, [])
    else none
  | .drain =>
    if st.finished then none
    else match st.batch with
      | some _ => none
      | none =>
        let (batch, shared) := st.shared.drain
        some ({ st with shared, batch := some batch }, [])
  | .execute accepted =>
    if st.finished then none
    else match st.batch with
      | some (.shutdown :: _) => some ({ st with batch := none, finished := true }, [])
      | some (command :: batch) =>
        some (execute { st with batch := some batch } command accepted)
      | _ => none
  | .due answers =>
    if st.finished then none
    else match st.batch with
      | some [] => some (st.due answers)
      | _ => none
  | .ended => if st.batch = none then some ({ st with finished := true }, []) else none
  | .tick milliseconds => some ({ st with now := st.now + milliseconds }, [])
  | .channelConnected none => some (st, [])
  | .channelConnected (some disp) =>
    some ({ st with bridge := { st.bridge with disp := some disp } }, [])
  | .channelDisconnected =>
    some ({ st with bridge := { st.bridge with disp := none, resizeReady := false } }, [])
  | .displayControlCaps disp maxMonitors areaFactorA areaFactorB =>
    some (displayControlCaps st disp maxMonitors areaFactorA areaFactorB)
  | .audioDevice =>
    some ({ st with bridge :=
      { st.bridge with audioDevicesSeen := st.bridge.audioDevicesSeen + 1 } }, [])
  | .audioNegotiated =>
    some ({ st with bridge := { st.bridge with audioDynamicNegotiated := true } }, [])
  | .serverApply =>
    match st.server.inFlight with
    | [] => none
    | layout :: inFlight =>
      some ({ st with
        settings := { st.settings with
          desktopWidth := layout.width, desktopHeight := layout.height }
        server := ⟨layout.width, layout.height, layout.desktopScaleFactor, inFlight⟩ }, [])
  | .serverResize width height =>
    some ({ st with
      settings := { st.settings with desktopWidth := width, desktopHeight := height }
      server := { st.server with width, height } }, [])

/-- **The resizing half of a session as a machine.** -/
def machine (settings : Settings) : Machine State Act Obs := ⟨.start settings, step⟩

end Resize
end FreerdpPrebuilt
