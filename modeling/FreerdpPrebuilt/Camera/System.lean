import FreerdpPrebuilt.Camera.Endpoint
import FreerdpPrebuilt.Lib.Machine

/-!
# The camera among its threads

The operations of `FreerdpPrebuilt.Camera.Endpoint` as a machine: the
embedder's threads call `plug`, `unplug` and `sample`, the host opens and closes
channels and sends messages on the open ones, and the plugin is terminated.
Each operation is atomic, because it holds the one lock; the events it has to
deliver are delivered later, by steps of their own, and any number of them may
be on their way.
-/

namespace FreerdpPrebuilt
namespace Camera

open Labelled

/-! ## The machine -/

/-- A session's camera, the channels open to it, and the events on their way to
the embedder. -/
structure System where
  cam : CamState
  /-- The open enumeration channels, by address. -/
  enumerators : List Ptr
  /-- The open device channels, by address. -/
  devices : List Ptr
  inFlight : List Event
  /-- How many calls of `sample` there were. -/
  calls : ℕ

/-- A camera that has just been made. -/
def System.start : System := ⟨.new, [], [], [], 0⟩

/-- What the world sees of a camera. -/
inductive Obs
  | write (write : Write)
  | deliver (event : Event)
  /-- What `Camera::sample` returns. -/
  | returned (accepted : Bool)
  deriving DecidableEq

/-- What can happen.  `answers` is what the channel says to the writes of the
operation. -/
inductive Act
  | plug (format : CameraFormat) (answers : ℕ → Bool)
  | unplug (answers : ℕ → Bool)
  | sample (data : Bytes) (keyframe : Bool) (answers : ℕ → Bool)
  /-- A channel is created and opened at a fresh address. -/
  | opened (enumerator : Bool) (channel : Ptr) (answers : ℕ → Bool)
  /-- An open channel is closed, once. -/
  | closed (enumerator : Bool) (channel : Ptr)
  /-- The plugin is terminated, and all its channels with it. -/
  | terminated
  /-- A message arrives on an open channel. -/
  | received (enumerator : Bool) (channel : Ptr) (bytes : Bytes) (answers : ℕ → Bool)
  /-- An event on its way is delivered. -/
  | deliver (position : ℕ)

/-- The open channels of a kind. -/
def System.channels (s : System) (enumerator : Bool) : List Ptr :=
  if enumerator then s.enumerators else s.devices

/-- Whether an address is free for a new channel. -/
def System.isFresh (s : System) (channel : Ptr) : Bool :=
  channel ≠ Ptr.null && channel ∉ s.enumerators && channel ∉ s.devices

/-- Change the open channels of a kind. -/
def System.setChannels (s : System) (enumerator : Bool) (channels : List Ptr) : System :=
  if enumerator then { s with enumerators := channels } else { s with devices := channels }

/-- Take over what an operation leaves. -/
def System.apply (s : System) (outcome : Outcome) : System × List Obs :=
  ({ s with cam := outcome.state, inFlight := s.inFlight ++ outcome.events },
    outcome.writes.map .write)

/-- One step. -/
def step (deviceName : String) (s : System) : Act → Option (System × List Obs)
  | .plug format answers => some (s.apply (plug deviceName s.cam format answers))
  | .unplug answers => some (s.apply (unplug s.cam answers))
  | .sample data keyframe answers =>
    let result := sample s.cam ⟨data, keyframe, s.calls⟩ answers
    let applied := s.apply result.1
    some ({ applied.1 with calls := s.calls + 1 }, applied.2 ++ [.returned result.2])
  | .opened enumerator channel answers =>
    if s.isFresh channel then
      let t := s.setChannels enumerator (channel :: s.channels enumerator)
      some (t.apply (onOpen s.cam enumerator channel answers))
    else none
  | .closed enumerator channel =>
    if channel ∈ s.channels enumerator then
      let t := s.setChannels enumerator ((s.channels enumerator).erase channel)
      some (t.apply (onClose s.cam enumerator channel))
    else none
  | .terminated =>
    some (System.apply { s with enumerators := [], devices := [] } (pluginTerminated s.cam))
  | .received enumerator channel bytes answers =>
    if channel ∈ s.channels enumerator then
      some (s.apply (onDataReceived deviceName s.cam enumerator channel bytes answers))
    else none
  | .deliver position =>
    match s.inFlight[position]? with
    | none => none
    | some event => some ({ s with inFlight := s.inFlight.eraseIdx position }, [.deliver event])

/-- **A session's camera as a machine.** -/
def machine (deviceName : String) : Machine System Act Obs := ⟨.start, step deviceName⟩

section

variable {deviceName : String} {s t : System} {enumerator : Bool} {channel : Ptr} {bytes : Bytes}
  {answers : ℕ → Bool} {position : ℕ} {o : List Obs}

theorem step_opened (h : step deviceName s (.opened enumerator channel answers) = some (t, o)) :
    let base := s.setChannels enumerator (channel :: s.channels enumerator)
    s.isFresh channel = true ∧ t = (base.apply (onOpen s.cam enumerator channel answers)).1 ∧
      o = (base.apply (onOpen s.cam enumerator channel answers)).2 := by
  simp only [step] at h
  split at h
  · obtain ⟨rfl, rfl⟩ := Prod.mk.inj (Option.some.inj h)
    exact ⟨by assumption, rfl, rfl⟩
  · exact absurd h (by simp)

theorem step_closed (h : step deviceName s (.closed enumerator channel) = some (t, o)) :
    let base := s.setChannels enumerator ((s.channels enumerator).erase channel)
    channel ∈ s.channels enumerator ∧
      t = (base.apply (onClose s.cam enumerator channel)).1 ∧
      o = (base.apply (onClose s.cam enumerator channel)).2 := by
  simp only [step] at h
  split at h
  · obtain ⟨rfl, rfl⟩ := Prod.mk.inj (Option.some.inj h)
    exact ⟨by assumption, rfl, rfl⟩
  · exact absurd h (by simp)

theorem step_received
    (h : step deviceName s (.received enumerator channel bytes answers) = some (t, o)) :
    channel ∈ s.channels enumerator ∧
      t = (s.apply (onDataReceived deviceName s.cam enumerator channel bytes answers)).1 ∧
      o = (s.apply (onDataReceived deviceName s.cam enumerator channel bytes answers)).2 := by
  simp only [step] at h
  split at h
  · obtain ⟨rfl, rfl⟩ := Prod.mk.inj (Option.some.inj h)
    exact ⟨by assumption, rfl, rfl⟩
  · exact absurd h (by simp)

theorem step_deliver (h : step deviceName s (.deliver position) = some (t, o)) :
    ∃ event, s.inFlight[position]? = some event ∧
      t = { s with inFlight := s.inFlight.eraseIdx position } ∧ o = [.deliver event] := by
  simp only [step] at h
  split at h
  · exact absurd h (by simp)
  · obtain ⟨rfl, rfl⟩ := Prod.mk.inj (Option.some.inj h)
    exact ⟨_, by assumption, rfl, rfl⟩

end

/-! ## What a message means -/

/-- The format of a StartStreamsRequest that is accepted. -/
def startsStream (body : Bytes) : Option CameraFormat :=
  match parseStartStreams body with
  | some (index, format, media) => if index = 0 ∧ format = FORMAT_H264 then some media else none
  | none => none

/-- What a message on a device channel asks for. -/
inductive Request
  | start (format : CameraFormat)
  | stop
  /-- One more sample. -/
  | sample
  | other
  deriving DecidableEq

/-- The request of a message with this id and body. -/
def requestOf (id : UInt8) (body : Bytes) : Request :=
  if id = DEACTIVATE_DEVICE_REQUEST ∨ id = STOP_STREAMS_REQUEST then .stop
  else if id = START_STREAMS_REQUEST then
    match startsStream body with
    | some format => .start format
    | none => .other
  else if id = SAMPLE_REQUEST ∧ streamIndexOk body = true then .sample
  else .other

/-- Read the request off a message. -/
def request (bytes : Bytes) : Request :=
  match bytes with
  | _ :: id :: body => requestOf id body
  | _ => .other

/-- A message with a request has a version, an id and a body. -/
theorem eq_cons_of_request {bytes : Bytes} (h : request bytes ≠ .other) :
    ∃ version id body, bytes = version :: id :: body := by
  rcases bytes with _ | ⟨version, _ | ⟨id, body⟩⟩
  · exact absurd rfl h
  · exact absurd rfl h
  · exact ⟨version, id, body, rfl⟩

/-- Whether a message on an enumeration channel finishes SelectVersion. -/
def selectsVersion (bytes : Bytes) : Bool :=
  match bytes with
  | _ :: id :: _ => id == SELECT_VERSION_RESPONSE
  | _ => false

end Camera
end FreerdpPrebuilt
