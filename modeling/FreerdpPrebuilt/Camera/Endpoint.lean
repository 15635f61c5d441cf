import FreerdpPrebuilt.Camera.Wire

/-!
# The camera endpoint

`CamState` is everything `camera.rs` remembers, under one lock.  Each function
below is what one thread does while it holds that lock: the embedder's `plug`,
`unplug` and `sample`, and the callbacks of the two dynamic channels.  It takes
the state to the next one, lists the messages it writes, and the events it has
to deliver once the lock is released.

A channel may refuse any message.  What it answers to the writes of one
operation is a function of their position in it.
-/

namespace FreerdpPrebuilt
namespace Camera

/-- One `Chan::write`: the channel, the message, and whether the channel took
it. -/
structure Write where
  channel : Ptr
  message : Message
  accepted : Bool
  deriving DecidableEq

/-- A call on the session's `CameraEvents`. -/
inductive Event
  | negotiated (version : UInt8)
  | attached
  | started (format : CameraFormat)
  | stopped
  | keyframeNeeded
  deriving DecidableEq

/-- Everything the protocol remembers. -/
structure CamState where
  /-- The negotiated protocol version. -/
  version : UInt8
  /-- The enumeration channel. -/
  enumerator : Option Ptr
  /-- Whether SelectVersion finished. -/
  enumReady : Bool
  /-- The device channel. -/
  device : Option Ptr
  /-- Whether the embedder wants the device visible. -/
  plugged : Bool
  /-- Whether DeviceAdded went out for the current plug. -/
  announced : Bool
  /-- The format the embedder plugged with. -/
  format : Option CameraFormat
  /-- Between StartStreams and StopStreams, Deactivate or the close. -/
  streaming : Bool
  /-- Outstanding SampleRequests. -/
  credits : ℕ
  /-- Samples waiting for credit, oldest first. -/
  pending : List Sample
  /-- Set when samples were dropped: everything is discarded until the next
  keyframe. -/
  awaitingKeyframe : Bool
  deriving DecidableEq

/-- `CamState::new`. -/
def CamState.new : CamState :=
  ⟨ECAM_PROTO_VERSION, none, false, none, false, false, none, false, 0, [], false⟩

/-- `CamState::stop_stream`, without what it returns: whether a stream was
running is read before it. -/
def CamState.stopStream (st : CamState) : CamState :=
  { st with streaming := false, credits := 0, pending := [], awaitingKeyframe := false }

/-- What an operation leaves: the state, the messages written, and the events to
deliver after the lock is released. -/
structure Outcome where
  state : CamState
  writes : List Write
  events : List Event

/-- An operation that does nothing. -/
def Outcome.nothing (st : CamState) : Outcome := ⟨st, [], []⟩

/-- An operation that answers with one message. -/
def Outcome.answer (st : CamState) (channel : Ptr) (message : Message) (answers : ℕ → Bool) :
    Outcome :=
  ⟨st, [⟨channel, message, answers 0⟩], []⟩

/-! ## The embedder's calls -/

/-- `Camera::announce`: DeviceAdded, when everything it waits for holds. -/
def announce (deviceName : String) (st : CamState) (answers : ℕ → Bool) : Outcome :=
  if st.plugged && st.enumReady && !st.announced && st.format.isSome then
    match st.enumerator with
    | none => .nothing st
    | some channel =>
      let st' := if answers 0 then { st with announced := true } else st
      .answer st' channel (.deviceAdded st.version deviceName) answers
  else .nothing st

/-- `Camera::plug`. -/
def plug (deviceName : String) (st : CamState) (format : CameraFormat) (answers : ℕ → Bool) :
    Outcome :=
  announce deviceName { st with plugged := true, format := some (st.format.getD format) } answers

/-- `Camera::unplug`. -/
def unplug (st : CamState) (answers : ℕ → Bool) : Outcome :=
  let st := { st with plugged := false, format := none }.stopStream
  if st.announced then
    let st := { st with announced := false }
    match st.enumerator with
    | none => .nothing st
    | some channel => .answer st channel (.deviceRemoved st.version) answers
  else .nothing st

/-- The second half of `Camera::sample`, past the keyframe a stream waits for:
send, queue or overflow. -/
def submit (st : CamState) (sample : Sample) (answers : ℕ → Bool) : Outcome × Bool :=
  if 0 < st.credits ∧ st.pending = [] then
    match st.device with
    | none => (.nothing st, false)
    | some channel =>
      let message := Message.sampleResponse st.version 0 sample
      -- the credit is spent only by a write the channel took
      if answers 0 then
        (.answer { st with credits := st.credits - 1 } channel message answers, true)
      else (.answer st channel message answers, false)
  else if st.pending.length < PENDING_SAMPLES_MAX then
    (.nothing { st with pending := st.pending ++ [sample] }, true)
  else
    (⟨{ st with pending := [], awaitingKeyframe := true }, [], [.keyframeNeeded]⟩, false)

/-- `Camera::sample`. -/
def sample (st : CamState) (sample : Sample) (answers : ℕ → Bool) : Outcome × Bool :=
  if st.streaming then
    if st.awaitingKeyframe then
      if sample.keyframe then submit { st with awaitingKeyframe := false } sample answers
      else (⟨st, [], [.keyframeNeeded]⟩, false)
    else submit st sample answers
  else (.nothing st, false)

/-! ## The channels' callbacks -/

/-- `plugin_terminated`, as far as the state goes. -/
def pluginTerminated (st : CamState) : Outcome :=
  let st' := { st with
    enumerator := none, enumReady := false, device := none, announced := false }.stopStream
  ⟨st', [], if st.streaming then [.stopped] else []⟩

/-- `on_open`. -/
def onOpen (st : CamState) (enumerator : Bool) (channel : Ptr) (answers : ℕ → Bool) : Outcome :=
  if enumerator then
    .answer { st with enumerator := some channel } channel (.selectVersionRequest st.version)
      answers
  else ⟨{ st with device := some channel }, [], [.attached]⟩

/-- `on_close`. -/
def onClose (st : CamState) (enumerator : Bool) (channel : Ptr) : Outcome :=
  if enumerator then
    if st.enumerator = some channel then
      .nothing { st with enumerator := none, enumReady := false, announced := false }
    else .nothing st
  else if st.device = some channel then
    ⟨{ st with device := none }.stopStream, [], if st.streaming then [.stopped] else []⟩
  else .nothing st

/-- `handle_enumerator`. -/
def handleEnumerator (deviceName : String) (st : CamState) (channel : Ptr)
    (serverVersion id : UInt8) (answers : ℕ → Bool) : Outcome :=
  if id = SELECT_VERSION_RESPONSE then
    let version := if 1 ≤ serverVersion ∧ serverVersion ≤ ECAM_PROTO_VERSION then serverVersion
      else st.version
    let st := { st with version, enumReady := true }
    if st.plugged && !st.announced && st.format.isSome then
      let st' := if answers 0 then { st with announced := true } else st
      ⟨st', [⟨channel, .deviceAdded version deviceName, answers 0⟩], [.negotiated version]⟩
    else ⟨st, [], [.negotiated version]⟩
  else if id = SUCCESS_RESPONSE ∨ id = ERROR_RESPONSE then .nothing st
  else .answer st channel (.errorResponse st.version OPERATION_NOT_SUPPORTED) answers

/-- The loop of a SampleRequest: pay out credits, oldest sample first.  What the
channel answers is not looked at. -/
def drain (version : UInt8) (channel : Ptr) (answers : ℕ → Bool) :
    ℕ → List Sample → ℕ → ℕ × List Sample × List Write
  | 0, pending, _ => (0, pending, [])
  | credits, [], _ => (credits, [], [])
  | credits + 1, sample :: pending, i =>
    let (credits, pending, writes) := drain version channel answers credits pending (i + 1)
    (credits, pending, ⟨channel, .sampleResponse version 0 sample, answers i⟩ :: writes)

/-- Requests that name a stream; this endpoint has stream 0 only. -/
def streamIndexOk (body : Bytes) : Bool := body.head? == some 0

/-- The answer to a request about media types. -/
def answerFormat (st : CamState) (channel : Ptr) (body : Bytes)
    (message : UInt8 → CameraFormat → Message) (answers : ℕ → Bool) : Outcome :=
  if streamIndexOk body then
    match st.format with
    | some format => .answer st channel (message st.version format) answers
    | none => .answer st channel (.errorResponse st.version INVALID_MESSAGE) answers
  else .answer st channel (.errorResponse st.version INVALID_STREAM_NUMBER) answers

/-- `handle_device` at a StartStreamsRequest. -/
def startStreams (st : CamState) (channel : Ptr) (body : Bytes) (answers : ℕ → Bool) : Outcome :=
  match parseStartStreams body with
  | none => .answer st channel (.errorResponse st.version INVALID_MESSAGE) answers
  | some (index, format, media) =>
    if index = 0 then
      if format = FORMAT_H264 then
        -- nothing is sent until the next keyframe
        ⟨{ st.stopStream with streaming := true, awaitingKeyframe := true },
          [⟨channel, .successResponse st.version, answers 0⟩], [.started media]⟩
      else .answer st channel (.errorResponse st.version INVALID_MEDIA_TYPE) answers
    else .answer st channel (.errorResponse st.version INVALID_STREAM_NUMBER) answers

/-- `handle_device` at a SampleRequest. -/
def sampleRequest (st : CamState) (channel : Ptr) (body : Bytes) (answers : ℕ → Bool) : Outcome :=
  if streamIndexOk body then
    if st.streaming then
      let (credits, pending, writes) :=
        drain st.version channel answers (min (st.credits + 1) u32Max) st.pending 0
      ⟨{ st with credits, pending }, writes, []⟩
    else .nothing st
  else .answer st channel (.errorResponse st.version INVALID_STREAM_NUMBER) answers

/-- `handle_device`. -/
def handleDevice (st : CamState) (channel : Ptr) (id : UInt8) (body : Bytes)
    (answers : ℕ → Bool) : Outcome :=
  if id = ACTIVATE_DEVICE_REQUEST then
    .answer st channel (.successResponse st.version) answers
  else if id = DEACTIVATE_DEVICE_REQUEST ∨ id = STOP_STREAMS_REQUEST then
    ⟨st.stopStream, [⟨channel, .successResponse st.version, answers 0⟩],
      if st.streaming then [.stopped] else []⟩
  else if id = STREAM_LIST_REQUEST then
    .answer st channel (.streamListResponse st.version) answers
  else if id = MEDIA_TYPE_LIST_REQUEST then
    answerFormat st channel body .mediaTypeListResponse answers
  else if id = CURRENT_MEDIA_TYPE_REQUEST then
    answerFormat st channel body .currentMediaTypeResponse answers
  else if id = START_STREAMS_REQUEST then startStreams st channel body answers
  else if id = SAMPLE_REQUEST then sampleRequest st channel body answers
  else if id = PROPERTY_LIST_REQUEST then
    .answer st channel (.propertyListResponse st.version) answers
  else if id = SUCCESS_RESPONSE ∨ id = ERROR_RESPONSE then .nothing st
  else .answer st channel (.errorResponse st.version OPERATION_NOT_SUPPORTED) answers

/-- `on_data_received`, with the bytes still unread in the stream. -/
def onDataReceived (deviceName : String) (st : CamState) (enumerator : Bool) (channel : Ptr)
    (bytes : Bytes) (answers : ℕ → Bool) : Outcome :=
  match bytes with
  | serverVersion :: id :: body =>
    if enumerator then handleEnumerator deviceName st channel serverVersion id answers
    else handleDevice st channel id body answers
  | _ => .nothing st

end Camera
end FreerdpPrebuilt
