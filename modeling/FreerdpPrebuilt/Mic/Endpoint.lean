import FreerdpPrebuilt.Mic.Wire
import FreerdpPrebuilt.Lib.Machine

/-!
# The microphone endpoint

`MicState` is everything `mic.rs` remembers, under one lock: the stored channel,
the formats an index is resolved against, and the format of the open stream.
Each function below is one callback or one call of `sample`: the state it
leaves, the messages it writes, and the events it delivers once the lock is
released.

The host may open any number of `AUDIO_INPUT` channels, before or after it
closes another; a plugin may be terminated and the next one use the same
microphone.  `machine` runs the callbacks on the channels that are open.
-/

namespace FreerdpPrebuilt
namespace Mic

open Labelled

/-- One `Chan::write`: the channel, the message, and whether the channel took
it. -/
structure Write where
  channel : Ptr
  message : Message
  accepted : Bool
  deriving DecidableEq

/-- A call on the session's `MicEvents`. -/
inductive Event
  | negotiated (version : UInt32)
  | opened (format : MicFormat)
  | closed
  deriving DecidableEq

/-- Everything the protocol remembers. -/
structure MicState where
  /-- The channel, from its OnOpen to its OnClose. -/
  channel : Option Ptr
  /-- The formats this endpoint advertised, in that order. -/
  formats : List MicFormat
  /-- `open`: the format the host opened with. -/
  openFormat : Option MicFormat
  deriving DecidableEq

/-- `MicState::new`. -/
def MicState.new : MicState := ⟨none, [], none⟩

/-- `MicState::stop`, without what it returns: whether a stream was open is read
before it. -/
def MicState.stop (st : MicState) : MicState := { st with openFormat := none }

/-- What an operation leaves: the state, the messages written, and the events to
deliver after the lock is released. -/
structure Outcome where
  state : MicState
  writes : List Write
  events : List Event

/-- An operation that does nothing. -/
def Outcome.nothing (st : MicState) : Outcome := ⟨st, [], []⟩

/-- Stop streaming, and tell whoever needs telling. -/
def Outcome.stopped (st : MicState) : Outcome :=
  ⟨st.stop, [], if st.openFormat.isSome then [.closed] else []⟩

/-! ## The operations -/

/-- `Microphone::sample`: a header and the data, the data only if the header was
taken. -/
def sample (st : MicState) (pcm : Bytes) (answers : ℕ → Bool) : Outcome × Bool :=
  if st.openFormat.isNone then (.nothing st, false)
  else
    match st.channel with
    | none => (.nothing st, false)
    | some channel =>
      if answers 0 then
        (⟨st, [⟨channel, .dataIncoming, true⟩, ⟨channel, .data pcm, answers 1⟩], []⟩, answers 1)
      else (⟨st, [⟨channel, .dataIncoming, false⟩], []⟩, false)

/-- `plugin_terminated`, as far as the state goes. -/
def pluginTerminated (st : MicState) : Outcome := .stopped { st with channel := none }

/-- `on_open`. -/
def onOpen (st : MicState) (channel : Ptr) : Outcome := .nothing { st with channel := some channel }

/-- `on_close`. -/
def onClose (st : MicState) (channel : Ptr) : Outcome :=
  if st.channel = some channel then .stopped { st with channel := none, formats := [] }
  else .nothing st

/-- The formats of a host's list that are advertised back. -/
def acceptedFormats (body : Bytes) : List MicFormat :=
  (parseFormats body).filter (·.bitsPerSample == PCM_BITS_PER_SAMPLE)

/-- `handle` at a VERSION: answered with our own maximum, unless the host asks
for more. -/
def versionReceived (st : MicState) (channel : Ptr) (body : Bytes) (answers : ℕ → Bool) :
    Outcome :=
  match parseVersion body with
  | none => .nothing st
  | some server =>
    if SNDIN_VERSION < server then .nothing st
    else ⟨st, [⟨channel, .version SNDIN_VERSION, answers 0⟩], [.negotiated SNDIN_VERSION]⟩

/-- `handle` at the host's FORMATS. -/
def formatsReceived (st : MicState) (channel : Ptr) (body : Bytes) (answers : ℕ → Bool) :
    Outcome :=
  let accepted := acceptedFormats body
  ⟨{ st with formats := accepted },
    [⟨channel, .dataIncoming, answers 0⟩, ⟨channel, .formats accepted, answers 1⟩], []⟩

/-- `handle` at an OPEN: confirmed by a FormatChange, then acknowledged. -/
def openReceived (st : MicState) (channel : Ptr) (body : Bytes) (answers : ℕ → Bool) : Outcome :=
  match parseOpen body with
  | none => .nothing st
  | some index =>
    match st.formats[index.toNat]? with
    | some format =>
      ⟨{ st with openFormat := some format },
        [⟨channel, .formatChange index, answers 0⟩, ⟨channel, .openReply RESULT_OK, answers 1⟩],
        [.opened format]⟩
    | none => ⟨st, [⟨channel, .openReply RESULT_FAIL, answers 0⟩], []⟩

/-- `handle` at a FORMAT_CHANGE: confirmed, and nothing else. -/
def formatChangeReceived (st : MicState) (channel : Ptr) (body : Bytes) (answers : ℕ → Bool) :
    Outcome :=
  match parseFormatChange body with
  | none => .nothing st
  | some index =>
    match st.formats[index.toNat]? with
    | some format =>
      ⟨{ st with openFormat := some format }, [⟨channel, .formatChange index, answers 0⟩],
        [.opened format]⟩
    | none => .nothing st

/-- `handle`. -/
def handle (st : MicState) (channel : Ptr) (id : UInt8) (body : Bytes) (answers : ℕ → Bool) :
    Outcome :=
  if id = VERSION then versionReceived st channel body answers
  else if id = FORMATS then formatsReceived st channel body answers
  else if id = OPEN then openReceived st channel body answers
  else if id = FORMAT_CHANGE then formatChangeReceived st channel body answers
  else .nothing st

/-- `on_data_received`, with the bytes still unread in the stream. -/
def onDataReceived (st : MicState) (channel : Ptr) (bytes : Bytes) (answers : ℕ → Bool) :
    Outcome :=
  match bytes with
  | [] => .nothing st
  | id :: body => handle st channel id body answers

/-! ## What a message means -/

/-- The formats a message makes the endpoint advertise, if it is a list. -/
def offered (bytes : Bytes) : Option (List MicFormat) :=
  match bytes with
  | [] => none
  | id :: body => if id = FORMATS then some (acceptedFormats body) else none

/-- The index an OPEN or a FormatChange names. -/
def named (bytes : Bytes) : Option ℕ :=
  match bytes with
  | [] => none
  | id :: body =>
    if id = OPEN then (parseOpen body).map UInt32.toNat
    else if id = FORMAT_CHANGE then (parseFormatChange body).map UInt32.toNat
    else none

/-- The format a message opens the stream with. -/
def MicState.resolve (st : MicState) (bytes : Bytes) : Option MicFormat :=
  (named bytes).bind fun index => st.formats[index]?

/-- The format an event announces. -/
def Event.opens : Event → Option MicFormat
  | .opened format => some format
  | .negotiated _ | .closed => none

/-- The list a message advertises. -/
def Message.advertises : Message → Option (List MicFormat)
  | .formats list => some list
  | _ => none

/-- What a message does: it leaves the list it offers, opens the stream with the
format it names, writes to its own channel, and closes nothing. -/
structure Received (st : MicState) (channel : Ptr) (bytes : Bytes) (r : Outcome) : Prop where
  state : r.state = { st with
    formats := (offered bytes).getD st.formats
    openFormat := (st.resolve bytes).or st.openFormat }
  opens : r.events.filterMap Event.opens = (st.resolve bytes).toList
  quiet : .closed ∉ r.events
  writes : ∀ w ∈ r.writes, w.channel = channel ∧ ∀ pcm, w.message ≠ .data pcm
  advertises : r.writes.filterMap (fun w => w.message.advertises) = (offered bytes).toList

section

variable {st : MicState} {channel : Ptr} {bytes body : Bytes} {answers : ℕ → Bool}
  {writes : List Write} {events : List Event} {format : MicFormat}

/-- A message that offers nothing and opens nothing. -/
theorem received_idle (hoffers : offered bytes = none) (hopens : st.resolve bytes = none)
    (hevents : events.filterMap Event.opens = []) (hquiet : .closed ∉ events)
    (hwrites : ∀ w ∈ writes, w.channel = channel ∧ ∀ pcm, w.message ≠ .data pcm)
    (hlists : writes.filterMap (fun w => w.message.advertises) = []) :
    Received st channel bytes ⟨st, writes, events⟩ := by
  refine ⟨?_, ?_, hquiet, hwrites, ?_⟩
  · rw [hoffers, hopens]
    rfl
  · rw [hevents, hopens]
    rfl
  · rw [hlists, hoffers]
    rfl

theorem received_nothing (hoffers : offered bytes = none) (hopens : st.resolve bytes = none) :
    Received st channel bytes (.nothing st) :=
  received_idle hoffers hopens rfl (by simp) (by simp) rfl

/-- A message that opens the stream. -/
theorem received_opens (hoffers : offered bytes = none) (hopens : st.resolve bytes = some format)
    (hwrites : ∀ w ∈ writes, w.channel = channel ∧ ∀ pcm, w.message ≠ .data pcm)
    (hlists : writes.filterMap (fun w => w.message.advertises) = []) :
    Received st channel bytes
      ⟨{ st with openFormat := some format }, writes, [.opened format]⟩ := by
  refine ⟨?_, ?_, by simp, hwrites, ?_⟩
  · rw [hoffers, hopens]
    rfl
  · rw [hopens]
    rfl
  · rw [hlists, hoffers]
    rfl

theorem received_version :
    Received st channel (VERSION :: body) (versionReceived st channel body answers) := by
  unfold versionReceived
  split
  · exact received_nothing rfl rfl
  · split_ifs
    · exact received_nothing rfl rfl
    · exact received_idle rfl rfl rfl (by simp) (by simp) rfl

theorem received_formats :
    Received st channel (FORMATS :: body) (formatsReceived st channel body answers) := by
  refine ⟨rfl, rfl, ?_, ?_, rfl⟩
  · simp [formatsReceived]
  · simp [formatsReceived]

theorem received_open :
    Received st channel (OPEN :: body) (openReceived st channel body answers) := by
  have hresolve : st.resolve (OPEN :: body) =
      ((parseOpen body).map UInt32.toNat).bind fun index => st.formats[index]? := rfl
  unfold openReceived
  split
  · rename_i hp
    exact received_nothing rfl (by rw [hresolve, hp]; rfl)
  · rename_i index hp
    rw [hp] at hresolve
    split
    · rename_i format hi
      exact received_opens rfl (hresolve.trans hi) (by simp) rfl
    · rename_i hi
      exact received_idle rfl (hresolve.trans hi) rfl (by simp) (by simp) rfl

theorem received_formatChange :
    Received st channel (FORMAT_CHANGE :: body) (formatChangeReceived st channel body answers) := by
  have hresolve : st.resolve (FORMAT_CHANGE :: body) =
      ((parseFormatChange body).map UInt32.toNat).bind fun index => st.formats[index]? := rfl
  unfold formatChangeReceived
  split
  · rename_i hp
    exact received_nothing rfl (by rw [hresolve, hp]; rfl)
  · rename_i index hp
    rw [hp] at hresolve
    split
    · rename_i format hi
      exact received_opens rfl (hresolve.trans hi) (by simp) rfl
    · rename_i hi
      exact received_nothing rfl (hresolve.trans hi)

/-- **Any message.** -/
theorem received (answers : ℕ → Bool) :
    Received st channel bytes (onDataReceived st channel bytes answers) := by
  cases bytes with
  | nil => exact received_nothing rfl rfl
  | cons id body =>
    show Received st channel (id :: body) (handle st channel id body answers)
    unfold handle
    split_ifs with hversion hformats hopen hchange
    · subst hversion
      exact received_version
    · subst hformats
      exact received_formats
    · subst hopen
      exact received_open
    · subst hchange
      exact received_formatChange
    · refine received_nothing ?_ ?_
      · simp [offered, hformats]
      · simp [MicState.resolve, named, hopen, hchange]

end

/-! ## The endpoint as a machine -/

/-- A session's microphone and the instances of its channel. -/
structure System where
  mic : MicState
  /-- The open instances, by address. -/
  channels : List Ptr
  /-- Instances whose plugin was terminated before their OnClose. -/
  orphans : List Ptr

/-- A microphone that has just been made. -/
def System.start : System := ⟨.new, [], []⟩

/-- What the world sees of a microphone. -/
inductive Obs
  | write (write : Write)
  | event (event : Event)
  /-- What `Microphone::sample` returns. -/
  | returned (accepted : Bool)
  deriving DecidableEq

/-- What can happen.  `answers` is what the channel says to the writes of the
operation. -/
inductive Act
  /-- An instance is created, at an address that is free, and opened. -/
  | opened (channel : Ptr)
  /-- An instance is closed, once. -/
  | closed (channel : Ptr)
  /-- The plugin is terminated; what it leaves open can only be closed. -/
  | terminated
  /-- A message arrives on an open instance. -/
  | received (channel : Ptr) (bytes : Bytes) (answers : ℕ → Bool)
  | sample (pcm : Bytes) (answers : ℕ → Bool)

/-- What the world sees of an operation: its writes, then its events. -/
def Outcome.shown (r : Outcome) : List Obs := r.writes.map .write ++ r.events.map .event

/-- Whether an address is free for a new instance. -/
def System.isFresh (s : System) (channel : Ptr) : Bool :=
  channel ≠ Ptr.null && channel ∉ s.channels

/-- **A session's microphone as a machine.**  The callbacks run on one thread,
each with the events it delivers. -/
def machine : Machine System Act Obs where
  init := .start
  step s
    | .opened channel =>
      if s.isFresh channel then
        let r := onOpen s.mic channel
        some (⟨r.state, channel :: s.channels, s.orphans.filter (· != channel)⟩, r.shown)
      else none
    | .closed channel =>
      if channel ∈ s.channels ∨ channel ∈ s.orphans then
        let r := onClose s.mic channel
        some (⟨r.state, s.channels.erase channel, s.orphans.erase channel⟩, r.shown)
      else none
    | .terminated =>
      let r := pluginTerminated s.mic
      some (⟨r.state, [], s.channels ++ s.orphans⟩, r.shown)
    | .received channel bytes answers =>
      if channel ∈ s.channels then
        let r := onDataReceived s.mic channel bytes answers
        some ({ s with mic := r.state }, r.shown)
      else none
    | .sample pcm answers =>
      let (r, accepted) := Mic.sample s.mic pcm answers
      some ({ s with mic := r.state }, r.shown ++ [.returned accepted])

section

variable {s t : System} {channel : Ptr} {bytes pcm : Bytes} {answers : ℕ → Bool} {o : List Obs}

theorem step_opened (hs : machine.step s (.opened channel) = some (t, o)) :
    s.isFresh channel = true ∧ t.mic = { s.mic with channel := some channel } ∧
      t.channels = channel :: s.channels ∧ o = [] := by
  by_cases hfresh : s.isFresh channel = true
  · obtain ⟨rfl, rfl⟩ : _ ∧ _ := by simpa [machine, hfresh] using hs
    exact ⟨hfresh, rfl, rfl, rfl⟩
  · simp [machine, hfresh] at hs

theorem step_closed (hs : machine.step s (.closed channel) = some (t, o)) :
    t.mic = (onClose s.mic channel).state ∧ t.channels = s.channels.erase channel ∧
      o = (onClose s.mic channel).shown := by
  by_cases hmem : channel ∈ s.channels ∨ channel ∈ s.orphans
  · obtain ⟨rfl, rfl⟩ : _ ∧ _ := by simpa [machine, hmem] using hs
    exact ⟨rfl, rfl, rfl⟩
  · simp [machine, hmem] at hs

theorem step_terminated (hs : machine.step s .terminated = some (t, o)) :
    t.mic = ⟨none, s.mic.formats, none⟩ ∧ t.channels = [] ∧ o = (pluginTerminated s.mic).shown := by
  obtain ⟨rfl, rfl⟩ : _ ∧ _ := by simpa [machine] using hs
  exact ⟨rfl, rfl, rfl⟩

theorem step_received (hs : machine.step s (.received channel bytes answers) = some (t, o)) :
    channel ∈ s.channels ∧ t.mic = (onDataReceived s.mic channel bytes answers).state ∧
      t.channels = s.channels ∧ o = (onDataReceived s.mic channel bytes answers).shown := by
  by_cases hmem : channel ∈ s.channels
  · obtain ⟨rfl, rfl⟩ : _ ∧ _ := by simpa [machine, hmem] using hs
    exact ⟨hmem, rfl, rfl, rfl⟩
  · simp [machine, hmem] at hs

/-- A sample changes nothing, delivers nothing, and goes to the stored channel of
an open stream. -/
theorem step_sample (hs : machine.step s (.sample pcm answers) = some (t, o)) :
    t = s ∧ (∀ e, .event e ∉ o) ∧
      ∀ w, .write w ∈ o → s.mic.channel = some w.channel ∧ s.mic.openFormat.isSome ∧
        w.message.advertises = none := by
  obtain ⟨rfl, rfl⟩ : _ ∧ _ := by simpa [machine] using hs
  unfold Mic.sample
  cases hopen : s.mic.openFormat with
  | none => simp [Outcome.nothing, Outcome.shown]
  | some format =>
    cases hchannel : s.mic.channel with
    | none => simp [Outcome.nothing, Outcome.shown]
    | some channel => cases answers 0 <;> simp [Outcome.shown, Message.advertises]

/-- A stream that is stopped is told of, and nothing is written. -/
theorem shown_stopped (st : MicState) : (Outcome.stopped st).shown =
    if st.openFormat.isSome then [.event .closed] else [] := by
  unfold Outcome.stopped
  split_ifs <;> rfl

/-- Audio is written by `sample` only. -/
theorem sample_of_data {a : Act} {accepted : Bool} (hs : machine.step s a = some (t, o))
    (hw : .write ⟨channel, .data pcm, accepted⟩ ∈ o) :
    ∃ pcm' answers, a = .sample pcm' answers := by
  have hstopped : ∀ st : MicState,
      .write ⟨channel, .data pcm, accepted⟩ ∉ (Outcome.stopped st).shown := by
    intro st hmem
    rw [shown_stopped] at hmem
    split_ifs at hmem <;> simp at hmem
  cases a with
  | opened fresh =>
    obtain ⟨-, -, -, rfl⟩ := step_opened hs
    cases hw
  | closed gone =>
    obtain ⟨-, -, rfl⟩ := step_closed hs
    unfold onClose at hw
    split_ifs at hw
    · exact absurd hw (hstopped _)
    · cases hw
  | terminated =>
    obtain ⟨-, -, rfl⟩ := step_terminated hs
    exact absurd hw (hstopped _)
  | received asker bytes answers =>
    obtain ⟨-, -, -, rfl⟩ := step_received hs
    have hr : Received s.mic asker bytes _ := received answers
    have hmem : ⟨channel, .data pcm, accepted⟩ ∈
        (onDataReceived s.mic asker bytes answers).writes := by
      simpa [Outcome.shown] using hw
    exact absurd rfl ((hr.writes _ hmem).2 pcm)
  | sample pcm' answers => exact ⟨pcm', answers, rfl⟩

/-- Audio is written to the stored channel of an open stream only. -/
theorem data_step {a : Act} {accepted : Bool} (hs : machine.step s a = some (t, o))
    (hw : .write ⟨channel, .data pcm, accepted⟩ ∈ o) :
    s.mic.channel = some channel ∧ s.mic.openFormat.isSome := by
  obtain ⟨pcm', answers, rfl⟩ := sample_of_data hs hw
  obtain ⟨-, -, hwrites⟩ := step_sample hs
  obtain ⟨hto, hopen, -⟩ := hwrites _ hw
  exact ⟨hto, hopen⟩

end

end Mic
end FreerdpPrebuilt
