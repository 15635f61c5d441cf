import FreerdpPrebuilt.Basic
import Mathlib.Logic.Function.Basic

/-!
# The sound device of `rdpsnd`

`audio.rs` receives redirected sound by being FreeRDP's audio *device*.  Each
transport of the channel loads a device of its own, and one pointer on the
session's bridge, the **claim**, says which of them may fill the sink.  This
file transcribes the device callbacks: each takes the state of the session's
sound to the next one and lists the calls it makes on the sink.

A callback is given a device by its address.  The devices alive are kept in
`Rdpsnd.devices`, since `free` returns their memory and a later device may be
allocated where an earlier one was.
-/

namespace FreerdpPrebuilt
namespace Audio

/-- `sys::WAVE_FORMAT_PCM`. -/
def WAVE_FORMAT_PCM : UInt16 := 1

/-- `sys::AUDIO_FORMAT`, in the fields this crate reads. -/
structure AUDIO_FORMAT where
  wFormatTag : UInt16
  nChannels : UInt16
  nSamplesPerSec : UInt32
  wBitsPerSample : UInt16
  deriving DecidableEq, Repr

/-- Linear PCM of one geometry: what the session asks for. -/
structure AudioFormat where
  channels : UInt16
  sampleRate : UInt32
  bitsPerSample : UInt16
  deriving DecidableEq, Repr

/-- 44 100 Hz, 16-bit, stereo. -/
def AudioFormat.CD : AudioFormat := ⟨2, 44100, 16⟩

/-- Whether an offered format is exactly this one: `AudioFormat::matches`. -/
def AudioFormat.matchesFormat (self : AudioFormat) (format : AUDIO_FORMAT) : Bool :=
  format.wFormatTag == WAVE_FORMAT_PCM
    && format.nChannels == self.channels
    && format.nSamplesPerSec == self.sampleRate
    && format.wBitsPerSample == self.bitsPerSample

/-- A call on the session's `AudioSink`. -/
inductive SinkCall
  | negotiated (accepted : ℕ)
  | opened (format : AudioFormat)
  | wave (samples : Bytes)
  | closed
  deriving DecidableEq, Repr

/-- Whether the call delivers a buffer. -/
def SinkCall.isWave : SinkCall → Bool
  | .wave _ => true
  | _ => false

/-- The part of `Bridge` the sound callbacks touch. -/
structure Bridge where
  /-- The format of the session's `Audio`, when it redirects sound at all. -/
  audio : Option AudioFormat
  /-- The claim: which device is playing, or null. -/
  audioDevice : Ptr
  /-- How many devices the current connect has minted. -/
  audioDevicesSeen : ℕ
  /-- Whether sound has negotiated over the dynamic transport this session. -/
  audioDynamicNegotiated : Bool
  deriving DecidableEq

/-- One device: `rdpsndDevicePlugin` first, then what this crate adds. -/
structure Device where
  /-- The plugin pointer `rdpsnd_register_device_plugin` sets; null before. -/
  rdpsnd : Ptr
  /-- Whether this device was minted for the dynamic transport. -/
  dynamic : Bool
  deriving DecidableEq

/-- The state of a session's sound: the bridge, and the devices alive. -/
structure Rdpsnd where
  bridge : Bridge
  devices : Ptr → Option Device

/-- What rdpsnd hands the subsystem entry: its plugin, and the function that
registers a device on it, with what that function will answer. -/
structure EntryPoints where
  rdpsnd : Ptr
  pRegisterRdpsndDevice : Option Bool
  deriving DecidableEq

/-- A session that has just been configured, with no device yet. -/
def Rdpsnd.start (audio : Option AudioFormat) : Rdpsnd where
  bridge := ⟨audio, Ptr.null, 0, false⟩
  devices := fun _ => none

/-- Set the claim. -/
def Rdpsnd.setClaim (st : Rdpsnd) (device : Ptr) : Rdpsnd :=
  { st with bridge := { st.bridge with audioDevice := device } }

/-- Recover the session's audio configuration from a device pointer: `audio`. -/
def audio (st : Rdpsnd) (device : Ptr) : Option AudioFormat :=
  if device = Ptr.null then none
  else match st.devices device with
    | none => none
    | some d => if d.rdpsnd = Ptr.null then none else st.bridge.audio

/-- `FormatSupported`. -/
def formatSupported (st : Rdpsnd) (device : Ptr) (format : Option AUDIO_FORMAT) : Bool :=
  match format with
  | none => false
  | some format =>
    match audio st device with
    | none => false
    | some audio => audio.matchesFormat format

/-- `ServerFormatAnnounce`: the server's format list, `[]` for a null one. -/
def serverFormatAnnounce (st : Rdpsnd) (device : Ptr) (formats : List AUDIO_FORMAT) :
    Rdpsnd × List SinkCall :=
  match audio st device with
  | none => (st, [])
  | some audio =>
    let accepted := (formats.filter audio.matchesFormat).length
    let dynamic : Bool := match st.devices device with
      | none => false
      | some d => d.dynamic
    let st := if 0 < accepted ∧ dynamic = true
      then { st with bridge := { st.bridge with audioDynamicNegotiated := true } }
      else st
    (st, [.negotiated accepted])

/-- `Open`.  A mismatched format opens the device all the same, and gives back
the claim if this device holds it; a matching one takes the claim, from whoever
holds it. -/
def openDevice (st : Rdpsnd) (device : Ptr) (format : Option AUDIO_FORMAT) :
    Rdpsnd × List SinkCall × Bool :=
  match format with
  | none => (st, [], false)
  | some format =>
    match audio st device with
    | none => (st, [], false)
    | some audio =>
      if ¬ audio.matchesFormat format then
        if st.bridge.audioDevice = device then (st.setClaim Ptr.null, [.closed], true)
        else (st, [], true)
      else if st.bridge.audioDevice ≠ device then
        (st.setClaim device, [.opened audio], true)
      else (st, [], true)

/-- `Play`, of a buffer or of a null pointer.  A vacant claim is adopted. -/
def play (st : Rdpsnd) (device : Ptr) (data : Option Bytes) : Rdpsnd × List SinkCall :=
  match data with
  | none => (st, [])
  | some data =>
    if data = [] then (st, [])
    else match audio st device with
      | none => (st, [])
      | some audio =>
        if st.bridge.audioDevice ≠ device then
          if st.bridge.audioDevice ≠ Ptr.null then (st, [])
          else (st.setClaim device, [.opened audio, .wave data])
        else (st, [.wave data])

/-- `Close`. -/
def close (st : Rdpsnd) (device : Ptr) : Rdpsnd × List SinkCall :=
  match audio st device with
  | none => (st, [])
  | some _ =>
    if st.bridge.audioDevice ≠ device then (st, [])
    else (st.setClaim Ptr.null, [.closed])

/-- `Free`: the claim is withdrawn before the memory goes. -/
def free (st : Rdpsnd) (device : Ptr) : Rdpsnd :=
  if device = Ptr.null then st
  else
    let st := match audio st device with
      | none => st
      | some _ => if st.bridge.audioDevice = device then st.setClaim Ptr.null else st
    { st with devices := Function.update st.devices device none }

/-- The subsystem entry: count a device in, build it at `fresh`, and hand it to
rdpsnd.  Without a register function it is dropped again. -/
def subsystemEntry (st : Rdpsnd) (entryPoints : Option EntryPoints) (fresh : Ptr) :
    Rdpsnd × ChannelRc :=
  match entryPoints with
  | none => (st, .initializationError)
  | some entryPoints =>
    let ordinal := st.bridge.audioDevicesSeen
    let st := { st with bridge := { st.bridge with audioDevicesSeen := ordinal + 1 } }
    match entryPoints.pRegisterRdpsndDevice with
    | none => (st, .initializationError)
    | some registered =>
      let device : Device :=
        { rdpsnd := if registered then entryPoints.rdpsnd else Ptr.null, dynamic := 0 < ordinal }
      ({ st with devices := Function.update st.devices fresh (some device) }, .ok)

end Audio
end FreerdpPrebuilt
