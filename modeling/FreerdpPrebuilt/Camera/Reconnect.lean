import FreerdpPrebuilt.Camera.Stored
import FreerdpPrebuilt.Lib.History

/-!
# A camera after a reconnect

`plugin_terminated` resets what the dead connection left: the channels, the
announcement, the stream.  The plug and its format stay, so that the device can
be announced afresh.  One more thing stays: the version the last server selected.
`on_open` opens the next conversation with it, where a new camera asks for
`ECAM_PROTO_VERSION`.

A camera is compared with a new one in the same world: the same calls, channels,
messages and answers, and the same events still on their way.
`like_new_iff` says that the two cannot be told apart if and only if the version
last selected was `ECAM_PROTO_VERSION`.
-/

namespace FreerdpPrebuilt
namespace Camera

open Labelled

/-! ## What is claimed -/

/-- What an observer can tell: bytes on channels, events, and what `sample`
returns. -/
inductive Seen
  | wrote (channel : Ptr) (bytes : Bytes) (accepted : Bool)
  | delivered (event : Event)
  | returned (accepted : Bool)
  deriving DecidableEq

def Obs.seen : Obs → Seen
  | .write w => .wrote w.channel w.message.bytes w.accepted
  | .deliver event => .delivered event
  | .returned accepted => .returned accepted

/-- What is seen when these things happen from here on; `none` if they cannot. -/
def seenFrom (deviceName : String) (s : System) (acts : List Act) : Option (List Seen) :=
  ((machine deviceName).execFrom [] s acts).map fun r => (Machine.trace r.1).map Obs.seen

/-- The session once the plugin has been terminated. -/
def System.terminated (s : System) : System :=
  (System.apply { s with enumerators := [], devices := [] } (pluginTerminated s.cam)).1

/-- A camera that has just been made, plugged with the format of this one if this
one is plugged. -/
def likeNew (deviceName : String) (st : CamState) : CamState :=
  match st.format with
  | some format =>
    if st.plugged then (plug deviceName .new format fun _ => true).state else .new
  | none => .new

/-- The same session with a camera that has just been made. -/
def System.renewed (deviceName : String) (s : System) : System :=
  { s.terminated with cam := likeNew deviceName s.terminated.cam }

/-- The version a move selects. -/
def selects (m : Move System Act Obs) : Option UInt8 := m.act.selects

/-! ## What is left after the end -/

variable {deviceName : String} {h : List (Move System Act Obs)} {s t : System} {a : Act}
  {o : List Obs}

/-- The version is the one last selected. -/
theorem version_of_run (hr : (machine deviceName).Run h s) :
    s.cam.version = (latest selects h).getD ECAM_PROTO_VERSION := by
  induction hr with
  | nil => rfl
  | @snoc h s t a o _ hs ih =>
    rw [(stored_of_step hs).version, ih, latest_snoc]
    show a.selects.getD _ = (a.selects.or _).getD _
    cases a.selects <;> rfl

/-- A camera is plugged exactly when it has a format. -/
def PluggedIsFormatted (s : System) : Prop := s.cam.format.isSome = s.cam.plugged

theorem PluggedIsFormatted.step (hI : PluggedIsFormatted s)
    (hs : step deviceName s a = some (t, o)) : PluggedIsFormatted t := by
  rw [PluggedIsFormatted, (stored_of_step hs).format, (framed_of_step hs).plugged]
  cases a with
  | plug format answers => rfl
  | unplug answers => rfl
  | _ => exact hI

theorem pluggedIsFormatted_of_run (hr : (machine deviceName).Run h s) : PluggedIsFormatted s :=
  hr.invariant (show PluggedIsFormatted System.start from rfl) fun _ _ _ _ hI hs => hI.step hs

/-- A new camera, plugged like another one. -/
theorem likeNew_eq (deviceName : String) {st : CamState} (h : st.format.isSome = st.plugged) :
    likeNew deviceName st = { CamState.new with plugged := st.plugged, format := st.format } := by
  unfold likeNew
  split
  · rename_i format hformat
    have hplugged : st.plugged = true := by rw [← h, hformat]; rfl
    rw [if_pos hplugged, hplugged, hformat]
    rfl
  · rename_i hformat
    have hplugged : st.plugged = false := by rw [← h, hformat]; rfl
    rw [hplugged, hformat]
    rfl

/-- All that tells a camera after the end from a new one is its version. -/
theorem terminated_eq (deviceName : String) (hI : PluggedIsFormatted s) :
    s.terminated.cam =
      { (s.renewed deviceName).cam with version := s.cam.version } := by
  have hkept : s.terminated.cam.format.isSome = s.terminated.cam.plugged := hI
  rw [System.renewed, likeNew_eq deviceName hkept]
  rfl

/-- The version asked for when the enumeration channel opens. -/
theorem seenFrom_opened (s : System) (hfresh : s.isFresh 1 = true) :
    seenFrom deviceName s [.opened true 1 fun _ => true] =
      some [.wrote 1 [s.cam.version, SELECT_VERSION_REQUEST] true] := by
  simp only [seenFrom, Machine.execFrom, machine, step, hfresh, if_true]
  rfl

/-- **When a reconnected camera behaves like a new one.**  After every run and the
end of its plugin: whatever happens next, the camera writes the bytes and delivers
the events of a new one, plugged like it, if and only if the version a server last
selected was `ECAM_PROTO_VERSION`, or none was. -/
theorem like_new_iff (hr : (machine deviceName).Run h s) :
    (∀ acts, seenFrom deviceName s.terminated acts =
      seenFrom deviceName (s.renewed deviceName) acts) ↔
      (latest selects h).getD ECAM_PROTO_VERSION = ECAM_PROTO_VERSION := by
  have hI := pluggedIsFormatted_of_run hr
  have hnew : (s.renewed deviceName).cam.version = ECAM_PROTO_VERSION := by
    simp only [System.renewed, likeNew]
    split
    · split <;> rfl
    · rfl
  rw [← version_of_run hr]
  constructor
  · intro hall
    have hfirst := hall [.opened true 1 fun _ => true]
    rw [seenFrom_opened s.terminated rfl, seenFrom_opened (s.renewed deviceName) rfl, hnew]
      at hfirst
    have hversion : s.terminated.cam.version = ECAM_PROTO_VERSION := by simpa using hfirst
    exact hversion
  · intro hversion acts
    have hsame : s.terminated = s.renewed deviceName := by
      have hcam : likeNew deviceName s.terminated.cam = s.terminated.cam :=
        ((terminated_eq deviceName hI).trans (by rw [hversion, ← hnew]; rfl)).symm
      rw [System.renewed, hcam]
    rw [hsame]

/-- A server selects a version, the device is announced, and the connection ends. -/
def connection (version : UInt8) : List Act :=
  [.plug ⟨640, 480, 30, 1⟩ fun _ => true, .opened true 1 fun _ => true,
    .received true 1 [version, SELECT_VERSION_RESPONSE] fun _ => true]

theorem like_new_after_two : ∃ h s, (machine "Cam").Run h s ∧ s.cam.plugged = true ∧
    ∀ acts, seenFrom "Cam" s.terminated acts = seenFrom "Cam" (s.renewed "Cam") acts := by
  have hrun := (machine "Cam").run_get (connection 2) (by decide)
  exact ⟨_, _, hrun, by decide, (like_new_iff hrun).2 (by decide)⟩

/-- **The version of the last server.**  It selected version 1; after a reconnect
the camera asks for version 1, where a new one would ask for version 2. -/
theorem remembers_last_server : ∃ h s acts, (machine "Cam").Run h s ∧
    seenFrom "Cam" s.terminated acts = some [.wrote 1 [1, SELECT_VERSION_REQUEST] true] ∧
    seenFrom "Cam" s.terminated acts ≠ seenFrom "Cam" (s.renewed "Cam") acts := by
  have hrun := (machine "Cam").run_get (connection 1) (by decide)
  exact ⟨_, _, [.opened true 1 fun _ => true], hrun, by decide, by decide⟩

end Camera
end FreerdpPrebuilt
