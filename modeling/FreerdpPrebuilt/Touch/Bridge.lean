import FreerdpPrebuilt.Basic
import FreerdpPrebuilt.Session.Command
import FreerdpPrebuilt.Lib.Machine
import Mathlib.Data.List.AList
import Mathlib.Logic.Function.Basic

/-!
# Touch contacts on the `rdpei` channel

`send_touch` hands a contact transition to FreeRDP's `rdpei` plugin, and keeps
beside it a table of what is down: when the host suspends touch, the plugin only
passes the message on, and it is this crate that lifts every finger.

The table is a `HashMap`, whose iteration order the language leaves open: the
order in which a suspend walks it is a choice of the run.
-/

namespace FreerdpPrebuilt
namespace Touch

open Labelled

/-- A position on the desktop. -/
abbrev Position := ℤ × ℤ

/-- `held_touches`: the contacts down, each at its last position. -/
abbrev HeldTouches := AList fun _ : ℤ => Position

/-- The part of `Bridge` the touch functions use, and the plugin contexts whose
`custom`, `SuspendTouch` and `ResumeTouch` have been set. -/
structure Bridge where
  /-- The open channel's plugin context, or null. -/
  rdpei : Ptr
  heldTouches : HeldTouches
  touchSuspended : Bool
  installed : Ptr → Bool

/-- A bridge as `run` makes it. -/
def Bridge.new : Bridge := ⟨Ptr.null, ∅, false, fun _ => false⟩

/-- A transition of one contact. -/
structure Transition where
  phase : TouchPhase
  id : ℤ
  position : Position
  deriving DecidableEq

/-- What is seen of touch. -/
inductive Obs
  /-- The plugin of this context is handed a transition. -/
  | call (rdpei : Ptr) (transition : Transition)
  /-- `Event::TouchReady`. -/
  | touchReady
  deriving DecidableEq

/-- What can happen next. -/
inductive Act
  /-- A queued touch is executed. -/
  | sendTouch (transition : Transition)
  /-- The plugin calls `SuspendTouch`, and the table is walked in this order. -/
  | touchSuspend (rdpei : Ptr) (order : List (Σ _ : ℤ, Position))
  /-- The plugin calls `ResumeTouch`. -/
  | touchResume (rdpei : Ptr)
  /-- `ChannelConnected` for rdpei, with its `pInterface`. -/
  | channelConnected (pInterface : Ptr)
  /-- `ChannelDisconnected` for rdpei. -/
  | channelDisconnected

/-- The entry points a plugin has set on its context. -/
abbrev EntryPoints := Ptr → TouchPhase → Bool

variable (entry : EntryPoints)

/-- Hand one transition to the plugin, if it has the entry point: `touch_call`. -/
def touchCall (rdpei : Ptr) (transition : Transition) : List Obs :=
  if entry rdpei transition.phase then [.call rdpei transition] else []

/-- What a transition does to the table. -/
def HeldTouches.track (held : HeldTouches) (transition : Transition) : HeldTouches :=
  match transition.phase with
  | .down => held.insert transition.id transition.position
  | .move =>
    if transition.id ∈ held then held.insert transition.id transition.position else held
  | .up | .cancel => held.erase transition.id

/-- `send_touch`. -/
def sendTouch (st : Bridge) (transition : Transition) : Bridge × List Obs :=
  if st.rdpei = Ptr.null then (st, [])
  else if st.touchSuspended then (st, [])
  else ({ st with heldTouches := st.heldTouches.track transition },
    touchCall entry st.rdpei transition)

/-- The cancel of a contact that was held. -/
def cancelOf (contact : Σ _ : ℤ, Position) : Transition := ⟨.cancel, contact.1, contact.2⟩

/-- `touch_suspend`: the flag, then a cancel for each contact of the table. -/
def touchSuspend (st : Bridge) (rdpei : Ptr) (order : List (Σ _ : ℤ, Position)) :
    Bridge × List Obs :=
  ({ st with touchSuspended := true, heldTouches := ∅ },
    order.flatMap fun contact => touchCall entry rdpei (cancelOf contact))

/-- `touch_resume`. -/
def touchResume (st : Bridge) : Bridge := { st with touchSuspended := false }

/-- `channel_connected`, for rdpei. -/
def channelConnected (st : Bridge) (pInterface : Ptr) : Bridge × List Obs :=
  if pInterface = Ptr.null then (st, [])
  else
    (⟨pInterface, ∅, false, Function.update st.installed pInterface true⟩, [.touchReady])

/-- `channel_disconnected`, for rdpei. -/
def channelDisconnected (st : Bridge) : Bridge :=
  { st with rdpei := Ptr.null, heldTouches := ∅, touchSuspended := false }

/-- Touch as a machine.  The plugin calls back only on a context it was given
the callbacks for, and a walk of the table meets each of its entries once. -/
def machine : Machine Bridge Act Obs where
  init := .new
  step st
    | .sendTouch transition => some (sendTouch entry st transition)
    | .touchSuspend rdpei order =>
      if st.installed rdpei = true ∧ order.Perm st.heldTouches.entries then
        some (touchSuspend entry st rdpei order)
      else none
    | .touchResume rdpei => if st.installed rdpei = true then some (touchResume st, []) else none
    | .channelConnected pInterface => some (channelConnected st pInterface)
    | .channelDisconnected => some (channelDisconnected st, [])

end Touch
end FreerdpPrebuilt
