import FreerdpPrebuilt.Framebuffer.Frame
import FreerdpPrebuilt.Resize.Route

/-!
# The callbacks that size and paint the desktop

`post_connect`, `begin_paint`, `end_paint` and `desktop_resize` of `session.rs`,
and `reconnect_resize`, which runs the last of them by hand.  They size the
framebuffer of `FreerdpPrebuilt.Framebuffer.Frame`, copy damage into it, and
tell the embedder.

What FreeRDP's calls answer is an argument.  A panic inside a callback is caught
by `guarded`: what was changed before it stays, and the callback reports failure.
A copy that leaves its buffers is `none`.

`reconnect_resize` is cut in two at `freerdp_reconnect`, since callbacks may come
while that call runs.
-/

namespace FreerdpPrebuilt
namespace Desktop

open Labelled
open Framebuffer (Rect Frame Source)
open Resize (Settings SettingKey)

/-! ## What FreeRDP holds -/

/-- The invalid region of the GDI's window, an `HGDI_RGN`. -/
structure Region where
  null : Bool
  x : Int32
  y : Int32
  w : Int32
  h : Int32
  deriving DecidableEq

/-- `hdc->hwnd`: the region, and how many regions it was gathered from. -/
structure Window where
  invalid : Region
  ninvalid : Int32
  deriving DecidableEq

/-- The fields of `rdpGdi` that are read; the buffer holds the picture. -/
structure Gdi where
  width : Int32
  height : Int32
  /-- `primary_buffer` and `stride`. -/
  primary : Source
  inGfxFrame : Bool
  wide : 4 * width.toInt.toNat ≤ primary.stride
  tall : primary.stride * height.toInt.toNat ≤ primary.bytes.length

/-! ## What is seen -/

/-- The events of a session that are about its desktop. -/
inductive Event
  | connected (width height : UInt32)
  | resize (width height : UInt32)
  | paint (rect : Rect)
  | frame
  deriving DecidableEq

/-- The size an event announces. -/
def Event.announces : Event → Option (UInt32 × UInt32)
  | .connected width height | .resize width height => some (width, height)
  | .paint _ | .frame => none

inductive Obs
  /-- An event is sent.  `size` is that of the framebuffer at this moment. -/
  | sent (event : Event) (size : UInt32 × UInt32)
  /-- What the framebuffer reports. -/
  | report (report : Framebuffer.Obs)
  /-- What a callback, or `reconnect_resize`, returns. -/
  | returned (ok : Bool)
  deriving DecidableEq

/-- `Framebuffer::size`. -/
def size (frame : Frame) : UInt32 × UInt32 := (frame.width, frame.height)

/-- `Bridge::send`. -/
def send (frame : Frame) (event : Event) : Obs := .sent event (size frame)

/-! ## The callbacks -/

/-- `max(0) as u32`, of an `i32`. -/
def clamp (v : Int32) : UInt32 := UInt32.ofNat v.toInt.toNat

/-- Size the framebuffer, then send the event.  `Vec::resize` may panic between
the two. -/
def resizeAndSend (frame : Frame) (width height : UInt32) (event : Event) : Frame × List Obs :=
  let (frame, reports) := Framebuffer.resize frame width height
  if reports = [] then (frame, [send frame event, .returned true])
  else (frame, reports.map .report ++ [.returned false])

/-- `post_connect`.  `gdi_init` fails, or settles on a size. -/
def postConnect (frame : Frame) (gdiInit : Option (Int32 × Int32)) : Frame × List Obs :=
  match gdiInit with
  | none => (frame, [.returned false])
  | some (w, h) =>
    let width := clamp w
    let height := clamp h
    resizeAndSend frame width height (.connected width height)

/-- The region is read, and counted as painted. -/
def Window.clear (window : Window) : Window :=
  { window with invalid := { window.invalid with null := true }, ninvalid := 0 }

/-- `begin_paint`. -/
def beginPaint (window : Option Window) : Option Window × List Obs :=
  match window with
  | none => (none, [.returned false])
  | some window => (some window.clear, [.returned true])

/-- The damaged rectangle: each coordinate brought up to zero on its own. -/
def Region.rect (region : Region) : Rect :=
  ⟨clamp region.x, clamp region.y, clamp region.w, clamp region.h⟩

/-- `Rect::is_empty`. -/
def isEmpty (rect : Rect) : Bool := rect.width == 0 || rect.height == 0

/-- `end_paint`. -/
def endPaint (frame : Frame) (gdi : Gdi) (window : Option Window) :
    Option (Frame × Option Window × List Obs) :=
  match window with
  | none => some (frame, none, [.returned false])
  | some window =>
    if window.invalid.null then some (frame, some window, [.returned true])
    else
      let rect := window.invalid.rect
      let window := window.clear
      if isEmpty rect then some (frame, some window, [.returned true])
      else
        (Framebuffer.blit frame gdi.primary rect).map fun (frame, reports) =>
          let sent := send frame (.paint rect) :: if gdi.inGfxFrame then [send frame .frame] else []
          (frame, some window, reports.map .report ++ sent ++ [.returned true])

/-- `freerdp_settings_get_uint32`, of the two fields `desktop_resize` reads. -/
def desktopSize (settings : Settings) : UInt32 × UInt32 :=
  (UInt32.ofNat settings.desktopWidth, UInt32.ofNat settings.desktopHeight)

/-- `desktop_resize`, by what `freerdp_client_codecs_reset` and `gdi_resize`
answer. -/
def desktopResize (frame : Frame) (settings : Settings) (codecsReset gdiResize : Bool) :
    Frame × List Obs :=
  let (width, height) := desktopSize settings
  if codecsReset then
    if gdiResize then resizeAndSend frame width height (.resize width height)
    else (frame, [.returned false])
  else (frame, [.returned false])

/-- `reconnect_resize` up to `freerdp_reconnect`: whether it gets there. -/
def takeDown (settings : Settings) (request : ResizeRequest) (disconnected : Bool)
    (accepts : SettingKey → Bool) : Settings × Bool :=
  if disconnected then settings.writeAll accepts (Resize.reconnectSizes request)
  else (settings, false)

/-- `reconnect_resize` from what `freerdp_reconnect` answers. -/
def bringUp (frame : Frame) (settings : Settings) (reconnected codecsReset gdiResize : Bool) :
    Frame × List Obs :=
  if reconnected then desktopResize frame settings codecsReset gdiResize
  else (frame, [.returned false])

/-! ## The desktop as a machine -/

structure State where
  settings : Settings
  frame : Frame
  window : Option Window
  /-- `reconnect_resize` is inside `freerdp_reconnect`. -/
  reconnecting : Bool

/-- What can happen. -/
inductive Act
  | postConnect (gdiInit : Option (Int32 × Int32))
  | beginPaint
  /-- FreeRDP draws, and gathers the damage. -/
  | draws (window : Option Window)
  | endPaint (gdi : Gdi)
  /-- The server activates at a size, and FreeRDP writes it into the settings. -/
  | activates (width height : UInt32)
  | desktopResize (codecsReset gdiResize : Bool)
  | takeDown (request : ResizeRequest) (disconnected : Bool) (accepts : SettingKey → Bool)
  | bringUp (reconnected codecsReset gdiResize : Bool)

/-- The size the GDI has taken, if the action tells of one. -/
def State.gdiTook (st : State) : Act → Option (UInt32 × UInt32)
  | .postConnect gdiInit => gdiInit.map fun (w, h) => (clamp w, clamp h)
  | .desktopResize _ gdiResize => if gdiResize then some (desktopSize st.settings) else none
  | .bringUp _ _ gdiResize => if gdiResize then some (desktopSize st.settings) else none
  | .beginPaint | .draws _ | .endPaint _ | .activates _ _ | .takeDown _ _ _ => none

/-- One step. -/
def step (st : State) : Act → Option (State × List Obs)
  | .postConnect gdiInit =>
    let (frame, o) := postConnect st.frame gdiInit
    some ({ st with frame }, o)
  | .beginPaint =>
    let (window, o) := beginPaint st.window
    some ({ st with window }, o)
  | .draws window => some ({ st with window }, [])
  | .endPaint gdi =>
    (endPaint st.frame gdi st.window).map fun (frame, window, o) => ({ st with frame, window }, o)
  | .activates width height =>
    let settings :=
      { st.settings with desktopWidth := width.toNat, desktopHeight := height.toNat }
    some ({ st with settings }, [])
  | .desktopResize codecsReset gdiResize =>
    let (frame, o) := desktopResize st.frame st.settings codecsReset gdiResize
    some ({ st with frame }, o)
  | .takeDown request disconnected accepts =>
    if st.reconnecting then none
    else
      let (settings, ok) := takeDown st.settings request disconnected accepts
      some ({ st with settings, reconnecting := ok }, if ok then [] else [.returned false])
  | .bringUp reconnected codecsReset gdiResize =>
    if st.reconnecting then
      let (frame, o) := bringUp st.frame st.settings reconnected codecsReset gdiResize
      some ({ st with frame, reconnecting := false }, o)
    else none

/-- **The desktop as a machine.**  `takes` says of which sizes the GDI can hold a
picture: it takes no other. -/
def machine (takes : UInt32 × UInt32 → Bool) (settings : Settings) : Machine State Act Obs where
  init := ⟨settings, .new, none, false⟩
  step st act := if (st.gdiTook act).all takes then step st act else none

end Desktop
end FreerdpPrebuilt
