import FreerdpPrebuilt.Basic

/-!
# What the caller asks of a session

The commands `input.rs` and `clipboard.rs` queue for the FreeRDP thread, and
the two functions that bring a requested desktop size and density inside what
MS-RDPEDISP allows.
-/

namespace FreerdpPrebuilt

/-- What a touch contact did. -/
inductive TouchPhase
  | down
  | move
  | up
  | cancel
  deriving DecidableEq, Repr

/-- One advertised clipboard format. -/
structure ClipboardFormat where
  id : ℕ
  name : Option String
  deriving DecidableEq, Repr

/-- A desktop size and density, as `Command::Resize` carries them.  `serial` is
no field of the source: it numbers the calls of `Input::resize`, so that a
request can be told from a later one for the same size, and no function reads
it (`Resize.step_forgetSerials`). -/
structure ResizeRequest where
  width : ℕ
  height : ℕ
  scalePercent : ℕ
  serial : ℕ
  deriving DecidableEq, Repr

/-- One thing for the FreeRDP thread to do next time it wakes. -/
inductive Command
  | mouse (flags x y : ℕ)
  | extendedMouse (flags x y : ℕ)
  | key (down : Bool) (scancode : ℕ)
  | unicode (down : Bool) (code : ℕ)
  | lockKeys (flags : ℕ)
  | refresh
  | resize (request : ResizeRequest)
  | touch (phase : TouchPhase) (id x y : Int)
  | clipboardAdvertise (formats : List ClipboardFormat)
  | clipboardRequest (format : ℕ)
  | clipboardRespond (format : ℕ) (data : Option Bytes)
  | shutdown
  deriving DecidableEq, Repr

/-- What a request asks for: the arguments of `resize`. -/
def ResizeRequest.args (request : ResizeRequest) : ℕ × ℕ × ℕ :=
  (request.width, request.height, request.scalePercent)

/-- The request a command carries. -/
def Command.request : Command → Option ResizeRequest
  | .resize request => some request
  | _ => none

/-- Bring a requested desktop size inside what MS-RDPEDISP allows: both
dimensions in 200..=8192, the width even. -/
def sanitiseSize (width height : ℕ) : ℕ × ℕ :=
  let width := max 200 (min width 8192)
  let width := width - width % 2
  let height := max 200 (min height 8192)
  (width, height)

/-- Bring a requested `DesktopScaleFactor` inside 100..=500. -/
def sanitiseScale (percent : ℕ) : ℕ := max 100 (min percent 500)

end FreerdpPrebuilt
