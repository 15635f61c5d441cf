import FreerdpPrebuilt.Basic
import FreerdpPrebuilt.Lib.Machine
import FreerdpPrebuilt.Lib.Strided

/-!
# The copy of the remote desktop

`framebuffer.rs` keeps one packed `RGBX32` picture under a lock: `resize` sets
its size and clears it, `blit` copies a damaged rectangle in, and `Frame::rows`
reads one out.

Offsets are computed in `usize`, of 64 bits here, and wrap as they do there.
What the language leaves undefined, or answers with a panic, is `none`: a raw
copy outside its buffers, a slice outside its own.  One panic is let through.
`Vec::resize` refuses a length past `isize::MAX`, by then the size is set and the
old pixels are gone, and the lock is taken again by whoever comes next.
-/

namespace FreerdpPrebuilt
namespace Framebuffer

open Labelled

/-- `usize::MAX + 1`. -/
def usizeSize : ℕ := 2 ^ 64

/-- `isize::MAX`, which no allocation exceeds. -/
def isizeMax : ℕ := 2 ^ 63 - 1

/-- `i32::MAX`. -/
def i32Max : ℕ := 2147483647

/-- `usize` addition. -/
def usizeAdd (a b : ℕ) : ℕ := (a + b) % usizeSize

/-- `usize` multiplication. -/
def usizeMul (a b : ℕ) : ℕ := a * b % usizeSize

/-- `u32::saturating_add`. -/
def saturatingAdd (a b : UInt32) : ℕ := min (a.toNat + b.toNat) u32Max

/-- A rectangle of the desktop, in pixels from the top left. -/
structure Rect where
  x : UInt32
  y : UInt32
  width : UInt32
  height : UInt32
  deriving DecidableEq, Repr

/-- One complete frame, in `RGBX32`. -/
structure Frame where
  width : UInt32
  height : UInt32
  /-- Bytes per row. -/
  stride : ℕ
  pixels : Bytes
  deriving DecidableEq

/-- What is in a frame that has never been sized. -/
def Frame.new : Frame := ⟨0, 0, 0, []⟩

/-- The rectangle passes the test of `rows` and `blit`. -/
def Frame.fits (self : Frame) (rect : Rect) : Bool :=
  saturatingAdd rect.x rect.width ≤ self.width.toNat &&
    saturatingAdd rect.y rect.height ≤ self.height.toNat

/-- `Frame::rows`: the slices of the rectangle, each `none` where indexing would
panic. -/
def Frame.rows (self : Frame) (rect : Rect) : List (Option Bytes) :=
  let (start, count) := if self.fits rect then (rect.y.toNat, rect.height.toNat) else (0, 0)
  let left := usizeMul rect.x.toNat 4
  let right := usizeAdd left (usizeMul rect.width.toNat 4)
  (List.range' start (usizeAdd start count - start)).map fun row =>
    let base := usizeMul row self.stride
    Strided.slice self.pixels (usizeAdd base left) (usizeAdd base right)

/-- What is seen of the framebuffer. -/
inductive Obs
  /-- `Vec::resize` panics. -/
  | capacityOverflow
  /-- The report of a rectangle that does not fit. -/
  | dropped (rect : Rect)
  deriving DecidableEq

/-- `Framebuffer::resize`. -/
def resize (frame : Frame) (width height : UInt32) : Frame × List Obs :=
  let stride := usizeMul width.toNat 4
  let bytes := usizeMul stride height.toNat
  let frame := { frame with width, height, stride, pixels := [] }
  if bytes ≤ isizeMax then ({ frame with pixels := List.replicate bytes 0 }, [])
  else (frame, [.capacityOverflow])

/-- FreeRDP's buffer, as `blit` is given it: readable bytes in the address space,
and their stride. -/
structure Source where
  bytes : Bytes
  stride : ℕ
  addressable : bytes.length < usizeSize

/-- What `blit` asks of its caller: the buffer covers the rectangle's rows, and
the stride its columns. -/
def Source.covers (src : Source) (rect : Rect) : Bool :=
  src.stride * (rect.y.toNat + rect.height.toNat) ≤ src.bytes.length &&
    4 * (rect.x.toNat + rect.width.toNat) ≤ src.stride

/-- `Framebuffer::blit`; `none` if the raw copy leaves one of the buffers. -/
def blit (frame : Frame) (src : Source) (rect : Rect) : Option (Frame × List Obs) :=
  if frame.fits rect = false then some (frame, [.dropped rect])
  else
    let bytes := usizeMul rect.width.toNat 4
    let left := usizeMul rect.x.toNat 4
    let srcOffset row := usizeAdd (usizeMul (usizeAdd rect.y.toNat row) src.stride) left
    let dstOffset row := usizeAdd (usizeMul (usizeAdd rect.y.toNat row) frame.stride) left
    (Strided.copyRows src.bytes frame.pixels srcOffset dstOffset bytes rect.height.toNat).map
      fun pixels => ({ frame with pixels }, [])

/-- A call on the framebuffer. -/
inductive Act
  | resize (width height : UInt32)
  | blit (src : Source) (rect : Rect)

/-- The framebuffer as a machine.  A size comes out of a signed 32-bit field of
GDI, and a source covers its rectangle. -/
def machine : Machine Frame Act Obs where
  init := .new
  step frame
    | .resize width height =>
      if width.toNat ≤ i32Max ∧ height.toNat ≤ i32Max then some (resize frame width height)
      else none
    | .blit src rect => if src.covers rect = true then blit frame src rect else none

end Framebuffer
end FreerdpPrebuilt
