import FreerdpPrebuilt.Desktop.Paint
import FreerdpPrebuilt.Lib.Damage
import FreerdpPrebuilt.Lib.History

/-!
# The framebuffer follows the desktop

FreeRDP draws into the GDI's buffer, order after order, and gathers what it drew
in one region.  `begin_paint` empties the region, `end_paint` copies it, and both
`post_connect` and `desktop_resize` start with a new buffer.  Frame boundaries
come three ways: with the paint, on the graphics pipeline, and in two kinds of
markers otherwise.

`framebuffer_follows` says of every run that the framebuffer has what the GDI has,
wherever FreeRDP has drawn since it took its size, but for two kinds of pixel: those
of the region that is still open, and those of a rectangle that was reported as
dropped.  Nothing else is ever missing, and no copy leaves its buffers.

FreeRDP's drawing is a parameter: an `Order` may do anything to the buffer, as long
as what it changes is in the region afterwards.  It draws between `begin_paint` and
`end_paint`, and does not nest them.
-/

namespace FreerdpPrebuilt
namespace Desktop
namespace Frames

open Labelled
open Framebuffer (Rect Frame byteAt isizeMax)
open Resize (Settings)

/-! ## FreeRDP's drawing -/

/-- The part of the GDI that callbacks see. -/
structure Canvas where
  gdi : Gdi
  window : Window

/-- The pixels of the desktop. -/
def Canvas.desktop (canvas : Canvas) : Set (ℕ × ℕ) := {p | canvas.gdi.has p.1 p.2}

/-- The pixels that the next `end_paint` is to copy. -/
def Canvas.damage (canvas : Canvas) : Set (ℕ × ℕ) :=
  {p | canvas.window.invalid.null = false ∧ canvas.window.invalid.has p.1 p.2}

/-- What the GDI shows at each pixel. -/
def picture (gdi : Gdi) (p : ℕ × ℕ) : Fin 4 → Option UInt8 :=
  fun c => byteAt gdi.primary.bytes gdi.primary.stride p.1 p.2 c

/-- What the framebuffer shows there. -/
def shown (frame : Frame) (p : ℕ × ℕ) : Fin 4 → Option UInt8 :=
  fun c => byteAt frame.pixels frame.stride p.1 p.2 c

/-- What `gdi_init` and `gdi_resize` leave when they succeed: a buffer of one
allocation, and no damage. -/
structure Fresh extends Canvas where
  sized : 0 ≤ gdi.width.toInt ∧ 0 ≤ gdi.height.toInt
  allocated : gdi.primary.bytes.length ≤ isizeMax
  quiet : window.invalid.null = true

/-- What `gdi_resize` does.  When it fails, the buffer may be gone. -/
inductive GdiResize
  | took (fresh : Fresh)
  | refused (kept : Bool)

/-- What `gdi_resize` answers. -/
def GdiResize.answer : GdiResize → Bool
  | .took _ => true
  | .refused _ => false

/-- The GDI after it. -/
def GdiResize.after (before : Option Canvas) : GdiResize → Option Canvas
  | .took fresh => some fresh.toCanvas
  | .refused kept => if kept then before else none

/-- **A drawing order.**  It draws as it likes, and whatever it changes is part of
the damage afterwards; the damage before is not forgotten. -/
structure Order where
  draw : Canvas → Canvas
  size : ∀ canvas, (draw canvas).gdi.width = canvas.gdi.width ∧
    (draw canvas).gdi.height = canvas.gdi.height
  gathers : ∀ canvas, ∀ p ∈ canvas.desktop, p ∈ canvas.damage → p ∈ (draw canvas).damage
  confined : ∀ canvas, ∀ p ∈ canvas.desktop, p ∉ (draw canvas).damage →
    picture (draw canvas).gdi p = picture canvas.gdi p

/-! ## The frame markers -/

def FRAME_END : UInt32 := 1

def SURFACECMD_FRAMEACTION_END : UInt32 := 1

/-- `frame_marker`. -/
def frameMarker (frame : Frame) (action : UInt32) : List Obs :=
  if action = FRAME_END then [send frame .frame, .returned true] else [.returned true]

/-- `surface_frame_marker`: what it acknowledges, and what is seen. -/
def surfaceFrameMarker (frame : Frame) (frameAcknowledge : UInt32) (entry : Bool)
    (frameAction frameId : UInt32) : Option UInt32 × List Obs :=
  if frameAction = SURFACECMD_FRAMEACTION_END then
    (if 0 < frameAcknowledge ∧ entry = true then some frameId else none,
      [send frame .frame, .returned true])
  else (none, [.returned true])

/-! ## The machine -/

structure Screen where
  frame : Frame
  /-- `none` before `gdi_init`, and after a `gdi_resize` that freed the buffer. -/
  canvas : Option Canvas
  /-- FreeRDP is between `begin_paint` and `end_paint`. -/
  painting : Bool

inductive Act
  | postConnect (gdiInit : Option Fresh)
  | beginPaint
  | draw (order : Order)
  | endPaint
  | frameMarker (action : UInt32)
  | surfaceFrameMarker (frameAcknowledge : UInt32) (entry : Bool) (frameAction frameId : UInt32)
  | desktopResize (settings : Settings) (codecsReset : Bool) (gdiResize : GdiResize)
  | bringUp (reconnected : Bool) (settings : Settings) (codecsReset : Bool) (gdiResize : GdiResize)

/-- `gdi_resize` takes the size it is given, if any. -/
def GdiResize.takes (settings : Settings) : GdiResize → Prop
  | .took fresh => (clamp fresh.gdi.width, clamp fresh.gdi.height) = desktopSize settings
  | .refused _ => True

instance (settings : Settings) : DecidablePred (GdiResize.takes settings)
  | .took _ => inferInstanceAs (Decidable (_ = desktopSize settings))
  | .refused _ => inferInstanceAs (Decidable True)

/-- `desktop_resize`, with what it does to the GDI on the way. -/
def Screen.resize (s : Screen) (settings : Settings) (codecsReset : Bool) (gdiResize : GdiResize) :
    Screen × List Obs :=
  let (frame, o) := desktopResize s.frame settings codecsReset gdiResize.answer
  ({ s with frame, canvas := if codecsReset then gdiResize.after s.canvas else s.canvas }, o)

/-- One step.  The guards are FreeRDP's contract: paints do not nest, drawing falls between
`begin_paint` and `end_paint`, and `gdi_resize` takes the size it was given. -/
def step (s : Screen) : Act → Option (Screen × List Obs)
  | .postConnect gdiInit =>
    let (frame, o) := postConnect s.frame (gdiInit.map fun new => (new.gdi.width, new.gdi.height))
    some ({ s with frame, canvas := gdiInit.map Fresh.toCanvas }, o)
  | .beginPaint =>
    if s.painting then none
    else
      let (window, o) := beginPaint (s.canvas.map Canvas.window)
      let canvas := s.canvas.bind fun canvas => window.map fun window => { canvas with window }
      some ({ s with canvas, painting := true }, o)
  | .draw order =>
    if s.painting then some ({ s with canvas := s.canvas.map order.draw }, []) else none
  | .endPaint =>
    match s.canvas with
    | none => some ({ s with painting := false }, [.returned false])
    | some canvas =>
      (endPaint s.frame canvas.gdi (some canvas.window)).map fun (frame, window, o) =>
        ({ frame, canvas := window.map fun window => { canvas with window }, painting := false }, o)
  | .frameMarker action => some (s, frameMarker s.frame action)
  | .surfaceFrameMarker frameAcknowledge entry frameAction frameId =>
    some (s, (surfaceFrameMarker s.frame frameAcknowledge entry frameAction frameId).2)
  | .desktopResize settings codecsReset gdiResize =>
    if gdiResize.takes settings then some (s.resize settings codecsReset gdiResize) else none
  | .bringUp reconnected settings codecsReset gdiResize =>
    if gdiResize.takes settings then
      if reconnected then some (s.resize settings codecsReset gdiResize)
      else some (s, [.returned false])
    else none

def machine : Machine Screen Act Obs where
  init := ⟨.new, none, false⟩
  step := step

/-! ## What is claimed -/

/-- The buffer the GDI has taken a size with, if the move tells of one. -/
def gdiTook (m : Move Screen Act Obs) : Option Gdi :=
  match m.act with
  | .postConnect gdiInit => gdiInit.map fun fresh => fresh.gdi
  | .desktopResize _ true (.took fresh) | .bringUp true _ true (.took fresh) => some fresh.gdi
  | _ => none

/-- The pixels that were reported as dropped. -/
def dropped (h : List (Move Screen Act Obs)) : Set (ℕ × ℕ) :=
  {p | ∃ rect, .report (.dropped rect) ∈ Machine.trace h ∧ rectHas rect p.1 p.2}

/-- **What is kept of a picture**, over the moves so far. -/
structure Kept (h : List (Move Screen Act Obs)) (s : Screen) (canvas : Canvas) : Prop where
  /-- The framebuffer has the GDI's size. -/
  sized : Matches s.frame canvas.gdi
  /-- It shows what the GDI does, but for the open region, what was dropped, and what
  has not been drawn on since the GDI took its size. -/
  follows : ∃ base, latest gdiTook h = some base ∧
    Damage.Follows canvas.desktop (picture base) (picture canvas.gdi) (shown s.frame)
      canvas.damage (dropped h)
  /-- Between a paint and the next, no region is open. -/
  quiet : s.painting = false → canvas.window.invalid.null = true

variable {h : List (Move Screen Act Obs)} {s t : Screen} {m : Move Screen Act Obs} {a : Act}
  {o : List Obs} {canvas canvas' : Canvas} {frame : Frame} {settings : Settings}

theorem damage_of_null (hnull : canvas.window.invalid.null = true) : canvas.damage = ∅ := by
  ext p
  simp [Canvas.damage, hnull]

theorem dropped_snoc : dropped h ⊆ dropped (h ++ [m]) := by
  rintro p ⟨rect, hmem, hin⟩
  refine ⟨rect, ?_, hin⟩
  rw [Machine.trace_snoc]
  exact List.mem_append_left _ hmem

/-! ## One paint -/

/-- In a packed picture a byte belongs to one pixel only. -/
theorem rectHas_of_touches {rect : Rect} {width stride x y c : ℕ} (hstride : stride = 4 * width)
    (hin : rect.x.toNat + rect.width.toNat ≤ width) (hx : x < width) (hc : c < 4)
    (h : rect.touches stride (y * stride + 4 * x + c)) : rectHas rect x y := by
  obtain ⟨x', y', c', hx', hx'', hy', hy'', hc', heq⟩ := h
  have hrow : y = y' := by
    rcases lt_trichotomy y y' with hlt | heq' | hlt
    · have hnext := Nat.mul_le_mul_right stride hlt
      rw [Nat.succ_mul] at hnext
      omega
    · exact heq'
    · have hnext := Nat.mul_le_mul_right stride hlt
      rw [Nat.succ_mul] at hnext
      omega
  subst hrow
  exact ⟨⟨by omega, by omega⟩, hy', hy''⟩

/-- A blit shows the GDI inside the rectangle, and what was shown before elsewhere. -/
theorem shown_of_blitted {after : Frame} {rect : Rect} (hm : Matches frame canvas.gdi)
    (hin : frame.contains rect)
    (hafter : Framebuffer.Blitted frame after canvas.gdi.primary rect) {p : ℕ × ℕ}
    (hp : p ∈ canvas.desktop) : (rectHas rect p.1 p.2 → shown after p = picture canvas.gdi p) ∧
      (¬ rectHas rect p.1 p.2 → shown after p = shown frame p) := by
  obtain ⟨hwidth, -, hstride, -⟩ := hafter.size
  constructor
  · rintro ⟨⟨hx, hx'⟩, hy, hy'⟩
    funext c
    exact hafter.inside p.1 p.2 c hx hx' hy hy' c.2
  · intro hnot
    funext c
    have hcol : p.1 < frame.width.toNat := by
      have := hm.width
      have := hp.1
      omega
    have hi : ¬ rect.touches frame.stride (p.2 * frame.stride + 4 * p.1 + c) :=
      fun htouch => hnot (rectHas_of_touches hm.packed.stride hin.1 hcol c.2 htouch)
    rw [shown, shown, byteAt, byteAt, hstride]
    exact hafter.outside _ hi

theorem matches_of_blitted {after : Frame} {rect : Rect} (hm : Matches frame canvas.gdi)
    (hafter : Framebuffer.Blitted frame after canvas.gdi.primary rect) :
    Matches after canvas.gdi := by
  obtain ⟨hwidth, hheight, -, -⟩ := hafter.size
  refine ⟨(hafter.packed hm.packed hm.sized).1, ?_, ?_⟩
  · rw [hwidth]
    exact hm.width
  · rw [hheight]
    exact hm.height

/-- **What `end_paint` does.**  It closes the region; it has copied the damage and
changed nothing else, or it has changed nothing and reported what it dropped. -/
theorem endPaint_spec (hm : Matches frame canvas.gdi) : ∃ after window o,
    endPaint frame canvas.gdi (some canvas.window) = some (after, some window, o) ∧
    window.invalid.null = true ∧ Matches after canvas.gdi ∧
    ((∀ p ∈ canvas.desktop, p ∈ canvas.damage → shown after p = picture canvas.gdi p) ∧
        (∀ p ∈ canvas.desktop, shown after p = shown frame p ∨
          shown after p = picture canvas.gdi p) ∨
      after = frame ∧ ∀ p ∈ canvas.damage,
        ∃ rect, .report (.dropped rect) ∈ o ∧ rectHas rect p.1 p.2) := by
  cases hnull : canvas.window.invalid.null with
  | true =>
    refine ⟨frame, canvas.window, [.returned true], by simp [endPaint, hnull], hnull, hm, .inr ?_⟩
    refine ⟨rfl, fun p hp => ?_⟩
    rw [damage_of_null hnull] at hp
    exact absurd hp (Set.notMem_empty p)
  | false =>
    cases hempty : isEmpty canvas.window.invalid.rect with
    | true =>
      refine ⟨frame, canvas.window.clear, [.returned true], by simp [endPaint, hnull, hempty], rfl,
        hm, .inr ⟨rfl, ?_⟩⟩
      rintro p ⟨-, ⟨hx, hx'⟩, hy, hy'⟩
      have := isEmpty_iff.1 hempty
      omega
    | false =>
      rw [endPaint_eq hnull hempty]
      by_cases hin : frame.contains canvas.window.invalid.rect
      · obtain ⟨after, hblit, hafter⟩ :=
          Framebuffer.blit_inside hm.packed hm.sized (hm.covers hin) hin
        refine ⟨after, canvas.window.clear, _, by rw [hblit]; rfl, rfl,
          matches_of_blitted hm hafter, .inl ⟨?_, ?_⟩⟩
        · intro p hp hdamaged
          exact (shown_of_blitted hm hin hafter hp).1 (rectHas_of_has hdamaged.2)
        · intro p hp
          by_cases hrect : rectHas canvas.window.invalid.rect p.1 p.2
          · exact .inr ((shown_of_blitted hm hin hafter hp).1 hrect)
          · exact .inl ((shown_of_blitted hm hin hafter hp).2 hrect)
      · have hblit := Framebuffer.blit_outside hm.sized hin canvas.gdi.primary
        refine ⟨frame, canvas.window.clear, _, by rw [hblit]; rfl, rfl, hm, .inr ⟨rfl, ?_⟩⟩
        intro p hdamaged
        exact ⟨_, report_mem_painted.2 (by simp), rectHas_of_has hdamaged.2⟩

/-! ## One step -/

/-- A size that the GDI has taken is given to the framebuffer. -/
theorem matches_fresh (frame : Frame) (fresh : Fresh) (event : Event) :
    Matches (resizeAndSend frame (clamp fresh.gdi.width) (clamp fresh.gdi.height) event).1
      fresh.gdi := by
  have hw : ((clamp fresh.gdi.width).toNat : ℤ) = fresh.gdi.width.toInt := by
    rw [toNat_clamp]
    exact Int.toNat_of_nonneg fresh.sized.1
  have hh : ((clamp fresh.gdi.height).toNat : ℤ) = fresh.gdi.height.toInt := by
    rw [toNat_clamp]
    exact Int.toNat_of_nonneg fresh.sized.2
  have hroom : 4 * (clamp fresh.gdi.width).toNat * (clamp fresh.gdi.height).toNat ≤ isizeMax := by
    rw [toNat_clamp, toNat_clamp]
    refine le_trans (le_trans (Nat.mul_le_mul_right _ fresh.gdi.wide) fresh.gdi.tall) ?_
    exact fresh.allocated
  have hbytes : Framebuffer.usizeMul (4 * (clamp fresh.gdi.width).toNat)
      (clamp fresh.gdi.height).toNat =
        4 * (clamp fresh.gdi.width).toNat * (clamp fresh.gdi.height).toNat := by
    refine Framebuffer.usizeMul_eq (lt_of_le_of_lt hroom ?_)
    decide
  simp only [resizeAndSend, Framebuffer.resize, Framebuffer.usizeMul_four, hbytes, if_pos hroom]
  exact ⟨⟨rfl, by simp⟩, hw, hh⟩

/-- A new buffer is followed from its first pixel. -/
theorem kept_fresh {fresh : Fresh} (htook : gdiTook m = some fresh.gdi)
    (hsized : Matches t.frame fresh.gdi) : Kept (h ++ [m]) t fresh.toCanvas where
  sized := hsized
  follows := ⟨fresh.gdi, latest_snoc_of_some htook, Damage.follows_begin _ _ _ _ _⟩
  quiet _ := fresh.quiet

/-- A move that leaves the picture alone keeps it. -/
theorem Kept.stay (hk : Kept h s canvas) (htook : gdiTook m = none) (hframe : t.frame = s.frame)
    (hpainting : t.painting = s.painting) : Kept (h ++ [m]) t canvas := by
  obtain ⟨base, hbase, hfollows⟩ := hk.follows
  refine ⟨?_, ⟨base, ?_, ?_⟩, ?_⟩
  · rw [hframe]
    exact hk.sized
  · rw [latest_snoc_of_none htook]
    exact hbase
  · rw [hframe]
    exact hfollows.mono dropped_snoc
  · rw [hpainting]
    exact hk.quiet

/-- `begin_paint` finds no region open. -/
theorem Kept.beginPaint (hk : Kept h s canvas) (htook : gdiTook m = none)
    (hpainting : s.painting = false) {window : Window} (hnull : window.invalid.null = true)
    (hframe : t.frame = s.frame) : Kept (h ++ [m]) t { canvas with window } := by
  obtain ⟨base, hbase, hfollows⟩ := hk.follows
  refine ⟨?_, ⟨base, ?_, ?_⟩, fun _ => hnull⟩
  · rw [hframe]
    exact hk.sized
  · rw [latest_snoc_of_none htook]
    exact hbase
  · have hnone := damage_of_null (hk.quiet hpainting)
    rw [hframe]
    refine hfollows.lose ?_ dropped_snoc
    intro p _ hdamaged
    rw [hnone] at hdamaged
    exact absurd hdamaged (Set.notMem_empty p)

/-- An order adds to the region what it changes. -/
theorem Kept.draw (hk : Kept h s canvas) (htook : gdiTook m = none) (order : Order)
    (hframe : t.frame = s.frame) (hpainting : t.painting = true) :
    Kept (h ++ [m]) t (order.draw canvas) := by
  obtain ⟨base, hbase, hfollows⟩ := hk.follows
  obtain ⟨hwidth, hheight⟩ := order.size canvas
  have hdesktop : (order.draw canvas).desktop = canvas.desktop := by
    simp only [Canvas.desktop, Gdi.has, hwidth, hheight]
  refine ⟨?_, ⟨base, ?_, ?_⟩, ?_⟩
  · rw [hframe]
    refine ⟨hk.sized.packed, ?_, ?_⟩
    · rw [hwidth]
      exact hk.sized.width
    · rw [hheight]
      exact hk.sized.height
  · rw [latest_snoc_of_none htook]
    exact hbase
  · rw [hframe, hdesktop]
    exact (hfollows.draw (order.gathers canvas) (order.confined canvas)).mono dropped_snoc
  · intro hidle
    rw [hpainting] at hidle
    cases hidle

/-- `end_paint` copies the region, or reports it. -/
theorem Kept.endPaint (hk : Kept h s canvas) (htook : gdiTook m = none) {after : Frame}
    {window : Window} {seen : List Obs}
    (hpaint : endPaint s.frame canvas.gdi (some canvas.window) = some (after, some window, seen))
    (hframe : t.frame = after) (hout : m.out = seen) :
    Kept (h ++ [m]) t { canvas with window } := by
  obtain ⟨base, hbase, hfollows⟩ := hk.follows
  obtain ⟨after', window', o', hpaint', hnull, hsized, hdone⟩ := endPaint_spec hk.sized
  obtain ⟨rfl, rfl, rfl⟩ : after' = after ∧ window' = window ∧ o' = seen := by
    simpa using hpaint'.symm.trans hpaint
  refine ⟨?_, ⟨base, ?_, ?_⟩, fun _ => hnull⟩
  · rw [hframe]
    exact hsized
  · rw [latest_snoc_of_none htook]
    exact hbase
  · rw [hframe]
    rcases hdone with ⟨hcopied, helse⟩ | ⟨rfl, hreported⟩
    · exact (hfollows.flush hcopied helse).mono dropped_snoc
    · refine hfollows.lose ?_ dropped_snoc
      intro p _ hdamaged
      obtain ⟨rect, hmem, hin⟩ := hreported p hdamaged
      refine ⟨rect, ?_, hin⟩
      rw [Machine.trace_snoc, hout]
      exact List.mem_append_right _ hmem

/-- What `desktop_resize` leaves is followed, whatever failed. -/
theorem Kept.resize (hk : ∀ canvas, s.canvas = some canvas → Kept h s canvas) {codecsReset : Bool}
    {gdiResize : GdiResize} (htakes : gdiResize.takes settings)
    (htook : ∀ fresh, codecsReset = true → gdiResize = .took fresh → gdiTook m = some fresh.gdi)
    (hnone : codecsReset = false ∨ gdiResize.answer = false → gdiTook m = none) :
    ∀ canvas, (s.resize settings codecsReset gdiResize).1.canvas = some canvas →
      Kept (h ++ [m]) (s.resize settings codecsReset gdiResize).1 canvas := by
  intro canvas hcanvas
  cases codecsReset with
  | false => exact (hk canvas hcanvas).stay (hnone (.inl rfl)) rfl rfl
  | true =>
    cases gdiResize with
    | took fresh =>
      obtain rfl : fresh.toCanvas = canvas := Option.some.inj hcanvas
      have hsize : (clamp fresh.gdi.width, clamp fresh.gdi.height) = desktopSize settings := htakes
      refine kept_fresh (htook fresh rfl rfl) ?_
      simp only [Screen.resize, desktopResize, GdiResize.answer, ← hsize, if_true]
      exact matches_fresh s.frame fresh _
    | refused kept =>
      cases kept with
      | true => exact (hk canvas hcanvas).stay (hnone (.inr rfl)) rfl rfl
      | false => cases hcanvas

/-- **One step keeps every picture there is.** -/
theorem kept_step (hk : ∀ canvas, s.canvas = some canvas → Kept h s canvas)
    (hs : machine.step s a = some (t, o)) :
    ∀ canvas, t.canvas = some canvas → Kept (h ++ [⟨s, a, o, t⟩]) t canvas := by
  intro canvas hcanvas
  cases a with
  | postConnect gdiInit =>
    obtain ⟨rfl, rfl⟩ := Prod.mk.inj (Option.some.inj hs)
    cases gdiInit with
    | none => cases hcanvas
    | some fresh =>
      obtain rfl : fresh.toCanvas = canvas := Option.some.inj hcanvas
      exact kept_fresh rfl (matches_fresh s.frame fresh _)
  | beginPaint =>
    simp only [machine, step, Option.ite_none_left_eq_some] at hs
    obtain ⟨hidle, hs⟩ := hs
    obtain ⟨rfl, rfl⟩ := Prod.mk.inj (Option.some.inj hs)
    cases hold : s.canvas with
    | none => simp [hold] at hcanvas
    | some before =>
      obtain rfl : { before with window := before.window.clear } = canvas := by
        simpa [hold, Desktop.beginPaint] using hcanvas
      exact (hk before hold).beginPaint rfl (by simpa using hidle) rfl rfl
  | draw order =>
    simp only [machine, step, Option.ite_none_right_eq_some] at hs
    obtain ⟨hpainting, hs⟩ := hs
    obtain ⟨rfl, rfl⟩ := Prod.mk.inj (Option.some.inj hs)
    obtain ⟨before, hold, rfl⟩ := Option.map_eq_some_iff.1 hcanvas
    exact (hk before hold).draw rfl order rfl hpainting
  | endPaint =>
    simp only [machine, step] at hs
    cases hold : s.canvas with
    | none =>
      rw [hold] at hs
      obtain ⟨rfl, rfl⟩ := Prod.mk.inj (Option.some.inj hs)
      cases hcanvas
    | some before =>
      rw [hold] at hs
      obtain ⟨⟨after, window, seen⟩, hpaint, heq⟩ := Option.map_eq_some_iff.1 hs
      obtain ⟨rfl, rfl⟩ := Prod.mk.inj heq
      obtain ⟨window', rfl, rfl⟩ := Option.map_eq_some_iff.1 hcanvas
      exact (hk before hold).endPaint rfl hpaint rfl rfl
  | frameMarker action =>
    obtain ⟨rfl, rfl⟩ := Prod.mk.inj (Option.some.inj hs)
    exact (hk canvas hcanvas).stay rfl rfl rfl
  | surfaceFrameMarker frameAcknowledge entry frameAction frameId =>
    obtain ⟨rfl, rfl⟩ := Prod.mk.inj (Option.some.inj hs)
    exact (hk canvas hcanvas).stay rfl rfl rfl
  | desktopResize settings codecsReset gdiResize =>
    simp only [machine, step, Option.ite_none_right_eq_some] at hs
    obtain ⟨htakes, hs⟩ := hs
    obtain ⟨rfl, rfl⟩ := Prod.mk.inj (Option.some.inj hs)
    refine Kept.resize hk htakes ?_ ?_ canvas hcanvas
    · rintro fresh rfl rfl
      rfl
    · rintro (rfl | hanswer)
      · rfl
      · cases gdiResize with
        | took fresh => cases hanswer
        | refused kept => cases codecsReset <;> rfl
  | bringUp reconnected settings codecsReset gdiResize =>
    simp only [machine, step, Option.ite_none_right_eq_some] at hs
    obtain ⟨htakes, hs⟩ := hs
    cases reconnected with
    | false =>
      obtain ⟨rfl, rfl⟩ := Prod.mk.inj (Option.some.inj hs)
      exact (hk canvas hcanvas).stay rfl rfl rfl
    | true =>
      obtain ⟨rfl, rfl⟩ := Prod.mk.inj (Option.some.inj hs)
      refine Kept.resize hk htakes ?_ ?_ canvas hcanvas
      · rintro fresh rfl rfl
        rfl
      · rintro (rfl | hanswer)
        · rfl
        · cases gdiResize with
          | took fresh => cases hanswer
          | refused kept => cases codecsReset <;> rfl

/-! ## The whole run -/

theorem kept_of_run (hr : machine.Run h s) :
    ∀ canvas, s.canvas = some canvas → Kept h s canvas := by
  induction hr with
  | nil =>
    intro canvas hcanvas
    cases hcanvas
  | snoc _ hs ih => exact kept_step ih hs

/-- **The framebuffer follows the desktop.**  In every state reached, through every
order of connects, paints, drawing, markers and resizes, whichever of FreeRDP's calls
fail: the next `end_paint` copies within its buffers; the framebuffer has the GDI's
size; and each pixel of the desktop is shown as the GDI has it, unless it is in the
region still open, was in a rectangle reported as dropped, or has not changed since the
GDI took its size.  Outside a paint no region is open. -/
theorem framebuffer_follows (hr : machine.Run h s) :
    (machine.step s .endPaint).isSome ∧ ∀ canvas, s.canvas = some canvas →
      Matches s.frame canvas.gdi ∧ (s.painting = false → canvas.damage = ∅) ∧
      ∃ base, latest gdiTook h = some base ∧ ∀ x y, canvas.gdi.has x y →
        Shows s.frame canvas.gdi x y ∨ (x, y) ∈ canvas.damage ∨ (x, y) ∈ dropped h ∨
          picture canvas.gdi (x, y) = picture base (x, y) := by
  have hall := kept_of_run hr
  refine ⟨?_, ?_⟩
  · cases hcanvas : s.canvas with
    | none => simp [machine, step, hcanvas]
    | some canvas =>
      obtain ⟨after, window, o, hpaint, -⟩ := endPaint_spec (hall canvas hcanvas).sized
      simp [machine, step, hcanvas, hpaint]
  · intro canvas hcanvas
    have hk := hall canvas hcanvas
    obtain ⟨base, hbase, hfollows⟩ := hk.follows
    refine ⟨hk.sized, fun hidle => damage_of_null (hk.quiet hidle), base, hbase, ?_⟩
    intro x y hon
    rcases hfollows (x, y) hon with hshown | hrest
    · exact .inl fun c hc => congrFun hshown ⟨c, hc⟩
    · exact .inr hrest

/-- The whole desktop is filled. -/
def fill (value : UInt8) : Order where
  draw canvas :=
    let src := canvas.gdi.primary
    { gdi :=
        { canvas.gdi with
          primary := ⟨List.replicate src.bytes.length value, src.stride, by simp [src.addressable]⟩
          tall := by simpa using canvas.gdi.tall }
      window := ⟨⟨false, 0, 0, canvas.gdi.width, canvas.gdi.height⟩, 1⟩ }
  size _ := ⟨rfl, rfl⟩
  gathers canvas p hp _ := by
    have hx := hp.1
    have hy := hp.2
    exact ⟨rfl, ⟨by simp, by simpa using hx⟩, by simp, by simpa using hy⟩
  confined canvas p hp hnot := by
    have hx := hp.1
    have hy := hp.2
    exact absurd ⟨rfl, ⟨by simp, by simpa using hx⟩, by simp, by simpa using hy⟩ hnot

/-- A buffer of four by four. -/
def fresh : Fresh where
  gdi := fourByFour
  window := ⟨⟨true, 0, 0, 0, 0⟩, 0⟩
  sized := ⟨by decide, by decide⟩
  allocated := by decide
  quiet := rfl

/-- A paint, a marker inside the next one, a resize that is refused, one that is not, and
a paint of the new buffer. -/
def paints : List Act :=
  [.postConnect (some fresh), .beginPaint, .draw (fill 7), .endPaint, .beginPaint, .draw (fill 9),
    .surfaceFrameMarker 2 true SURFACECMD_FRAMEACTION_END 5, .endPaint, .frameMarker FRAME_END,
    .desktopResize ⟨4, 4, 100, 100, false⟩ true (.refused true),
    .desktopResize ⟨4, 4, 100, 100, false⟩ true (.took fresh), .beginPaint, .draw (fill 11),
    .endPaint]

theorem isSome_paints : (machine.exec paints).isSome = true := by decide +kernel

/-- Where nothing has been dropped, a pixel that has changed since the GDI took its size is
shown between two paints. -/
theorem framebuffer_follows_paints : ∃ h s canvas, machine.Run h s ∧ h.length = 14 ∧
    s.canvas = some canvas ∧ (machine.step s .endPaint).isSome = true ∧
    Matches s.frame canvas.gdi ∧ picture canvas.gdi (2, 3) 0 = some 11 ∧
    Shows s.frame canvas.gdi 2 3 := by
  have hrun := machine.run_get paints isSome_paints
  have hdrawn : ((machine.exec paints).get isSome_paints).2.canvas.any (fun canvas =>
      picture canvas.gdi (2, 3) 0 = some 11 && canvas.gdi.width = 4 && canvas.gdi.height = 4) =
        true := by
    decide +kernel
  have hblank : (latest gdiTook ((machine.exec paints).get isSome_paints).1).any (fun base =>
      picture base (2, 3) 0 ≠ some 11) = true := by
    decide +kernel
  have hkept : (Machine.trace ((machine.exec paints).get isSome_paints).1).all (fun obs =>
      match obs with
      | .report (.dropped _) => false
      | _ => true) = true := by
    decide +kernel
  obtain ⟨hpaint, hall⟩ := framebuffer_follows hrun
  obtain ⟨canvas, hcanvas, hdrawn⟩ := (Option.any_eq_true _ _).1 hdrawn
  simp only [Bool.and_eq_true, decide_eq_true_eq] at hdrawn
  obtain ⟨⟨hpixel, hwidth⟩, hheight⟩ := hdrawn
  have hon : canvas.gdi.has 2 3 := by
    rw [Gdi.has, hwidth, hheight]
    decide
  obtain ⟨hmatches, hquiet, base, hbase, hfollows⟩ := hall canvas hcanvas
  refine ⟨_, _, canvas, hrun, by decide +kernel, hcanvas, hpaint, hmatches, hpixel, ?_⟩
  rcases hfollows 2 3 hon with hshows | hopen | ⟨rect, hdropped, -⟩ | hsame
  · exact hshows
  · rw [hquiet (by decide +kernel)] at hopen
    exact absurd hopen (Set.notMem_empty _)
  · exact absurd (List.all_eq_true.1 hkept _ hdropped) (by simp)
  · rw [hbase, Option.any_some, decide_eq_true_eq] at hblank
    exact absurd ((congrFun hsame 0).symm.trans hpixel) hblank

end Frames
end Desktop
end FreerdpPrebuilt
