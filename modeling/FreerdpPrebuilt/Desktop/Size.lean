import FreerdpPrebuilt.Desktop.Callbacks
import FreerdpPrebuilt.Framebuffer.Copy
import FreerdpPrebuilt.Lib.History

/-!
# The announced size is the framebuffer's

Three paths change the size of the desktop: PostConnect, DesktopResize, and the
DesktopResize that a reconnect runs by hand.  Each goes through calls of FreeRDP
that may fail, then sizes the framebuffer, then sends the event.

What one operation does is said once, in `Agreeing`: the size follows the last
event it sends, the framebuffer has a size when it is announced, and an operation
that reports failure has changed nothing.  `announced_size` says it of every run.

It rests on one thing FreeRDP does: it takes a size only if it has allocated a
picture of it (`Allocates`).  `Vec::resize` would panic on a size past that.
-/

namespace FreerdpPrebuilt
namespace Desktop

open Labelled
open Framebuffer (Frame Source isizeMax)
open Resize (Settings)

/-! ## What is claimed -/

/-- The size an observation announces. -/
def Obs.announces : Obs → Option (UInt32 × UInt32)
  | .sent event _ => event.announces
  | .report _ | .returned _ => none

/-- **The GDI takes only what it can allocate**: four bytes for each pixel. -/
def Allocates (takes : UInt32 × UInt32 → Bool) : Prop :=
  ∀ width height, takes (width, height) = true → 4 * width.toNat * height.toNat ≤ isizeMax

/-- What an operation does to the framebuffer agrees with what is seen of it. -/
structure Agreeing (before after : Frame) (o : List Obs) : Prop where
  /-- The framebuffer has the size announced last. -/
  follows : size after = (latest Obs.announces o).getD (size before)
  /-- It has a size by the moment that size is announced. -/
  moment : ∀ event at_, .sent event at_ ∈ o → ∀ announced, event.announces = some announced →
    at_ = announced
  /-- After a failure nothing has changed, and nothing was sent. -/
  failed : .returned false ∈ o → after = before ∧ ∀ event at_, .sent event at_ ∉ o

variable {frame : Frame} {gdi : Gdi} {window : Option Window} {settings : Settings}
  {takes : UInt32 × UInt32 → Bool}

/-! ## One operation -/

/-- An operation that keeps the size, announces none and does not fail. -/
theorem agreeing_of_quiet {after : Frame} {o : List Obs} (hsize : size after = size frame)
    (hquiet : ∀ obs ∈ o, obs.announces = none) (hok : .returned false ∉ o) :
    Agreeing frame after o where
  follows := by
    rw [latest_eq_none.2 hquiet]
    exact hsize
  moment := by
    intro event at_ hmem announced hevent
    exact absurd (hevent.symm.trans (hquiet _ hmem)) (by simp)
  failed := fun h => absurd h hok

/-- An operation that changes nothing, and only says how it went. -/
theorem agreeing_returned (frame : Frame) (ok : Bool) : Agreeing frame frame [.returned ok] where
  follows := rfl
  moment := fun event at_ h => absurd h (by simp)
  failed := fun _ => ⟨rfl, fun event at_ h => absurd h (by simp)⟩

theorem agreeing_silent (frame : Frame) : Agreeing frame frame [] :=
  agreeing_of_quiet rfl (by simp) (by simp)

/-- A size within an allocation is given to the framebuffer, and then announced. -/
theorem agreeing_resizeAndSend {width height : UInt32} {event : Event}
    (hroom : 4 * width.toNat * height.toNat ≤ isizeMax)
    (hevent : event.announces = some (width, height)) :
    Agreeing frame (resizeAndSend frame width height event).1
      (resizeAndSend frame width height event).2 := by
  obtain ⟨after, hresize, hsize⟩ : ∃ after, Framebuffer.resize frame width height = (after, []) ∧
      size after = (width, height) := by
    have hbytes : Framebuffer.usizeMul (4 * width.toNat) height.toNat ≤ isizeMax :=
      le_trans (Nat.mod_le _ _) hroom
    simp only [Framebuffer.resize, Framebuffer.usizeMul_four, if_pos hbytes]
    exact ⟨_, rfl, rfl⟩
  have hrun : resizeAndSend frame width height event =
      (after, [send after event, .returned true]) := by
    simp [resizeAndSend, hresize]
  rw [hrun]
  refine ⟨?_, ?_, ?_⟩
  · have hlast : latest Obs.announces [send after event, .returned true] = some (width, height) :=
      (latest_append _ [send after event] [.returned true]).trans
        (by simp [latest, send, Obs.announces, hevent])
    rw [hlast, hsize]
    rfl
  · intro other at_ hmem announced hother
    obtain ⟨rfl, rfl⟩ : other = event ∧ at_ = size after := by simpa [send] using hmem
    rw [hsize]
    exact Option.some.inj (hevent.symm.trans hother)
  · intro hfailed
    exact absurd hfailed (by simp [send])

theorem agreeing_postConnect {gdiInit : Option (Int32 × Int32)} (hgdi : Allocates takes)
    (htook : (gdiInit.map fun (w, h) => (clamp w, clamp h)).all takes = true) :
    Agreeing frame (postConnect frame gdiInit).1 (postConnect frame gdiInit).2 := by
  cases gdiInit with
  | none => exact agreeing_returned frame false
  | some wh =>
    obtain ⟨w, h⟩ := wh
    exact agreeing_resizeAndSend (hgdi _ _ (by simpa using htook)) rfl

theorem agreeing_desktopResize {codecsReset gdiResize : Bool} (hgdi : Allocates takes)
    (htook : (if gdiResize then some (desktopSize settings) else none).all takes = true) :
    Agreeing frame (desktopResize frame settings codecsReset gdiResize).1
      (desktopResize frame settings codecsReset gdiResize).2 := by
  cases codecsReset with
  | false => exact agreeing_returned frame false
  | true =>
    cases gdiResize with
    | false => exact agreeing_returned frame false
    | true =>
      have htakes : takes (desktopSize settings) = true := htook
      exact agreeing_resizeAndSend (hgdi _ _ htakes) rfl

/-- A blit keeps the size. -/
theorem size_blit {src : Source} {rect : Framebuffer.Rect} {after : Frame}
    {reports : List Framebuffer.Obs} (h : Framebuffer.blit frame src rect = some (after, reports)) :
    size after = size frame := by
  unfold Framebuffer.blit at h
  split_ifs at h
  · obtain ⟨rfl, -⟩ := Prod.mk.inj (Option.some.inj h)
    rfl
  · obtain ⟨pixels, -, heq⟩ := Option.map_eq_some_iff.1 h
    obtain ⟨rfl, -⟩ := Prod.mk.inj heq
    rfl

theorem agreeing_endPaint {after : Frame} {window' : Option Window} {o : List Obs}
    (h : endPaint frame gdi window = some (after, window', o)) : Agreeing frame after o := by
  cases window with
  | none =>
    obtain ⟨rfl, -, rfl⟩ : frame = after ∧ _ ∧ [Obs.returned false] = o := by
      simpa [endPaint] using h
    exact agreeing_returned frame false
  | some window =>
    simp only [endPaint] at h
    by_cases hnull : window.invalid.null = true
    · obtain ⟨rfl, -, rfl⟩ : frame = after ∧ _ ∧ [Obs.returned true] = o := by
        simpa [hnull] using h
      exact agreeing_returned frame true
    · by_cases hempty : isEmpty window.invalid.rect = true
      · obtain ⟨rfl, -, rfl⟩ : frame = after ∧ _ ∧ [Obs.returned true] = o := by
          simpa [hnull, hempty] using h
        exact agreeing_returned frame true
      · rw [if_neg hnull, if_neg hempty] at h
        obtain ⟨⟨painted, reports⟩, hblit, heq⟩ := Option.map_eq_some_iff.1 h
        obtain ⟨rfl, -, rfl⟩ := heq
        refine agreeing_of_quiet (size_blit hblit) ?_ ?_
        · cases gdi.inGfxFrame <;> simp [send, Obs.announces, Event.announces, or_imp, forall_and]
        · cases gdi.inGfxFrame <;> simp [send]

/-- **What one step does agrees with what is seen of it.** -/
theorem agreeing_step {s t : State} {a : Act} {o : List Obs} (hgdi : Allocates takes)
    (hs : (machine takes settings).step s a = some (t, o)) : Agreeing s.frame t.frame o := by
  obtain ⟨htook, hs⟩ : (s.gdiTook a).all takes = true ∧ step s a = some (t, o) := by
    simpa [machine] using hs
  cases a with
  | postConnect gdiInit =>
    obtain ⟨rfl, rfl⟩ := Prod.mk.inj (Option.some.inj hs)
    exact agreeing_postConnect hgdi htook
  | beginPaint =>
    obtain ⟨rfl, rfl⟩ := Prod.mk.inj (Option.some.inj hs)
    cases s.window with
    | none => exact agreeing_returned s.frame false
    | some window => exact agreeing_returned s.frame true
  | draws window =>
    obtain ⟨rfl, rfl⟩ := Prod.mk.inj (Option.some.inj hs)
    exact agreeing_silent s.frame
  | endPaint gdi =>
    obtain ⟨⟨frame, window, seen⟩, hpaint, heq⟩ := Option.map_eq_some_iff.1 hs
    obtain ⟨rfl, rfl⟩ := Prod.mk.inj heq
    exact agreeing_endPaint hpaint
  | activates width height =>
    obtain ⟨rfl, rfl⟩ := Prod.mk.inj (Option.some.inj hs)
    exact agreeing_silent s.frame
  | desktopResize codecsReset gdiResize =>
    obtain ⟨rfl, rfl⟩ := Prod.mk.inj (Option.some.inj hs)
    exact agreeing_desktopResize hgdi htook
  | takeDown request disconnected accepts =>
    simp only [step] at hs
    split_ifs at hs
    · obtain ⟨rfl, rfl⟩ := Prod.mk.inj (Option.some.inj hs)
      exact agreeing_silent s.frame
    · obtain ⟨rfl, rfl⟩ := Prod.mk.inj (Option.some.inj hs)
      exact agreeing_returned s.frame false
  | bringUp reconnected codecsReset gdiResize =>
    simp only [step] at hs
    split_ifs at hs
    obtain ⟨rfl, rfl⟩ := Prod.mk.inj (Option.some.inj hs)
    cases reconnected with
    | false => exact agreeing_returned s.frame false
    | true => exact agreeing_desktopResize hgdi htook

/-! ## The whole run -/

variable {h : List (Move State Act Obs)} {s : State}

/-- The framebuffer has the size that was announced last. -/
theorem size_of_run (hgdi : Allocates takes) (hr : (machine takes settings).Run h s) :
    size s.frame = (latest Obs.announces (Machine.trace h)).getD (0, 0) := by
  induction hr with
  | nil => rfl
  | snoc _ hs ih =>
    rw [(agreeing_step hgdi hs).follows, ih, Machine.trace_snoc, latest_append]
    cases latest Obs.announces _ <;> rfl

/-- **The announced desktop size is the framebuffer's.**  Over every run of
PostConnect, EndPaint, DesktopResize and reconnects, whichever of FreeRDP's calls
fail: in every state reached the framebuffer has the size of the last Connected or
Resize, and none before the first; it has that size when the event is sent; and an
operation that reports failure has changed neither it nor the events. -/
theorem announced_size (hgdi : Allocates takes) (hr : (machine takes settings).Run h s) :
    size s.frame = (latest Obs.announces (Machine.trace h)).getD (0, 0) ∧
    (∀ event at_ announced, .sent event at_ ∈ Machine.trace h →
      event.announces = some announced → at_ = announced) ∧
    ∀ m ∈ h, .returned false ∈ m.out →
      m.dst.frame = m.src.frame ∧ ∀ event at_, .sent event at_ ∉ m.out := by
  refine ⟨size_of_run hgdi hr, ?_, ?_⟩
  · intro event at_ announced hmem hevent
    obtain ⟨m, hm, hout⟩ := List.mem_flatMap.1 hmem
    exact (agreeing_step hgdi (hr.step_of_mem m hm)).moment event at_ hout announced hevent
  · intro m hm hfailed
    exact (agreeing_step hgdi (hr.step_of_mem m hm)).failed hfailed

/-- A GDI that can hold four gigabytes. -/
def gdiHolds (size : UInt32 × UInt32) : Bool :=
  decide (4 * size.1.toNat * size.2.toNat ≤ 4294967296)

theorem allocates_gdiHolds : Allocates gdiHolds := by
  intro width height htakes
  have hroom : 4 * width.toNat * height.toNat ≤ 4294967296 := of_decide_eq_true htakes
  exact le_trans hroom (by decide)

/-- Connected at 4x3, resized by the server to 2x2; a resize that the GDI refuses,
and a reconnect that ends at 3x1. -/
def resizes : List Act :=
  [.postConnect none, .postConnect (some (4, 3)), .activates 2 2, .desktopResize true true,
    .activates 5 5, .desktopResize true false, .takeDown ⟨3, 1, 100, 0⟩ true (fun _ => true),
    .activates 3 1, .bringUp true true true]

theorem announced_size_resizes : ∃ h s,
    (machine gdiHolds ⟨4, 3, 100, 100, false⟩).Run h s ∧ size s.frame = (3, 1) ∧
    size s.frame = (latest Obs.announces (Machine.trace h)).getD (0, 0) := by
  have hrun := (machine gdiHolds ⟨4, 3, 100, 100, false⟩).run_get resizes (by decide)
  exact ⟨_, _, hrun, by decide, (announced_size allocates_gdiHolds hrun).1⟩

end Desktop
end FreerdpPrebuilt
