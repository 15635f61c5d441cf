import FreerdpPrebuilt.Desktop.Callbacks
import FreerdpPrebuilt.Framebuffer.Copy

/-!
# What a paint reports and what it copies

`end_paint` brings each coordinate of the invalid region up to zero, and hands
the rectangle to `blit`, which drops one that does not fit.  It sends the Paint
in either case.

Of a region that begins left of the desktop or above it, the start moves and the
extent does not, so it may reach past the far edge; so may one that simply is too
large.  `loses_nothing_iff` says that those are the regions that are lost: all of
the damage, with a Paint that says it was copied.
-/

namespace FreerdpPrebuilt
namespace Desktop

open Framebuffer (Rect Frame Source byteAt i32Max)

/-! ## What is claimed -/

/-- The pixel lies in the region, `[x, x+w)` by `[y, y+h)`. -/
def Region.has (region : Region) (x y : ℕ) : Prop :=
  (region.x.toInt ≤ x ∧ x < region.x.toInt + region.w.toInt) ∧
    region.y.toInt ≤ y ∧ y < region.y.toInt + region.h.toInt

/-- The pixel lies on the desktop. -/
def Gdi.has (gdi : Gdi) (x y : ℕ) : Prop := (x : ℤ) < gdi.width.toInt ∧ (y : ℤ) < gdi.height.toInt

/-- The pixel lies in the rectangle. -/
def rectHas (rect : Rect) (x y : ℕ) : Prop :=
  (rect.x.toNat ≤ x ∧ x < rect.x.toNat + rect.width.toNat) ∧
    rect.y.toNat ≤ y ∧ y < rect.y.toNat + rect.height.toNat

/-- The framebuffer shows the GDI's pixel. -/
def Shows (frame : Frame) (gdi : Gdi) (x y : ℕ) : Prop :=
  ∀ c < 4, byteAt frame.pixels frame.stride x y c =
    byteAt gdi.primary.bytes gdi.primary.stride x y c

/-- The framebuffer has the GDI's size. -/
structure Matches (frame : Frame) (gdi : Gdi) : Prop where
  packed : frame.Packed
  width : (frame.width.toNat : ℤ) = gdi.width.toInt
  height : (frame.height.toNat : ℤ) = gdi.height.toInt

/-- **What is promised of a paint.** -/
structure LosesNothing (gdi : Gdi) (region : Region) (after : Frame) (o : List Obs) : Prop where
  copied : ∀ x y, region.has x y → gdi.has x y → Shows after gdi x y
  reported : (∃ x y, region.has x y ∧ gdi.has x y) → ∃ rect at_, .sent (.paint rect) at_ ∈ o ∧
    after.contains rect ∧ (∀ x y, region.has x y → gdi.has x y → rectHas rect x y) ∧
    ∀ x y, rectHas rect x y → Shows after gdi x y
  honest : ∀ rect at_, .sent (.paint rect) at_ ∈ o → .report (.dropped rect) ∉ o

/-- The region is empty, or ends on the desktop once its start has been moved
there. -/
def Region.staysInside (region : Region) (gdi : Gdi) : Bool :=
  decide (region.w.toInt ≤ 0) || decide (region.h.toInt ≤ 0) ||
    (decide (max region.x.toInt 0 + region.w.toInt ≤ gdi.width.toInt) &&
      decide (max region.y.toInt 0 + region.h.toInt ≤ gdi.height.toInt))

/-! ## The rectangle -/

variable {frame : Frame} {gdi : Gdi} {region : Region}

theorem toNat_clamp (v : Int32) : (clamp v).toNat = v.toInt.toNat := by
  have hlt := v.toInt_lt
  rw [clamp, UInt32.toNat_ofNat_of_lt']
  rw [UInt32.size]
  omega

/-- A rectangle with nothing in it comes of a region with nothing in it. -/
theorem isEmpty_iff : isEmpty region.rect = true ↔ region.w.toInt ≤ 0 ∨ region.h.toInt ≤ 0 := by
  rw [isEmpty, Bool.or_eq_true, beq_iff_eq, beq_iff_eq, ← UInt32.toNat_inj, ← UInt32.toNat_inj]
  simp only [Region.rect, toNat_clamp, UInt32.toNat_zero]
  omega

/-- Of a region with something in it, the rectangle is inside the framebuffer
when the region stays inside the desktop. -/
theorem contains_iff (hm : Matches frame gdi) (hsome : isEmpty region.rect = false) :
    frame.contains region.rect ↔ region.staysInside gdi = true := by
  have hwidth := hm.width
  have hheight := hm.height
  have hne : ¬ (region.w.toInt ≤ 0 ∨ region.h.toInt ≤ 0) := by
    rw [← isEmpty_iff, hsome]
    exact Bool.false_ne_true
  simp only [Frame.contains, Region.rect, toNat_clamp, Region.staysInside, Bool.or_eq_true,
    Bool.and_eq_true, decide_eq_true_eq]
  omega

/-- What the region has of the desktop, the rectangle has. -/
theorem rectHas_of_has {x y : ℕ} (h : region.has x y) : rectHas region.rect x y := by
  obtain ⟨⟨hx, hx'⟩, hy, hy'⟩ := h
  simp only [rectHas, Region.rect, toNat_clamp]
  omega

theorem Matches.sized (hm : Matches frame gdi) : frame.Sized := by
  have hwidth := hm.width
  have hheight := hm.height
  have hw := gdi.width.toInt_lt
  have hh := gdi.height.toInt_lt
  rw [Frame.Sized, i32Max]
  omega

/-- The GDI's buffer covers every rectangle inside the framebuffer. -/
theorem Matches.covers (hm : Matches frame gdi) {rect : Rect} (hin : frame.contains rect) :
    gdi.primary.covers rect = true := by
  have hwidth := hm.width
  have hheight := hm.height
  have hwide := gdi.wide
  obtain ⟨hx, hy⟩ := hin
  rw [Source.covers, Bool.and_eq_true, decide_eq_true_eq, decide_eq_true_eq]
  refine ⟨le_trans (Nat.mul_le_mul_left _ ?_) gdi.tall, ?_⟩
  · omega
  · omega

/-! ## One paint -/

variable {window : Window}

/-- What is seen of a paint that got as far as the blit. -/
def painted (gdi : Gdi) (rect : Rect) (after : Frame) (reports : List Framebuffer.Obs) : List Obs :=
  let sent := send after (.paint rect) :: if gdi.inGfxFrame then [send after .frame] else []
  reports.map .report ++ sent ++ [.returned true]

theorem paint_mem_painted {rect : Rect} {after : Frame} {reports : List Framebuffer.Obs} :
    .sent (.paint rect) (size after) ∈ painted gdi rect after reports := by
  simp [painted, send]

theorem report_mem_painted {rect : Rect} {after : Frame} {reports : List Framebuffer.Obs}
    {report : Framebuffer.Obs} :
    .report report ∈ painted gdi rect after reports ↔ report ∈ reports := by
  unfold painted
  cases gdi.inGfxFrame <;> simp [send]

/-- A region with something in it goes through the blit. -/
theorem endPaint_eq (hnull : window.invalid.null = false)
    (hsome : isEmpty window.invalid.rect = false) : endPaint frame gdi (some window) =
      (Framebuffer.blit frame gdi.primary window.invalid.rect).map fun r =>
        (r.1, some window.clear, painted gdi window.invalid.rect r.1 r.2) := by
  simp [endPaint, hnull, hsome, painted]

/-- An empty region is no damage. -/
theorem losesNothing_of_isEmpty (h : isEmpty region.rect = true) :
    LosesNothing gdi region frame [.returned true] := by
  have hnone : ∀ x y, ¬ region.has x y := by
    rintro x y ⟨⟨hx, hx'⟩, hy, hy'⟩
    have := isEmpty_iff.1 h
    omega
  refine ⟨fun x y hin _ => absurd hin (hnone x y), ?_, ?_⟩
  · rintro ⟨x, y, hin, -⟩
    exact absurd hin (hnone x y)
  · intro rect at_ hmem
    exact absurd hmem (by simp)

/-- A rectangle inside the framebuffer is copied, and reported. -/
theorem losesNothing_of_blit {after : Frame} (hin : frame.contains region.rect)
    (hafter : Framebuffer.Blitted frame after gdi.primary region.rect) :
    LosesNothing gdi region after (painted gdi region.rect after []) := by
  have hshows : ∀ x y, rectHas region.rect x y → Shows after gdi x y := by
    rintro x y ⟨⟨hx, hx'⟩, hy, hy'⟩ c hc
    exact hafter.inside x y c hx hx' hy hy' hc
  refine ⟨fun x y hhas _ => hshows x y (rectHas_of_has hhas), fun _ => ?_, ?_⟩
  · refine ⟨region.rect, size after, paint_mem_painted, ?_, ?_, hshows⟩
    · rw [Frame.contains, hafter.size.1, hafter.size.2.1]
      exact hin
    · intro x y hhas _
      exact rectHas_of_has hhas
  · intro rect at_ _ hdropped
    exact absurd (report_mem_painted.1 hdropped) (by simp)

/-- **When a paint loses no damage.**  For every region and every framebuffer of
the GDI's size `end_paint` succeeds; it copies the damage, and reports what it
copied and nothing else, if and only if the region is empty or ends on the desktop
once its start has been moved there. -/
theorem loses_nothing_iff (hm : Matches frame gdi) (hnull : window.invalid.null = false) :
    ∃ after o, endPaint frame gdi (some window) = some (after, some window.clear, o) ∧
      .returned true ∈ o ∧
      (LosesNothing gdi window.invalid after o ↔ window.invalid.staysInside gdi = true) := by
  cases hempty : isEmpty window.invalid.rect with
  | true =>
    refine ⟨frame, [.returned true], by simp [endPaint, hnull, hempty], by simp, ?_⟩
    have hstays : window.invalid.staysInside gdi = true := by
      have := isEmpty_iff.1 hempty
      simp only [Region.staysInside, Bool.or_eq_true, decide_eq_true_eq]
      exact .inl this
    exact ⟨fun _ => hstays, fun _ => losesNothing_of_isEmpty hempty⟩
  | false =>
    rw [endPaint_eq hnull hempty, ← contains_iff hm hempty]
    by_cases hin : frame.contains window.invalid.rect
    · obtain ⟨after, hblit, hafter⟩ :=
        Framebuffer.blit_inside hm.packed hm.sized (hm.covers hin) hin
      refine ⟨after, painted gdi window.invalid.rect after [], by rw [hblit]; rfl, ?_, ?_⟩
      · simp [painted]
      · exact ⟨fun _ => hin, fun _ => losesNothing_of_blit hin hafter⟩
    · have hblit := Framebuffer.blit_outside hm.sized hin gdi.primary
      refine ⟨frame, painted gdi window.invalid.rect frame [.dropped window.invalid.rect],
        by rw [hblit]; rfl, ?_, ?_⟩
      · simp [painted]
      · -- the rectangle is dropped, and its Paint is sent
        refine ⟨fun hall => absurd ?_ (hall.honest _ _ paint_mem_painted), fun h => absurd h hin⟩
        exact report_mem_painted.2 (by simp)

/-- A desktop of four by four, all of it drawn. -/
def fourByFour : Gdi :=
  ⟨4, 4, Framebuffer.fourByFour, true, by decide, by decide⟩

/-- The framebuffer it was given on connect. -/
def blank : Frame := (Framebuffer.resize .new 4 4).1

theorem matches_blank : Matches blank fourByFour where
  packed := ⟨rfl, rfl⟩
  width := by decide
  height := by decide

/-- The damage begins left of the desktop, and ends on it. -/
def leftEdge : Window := ⟨⟨false, -1, 1, 3, 2⟩, 1⟩

theorem loses_nothing_leftEdge : ∃ after o,
    endPaint blank fourByFour (some leftEdge) = some (after, some leftEdge.clear, o) ∧
    .returned true ∈ o ∧ LosesNothing fourByFour leftEdge.invalid after o := by
  obtain ⟨after, o, hpaint, hok, hiff⟩ :=
    loses_nothing_iff matches_blank (show leftEdge.invalid.null = false from rfl)
  exact ⟨after, o, hpaint, hok, hiff.2 (by decide)⟩

/-- The damage begins left of the desktop, and covers all of it. -/
def wholeDesktop : Window := ⟨⟨false, -1, 0, 5, 4⟩, 1⟩

/-- **The whole desktop is lost.**  Five columns from the one left of the desktop
become five from the first on: the rectangle is dropped, and reported as painted. -/
theorem whole_desktop_is_lost : ∃ after o,
    endPaint blank fourByFour (some wholeDesktop) = some (after, some wholeDesktop.clear, o) ∧
    .returned true ∈ o ∧ ¬ LosesNothing fourByFour wholeDesktop.invalid after o := by
  refine ⟨blank, _, rfl, by decide, fun hall => ?_⟩
  have hshows := hall.copied 0 0 ⟨⟨by decide, by decide⟩, by decide, by decide⟩
    ⟨by decide, by decide⟩ 0 (by decide)
  exact absurd hshows (by decide)

end Desktop
end FreerdpPrebuilt
