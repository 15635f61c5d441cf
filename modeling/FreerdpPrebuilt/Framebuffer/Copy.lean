import FreerdpPrebuilt.Framebuffer.Frame

/-!
# A rectangle goes in and comes out unchanged

Two pieces of arithmetic have to agree: the offsets of the raw copy in `blit`,
behind a test on saturated sums, and the lazy slices of `rows`.  For a frame
whose buffer is as long as its size says they do, whatever the rectangle and the
strides (`sound_of_packed`).

`resize` leaves such a frame unless it asks for more bytes than an allocation may
have: then it panics half way, and the frame keeps a size without pixels
(`sound_iff`, `oversized_frame_has_no_pixels`).
-/

namespace FreerdpPrebuilt
namespace Framebuffer

open Labelled

/-! ## What is asked of a frame -/

/-- The byte `c` of the pixel at `x`, `y`, in a buffer with this stride. -/
def byteAt (bytes : Bytes) (stride x y c : ℕ) : Option UInt8 := bytes[y * stride + 4 * x + c]?

/-- The rectangle lies inside the frame. -/
def Frame.contains (self : Frame) (rect : Rect) : Prop :=
  rect.x.toNat + rect.width.toNat ≤ self.width.toNat ∧
    rect.y.toNat + rect.height.toNat ≤ self.height.toNat

/-- The byte `i` of a frame belongs to a pixel of the rectangle. -/
def Rect.touches (rect : Rect) (stride i : ℕ) : Prop :=
  ∃ x y c, rect.x.toNat ≤ x ∧ x < rect.x.toNat + rect.width.toNat ∧ rect.y.toNat ≤ y ∧
    y < rect.y.toNat + rect.height.toNat ∧ c < 4 ∧ i = y * stride + 4 * x + c

/-- The buffer is as long as the size says, and packed. -/
structure Frame.Packed (frame : Frame) : Prop where
  stride : frame.stride = 4 * frame.width.toNat
  length : frame.pixels.length = frame.stride * frame.height.toNat

/-- After the blit of this rectangle, the frame shows the source in it, and what
it showed before everywhere else. -/
structure Blitted (before after : Frame) (src : Source) (rect : Rect) : Prop where
  size : after.width = before.width ∧ after.height = before.height ∧
    after.stride = before.stride ∧ after.pixels.length = before.pixels.length
  inside : ∀ x y c, rect.x.toNat ≤ x → x < rect.x.toNat + rect.width.toNat → rect.y.toNat ≤ y →
    y < rect.y.toNat + rect.height.toNat → c < 4 →
    byteAt after.pixels after.stride x y c = byteAt src.bytes src.stride x y c
  outside : ∀ i, ¬ rect.touches before.stride i → after.pixels[i]? = before.pixels[i]?

/-- The rows read are those of the rectangle, top to bottom. -/
structure ReadOut (frame : Frame) (rect : Rect) (rows : List (Option Bytes)) : Prop where
  length : rows.length = rect.height.toNat
  row : ∀ k, k < rect.height.toNat → ∃ row, rows[k]? = some (some row) ∧
    row.length = 4 * rect.width.toNat ∧ ∀ x c, x < rect.width.toNat → c < 4 →
      row[4 * x + c]? = byteAt frame.pixels frame.stride (rect.x.toNat + x) (rect.y.toNat + k) c

/-- **What is asked of a frame**: it is packed, a rectangle inside it can be
copied in and read out, and one that is not inside it is neither. -/
structure Frame.Sound (frame : Frame) : Prop where
  packed : frame.Packed
  blit_inside : ∀ src rect, src.covers rect = true → frame.contains rect →
    ∃ after, blit frame src rect = some (after, []) ∧ Blitted frame after src rect
  blit_outside : ∀ src rect, ¬ frame.contains rect →
    blit frame src rect = some (frame, [.dropped rect])
  rows_inside : ∀ rect, frame.contains rect → ReadOut frame rect (frame.rows rect)
  rows_outside : ∀ rect, ¬ frame.contains rect → frame.rows rect = []

/-! ## The arithmetic -/

theorem usizeAdd_eq {a b : ℕ} (h : a + b < usizeSize) : usizeAdd a b = a + b := Nat.mod_eq_of_lt h

theorem usizeMul_eq {a b : ℕ} (h : a * b < usizeSize) : usizeMul a b = a * b := Nat.mod_eq_of_lt h

/-- Four bytes for each of a `u32` of pixels. -/
theorem usizeMul_four (n : UInt32) : usizeMul n.toNat 4 = 4 * n.toNat := by
  have hn := n.toNat_lt
  rw [usizeMul_eq, Nat.mul_comm]
  rw [usizeSize]
  omega

/-- The saturated sum is at most a signed size when the sum itself is. -/
theorem saturatingAdd_le {a b : UInt32} {n : ℕ} (hn : n ≤ i32Max) :
    saturatingAdd a b ≤ n ↔ a.toNat + b.toNat ≤ n := by
  rw [saturatingAdd, u32Max]
  rw [i32Max] at hn
  omega

/-- The sizes of a frame are those of GDI. -/
def Frame.Sized (self : Frame) : Prop :=
  self.width.toNat ≤ i32Max ∧ self.height.toNat ≤ i32Max

theorem fits_iff {frame : Frame} (hsize : frame.Sized) (rect : Rect) :
    frame.fits rect = true ↔ frame.contains rect := by
  rw [Frame.fits, Bool.and_eq_true, decide_eq_true_eq, decide_eq_true_eq,
    saturatingAdd_le hsize.1, saturatingAdd_le hsize.2, Frame.contains]

/-- A frame of a signed size fits in the address space. -/
theorem area_lt {width height : ℕ} (hw : width ≤ i32Max) (hh : height ≤ i32Max) :
    4 * width * height < usizeSize := by
  have harea : width * height ≤ i32Max * i32Max := Nat.mul_le_mul hw hh
  have hroom : 4 * (i32Max * i32Max) < usizeSize := by decide
  rw [Nat.mul_assoc]
  omega

/-- The place of a row in a buffer, as the code computes it. -/
theorem offset_eq {first row rows stride left n len : ℕ} (hrow : row < rows)
    (hleft : left + n ≤ stride) (hlen : (first + rows) * stride ≤ len) (hlt : len < usizeSize)
    (hfirst : first + rows < usizeSize) :
    usizeAdd (usizeMul (usizeAdd first row) stride) left = (first + row) * stride + left := by
  have hend := Strided.stretch_le hleft (show first + row < first + rows by omega)
  rw [usizeAdd_eq (show first + row < usizeSize by omega),
    usizeMul_eq (show (first + row) * stride < usizeSize by omega),
    usizeAdd_eq (show (first + row) * stride + left < usizeSize by omega)]

/-! ## Copying in -/

variable {frame : Frame}

/-- In a packed frame, the rows of a rectangle inside it are in its buffer. -/
theorem Frame.Packed.rows_le (hp : frame.Packed) {rect : Rect} (hin : frame.contains rect) :
    (rect.y.toNat + rect.height.toNat) * frame.stride ≤ frame.pixels.length := by
  rw [hp.length, Nat.mul_comm frame.stride]
  exact Nat.mul_le_mul_right _ hin.2

/-- And its stretch is in each row. -/
theorem Frame.Packed.stretch_le (hp : frame.Packed) {rect : Rect} (hin : frame.contains rect) :
    4 * rect.x.toNat + 4 * rect.width.toNat ≤ frame.stride := by
  rw [hp.stride]
  have := hin.1
  omega

/-- The buffer of a packed frame fits in the address space. -/
theorem Frame.Packed.length_lt (hp : frame.Packed) (hsize : frame.Sized) :
    frame.pixels.length < usizeSize := by
  rw [hp.length, hp.stride]
  exact area_lt hsize.1 hsize.2

theorem first_add_lt (rect : Rect) : rect.y.toNat + rect.height.toNat < usizeSize := by
  have hy := rect.y.toNat_lt
  have hh := rect.height.toNat_lt
  rw [usizeSize]
  omega

/-- A byte of the rectangle, by its row and its place in it. -/
theorem exists_place {rect : Rect} {x y c : ℕ} (hx : rect.x.toNat ≤ x)
    (hx' : x < rect.x.toNat + rect.width.toNat) (hy : rect.y.toNat ≤ y)
    (hy' : y < rect.y.toNat + rect.height.toNat) (hc : c < 4) :
    ∃ row j, row < rect.height.toNat ∧ j < 4 * rect.width.toNat ∧ ∀ stride,
      y * stride + 4 * x + c = (rect.y.toNat + row) * stride + 4 * rect.x.toNat + j := by
  refine ⟨y - rect.y.toNat, 4 * (x - rect.x.toNat) + c, by omega, by omega, ?_⟩
  intro stride
  rw [show rect.y.toNat + (y - rect.y.toNat) = y by omega]
  omega

theorem touches_of_place {rect : Rect} {stride row j : ℕ} (hrow : row < rect.height.toNat)
    (hj : j < 4 * rect.width.toNat) :
    rect.touches stride ((rect.y.toNat + row) * stride + 4 * rect.x.toNat + j) := by
  refine ⟨rect.x.toNat + j / 4, rect.y.toNat + row, j % 4, by omega, by omega, by omega, by omega,
    by omega, ?_⟩
  omega

theorem blit_inside (hp : frame.Packed) (hsize : frame.Sized) {src : Source} {rect : Rect}
    (hcov : src.covers rect = true) (hin : frame.contains rect) :
    ∃ after, blit frame src rect = some (after, []) ∧ Blitted frame after src rect := by
  simp only [Source.covers, Bool.and_eq_true, decide_eq_true_eq] at hcov
  obtain ⟨hbytes, hstride⟩ := hcov
  have hss : 4 * rect.x.toNat + 4 * rect.width.toNat ≤ src.stride := by omega
  have hds := hp.stretch_le hin
  have hsrc : (rect.y.toNat + rect.height.toNat) * src.stride ≤ src.bytes.length := by
    rw [Nat.mul_comm]
    exact hbytes
  have hdst := hp.rows_le hin
  have hfrom : ∀ row < rect.height.toNat,
      usizeAdd (usizeMul (usizeAdd rect.y.toNat row) src.stride) (4 * rect.x.toNat) =
        (rect.y.toNat + row) * src.stride + 4 * rect.x.toNat :=
    fun row hrow => offset_eq hrow hss hsrc src.addressable (first_add_lt rect)
  have hto : ∀ row < rect.height.toNat,
      usizeAdd (usizeMul (usizeAdd rect.y.toNat row) frame.stride) (4 * rect.x.toNat) =
        (rect.y.toNat + row) * frame.stride + 4 * rect.x.toNat :=
    fun row hrow => offset_eq hrow hds hdst (hp.length_lt hsize) (first_add_lt rect)
  obtain ⟨pixels, hcopy, hlen, hinside, houtside⟩ :=
    Strided.copyRows_spec hfrom hto hss hds hsrc hdst
  refine ⟨{ frame with pixels }, ?_, ⟨⟨rfl, rfl, rfl, hlen⟩, ?_, ?_⟩⟩
  · have hfits : frame.fits rect = true := (fits_iff hsize rect).2 hin
    rw [blit, if_neg (by simp [hfits])]
    simp only [usizeMul_four]
    rw [hcopy]
    rfl
  · intro x y c hx hx' hy hy' hc
    obtain ⟨row, j, hrow, hj, hplace⟩ := exists_place hx hx' hy hy' hc
    rw [byteAt, byteAt, hplace, hplace]
    exact hinside row j hrow hj
  · intro i hi
    refine houtside i fun row j hrow hj heq => hi ?_
    rw [heq]
    exact touches_of_place hrow hj

theorem blit_outside (hsize : frame.Sized) {rect : Rect} (hout : ¬ frame.contains rect)
    (src : Source) : blit frame src rect = some (frame, [.dropped rect]) := by
  have hfits : frame.fits rect = false := by
    rw [← Bool.not_eq_true, fits_iff hsize]
    exact hout
  rw [blit, if_pos hfits]

/-! ## Reading out -/

theorem rows_inside (hp : frame.Packed) (hsize : frame.Sized) {rect : Rect}
    (hin : frame.contains rect) : ReadOut frame rect (frame.rows rect) := by
  have hfits : frame.fits rect = true := (fits_iff hsize rect).2 hin
  have hds := hp.stretch_le hin
  have hdst := hp.rows_le hin
  have hcount : usizeAdd rect.y.toNat rect.height.toNat - rect.y.toNat = rect.height.toNat := by
    rw [usizeAdd_eq (first_add_lt rect)]
    omega
  have hright : usizeAdd (4 * rect.x.toNat) (4 * rect.width.toNat) =
      4 * rect.x.toNat + 4 * rect.width.toNat := by
    have hx := rect.x.toNat_lt
    have hw := rect.width.toNat_lt
    refine usizeAdd_eq ?_
    rw [usizeSize]
    omega
  have hrows : frame.rows rect = (List.range' rect.y.toNat rect.height.toNat).map fun row =>
      Strided.slice frame.pixels (usizeAdd (usizeMul row frame.stride) (4 * rect.x.toNat))
        (usizeAdd (usizeMul row frame.stride) (4 * rect.x.toNat + 4 * rect.width.toNat)) := by
    simp only [Frame.rows, hfits, if_true, usizeMul_four, hcount, hright]
  rw [hrows]
  refine ⟨by simp, ?_⟩
  intro k hk
  have hrow : rect.y.toNat + k < rect.y.toNat + rect.height.toNat := by omega
  have hend := Strided.stretch_le hds hrow
  have hlt := hp.length_lt hsize
  have hbase : usizeMul (rect.y.toNat + k) frame.stride = (rect.y.toNat + k) * frame.stride :=
    usizeMul_eq (by omega)
  have hslice := Strided.slice_eq (l := frame.pixels)
    (s := (rect.y.toNat + k) * frame.stride + 4 * rect.x.toNat)
    (e := (rect.y.toNat + k) * frame.stride + (4 * rect.x.toNat + 4 * rect.width.toNat))
    (by omega) (by omega)
  obtain ⟨hlen, hget⟩ := Strided.getElem?_of_slice hslice
  refine ⟨_, ?_, hlen.trans (by omega), ?_⟩
  · rw [List.getElem?_map, List.getElem?_range' hk, Option.map_some, Nat.one_mul, hbase,
      usizeAdd_eq (show _ + 4 * rect.x.toNat < usizeSize by omega),
      usizeAdd_eq (show _ + (4 * rect.x.toNat + 4 * rect.width.toNat) < usizeSize by omega),
      hslice]
  · intro x c hx hc
    rw [hget _ (by omega), byteAt]
    congr 1
    omega

theorem rows_outside (hsize : frame.Sized) {rect : Rect} (hout : ¬ frame.contains rect) :
    frame.rows rect = [] := by
  have hfits : frame.fits rect = false := by
    rw [← Bool.not_eq_true, fits_iff hsize]
    exact hout
  simp [Frame.rows, hfits, usizeAdd]

/-- **A packed frame is sound**, for every rectangle and every source. -/
theorem sound_of_packed (hp : frame.Packed) (hsize : frame.Sized) : frame.Sound where
  packed := hp
  blit_inside _ _ hcov hin := Framebuffer.blit_inside hp hsize hcov hin
  blit_outside src _ hout := Framebuffer.blit_outside hsize hout src
  rows_inside _ hin := Framebuffer.rows_inside hp hsize hin
  rows_outside _ hout := Framebuffer.rows_outside hsize hout

/-- A blit leaves the frame packed. -/
theorem Blitted.packed {after : Frame} {src : Source} {rect : Rect}
    (hafter : Blitted frame after src rect) (hp : frame.Packed) (hsize : frame.Sized) :
    after.Packed ∧ after.Sized := by
  obtain ⟨hwidth, hheight, hstride, hlen⟩ := hafter.size
  refine ⟨⟨?_, ?_⟩, ?_⟩
  · rw [hstride, hwidth, hp.stride]
  · rw [hlen, hstride, hheight, hp.length]
  · rw [Frame.Sized, hwidth, hheight]
    exact hsize

/-- **A rectangle goes in and comes out unchanged.**  What `rows` yields of a
rectangle that has just been copied in is the source, row by row. -/
theorem rows_after_blit (hp : frame.Packed) (hsize : frame.Sized) {src : Source} {rect : Rect}
    (hcov : src.covers rect = true) (hin : frame.contains rect) :
    ∃ after, blit frame src rect = some (after, []) ∧
      ∀ k, k < rect.height.toNat → ∃ row, (after.rows rect)[k]? = some (some row) ∧
        ∀ x c, x < rect.width.toNat → c < 4 →
          row[4 * x + c]? =
            byteAt src.bytes src.stride (rect.x.toNat + x) (rect.y.toNat + k) c := by
  obtain ⟨after, hblit, hafter⟩ := Framebuffer.blit_inside hp hsize hcov hin
  obtain ⟨hp', hsize'⟩ := hafter.packed hp hsize
  have hin' : after.contains rect := by
    rw [Frame.contains, hafter.size.1, hafter.size.2.1]
    exact hin
  refine ⟨after, hblit, ?_⟩
  intro k hk
  obtain ⟨row, hrow, -, hbytes⟩ := (Framebuffer.rows_inside hp' hsize' hin').row k hk
  refine ⟨row, hrow, ?_⟩
  intro x c hx hc
  rw [hbytes x c hx hc]
  exact hafter.inside _ _ c (by omega) (by omega) (by omega) (by omega) hc

/-! ## The whole run -/

/-- A resize asks for no more bytes than an allocation may have. -/
def allocates (m : Move Frame Act Obs) : Bool :=
  match m.act with
  | .resize width height => 4 * width.toNat * height.toNat ≤ isizeMax
  | .blit _ _ => true

/-- The length `resize` asks for, within the sizes of GDI. -/
theorem bytes_eq {width height : UInt32} (hw : width.toNat ≤ i32Max)
    (hh : height.toNat ≤ i32Max) :
    usizeMul (4 * width.toNat) height.toNat = 4 * width.toNat * height.toNat :=
  usizeMul_eq (area_lt hw hh)

variable {s t : Frame} {a : Act} {o : List Obs}

/-- A resize within an allocation leaves a packed frame, and a blit keeps one. -/
theorem packed_step (hp : s.Packed) (hsize : s.Sized) (hs : machine.step s a = some (t, o))
    (hg : allocates ⟨s, a, o, t⟩ = true) : t.Packed ∧ t.Sized := by
  cases a with
  | resize width height =>
    simp only [machine, Option.ite_none_right_eq_some, Option.some.injEq] at hs
    obtain ⟨⟨hw, hh⟩, hs⟩ := hs
    have hroom : 4 * width.toNat * height.toNat ≤ isizeMax := of_decide_eq_true hg
    simp only [resize, usizeMul_four, bytes_eq hw hh, if_pos hroom] at hs
    obtain ⟨rfl, -⟩ := Prod.mk.inj hs
    exact ⟨⟨rfl, List.length_replicate⟩, hw, hh⟩
  | blit src rect =>
    simp only [machine, Option.ite_none_right_eq_some] at hs
    obtain ⟨hcov, hs⟩ := hs
    by_cases hin : s.contains rect
    · obtain ⟨after, hblit, hafter⟩ := blit_inside hp hsize hcov hin
      rw [hblit] at hs
      obtain ⟨rfl, -⟩ := Prod.mk.inj (Option.some.inj hs)
      exact hafter.packed hp hsize
    · rw [blit_outside hsize hin] at hs
      obtain ⟨rfl, -⟩ := Prod.mk.inj (Option.some.inj hs)
      exact ⟨hp, hsize⟩

/-- A resize past an allocation leaves a frame without its pixels. -/
theorem not_packed_of_overflow (hs : machine.step s a = some (t, o))
    (hbad : allocates ⟨s, a, o, t⟩ = false) : ¬ t.Packed := by
  cases a with
  | resize width height =>
    simp only [machine, Option.ite_none_right_eq_some, Option.some.injEq] at hs
    obtain ⟨⟨hw, hh⟩, hs⟩ := hs
    have hover : ¬ 4 * width.toNat * height.toNat ≤ isizeMax := of_decide_eq_false hbad
    simp only [resize, usizeMul_four, bytes_eq hw hh, if_neg hover] at hs
    obtain ⟨rfl, -⟩ := Prod.mk.inj hs
    intro hp
    have hlen : 0 = 4 * width.toNat * height.toNat := hp.length
    omega
  | blit src rect => cases hbad

variable {h : List (Move Frame Act Obs)}

theorem packed_new : Frame.new.Packed ∧ Frame.new.Sized :=
  ⟨⟨rfl, rfl⟩, Nat.zero_le _, Nat.zero_le _⟩

/-- **When the framebuffer is sound.**  Over every run of resizes and blits, each
frame is packed, takes in and gives back every rectangle inside it, and leaves
every other one alone, if and only if no resize asked for more bytes than an
allocation may have. -/
theorem sound_iff (hr : machine.Run h s) :
    (∀ m ∈ h, m.src.Sound ∧ m.dst.Sound) ↔ ∀ m ∈ h, allocates m = true := by
  constructor
  · intro hsound m hm
    by_contra hbad
    have hnot := not_packed_of_overflow (hr.step_of_mem m hm) (by simpa using hbad)
    exact hnot (hsound m hm).2.packed
  · intro hall m hm
    obtain ⟨-, hpacked⟩ := hr.guarded (I := fun f => f.Packed ∧ f.Sized)
      (g := fun m => allocates m = true) packed_new
      (fun _ _ _ _ hI hs hg => packed_step hI.1 hI.2 hs hg) hall
    obtain ⟨⟨hsrc, hsrc'⟩, hdst, hdst'⟩ := hpacked m hm
    exact ⟨sound_of_packed hsrc hsrc', sound_of_packed hdst hdst'⟩

/-- A source of four rows of four pixels. -/
def fourByFour : Source := ⟨List.replicate 64 0xAB, 16, by decide⟩

/-- Sized, painted in one place, and sized again. -/
def paints : List Act :=
  [.resize 4 4, .blit fourByFour ⟨1, 2, 2, 1⟩, .blit fourByFour ⟨3, 0, 1, 4⟩, .resize 2 3]

theorem sound_paints : ∃ h s, machine.Run h s ∧ h.length = 4 ∧
    ∀ m ∈ h, m.src.Sound ∧ m.dst.Sound := by
  have hrun := machine.run_get paints (by decide)
  exact ⟨_, _, hrun, by decide, (sound_iff hrun).2 (by decide)⟩

/-- **A frame with a size and no pixels.**  The largest size GDI could name asks
for more bytes than an allocation may have: `Vec::resize` panics, and leaves the
size set and the buffer empty.  No session gets there: it resizes to the size of a GDI
whose buffer has just been allocated. -/
theorem oversized_frame_has_no_pixels : ∃ h s, machine.Run h s ∧
    ¬ ∀ m ∈ h, m.src.Sound ∧ m.dst.Sound := by
  have hrun := machine.run_get [.resize 2147483647 2147483647] (by decide)
  refine ⟨_, _, hrun, fun hsound => ?_⟩
  have hlen := (hsound _ (List.mem_singleton.2 rfl)).2.packed.length
  exact absurd hlen (by decide)

end Framebuffer
end FreerdpPrebuilt
