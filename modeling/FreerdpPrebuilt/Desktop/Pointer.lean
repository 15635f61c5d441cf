import FreerdpPrebuilt.Lib.History
import FreerdpPrebuilt.Lib.Ownership
import Mathlib.Algebra.BigOperators.Group.List.Basic

/-!
# The cursor

FreeRDP keeps a `WrapperPointer` for each cursor the server sends: its own
`rdpPointer`, and room for a box of this crate's.  `pointer_new` decodes the
masks and leaks the picture into it, `pointer_set` sends a copy of the picture,
`pointer_free` takes the box back.  A cursor that will not decode leaves a null
there, and setting it leaves the cursor before it on screen.

* `cursor_boxes_freed_once` — in whatever order FreeRDP sets and frees its
  pointers, no box is used after it is freed, none is freed twice, and none is
  left when the pointers are gone.
* `cursors_as_asked` — the cursors the embedder is sent are those the server
  asked for, decoded from the masks FreeRDP last filled in; every picture has a
  size within bounds and four bytes for each pixel.

The conversion itself is FreeRDP's, and a parameter.
-/

namespace FreerdpPrebuilt
namespace Desktop
namespace Pointer

open Labelled Ownership

/-! ## `pointer.rs` -/

/-- The fields of an `rdpPointer` that are read.  A mask's length is that of its
data. -/
structure RdpPointer where
  width : UInt32
  height : UInt32
  xPos : UInt32
  yPos : UInt32
  xorBpp : UInt32
  xorMaskData : List UInt8
  andMaskData : List UInt8
  deriving DecidableEq

structure CursorImage where
  width : UInt32
  height : UInt32
  hotspotX : UInt32
  hotspotY : UInt32
  rgba : List UInt8
  deriving DecidableEq

inductive Cursor
  | hidden
  | default
  | image (image : CursorImage)
  deriving DecidableEq

def MAX_DIMENSION : UInt32 := 384

/-- `freerdp_image_copy_from_pointer_data`, by the arguments that are not the
same in every call: whether it can decode the masks, and the buffer after.  It
writes inside the buffer. -/
structure Converter where
  copy : (dst : List UInt8) → (stride : ℕ) → (width height : UInt32) →
    (xorMask andMask : List UInt8) → (xorBpp : UInt32) → Bool × List UInt8
  inside : ∀ dst stride width height xorMask andMask xorBpp,
    (copy dst stride width height xorMask andMask xorBpp).2.length = dst.length

/-- Whether `to_rgba` refuses a cursor by its size. -/
def refuses (p : RdpPointer) : Bool :=
  p.width == 0 || p.height == 0 || MAX_DIMENSION < p.width || MAX_DIMENSION < p.height

/-- `to_rgba`. -/
def toRgba (conv : Converter) (p : RdpPointer) : Option CursorImage :=
  if refuses p then none
  else
    let stride := p.width.toNat * 4
    let (ok, rgba) := conv.copy (List.replicate (stride * p.height.toNat) 0) stride p.width p.height
      p.xorMaskData p.andMaskData p.xorBpp
    if ok then some ⟨p.width, p.height, p.xPos, p.yPos, rgba⟩ else none

/-- A picture of a size within bounds, with four bytes for each pixel. -/
structure CursorImage.WellFormed (image : CursorImage) : Prop where
  width : 0 < image.width ∧ image.width ≤ MAX_DIMENSION
  height : 0 < image.height ∧ image.height ≤ MAX_DIMENSION
  rgba : image.rgba.length = 4 * image.width.toNat * image.height.toNat

theorem wellFormed_of_toRgba {conv : Converter} {p : RdpPointer} {image : CursorImage}
    (h : toRgba conv p = some image) : image.WellFormed := by
  unfold toRgba at h
  split at h
  · cases h
  · next hsize =>
    dsimp only at h
    split at h
    · cases h
      simp only [refuses, Bool.or_eq_true, beq_iff_eq, decide_eq_true_eq, not_or,
        UInt32.not_lt] at hsize
      obtain ⟨⟨⟨hw, hh⟩, hwidth⟩, hheight⟩ := hsize
      refine ⟨⟨UInt32.pos_iff_ne_zero.2 hw, hwidth⟩, ⟨UInt32.pos_iff_ne_zero.2 hh, hheight⟩, ?_⟩
      rw [conv.inside, List.length_replicate, Nat.mul_comm p.width.toNat 4]
    · cases h

/-! ## What FreeRDP holds -/

/-- A `WrapperPointer`, at its address: FreeRDP's part, whether `New` has been
called for it, and the box with the picture. -/
structure WrapperPointer where
  address : ℕ
  base : RdpPointer
  made : Bool
  image : Option (ℕ × CursorImage)

structure State where
  /-- The number of the next box. -/
  next : ℕ
  pointers : List WrapperPointer

/-- What is seen: the memory, the cursors sent, and what FreeRDP is answered. -/
inductive Seen
  | memory (event : Event)
  | sent (cursor : Cursor)
  | returned (ok : Bool)
  deriving DecidableEq

def Seen.event : Seen → Option Event
  | .memory event => some event
  | .sent _ | .returned _ => none

def Seen.cursor : Seen → Option Cursor
  | .sent cursor => some cursor
  | .memory _ | .returned _ => none

/-! ## The callbacks -/

/-- `pointer_new`, with the fields FreeRDP has just filled in.  A cursor that is
refused is reported on stderr; if that panics the callback has failed, and the
wrapper is as it was. -/
def pointerNew (conv : Converter) (s : State) (w : WrapperPointer) (rest : List WrapperPointer)
    (prints : Bool) : State × List Seen :=
  match toRgba conv w.base with
  | some image =>
    ({ next := s.next + 1, pointers := { w with image := some (s.next, image) } :: rest },
      [.memory (.alloc s.next), .returned true])
  | none =>
    if prints then
      ({ s with pointers := { w with image := none } :: rest }, [.returned true])
    else ({ s with pointers := w :: rest }, [.returned false])

/-- `pointer_free`. -/
def pointerFree (w : WrapperPointer) : WrapperPointer × List Seen :=
  ({ w with image := none },
    match w.image with
    | some (block, _) => [.memory (.release block)]
    | none => [])

/-- `pointer_set`. -/
def pointerSet (w : WrapperPointer) : List Seen :=
  match w.image with
  | none => [.returned true]
  | some (block, image) => [.memory (.access block), .sent (.image image), .returned true]

/-- `pointer_set_null`. -/
def pointerSetNull : List Seen := [.sent .hidden, .returned true]

/-- `pointer_set_default`. -/
def pointerSetDefault : List Seen := [.sent .default, .returned true]

/-- `pointer_set_position`. -/
def pointerSetPosition (_x _y : UInt32) : List Seen := [.returned true]

/-! ## The cursor as a machine -/

/-- What FreeRDP can do next. -/
inductive Act
  /-- It allocates a wrapper, all zero. -/
  | allocate (address : ℕ)
  /-- It fills in a wrapper and calls `New`. -/
  | pointerNew (address : ℕ) (base : RdpPointer) (prints : Bool)
  /-- It calls `Free`, and gives the wrapper up or not. -/
  | pointerFree (address : ℕ) (gone : Bool)
  | pointerSet (address : ℕ)
  | pointerSetNull
  | pointerSetDefault
  | pointerSetPosition (x y : UInt32)

/-- The wrapper at an address. -/
def isAt (address : ℕ) (w : WrapperPointer) : Bool := w.address == address

def State.find (s : State) (address : ℕ) : Option WrapperPointer :=
  s.pointers.find? (isAt address)

def State.others (s : State) (address : ℕ) : List WrapperPointer :=
  s.pointers.eraseP (isAt address)

/-- An `rdpPointer` of all zeros. -/
def RdpPointer.zero : RdpPointer := ⟨0, 0, 0, 0, 0, [], []⟩

/-- One step.  FreeRDP has one wrapper at an address and calls `New` for it once;
it sets and frees its pointers as it likes. -/
def step (conv : Converter) (s : State) : Act → Option (State × List Seen)
  | .allocate address =>
    match s.find address with
    | some _ => none
    | none => some ({ s with pointers := ⟨address, .zero, false, none⟩ :: s.pointers }, [])
  | .pointerNew address base prints =>
    match s.find address with
    | none => none
    | some w =>
      if w.made then none
      else some (pointerNew conv s { w with base := base, made := true } (s.others address) prints)
  | .pointerFree address gone =>
    match s.find address with
    | none => none
    | some w =>
      let (w, o) := pointerFree w
      some ({ s with pointers := if gone then s.others address else w :: s.others address }, o)
  | .pointerSet address =>
    match s.find address with
    | none => none
    | some w => some (s, pointerSet w)
  | .pointerSetNull => some (s, pointerSetNull)
  | .pointerSetDefault => some (s, pointerSetDefault)
  | .pointerSetPosition x y => some (s, pointerSetPosition x y)

/-- **The cursor as a machine.** -/
def machine (conv : Converter) : Machine State Act Seen := ⟨⟨0, []⟩, step conv⟩

/-! ## Who owns the boxes -/

/-- The box a wrapper holds. -/
def WrapperPointer.blocks (w : WrapperPointer) : Multiset ℕ :=
  match w.image with
  | some (block, _) => {block}
  | none => 0

/-- Every box there is between two calls. -/
def State.refs (s : State) : Multiset ℕ := (s.pointers.map WrapperPointer.blocks).sum

variable {conv : Converter} {s t : State} {a : Act} {o : List Seen}

theorem refs_of_find {address : ℕ} {w : WrapperPointer} (hw : s.find address = some w) :
    s.refs = w.blocks + ((s.others address).map WrapperPointer.blocks).sum := by
  rw [State.refs, ((perm_of_find? hw).map WrapperPointer.blocks).sum_eq, List.map_cons,
    List.sum_cons]
  rfl

/-- A wrapper whose `New` has not been called holds no box. -/
def Untouched (s : State) : Prop := ∀ w ∈ s.pointers, w.made = false → w.image = none

theorem mem_of_mem_others {address : ℕ} {w : WrapperPointer} (hw : w ∈ s.others address) :
    w ∈ s.pointers :=
  List.mem_of_mem_eraseP hw

theorem untouched_step (hu : Untouched s) (hs : step conv s a = some (t, o)) : Untouched t := by
  cases a with
  | allocate address =>
    simp only [step] at hs
    split at hs
    · cases hs
    · cases hs
      intro w hw hmade
      rcases List.mem_cons.1 hw with rfl | hw
      · rfl
      · exact hu w hw hmade
  | pointerNew address base prints =>
    simp only [step] at hs
    split at hs
    · cases hs
    · next w hw =>
      split_ifs at hs with hmade
      have hrest : ∀ v ∈ s.others address, v.made = false → v.image = none :=
        fun v hv => hu v (mem_of_mem_others hv)
      simp only [pointerNew] at hs
      split at hs
      · cases hs
        exact List.forall_mem_cons.2 ⟨fun h => absurd h (by simp), hrest⟩
      · split_ifs at hs <;> cases hs
        all_goals exact List.forall_mem_cons.2 ⟨fun h => absurd h (by simp), hrest⟩
  | pointerFree address gone =>
    simp only [step] at hs
    split at hs
    · cases hs
    · cases hs
      have hrest : ∀ v ∈ s.others address, v.made = false → v.image = none :=
        fun v hv => hu v (mem_of_mem_others hv)
      cases gone with
      | true => exact hrest
      | false => exact List.forall_mem_cons.2 ⟨fun _ => rfl, hrest⟩
  | pointerSet address =>
    simp only [step] at hs
    split at hs
    · cases hs
    · cases hs
      exact hu
  | pointerSetNull | pointerSetDefault | pointerSetPosition x y =>
    cases hs
    exact hu

/-- **Every callback keeps the accounts.** -/
theorem keeps_accounts (hu : Untouched s) (hs : step conv s a = some (t, o)) :
    Triple s.refs s.next (o.filterMap Seen.event) t.refs t.next := by
  cases a with
  | allocate address =>
    simp only [step] at hs
    split at hs
    · cases hs
    · cases hs
      refine (Triple.skip _ _).congr rfl ?_
      simp [State.refs, WrapperPointer.blocks]
  | pointerNew address base prints =>
    simp only [step] at hs
    split at hs
    · cases hs
    · next w hw =>
      split_ifs at hs with hmade
      have hnone := hu w (List.mem_of_find?_eq_some hw) (Bool.not_eq_true _ ▸ hmade)
      have hrefs := refs_of_find hw
      rw [WrapperPointer.blocks, hnone] at hrefs
      simp only [zero_add] at hrefs
      simp only [pointerNew] at hs
      split at hs
      · cases hs
        refine (Triple.alloc s.refs s.next).congr rfl ?_
        rw [hrefs, State.refs, List.map_cons, List.sum_cons]
        rfl
      · split_ifs at hs <;> cases hs
        · refine (Triple.skip s.refs s.next).congr rfl ?_
          rw [hrefs, State.refs, List.map_cons, List.sum_cons]
          exact (zero_add _).symm
        · refine (Triple.skip s.refs s.next).congr rfl ?_
          rw [hrefs, State.refs, List.map_cons, List.sum_cons, WrapperPointer.blocks, hnone]
          exact (zero_add _).symm
  | pointerFree address gone =>
    simp only [step] at hs
    split at hs
    · cases hs
    · next w hw =>
      cases hs
      have hrest : State.refs { s with pointers := if gone then s.others address
          else (pointerFree w).1 :: s.others address } =
          ((s.others address).map WrapperPointer.blocks).sum := by
        cases gone with
        | true => rfl
        | false =>
          rw [State.refs, if_neg Bool.false_ne_true, List.map_cons, List.sum_cons]
          exact zero_add _
      rw [hrest, refs_of_find hw]
      generalize ((s.others address).map WrapperPointer.blocks).sum = rest
      cases himage : w.image with
      | none =>
        simp only [pointerFree, himage, WrapperPointer.blocks, zero_add]
        exact .skip _ _
      | some boxed =>
        simp only [pointerFree, himage, WrapperPointer.blocks, Multiset.singleton_add]
        exact .release _ _ _
  | pointerSet address =>
    simp only [step] at hs
    split at hs
    · cases hs
    · next w hw =>
      cases hs
      cases himage : w.image with
      | none =>
        simp only [pointerSet, himage]
        exact .skip _ _
      | some boxed =>
        simp only [pointerSet, himage]
        refine Triple.access ?_
        rw [refs_of_find hw, WrapperPointer.blocks, himage]
        exact Multiset.mem_add.2 (.inl (Multiset.mem_singleton_self _))
  | pointerSetNull | pointerSetDefault | pointerSetPosition x y =>
    cases hs
    exact .skip _ _

variable {h : List (Move State Act Seen)}

/-- No box is counted: each has one owner at most. -/
theorem no_retain (hs : step conv s a = some (t, o)) (b : ℕ) :
    Seen.memory (.retain b) ∉ o := by
  cases a with
  | allocate address =>
    simp only [step] at hs
    split at hs <;> cases hs
    exact List.not_mem_nil
  | pointerNew address base prints =>
    simp only [step] at hs
    split at hs
    · cases hs
    · split_ifs at hs
      simp only [pointerNew] at hs
      split at hs
      · cases hs
        simp
      · split_ifs at hs <;> cases hs <;> simp
  | pointerFree address gone =>
    simp only [step] at hs
    split at hs <;> cases hs
    simp only [pointerFree]
    split <;> simp
  | pointerSet address =>
    simp only [step] at hs
    split at hs <;> cases hs
    simp only [pointerSet]
    split <;> simp
  | pointerSetNull | pointerSetDefault | pointerSetPosition x y =>
    cases hs
    simp [pointerSetNull, pointerSetDefault, pointerSetPosition]

/-- **Each box is freed once.**  In whatever order FreeRDP makes, sets and frees
its pointers, and however often it frees one, no box is used or freed after it is
gone; the boxes alive are those the wrappers hold, each held by one; and when
every wrapper is gone, or has been freed, there is none left. -/
theorem cursor_boxes_freed_once (hr : (machine conv).Run h s) :
    ∃ hp, Heap.empty.run ((Machine.trace h).filterMap Seen.event) = some hp ∧
      (∀ b, (hp b).owners = s.refs.count b) ∧ (∀ b, (hp b).owners ≤ 1) ∧
      ((∀ w ∈ s.pointers, w.image = none) → ∀ b others, hp b ≠ .held others) := by
  have hinit : Accounts (machine conv).init.refs (machine conv).init.next Heap.empty :=
    Accounts.empty
  obtain ⟨hp, hrun, ha⟩ := run_of_triples hinit
    (fun _ _ hr => hr.invariant (I := Untouched) (fun w hw => absurd hw List.not_mem_nil)
      fun _ _ _ _ hu hs => untouched_step hu hs)
    (fun _ _ _ _ hu hs => keeps_accounts hu hs) hr
  refine ⟨hp, hrun, ha.owners, fun b => ?_, fun hnone b others hb => ?_⟩
  · refine Heap.owners_le_one (fun hmem => ?_) (show (Heap.empty b).owners ≤ 1 from Nat.zero_le 1)
      hrun
    obtain ⟨seen, hseen, hevent⟩ := List.mem_filterMap.1 hmem
    obtain ⟨m, hm, hout⟩ := List.mem_flatMap.1 hseen
    cases seen with
    | memory e =>
      cases hevent
      exact no_retain (hr.step_of_mem m hm) b hout
    | sent | returned => cases hevent
  · have hzero : s.refs = 0 := by
      rw [State.refs]
      refine List.sum_eq_zero fun blocks hblocks => ?_
      obtain ⟨w, hw, rfl⟩ := List.mem_map.1 hblocks
      rw [WrapperPointer.blocks, hnone w hw]
    have hmem := ha.mem_of_held hb
    rw [hzero] at hmem
    exact absurd hmem (Multiset.notMem_zero b)

/-! ## The cursors sent -/

/-- The address an action is about, and the masks that count there from then on:
those FreeRDP has filled in and called `New` for, until it calls `Free`. -/
def Act.fills : Act → Option (ℕ × Option RdpPointer)
  | .allocate address => some (address, none)
  | .pointerNew address base _ => some (address, some base)
  | .pointerFree address _ => some (address, none)
  | .pointerSet _ | .pointerSetNull | .pointerSetDefault | .pointerSetPosition _ _ => none

/-- What a move says of the masks at an address. -/
def saysMasks (address : ℕ) (m : Move State Act Seen) : Option (Option RdpPointer) :=
  (m.act.fills.filter fun filled => filled.1 == address).map Prod.snd

theorem saysMasks_self {address : ℕ} {m : Move State Act Seen} {masks : Option RdpPointer}
    (hm : m.act.fills = some (address, masks)) : saysMasks address m = some masks := by
  simp [saysMasks, hm]

theorem saysMasks_other {address other : ℕ} {m : Move State Act Seen} {masks : Option RdpPointer}
    (hm : m.act.fills = some (address, masks)) (hne : other ≠ address) :
    saysMasks other m = none := by
  simp [saysMasks, hm, Ne.symm hne]

/-- The cursor the server asks for with an action, after `before`: that of the
masks last filled in, if it is one that can be shown. -/
def asked (conv : Converter) (before : List (Move State Act Seen)) : Act → List Cursor
  | .pointerSet address =>
    (((latest (saysMasks address) before).join).bind (toRgba conv)).toList.map .image
  | .pointerSetNull => [.hidden]
  | .pointerSetDefault => [.default]
  | .allocate _ | .pointerNew _ _ _ | .pointerFree _ _ | .pointerSetPosition _ _ => []

/-- Every wrapper is at an address of its own, and holds the picture of the masks
last filled in there. -/
structure Tracks (conv : Converter) (h : List (Move State Act Seen)) (s : State) : Prop where
  distinct : (s.pointers.map WrapperPointer.address).Nodup
  holds : ∀ w ∈ s.pointers, w.image.map Prod.snd =
    ((latest (saysMasks w.address) h).join).bind (toRgba conv)

theorem address_of_find {address : ℕ} {w : WrapperPointer} (hw : s.find address = some w) :
    w.address = address := by
  have hat := List.find?_some hw
  rw [isAt, beq_iff_eq] at hat
  exact hat

theorem Tracks.others {address : ℕ} {w : WrapperPointer} (ht : Tracks conv h s)
    (hw : s.find address = some w) : ((s.others address).map WrapperPointer.address).Nodup ∧
      ∀ v ∈ s.others address, v.address ≠ address := by
  have hdistinct := ht.distinct
  rw [((perm_of_find? hw).map WrapperPointer.address).nodup_iff, List.map_cons,
    List.nodup_cons] at hdistinct
  refine ⟨hdistinct.2, fun v hv heq => hdistinct.1 ?_⟩
  rw [address_of_find hw]
  exact List.mem_map.2 ⟨v, hv, heq⟩

/-- A move that says nothing of an address leaves the wrapper there tracked. -/
theorem Tracks.unsaid {m : Move State Act Seen} {v : WrapperPointer} (ht : Tracks conv h s)
    (hv : v ∈ s.pointers) (hm : saysMasks v.address m = none) : v.image.map Prod.snd =
      ((latest (saysMasks v.address) (h ++ [m])).join).bind (toRgba conv) := by
  rw [latest_snoc_of_none hm]
  exact ht.holds v hv

/-- A move that speaks of one wrapper alone leaves the others tracked. -/
theorem Tracks.without {address : ℕ} {w : WrapperPointer} {m : Move State Act Seen}
    {said : Option RdpPointer} {next : ℕ} (ht : Tracks conv h s) (hw : s.find address = some w)
    (hm : m.act.fills = some (address, said)) :
    Tracks conv (h ++ [m]) ⟨next, s.others address⟩ := by
  obtain ⟨hdistinct, hne⟩ := ht.others hw
  exact ⟨hdistinct, fun v hv =>
    ht.unsaid (mem_of_mem_others hv) (saysMasks_other hm (hne v hv))⟩

/-- It may put another in its place. -/
theorem Tracks.replace {address : ℕ} {w w' : WrapperPointer} {m : Move State Act Seen}
    {said : Option RdpPointer} {next : ℕ} (ht : Tracks conv h s) (hw : s.find address = some w)
    (hw' : w'.address = w.address) (hm : m.act.fills = some (address, said))
    (himage : w'.image.map Prod.snd = said.bind (toRgba conv)) :
    Tracks conv (h ++ [m]) ⟨next, w' :: s.others address⟩ := by
  have hrest : Tracks conv (h ++ [m]) ⟨next, s.others address⟩ := ht.without hw hm
  rw [address_of_find hw] at hw'
  refine ⟨?_, List.forall_mem_cons.2 ⟨?_, hrest.holds⟩⟩
  · rw [List.map_cons, List.nodup_cons, hw']
    refine ⟨fun hmem => ?_, hrest.distinct⟩
    obtain ⟨v, hv, heq⟩ := List.mem_map.1 hmem
    exact (ht.others hw).2 v hv heq
  · rw [hw', latest_snoc_of_some (saysMasks_self hm), himage]
    rfl

theorem tracks_step (hu : Untouched s) (ht : Tracks conv h s) (hs : step conv s a = some (t, o)) :
    Tracks conv (h ++ [⟨s, a, o, t⟩]) t := by
  cases a with
  | allocate address =>
    simp only [step] at hs
    split at hs
    · cases hs
    · next hnone =>
      cases hs
      have hne : ∀ v ∈ s.pointers, address ≠ v.address := by
        intro v hv heq
        have hat := List.find?_eq_none.1 hnone v hv
        exact hat (by rw [isAt, heq, beq_self_eq_true])
      refine ⟨?_, List.forall_mem_cons.2 ⟨?_, fun v hv => ht.unsaid hv
        (saysMasks_other rfl (Ne.symm (hne v hv)))⟩⟩
      · rw [List.map_cons, List.nodup_cons]
        refine ⟨fun hmem => ?_, ht.distinct⟩
        obtain ⟨v, hv, heq⟩ := List.mem_map.1 hmem
        exact hne v hv heq.symm
      · rw [latest_snoc_of_some (saysMasks_self rfl)]
        rfl
  | pointerNew address base prints =>
    simp only [step] at hs
    split at hs
    · cases hs
    · next w hw =>
      split_ifs at hs with hmade
      simp only [pointerNew] at hs
      split at hs
      · next image himage =>
        cases hs
        exact ht.replace hw rfl rfl himage.symm
      · next himage =>
        split_ifs at hs <;> cases hs
        · exact ht.replace hw rfl rfl himage.symm
        · refine ht.replace hw rfl rfl ?_
          exact (congrArg _ (hu w (List.mem_of_find?_eq_some hw)
            (Bool.not_eq_true _ ▸ hmade))).trans himage.symm
  | pointerFree address gone =>
    simp only [step] at hs
    split at hs
    · cases hs
    · next w hw =>
      cases hs
      cases gone with
      | true => exact ht.without hw rfl
      | false => exact ht.replace hw rfl rfl rfl
  | pointerSet address =>
    simp only [step] at hs
    split at hs
    · cases hs
    · cases hs
      exact ⟨ht.distinct, fun v hv => ht.unsaid hv rfl⟩
  | pointerSetNull | pointerSetDefault | pointerSetPosition x y =>
    cases hs
    exact ⟨ht.distinct, fun v hv => ht.unsaid hv rfl⟩

theorem tracks_of_run (hr : (machine conv).Run h s) : Untouched s ∧ Tracks conv h s := by
  induction hr with
  | nil => exact ⟨fun w hw => absurd hw List.not_mem_nil, List.nodup_nil,
      fun w hw => absurd hw List.not_mem_nil⟩
  | snoc _ hs ih => exact ⟨untouched_step ih.1 hs, tracks_step ih.1 ih.2 hs⟩

/-- What a step sends is what it is asked for. -/
theorem cursor_of_step (ht : Tracks conv h s) (hs : step conv s a = some (t, o)) :
    o.filterMap Seen.cursor = asked conv h a := by
  cases a with
  | allocate address =>
    simp only [step] at hs
    split at hs <;> cases hs
    rfl
  | pointerNew address base prints =>
    simp only [step] at hs
    split at hs
    · cases hs
    · split_ifs at hs
      simp only [pointerNew] at hs
      split at hs
      · cases hs
        rfl
      · split_ifs at hs <;> cases hs <;> rfl
  | pointerFree address gone =>
    simp only [step] at hs
    split at hs <;> cases hs
    simp only [pointerFree]
    split <;> rfl
  | pointerSet address =>
    simp only [step] at hs
    split at hs
    · cases hs
    · next w hw =>
      cases hs
      have hholds := ht.holds w (List.mem_of_find?_eq_some hw)
      rw [address_of_find hw] at hholds
      rw [asked, ← hholds, pointerSet]
      cases w.image with
      | none => rfl
      | some boxed => rfl
  | pointerSetNull | pointerSetDefault | pointerSetPosition x y =>
    cases hs
    rfl

/-- **The embedder is shown what the server asks for.**  At every point of every
run the cursors sent are the one asked for, if it can be shown, and no other: a
pointer that is set shows the masks FreeRDP last filled in there, and one that
was refused or has been freed leaves the cursor before it.  Every picture sent is
well formed. -/
theorem cursors_as_asked (hr : (machine conv).Run h s) :
    (∀ before m after, h = before ++ m :: after →
      m.out.filterMap Seen.cursor = asked conv before m.act) ∧
    ∀ image, Seen.sent (.image image) ∈ Machine.trace h → image.WellFormed := by
  have hall : ∀ before m after, h = before ++ m :: after →
      m.out.filterMap Seen.cursor = asked conv before m.act := by
    rintro before m after rfl
    obtain ⟨hbefore, hs⟩ := hr.cut
    exact cursor_of_step (tracks_of_run hbefore).2 hs
  refine ⟨hall, fun image himage => ?_⟩
  obtain ⟨m, hm, hout⟩ := List.mem_flatMap.1 himage
  obtain ⟨before, after, hsplit⟩ := List.append_of_mem hm
  have hasked : Cursor.image image ∈ asked conv before m.act := by
    rw [← hall before m after hsplit]
    exact List.mem_filterMap.2 ⟨_, hout, rfl⟩
  cases hact : m.act with
  | pointerSet address =>
    rw [hact, asked] at hasked
    obtain ⟨image', hmem, himage'⟩ := List.mem_map.1 hasked
    cases himage'
    obtain ⟨masks, -, hdecode⟩ := Option.bind_eq_some_iff.1 (Option.mem_toList.1 hmem)
    exact wellFormed_of_toRgba hdecode
  | allocate | pointerNew | pointerFree | pointerSetNull | pointerSetDefault
  | pointerSetPosition =>
    rw [hact] at hasked
    simp [asked] at hasked

/-- A conversion that takes masks of 24 bits a pixel and paints them white. -/
def white : Converter where
  copy dst _ _ _ _ _ xorBpp := (xorBpp == 24, List.replicate dst.length 255)
  inside := by simp

/-- A cursor is shown, one too wide is refused, the first is shown again and both
are freed, one of them twice. -/
def shownAndRefused : List Act :=
  [.allocate 8, .pointerNew 8 ⟨1, 2, 0, 1, 24, [], []⟩ true, .pointerSet 8,
    .allocate 16, .pointerNew 16 ⟨385, 1, 0, 0, 24, [], []⟩ true, .pointerSet 16, .pointerSet 8,
    .pointerSetNull, .pointerFree 16 true, .pointerFree 8 false, .pointerFree 8 true]

theorem cursor_boxes_freed_once_refused :
    ∃ h s hp, (machine white).Run h s ∧
      Heap.empty.run ((Machine.trace h).filterMap Seen.event) = some hp ∧
      ∀ b others, hp b ≠ .held others := by
  have hrun := (machine white).run_get shownAndRefused (by decide)
  obtain ⟨hp, hheap, -, -, hnone⟩ := cursor_boxes_freed_once hrun
  exact ⟨_, _, hp, hrun, hheap, hnone (by decide)⟩

theorem cursors_as_asked_refused :
    ∃ h s, (machine white).Run h s ∧
      (Machine.trace h).filterMap Seen.cursor =
        [.image ⟨1, 2, 0, 1, List.replicate 8 255⟩, .image ⟨1, 2, 0, 1, List.replicate 8 255⟩,
          .hidden] ∧
      ∀ image, Seen.sent (.image image) ∈ Machine.trace h → image.WellFormed := by
  have hrun := (machine white).run_get shownAndRefused (by decide)
  exact ⟨_, _, hrun, by decide, (cursors_as_asked hrun).2⟩

end Pointer
end Desktop
end FreerdpPrebuilt
