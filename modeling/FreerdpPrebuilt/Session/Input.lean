import FreerdpPrebuilt.Session.Shutdown
import Mathlib.Data.Nat.Bitwise

/-!
# What the host hears of the keyboard and the mouse

A call of `Input` becomes a `Command`, the command waits in the queue, and the
session thread makes an event of it that FreeRDP sends.  `Call.command` and
`execute` are these two translations, and `Sent.heard` is how a host reads what it
is sent: a word of flags per event, with the rotation of a wheel in nine of its
bits.

* `heard_execute` — the host reads what was asked, one call at a time; a rotation is
  cut off at 255 units.
* `executed_of_run` — the commands executed are those queued first, in order.
* `host_hears_what_is_asked` — both together, for any interleaving of the callers.
-/

namespace FreerdpPrebuilt
namespace Session

open Labelled

/-! ## The calls -/

/-- A mouse button. -/
inductive MouseButton
  | left
  | middle
  | right
  | x1
  | x2
  deriving DecidableEq, Repr

/-- The calls that queue a command: those of `Input`, those of `Clipboard`, and the
drop of the `Session`. -/
inductive Call
  | mouseMove (x y : UInt16)
  | mouseButton (button : MouseButton) (down : Bool) (x y : UInt16)
  | wheel (delta : Int16) (horizontal : Bool) (x y : UInt16)
  | key (scancode : UInt8) (extended down : Bool)
  | unicode (code : UInt16) (down : Bool)
  | lockKeys (scroll num caps kana : Bool)
  | refresh
  | resize (width height scalePercent : UInt32) (serial : ℕ)
  | touch (phase : TouchPhase) (id x y : Int32)
  | advertise (formats : List ClipboardFormat)
  | request (format : UInt32)
  | respond (format : UInt32) (data : Option Bytes)
  | drop

def PTR_FLAGS_HWHEEL : ℕ := 0x400
def PTR_FLAGS_WHEEL : ℕ := 0x200
def PTR_FLAGS_WHEEL_NEGATIVE : ℕ := 0x100
def PTR_FLAGS_MOVE : ℕ := 0x800
def PTR_FLAGS_DOWN : ℕ := 0x8000
def PTR_FLAGS_BUTTON1 : ℕ := 0x1000
def PTR_FLAGS_BUTTON2 : ℕ := 0x2000
def PTR_FLAGS_BUTTON3 : ℕ := 0x4000
def WheelRotationMask : ℕ := 0x1FF
def PTR_XFLAGS_DOWN : ℕ := 0x8000
def PTR_XFLAGS_BUTTON1 : ℕ := 1
def PTR_XFLAGS_BUTTON2 : ℕ := 2
def KBDEXT : ℕ := 0x100
def KBD_FLAGS_DOWN : ℕ := 0x4000
def KBD_FLAGS_RELEASE : ℕ := 0x8000
def KBD_SYNC_SCROLL_LOCK : ℕ := 1
def KBD_SYNC_NUM_LOCK : ℕ := 2
def KBD_SYNC_CAPS_LOCK : ℕ := 4
def KBD_SYNC_KANA_LOCK : ℕ := 8

/-- The flags of `Input::mouse_button`, and whether they are for the PDU of the two
extra buttons. -/
def buttonFlags (button : MouseButton) (down : Bool) : ℕ × Bool :=
  match button with
  | .left => (PTR_FLAGS_BUTTON1 ||| (if down then PTR_FLAGS_DOWN else 0), false)
  | .middle => (PTR_FLAGS_BUTTON3 ||| (if down then PTR_FLAGS_DOWN else 0), false)
  | .right => (PTR_FLAGS_BUTTON2 ||| (if down then PTR_FLAGS_DOWN else 0), false)
  | .x1 => (PTR_XFLAGS_BUTTON1 ||| (if down then PTR_XFLAGS_DOWN else 0), true)
  | .x2 => (PTR_XFLAGS_BUTTON2 ||| (if down then PTR_XFLAGS_DOWN else 0), true)

/-- The flags of `Input::wheel`. -/
def wheelFlags (delta : Int16) (horizontal : Bool) : ℕ :=
  let flags := if horizontal then PTR_FLAGS_HWHEEL else PTR_FLAGS_WHEEL
  let magnitude := min delta.toInt.natAbs (WheelRotationMask / 2)
  if delta.toInt < 0 then
    -- `wrapping_neg`, of a `u16`
    flags ||| PTR_FLAGS_WHEEL_NEGATIVE ||| ((2 ^ 16 - magnitude) % 2 ^ 16 &&& WheelRotationMask)
  else flags ||| (magnitude &&& WheelRotationMask)

/-- The flags of `Input::lock_keys`. -/
def lockFlags (scroll num caps kana : Bool) : ℕ :=
  [(scroll, KBD_SYNC_SCROLL_LOCK), (num, KBD_SYNC_NUM_LOCK), (caps, KBD_SYNC_CAPS_LOCK),
    (kana, KBD_SYNC_KANA_LOCK)].foldl (fun flags bit => if bit.1 then flags ||| bit.2 else flags) 0

/-- The command a call queues. -/
def Call.command : Call → Command
  | .mouseMove x y => .mouse PTR_FLAGS_MOVE x.toNat y.toNat
  | .mouseButton button down x y =>
    if (buttonFlags button down).2 then
      .extendedMouse (buttonFlags button down).1 x.toNat y.toNat
    else .mouse (buttonFlags button down).1 x.toNat y.toNat
  | .wheel delta horizontal x y => .mouse (wheelFlags delta horizontal) x.toNat y.toNat
  | .key scancode extended down =>
    .key down (scancode.toNat ||| if extended then KBDEXT else 0)
  | .unicode code down => .unicode down code.toNat
  | .lockKeys scroll num caps kana => .lockKeys (lockFlags scroll num caps kana)
  | .refresh => .refresh
  | .resize width height scalePercent serial =>
    let size := sanitiseSize width.toNat height.toNat
    .resize ⟨size.1, size.2, sanitiseScale scalePercent.toNat, serial⟩
  | .touch phase id x y => .touch phase id.toInt x.toInt y.toInt
  | .advertise formats => .clipboardAdvertise formats
  | .request format => .clipboardRequest format.toNat
  | .respond format data => .clipboardRespond format.toNat data
  | .drop => .shutdown

/-! ## What is sent -/

/-- An event FreeRDP is handed to send. -/
inductive Sent
  | mouseEvent (flags x y : ℕ)
  | extendedMouseEvent (flags x y : ℕ)
  | keyboardEventEx (down repeated : Bool) (rdpScancode : ℕ)
  | unicodeKeyboardEvent (flags code : ℕ)
  | synchronizeEvent (flags : ℕ)
  | refreshRect (left top right bottom : ℕ)
  deriving DecidableEq, Repr

/-- What `send_refresh` looks at on the context: whether there is an `update` with a
`RefreshRect`, and the size of the GDI, if there is one. -/
structure Drawing where
  update : Bool
  refreshRect : Bool
  gdi : Option (ℤ × ℤ)

/-- Ask the server to resend the whole desktop. -/
def sendRefresh (d : Drawing) : Option Sent :=
  match d.gdi with
  | none => none
  | some (width, height) =>
    if d.update = false then none
    else if d.refreshRect = false then none
    else some (.refreshRect 0 0 ((max width 0).toNat % 2 ^ 16) ((max height 0).toNat % 2 ^ 16))

/-- Perform one queued command, as far as it is an event.  A resize, a touch and the
clipboard have channels of their own. -/
def execute (d : Drawing) : Command → Option Sent
  | .mouse flags x y => some (.mouseEvent flags x y)
  | .extendedMouse flags x y => some (.extendedMouseEvent flags x y)
  | .key down scancode => some (.keyboardEventEx down false scancode)
  | .unicode down code =>
    some (.unicodeKeyboardEvent (if down then KBD_FLAGS_DOWN else KBD_FLAGS_RELEASE) code)
  | .lockKeys flags => some (.synchronizeEvent flags)
  | .refresh => sendRefresh d
  | .resize _ | .touch .. | .clipboardAdvertise _ | .clipboardRequest _ | .clipboardRespond ..
  | .shutdown => none

/-! ## What is heard -/

/-- What a host does with the events it reads. -/
inductive Heard
  | moved (x y : ℕ)
  | button (button : MouseButton) (down : Bool) (x y : ℕ)
  | wheel (rotation : ℤ) (horizontal : Bool) (x y : ℕ)
  | key (scancode : ℕ) (extended down : Bool)
  | character (code : ℕ) (down : Bool)
  | locks (scroll num caps kana : Bool)
  | repaint (left top right bottom : ℕ)
  deriving DecidableEq, Repr

/-- How a host reads the flags of a mouse event.  Each bit of an event is obeyed, and
the nine bits of a rotation are a two's complement. -/
def mouseHeard (flags x y : ℕ) : List Heard :=
  (if flags.testBit 11 then [.moved x y] else []) ++
  (if flags.testBit 12 then [.button .left (flags.testBit 15) x y] else []) ++
  (if flags.testBit 13 then [.button .right (flags.testBit 15) x y] else []) ++
  (if flags.testBit 14 then [.button .middle (flags.testBit 15) x y] else []) ++
  (if flags.testBit 9 then [.wheel (BitVec.ofNat 9 flags).toInt false x y] else []) ++
  (if flags.testBit 10 then [.wheel (BitVec.ofNat 9 flags).toInt true x y] else [])

/-- How a host reads an event. -/
def Sent.heard : Sent → List Heard
  | .mouseEvent flags x y => mouseHeard flags x y
  | .extendedMouseEvent flags x y =>
    (if flags.testBit 0 then [.button .x1 (flags.testBit 15) x y] else []) ++
    (if flags.testBit 1 then [.button .x2 (flags.testBit 15) x y] else [])
  | .keyboardEventEx down _ rdpScancode =>
    [.key (rdpScancode % 2 ^ 8) (rdpScancode.testBit 8) down]
  | .unicodeKeyboardEvent flags code => [.character code (!flags.testBit 15)]
  | .synchronizeEvent flags =>
    [.locks (flags.testBit 0) (flags.testBit 1) (flags.testBit 2) (flags.testBit 3)]
  | .refreshRect left top right bottom => [.repaint left top right bottom]

/-- What is heard of a command. -/
def heardOf (d : Drawing) (command : Command) : List Heard :=
  ((execute d command).map Sent.heard).getD []

/-- What a call asks for, of a desktop of this size. -/
def Call.meant (size : ℕ × ℕ) : Call → List Heard
  | .mouseMove x y => [.moved x.toNat y.toNat]
  | .mouseButton button down x y => [.button button down x.toNat y.toNat]
  | .wheel delta horizontal x y =>
    [.wheel (max (-255) (min delta.toInt 255)) horizontal x.toNat y.toNat]
  | .key scancode extended down => [.key scancode.toNat extended down]
  | .unicode code down => [.character code.toNat down]
  | .lockKeys scroll num caps kana => [.locks scroll num caps kana]
  | .refresh => [.repaint 0 0 size.1 size.2]
  | .resize .. | .touch .. | .advertise _ | .request _ | .respond .. | .drop => []

/-- What is assumed of the context while a command is executed: it is that of a connected
session, with a desktop of this size. -/
structure Drawing.Shows (d : Drawing) (size : ℕ × ℕ) : Prop where
  update : d.update = true
  refreshRect : d.refreshRect = true
  gdi : d.gdi = some ((size.1 : ℤ), (size.2 : ℤ))
  width_lt : size.1 < 2 ^ 16
  height_lt : size.2 < 2 ^ 16

/-! ## One call -/

theorem and_mask (n : ℕ) : n &&& WheelRotationMask = n % 2 ^ 9 :=
  Nat.and_two_pow_sub_one_eq_mod n 9

/-- The word of a rotation forwards. -/
theorem forwards_word (axis : ℕ) {magnitude : ℕ} (h : magnitude ≤ 255) :
    2 ^ 9 * axis ||| (magnitude &&& WheelRotationMask) = 2 ^ 9 * axis + magnitude := by
  rw [and_mask, Nat.mod_eq_of_lt (by omega), Nat.two_pow_add_eq_or_of_lt (by omega)]

/-- The word of a rotation backwards.  The bit that says so is the top bit of the nine,
which a negative number has set anyway. -/
theorem backwards_word (axis : ℕ) {magnitude : ℕ} (hpos : 0 < magnitude) (h : magnitude ≤ 255) :
    2 ^ 9 * axis ||| PTR_FLAGS_WHEEL_NEGATIVE |||
        ((2 ^ 16 - magnitude) % 2 ^ 16 &&& WheelRotationMask) =
      2 ^ 9 * axis + (2 ^ 9 - magnitude) := by
  have hlow : (2 ^ 16 - magnitude) % 2 ^ 16 % 2 ^ 9 = 2 ^ 8 * 1 + (2 ^ 8 - magnitude) := by omega
  have htop : 2 ^ 8 * 1 + (2 ^ 8 - magnitude) =
      PTR_FLAGS_WHEEL_NEGATIVE ||| (2 ^ 8 - magnitude) := by
    rw [Nat.two_pow_add_eq_or_of_lt (by omega)]
    rfl
  rw [and_mask, hlow, Nat.or_assoc]
  have hset : PTR_FLAGS_WHEEL_NEGATIVE ||| (2 ^ 8 * 1 + (2 ^ 8 - magnitude)) =
      2 ^ 8 * 1 + (2 ^ 8 - magnitude) := by
    rw [htop, ← Nat.or_assoc, Nat.or_self]
  rw [hset, ← Nat.two_pow_add_eq_or_of_lt (by omega)]
  omega

/-- The rotation fills the nine low bits, and the axis stands above them. -/
theorem exists_wheelFlags (delta : Int16) (horizontal : Bool) :
    ∃ rotation < 2 ^ 9,
      wheelFlags delta horizontal = 2 ^ 9 * (if horizontal then 2 else 1) + rotation ∧
      (rotation : ℤ).bmod (2 ^ 9) = max (-255) (min delta.toInt 255) := by
  have haxis : (if horizontal then PTR_FLAGS_HWHEEL else PTR_FLAGS_WHEEL) =
      2 ^ 9 * (if horizontal then 2 else 1) := by
    cases horizontal <;> rfl
  obtain ⟨magnitude, hmagnitude⟩ : ∃ m, min delta.toInt.natAbs (WheelRotationMask / 2) = m :=
    ⟨_, rfl⟩
  simp only [wheelFlags, haxis, hmagnitude]
  obtain rfl : min delta.toInt.natAbs 255 = magnitude := hmagnitude
  by_cases hneg : delta.toInt < 0
  · rw [if_pos hneg]
    refine ⟨2 ^ 9 - min delta.toInt.natAbs 255, by omega,
      backwards_word _ (by omega) (Nat.min_le_right _ _), ?_⟩
    rw [Int.bmod_def]
    omega
  · rw [if_neg hneg]
    refine ⟨min delta.toInt.natAbs 255, by omega, forwards_word _ (Nat.min_le_right _ _), ?_⟩
    rw [Int.bmod_def]
    omega

theorem heard_wheel (delta : Int16) (horizontal : Bool) (x y : ℕ) :
    mouseHeard (wheelFlags delta horizontal) x y =
      [.wheel (max (-255) (min delta.toInt 255)) horizontal x y] := by
  obtain ⟨rotation, hlt, hflags, hrotation⟩ := exists_wheelFlags delta horizontal
  have hbit : ∀ i, 9 ≤ i → (wheelFlags delta horizontal).testBit i =
      (if horizontal then 2 else 1).testBit (i - 9) := by
    intro i hi
    rw [hflags, Nat.testBit_two_pow_mul_add _ hlt, if_neg (by omega)]
  have hvalue : (BitVec.ofNat 9 (wheelFlags delta horizontal)).toInt =
      max (-255) (min delta.toInt 255) := by
    have hsame : BitVec.ofNat 9 (wheelFlags delta horizontal) = BitVec.ofNat 9 rotation := by
      apply BitVec.eq_of_toNat_eq
      rw [BitVec.toNat_ofNat, BitVec.toNat_ofNat, hflags, Nat.mul_add_mod]
    rw [hsame, BitVec.toInt_ofNat', hrotation]
  rw [mouseHeard, hvalue, hbit 9 (by decide), hbit 10 (by decide), hbit 11 (by decide),
    hbit 12 (by decide), hbit 13 (by decide), hbit 14 (by decide)]
  cases horizontal <;> rfl

theorem heard_button (d : Drawing) (button : MouseButton) (down : Bool) (x y : UInt16) :
    heardOf d (Call.mouseButton button down x y).command =
      [.button button down x.toNat y.toNat] := by
  cases button <;> cases down <;> rfl

theorem heard_key (d : Drawing) (scancode : UInt8) (extended down : Bool) :
    heardOf d (Call.key scancode extended down).command =
      [.key scancode.toNat extended down] := by
  have hlt : scancode.toNat < 2 ^ 8 := scancode.toNat_lt
  have hcode : (scancode.toNat ||| if extended then KBDEXT else 0) =
      2 ^ 8 * extended.toNat + scancode.toNat := by
    rw [Nat.two_pow_add_eq_or_of_lt hlt, Nat.or_comm]
    cases extended <;> rfl
  have hbit : (2 ^ 8 * extended.toNat + scancode.toNat).testBit 8 = extended := by
    rw [Nat.testBit_two_pow_mul_add _ hlt, if_neg (by decide)]
    cases extended <;> rfl
  have hlow : (2 ^ 8 * extended.toNat + scancode.toNat) % 2 ^ 8 = scancode.toNat := by
    rw [Nat.mul_add_mod, Nat.mod_eq_of_lt hlt]
  rw [Call.command, hcode]
  simp only [heardOf, execute, Option.map_some, Option.getD_some, Sent.heard, hbit, hlow]

theorem heard_refresh {d : Drawing} {size : ℕ × ℕ} (hd : d.Shows size) :
    heardOf d .refresh = [.repaint 0 0 size.1 size.2] := by
  have hwidth : (max (size.1 : ℤ) 0).toNat % 2 ^ 16 = size.1 := by
    have hlt := hd.width_lt
    omega
  have hheight : (max (size.2 : ℤ) 0).toNat % 2 ^ 16 = size.2 := by
    have hlt := hd.height_lt
    omega
  rw [heardOf, execute, sendRefresh, hd.gdi]
  simp only [hd.update, hd.refreshRect, Bool.true_eq_false, if_false, hwidth, hheight,
    Option.map_some, Option.getD_some, Sent.heard]

/-- **The host reads what was asked.**  No bit of one event reads as another, and a
rotation beyond the nine bits is cut off at the last one they hold. -/
theorem heard_execute {d : Drawing} {size : ℕ × ℕ} (hd : d.Shows size) (call : Call) :
    heardOf d call.command = call.meant size := by
  cases call with
  | wheel delta horizontal x y => exact heard_wheel delta horizontal x.toNat y.toNat
  | mouseButton button down x y => exact heard_button d button down x y
  | key scancode extended down => exact heard_key d scancode extended down
  | refresh => exact heard_refresh hd
  | unicode code down => cases down <;> rfl
  | lockKeys scroll num caps kana =>
    cases scroll <;> cases num <;> cases caps <;> cases kana <;> rfl
  | _ => rfl

/-! ## One step -/

/-- The session thread has not left its loop, and may not have entered it. -/
def Pc.staysIn : Pc → Bool
  | .entry | .guarded | .published | .connected _ => true
  | _ => false

/-- A stage of the loop moves the commands on: the take to the hand, an execution out
of it, and nothing else does. -/
theorem Stage.next_inHand {sh sh' : Shared} {stage : Stage} {answer : Answer} {n : Next}
    (h : stage.next sh answer = some (sh', n)) :
    (stage = .take ∧ answer = .ok ∧ n.pc = .connected (.execute sh.queue)) ∨
      (∃ command batch, stage = .execute (command :: batch) ∧ answer = .ok ∧
        command ≠ .shutdown ∧ n.pc = .connected (.execute batch)) ∨
      (¬ (stage = .take ∧ answer = .ok) ∧
        (∀ command batch, stage = .execute (command :: batch) → answer = .ok →
          command = .shutdown) ∧
        ((n.pc.inHand = (Pc.connected stage).inHand ∧ n.pc.staysIn = true) ∨
          (n.pc.inHand = [] ∧ n.pc.staysIn = false))) := by
  unfold Stage.next at h
  split at h <;> first | (split at h) | skip
  all_goals
    simp only [Option.some.injEq, Prod.mk.injEq, reduceCtorEq] at h
  all_goals
    obtain ⟨rfl, rfl⟩ := h
    simp_all [Next.pc, Pc.inHand, Pc.staysIn, Shared.take]

/-- Outside the loop nothing is in hand, and who has left it does not come back. -/
theorem State.advance_outside {s t : State} {answer : Answer} {o : List Obs}
    (h : s.advance answer = some (t, o)) (hnot : ∀ stage, s.pc ≠ .connected stage) :
    t.pc.inHand = s.pc.inHand ∧ (t.pc.staysIn = true → s.pc.staysIn = true) := by
  unfold State.advance at h
  cases hpc : s.pc with
  | connected stage => exact absurd hpc (hnot stage)
  | entry | finished =>
    rw [hpc] at h
    cases h
  | _ =>
    rw [hpc] at h
    obtain ⟨rfl, -⟩ := Prod.mk.inj (Option.some.inj h)
    exact ⟨rfl, fun hin => by first | rfl | cases hin⟩

namespace Interleaving

/-- The command a move executes, if it executes one. -/
def executedBy (m : Move Interleaving Act Seen) : Option Command :=
  match m.src.session.pc, m.act with
  | .connected (.execute (command :: _)), .thread .ok =>
    if command = .shutdown then none else some command
  | _, _ => none

/-- The commands executed, in order. -/
def executed (h : List (Move Interleaving Act Seen)) : List Command := h.filterMap executedBy

/-- The commands drained, in order. -/
def drained (h : List (Move Interleaving Act Seen)) : List Command :=
  ((Machine.trace h).filterMap Seen.batch).flatten

/-- What was drained is executed, or in hand; or it was left when the loop was. -/
structure Follows (h : List (Move Interleaving Act Seen)) (pc : Pc) : Prop where
  kept : ∃ left, drained h = executed h ++ (pc.inHand ++ left) ∧
    (pc.staysIn = true → left = [])
  no_shutdown : .shutdown ∉ executed h

theorem drained_snoc (h : List (Move Interleaving Act Seen)) (m : Move Interleaving Act Seen) :
    drained (h ++ [m]) = drained h ++ (m.out.filterMap Seen.batch).flatten := by
  rw [drained, Machine.trace_snoc, List.filterMap_append, List.flatten_append]
  rfl

theorem executed_snoc (h : List (Move Interleaving Act Seen)) (m : Move Interleaving Act Seen) :
    executed (h ++ [m]) = executed h ++ (executedBy m).toList := by
  rw [executed, List.filterMap_append]
  cases hm : executedBy m with
  | none => rw [List.filterMap_cons_none hm]; rfl
  | some command => rw [List.filterMap_cons_some hm]; rfl

theorem batch_session (obs : List Obs) : (obs.map Seen.session).filterMap Seen.batch = [] := by
  induction obs with
  | nil => rfl
  | cons x obs ih => simp [Seen.batch]

theorem batch_shows (sh : Shared) (pc : Pc) (answer : Answer) :
    (shows sh pc answer).filterMap Seen.batch =
      if pc = .connected .take ∧ answer = .ok then [sh.queue] else [] := by
  unfold shows
  split
  · simp [Seen.batch]
  · simp [Seen.batch, Shared.take]
  · next hne => rw [if_neg fun h => hne h.1 h.2, List.filterMap_nil]

variable {h : List (Move Interleaving Act Seen)} {s t : Interleaving}

/-- What neither drains nor executes, and leaves the thread where it is or takes it
out of the loop. -/
theorem Follows.quiet {pc pc' : Pc} {m : Move Interleaving Act Seen} (hI : Follows h pc)
    (hdrain : m.out.filterMap Seen.batch = []) (hexec : executedBy m = none)
    (hpc : (pc'.inHand = pc.inHand ∧ (pc'.staysIn = true → pc.staysIn = true)) ∨
      pc'.staysIn = false ∧ pc'.inHand = []) : Follows (h ++ [m]) pc' := by
  obtain ⟨⟨left, hleft, hstays⟩, hno⟩ := hI
  have hdrained : drained (h ++ [m]) = drained h := by
    rw [drained_snoc, hdrain, List.flatten_nil, List.append_nil]
  have hexecuted : executed (h ++ [m]) = executed h := by
    rw [executed_snoc, hexec, Option.toList_none, List.append_nil]
  refine ⟨?_, by rwa [hexecuted]⟩
  rw [hdrained, hexecuted]
  rcases hpc with ⟨hhand, hin⟩ | ⟨hout, hhand⟩
  · exact ⟨left, by rw [hhand, hleft], fun hpc => hstays (hin hpc)⟩
  · refine ⟨pc.inHand ++ left, by rw [hhand, hleft, List.nil_append], fun hpc => ?_⟩
    rw [hpc] at hout
    cases hout

theorem executedBy_eq_none {m : Move Interleaving Act Seen}
    (h : ∀ command batch, m.src.session.pc = .connected (.execute (command :: batch)) →
      m.act = .thread .ok → command = .shutdown) : executedBy m = none := by
  unfold executedBy
  split
  · next command batch hpc hact => rw [if_pos (h command batch hpc hact)]
  · rfl

/-- One step of the session thread. -/
theorem Follows.advance {answer : Answer} {u : State} {obs : List Obs} {out : List Seen}
    (hI : Follows h s.session.pc) (hr : s.session.advance answer = some (u, obs))
    (hout : out = shows s.session.shared s.session.pc answer ++ obs.map .session) :
    Follows (h ++ [⟨s, .thread answer, out, t⟩]) u.pc := by
  have hbatch : out.filterMap Seen.batch =
      if s.session.pc = .connected .take ∧ answer = .ok then [s.session.shared.queue] else [] := by
    rw [hout, List.filterMap_append, batch_session, List.append_nil, batch_shows]
  rcases State.advance_cases hr with ⟨stage, sh, n, hpc, hn, rfl⟩ | ⟨hnot, -, -, -, -⟩
  · rw [State.leave_pc]
    rw [hpc] at hI hbatch
    rcases Stage.next_inHand hn with ⟨rfl, rfl, hn'⟩ | ⟨command, batch, rfl, rfl, hne, hn'⟩ |
      ⟨htake, hexec, hhand⟩
    · -- the whole queue is in hand
      obtain ⟨⟨left, hleft, hstays⟩, hno⟩ := hI
      obtain rfl := hstays rfl
      have hexecuted := executed_snoc h ⟨s, .thread .ok, out, t⟩
      rw [executedBy_eq_none (by simp [hpc]), Option.toList_none, List.append_nil] at hexecuted
      rw [if_pos ⟨rfl, rfl⟩] at hbatch
      refine ⟨⟨[], ?_, fun _ => rfl⟩, by rwa [hexecuted]⟩
      rw [drained_snoc, hbatch, hexecuted, hleft, hn']
      simp [Pc.inHand]
    · -- its first command is executed
      obtain ⟨⟨left, hleft, hstays⟩, hno⟩ := hI
      have hby : executedBy ⟨s, .thread .ok, out, t⟩ = some command := by
        rw [executedBy, hpc]
        exact if_neg hne
      rw [if_neg (by simp)] at hbatch
      refine ⟨⟨left, ?_, fun _ => hstays rfl⟩, ?_⟩
      · rw [drained_snoc, hbatch, executed_snoc, hby, hleft, hn']
        simp [Pc.inHand]
      · rw [executed_snoc, hby, Option.toList_some, List.mem_append, List.mem_singleton]
        exact fun hmem => hmem.elim hno fun heq => hne heq.symm
    · refine hI.quiet ?_ (executedBy_eq_none ?_) ?_
      · rw [hbatch, if_neg]
        rintro ⟨hpc', hok⟩
        exact htake ⟨Pc.connected.inj hpc', hok⟩
      · intro command batch hpc' hact
        rw [hpc] at hpc'
        exact hexec command batch (Pc.connected.inj hpc') (Act.thread.inj hact)
      · rcases hhand with ⟨hsame, -⟩ | ⟨hnone, hout⟩
        · exact .inl ⟨hsame, fun _ => rfl⟩
        · exact .inr ⟨hout, hnone⟩
  · obtain ⟨hhand, hin⟩ := State.advance_outside hr hnot
    refine hI.quiet ?_ (executedBy_eq_none ?_) (.inl ⟨hhand, hin⟩)
    · rw [hbatch, if_neg fun h => hnot _ h.1]
    · intro command batch hpc
      exact absurd hpc (hnot _)

theorem Follows.step {a : Act} {o : List Seen} (hI : Follows h s.session.pc)
    (hs : machine.step s a = some (t, o)) : Follows (h ++ [⟨s, a, o, t⟩]) t.session.pc := by
  have hnothing : ∀ b, (∀ answer, b ≠ .thread answer) →
      executedBy ⟨s, b, o, t⟩ = none := fun b hb =>
    executedBy_eq_none fun _ _ _ hact => absurd hact (hb _)
  cases a with
  | newContext ctx =>
    obtain ⟨hpc, -, -, hpc', obs, rfl⟩ := step_newContext hs
    refine hI.quiet (batch_session obs) (hnothing _ fun _ h => by cases h) ?_
    rw [hpc]
    rcases hpc' with hpc' | ⟨result, hpc'⟩ <;> rw [hpc']
    · exact .inl ⟨rfl, fun _ => rfl⟩
    · exact .inr ⟨rfl, rfl⟩
  | thread answer =>
    obtain ⟨-, ⟨u, obs⟩, hr, rfl, hout⟩ := threadStep_eq_some.1 hs
    exact hI.advance hr hout
  | reconnect =>
    obtain ⟨-, rfl, rfl⟩ := by simpa [machine] using hs
    exact hI.quiet rfl (hnothing _ fun _ h => by cases h) (.inl ⟨rfl, id⟩)
  | append producer command =>
    obtain ⟨-, rfl, rfl⟩ := by simpa [machine] using hs
    exact hI.quiet rfl (hnothing _ fun _ h => by cases h) (.inl ⟨rfl, id⟩)
  | setEvent producer =>
    obtain ⟨-, rfl, rfl⟩ := by simpa [machine] using hs
    exact hI.quiet rfl (hnothing _ fun _ h => by cases h) (.inl ⟨rfl, id⟩)
  | abortConnect =>
    obtain ⟨rfl, obs, rfl⟩ := step_abortConnect hs
    exact hI.quiet (batch_session obs) (hnothing _ fun _ h => by cases h) (.inl ⟨rfl, id⟩)
  | join =>
    obtain ⟨rfl, rfl⟩ := step_join hs
    exact hI.quiet rfl (hnothing _ fun _ h => by cases h) (.inl ⟨rfl, id⟩)

/-! ## Every run -/

theorem follows_of_run (hr : machine.Run h s) : Follows h s.session.pc := by
  induction hr with
  | nil => exact ⟨⟨[], rfl, fun _ => rfl⟩, List.not_mem_nil⟩
  | snoc _ hs ih => exact ih.step hs

/-- **The commands executed are those queued first.**  As long as the session thread
has not left its loop, the others are in its hand or in the queue. -/
theorem executed_of_run (hr : machine.Run h s) :
    ∃ rest, (Machine.trace h).filterMap Seen.command = executed h ++ rest ∧
      (s.session.pc.staysIn = true →
        rest = s.session.pc.inHand ++ s.session.shared.queue) := by
  have hkept : drained h ++ s.session.shared.queue =
      (Machine.trace h).filterMap Seen.command := by
    obtain ⟨h', hr', htrace⟩ := mailbox_run hr
    have hkept := Mailbox.conserves hr'
    rw [htrace, List.filterMap_filterMap, List.filterMap_filterMap] at hkept
    simp only [Seen.note_item, Seen.note_batch] at hkept
    exact hkept
  obtain ⟨left, hleft, hstays⟩ := (follows_of_run hr).kept
  refine ⟨s.session.pc.inHand ++ left ++ s.session.shared.queue, ?_, fun hpc => ?_⟩
  · rw [← hkept, hleft]
    simp only [List.append_assoc]
  · rw [hstays hpc, List.append_nil]

/-- What is heard of commands executed one after another, the context being each
time what it is by then. -/
def heard (drawings : ℕ → Drawing) (commands : List Command) : List Heard :=
  commands.zipIdx.flatMap fun c => heardOf (drawings c.2) c.1

/-- What calls ask for, one after another. -/
def meant (sizes : ℕ → ℕ × ℕ) (calls : List Call) : List Heard :=
  calls.zipIdx.flatMap fun c => c.1.meant (sizes c.2)

theorem heard_map {drawings : ℕ → Drawing} {sizes : ℕ → ℕ × ℕ}
    (hshows : ∀ n, (drawings n).Shows (sizes n)) (calls : List Call) :
    heard drawings (calls.map Call.command) = meant sizes calls := by
  rw [heard, meant, List.zipIdx_map, List.flatMap_map]
  exact List.flatMap_congr fun c _ => heard_execute (hshows c.2) c.1

/-- **The host hears what is asked.**  Let any threads call, and the session thread
drain, in any order.  What the host hears is what the first so many calls asked for, in
order, each once and none of them the drop; and while the session goes on, the calls
not yet heard are those in hand or in the queue. -/
theorem host_hears_what_is_asked (hr : machine.Run h s) (calls : List Call)
    (hcalls : (Machine.trace h).filterMap Seen.command = calls.map Call.command)
    (drawings : ℕ → Drawing) (sizes : ℕ → ℕ × ℕ)
    (hshows : ∀ n, (drawings n).Shows (sizes n)) :
    ∃ n ≤ calls.length, heard drawings (executed h) = meant sizes (calls.take n) ∧
      .drop ∉ calls.take n ∧
      (s.session.pc.staysIn = true →
        (calls.drop n).map Call.command = s.session.pc.inHand ++ s.session.shared.queue) := by
  obtain ⟨rest, hrest, hwaits⟩ := executed_of_run hr
  rw [hcalls] at hrest
  obtain ⟨done, waiting, rfl, hdone, hwaiting⟩ := List.map_eq_append_iff.1 hrest
  refine ⟨done.length, by simp, ?_, ?_, ?_⟩
  · rw [List.take_left, ← hdone, heard_map hshows]
  · rw [List.take_left]
    intro hmem
    refine (follows_of_run hr).no_shutdown ?_
    rw [← hdone]
    exact List.mem_map_of_mem hmem
  · intro hpc
    rw [List.drop_left, hwaiting, hwaits hpc]

/-- Two threads call, and one drops the session with a call behind it. -/
def wheelAndKey : List Call :=
  [.wheel (-120) false 10 20, .key 0x1D true true, .drop, .refresh]

/-- The four calls are drained together. -/
def wheelAndKeyRun : List Act :=
  startsUp ++ [.append (.thread 0) (.mouse 0x388 10 20), .append (.thread 1) (.key true 0x11D),
    .setEvent (.thread 1), .setEvent (.thread 0), .abortConnect, .append .dropping .shutdown,
    .append (.thread 0) .refresh, .thread .ok, .thread .ok, .thread .ok, .thread .ok, .thread .ok,
    .thread .ok]

theorem host_hears_what_is_asked_dropped : ∃ h s, machine.Run h s ∧
    s.session.pc = .returned .ok ∧
    heard (fun _ => ⟨true, true, some (1024, 768)⟩) (executed h) =
      [.wheel (-120) false 10 20, .key 0x1D true true] ∧
    ∃ n ≤ 4, heard (fun _ => ⟨true, true, some (1024, 768)⟩) (executed h) =
      meant (fun _ => (1024, 768)) (wheelAndKey.take n) ∧ .drop ∉ wheelAndKey.take n := by
  have hrun := machine.run_get wheelAndKeyRun (by decide +kernel)
  obtain ⟨n, hn, hheard, hdrop, -⟩ := host_hears_what_is_asked hrun wheelAndKey
    (by decide +kernel) (fun _ => ⟨true, true, some (1024, 768)⟩) (fun _ => (1024, 768))
    fun _ => ⟨rfl, rfl, rfl, by decide, by decide⟩
  exact ⟨_, _, hrun, by decide +kernel, by decide +kernel, n, hn, hheard, hdrop⟩

end Interleaving
end Session
end FreerdpPrebuilt
