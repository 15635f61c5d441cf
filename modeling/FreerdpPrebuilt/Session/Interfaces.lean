import FreerdpPrebuilt.Clipboard.Channel
import FreerdpPrebuilt.Lib.History
import FreerdpPrebuilt.Lib.Ownership
import FreerdpPrebuilt.Touch.Bridge

/-!
# The interfaces of the channels

A plugin of FreeRDP's makes an interface for its channel and publishes it by an
event; `channel_connected` reads the channel's name off the event, takes the interface
for what that channel's is, and keeps it in the bridge.  The plugin frees it when the
channel has closed, which `channel_disconnected` is told of.  In between the event loop
calls through what the bridge keeps, whenever a caller has asked for something.

* `interfaces_never_dangle` — no call goes through an interface that has been freed, or
  to a struct of another kind; and what the bridge keeps is the interface of the last
  event of that channel.

Three channels are the crate's own: `cliprdr`, `disp` and `rdpei`.  The events of the
others go on to FreeRDP.
-/

namespace FreerdpPrebuilt
namespace Session
namespace Interfaces

open Labelled Ownership

/-! ## The bridge -/

/-- What an interface is a struct of. -/
inductive Kind
  | cliprdr
  | disp
  | rdpei
  | foreign
  deriving DecidableEq

def CLIPRDR_SVC_CHANNEL_NAME : String := "cliprdr"
def DISP_DVC_CHANNEL_NAME : String := "Microsoft::Windows::RDS::DisplayControl"
def RDPEI_DVC_CHANNEL_NAME : String := "Microsoft::Windows::RDS::Input"

/-- What the plugin of a channel publishes. -/
def Kind.ofName (name : String) : Kind :=
  if name = CLIPRDR_SVC_CHANNEL_NAME then .cliprdr
  else if name = DISP_DVC_CHANNEL_NAME then .disp
  else if name = RDPEI_DVC_CHANNEL_NAME then .rdpei
  else .foreign

/-- The part of `Bridge` the display channel uses, and the interfaces whose `custom` and
`DisplayControlCaps` have been set. -/
structure Display where
  disp : Ptr
  resizeReady : Bool
  pendingResize : Option ResizeRequest
  installed : Ptr → Bool

/-- The bridge, and FreeRDP's side of its channels. -/
structure State where
  clipboard : Clipboard.State
  display : Display
  touch : Touch.Bridge
  /-- The address of the next interface. -/
  next : Ptr
  alive : List Ptr
  kinds : Ptr → Kind
  /-- Whether an interface has been published, and not been taken back since. -/
  isOpen : Ptr → Bool

/-- A session before its channels come up. -/
def State.start : State where
  clipboard := .start
  display := ⟨Ptr.null, false, none, fun _ => false⟩
  touch := .new
  next := 1
  alive := []
  kinds := fun _ => .foreign
  isOpen := fun _ => false

/-- What the bridge keeps of a channel. -/
def State.stored (s : State) : Kind → Ptr
  | .cliprdr => s.clipboard.bridge.cliprdr
  | .disp => s.display.disp
  | .rdpei => s.touch.rdpei
  | .foreign => Ptr.null

/-- What is seen: the memory of the interfaces, by what it is taken for, and what the
channels show. -/
inductive Seen
  | memory (kind : Kind) (event : Event)
  | clipboard (obs : Clipboard.Obs)
  | touch (obs : Touch.Obs)
  /-- `SendMonitorLayout`. -/
  | layout (disp : Ptr) (request : ResizeRequest)
  | resizeReady (maxMonitors maxArea : ℕ)
  /-- A resize that was held goes back on the queue. -/
  | requeued (request : ResizeRequest)
  /-- An event that goes on to FreeRDP. -/
  | delegated (name : String)
  deriving DecidableEq

/-- What happens to the memory, and what it is taken for. -/
def Seen.use : Seen → Option (Kind × Event)
  | .memory kind event => some (kind, event)
  | _ => none

def Seen.event (x : Seen) : Option Event := x.use.map Prod.snd

/-- What reads or writes of one interface show. -/
def accesses (kind : Kind) (ps : List Ptr) : List Seen := ps.map fun p => .memory kind (.access p)

/-! ## The functions -/

/-- `channel_connected`. -/
def channelConnected (s : State) (name : String) (pInterface : Ptr) : State × List Seen :=
  if name = CLIPRDR_SVC_CHANNEL_NAME then
    if pInterface = Ptr.null then (s, [])
    else ({ s with clipboard := Clipboard.channelConnected s.clipboard pInterface },
      accesses .cliprdr [pInterface])
  else if name = DISP_DVC_CHANNEL_NAME then
    if pInterface = Ptr.null then (s, [])
    else
      ({ s with display := { s.display with
          disp := pInterface
          installed := Function.update s.display.installed pInterface true } },
        accesses .disp [pInterface])
  else if name = RDPEI_DVC_CHANNEL_NAME then
    if pInterface = Ptr.null then (s, [])
    else
      ({ s with touch := (Touch.channelConnected s.touch pInterface).1 },
        accesses .rdpei [pInterface] ++
          (Touch.channelConnected s.touch pInterface).2.map .touch)
  else (s, [.delegated name])

/-- `channel_disconnected`. -/
def channelDisconnected (s : State) (name : String) : State × List Seen :=
  if name = CLIPRDR_SVC_CHANNEL_NAME then
    ({ s with clipboard := Clipboard.channelDisconnected s.clipboard }, [])
  else if name = DISP_DVC_CHANNEL_NAME then
    ({ s with display := { s.display with disp := Ptr.null, resizeReady := false } }, [])
  else if name = RDPEI_DVC_CHANNEL_NAME then
    ({ s with touch := Touch.channelDisconnected s.touch }, [])
  else (s, [.delegated name])

/-- `display_control_caps`. -/
def displayControlCaps (d : Display) (disp : Ptr) (maxMonitors areaFactorA areaFactorB : ℕ) :
    Display × List Seen :=
  if disp = Ptr.null then (d, [])
  else
    ({ d with resizeReady := true, pendingResize := none },
      accesses .disp [disp] ++ [.resizeReady maxMonitors (areaFactorA * areaFactorB)] ++
        d.pendingResize.toList.map .requeued)

/-- `request_resize` and `send_monitor_layout`, with whether the entry point is set. -/
def requestResize (d : Display) (request : ResizeRequest) (sendMonitorLayout : Ptr → Bool) :
    Display × List Seen :=
  if d.disp = Ptr.null ∨ d.resizeReady = false then
    ({ d with pendingResize := some request }, [])
  else
    (d, accesses .disp [d.disp] ++
      if sendMonitorLayout d.disp then [.layout d.disp request] else [])

/-- The interfaces that the clipboard's functions read or write. -/
def clipboardReads (b : Clipboard.Bridge) : Clipboard.Act → List Ptr
  | .channelConnected _ | .channelDisconnected => []
  | .serverCapabilities cliprdr | .monitorReady cliprdr | .serverFormatList cliprdr _
  | .serverFormatDataRequest cliprdr _ _ => [cliprdr]
  | .serverFormatDataResponse _ _ => [b.cliprdr]
  | .advertise _ =>
    if b.cliprdr = Ptr.null then [] else if b.clipboardReady = false then [] else [b.cliprdr]
  | .request _ | .respond _ _ => if b.cliprdr = Ptr.null then [] else [b.cliprdr]

/-- The interfaces that the touch functions read or write. -/
def touchReads (b : Touch.Bridge) : Touch.Act → List Ptr
  | .channelConnected _ | .channelDisconnected => []
  | .touchSuspend rdpei _ | .touchResume rdpei => [rdpei]
  | .sendTouch _ => if b.rdpei = Ptr.null then [] else if b.touchSuspended then [] else [b.rdpei]

/-! ## The session's channels as a machine -/

/-- The interface a plugin calls back on. -/
def clipboardContext : Clipboard.Act → Option Ptr
  | .serverCapabilities cliprdr | .monitorReady cliprdr | .serverFormatList cliprdr _
  | .serverFormatDataRequest cliprdr _ _ => some cliprdr
  | _ => none

/-- The interface a plugin calls back on. -/
def touchContext : Touch.Act → Option Ptr
  | .touchSuspend rdpei _ | .touchResume rdpei => some rdpei
  | _ => none

/-- What is an event of a channel, and not a call. -/
def clipboardEvent : Clipboard.Act → Bool
  | .channelConnected _ | .channelDisconnected => true
  | _ => false

def touchEvent : Touch.Act → Bool
  | .channelConnected _ | .channelDisconnected => true
  | _ => false

/-- What can happen next. -/
inductive Act
  /-- A plugin makes an interface. -/
  | made (kind : Kind)
  /-- A plugin frees an interface. -/
  | freed (pInterface : Ptr)
  | channelConnected (name : String) (pInterface : Ptr)
  | channelDisconnected (name : String) (pInterface : Ptr)
  /-- A callback of `cliprdr`, or a command executed for it. -/
  | clipboard (act : Clipboard.Act)
  /-- A callback of `rdpei`, or a touch executed. -/
  | touch (act : Touch.Act)
  | displayControlCaps (disp : Ptr) (maxMonitors areaFactorA areaFactorB : ℕ)
  /-- A resize is executed, and takes the route of a layout. -/
  | requestResize (request : ResizeRequest)

/-- The entry points the plugins have set on their interfaces. -/
structure EntryPoints where
  clipboard : Ptr → Clipboard.EntryPoint → Bool
  touch : Touch.EntryPoints
  sendMonitorLayout : Ptr → Bool

/-- The plugin of a channel has this interface: it is alive, and of the channel's kind. -/
def State.has (s : State) (kind : Kind) (p : Ptr) : Bool := p ∈ s.alive && s.kinds p == kind

/-- One step.  The guards are the contract of FreeRDP's plugins: a plugin publishes what is
its own, calls back on what is alive, and frees what is not open. -/
def step (entry : EntryPoints) (s : State) : Act → Option (State × List Seen)
  | .made kind =>
    some ({ s with
      next := s.next + 1
      alive := s.next :: s.alive
      kinds := Function.update s.kinds s.next kind }, [.memory kind (.alloc s.next)])
  | .freed p =>
    if p ∈ s.alive ∧ s.isOpen p = false then
      some ({ s with alive := s.alive.erase p }, [.memory (s.kinds p) (.release p)])
    else none
  | .channelConnected name p =>
    if p = Ptr.null ∨ s.has (.ofName name) p = true then
      some (channelConnected { s with isOpen := Function.update s.isOpen p true } name p)
    else none
  | .channelDisconnected name p =>
    if p = Ptr.null ∨ s.has (.ofName name) p = true then
      some (channelDisconnected { s with isOpen := Function.update s.isOpen p false } name)
    else none
  | .clipboard act =>
    if clipboardEvent act = false ∧ ∀ p ∈ clipboardContext act, s.has .cliprdr p = true then
      ((Clipboard.machine entry.clipboard).step s.clipboard act).map fun r =>
        ({ s with clipboard := r.1 },
          accesses .cliprdr (clipboardReads s.clipboard.bridge act) ++ r.2.map .clipboard)
    else none
  | .touch act =>
    if touchEvent act = false ∧ ∀ p ∈ touchContext act, s.has .rdpei p = true then
      ((Touch.machine entry.touch).step s.touch act).map fun r =>
        ({ s with touch := r.1 },
          accesses .rdpei (touchReads s.touch act) ++ r.2.map .touch)
    else none
  | .displayControlCaps disp maxMonitors areaFactorA areaFactorB =>
    if s.has .disp disp = true ∧ s.display.installed disp = true then
      let r := displayControlCaps s.display disp maxMonitors areaFactorA areaFactorB
      some ({ s with display := r.1 }, r.2)
    else none
  | .requestResize request =>
    let r := requestResize s.display request entry.sendMonitorLayout
    some ({ s with display := r.1 }, r.2)

/-- **The channels of a session as a machine.** -/
def machine (entry : EntryPoints) : Machine State Act Seen := ⟨.start, step entry⟩

/-! ## What a step does to the memory -/

variable {entry : EntryPoints} {s t : State} {a : Act} {o : List Seen} {kind : Kind}

@[simp] theorem use_accesses (kind : Kind) (ps : List Ptr) :
    (accesses kind ps).filterMap Seen.use = ps.map fun p => (kind, .access p) := by
  induction ps with
  | nil => rfl
  | cons p ps ih => exact congrArg (_ :: ·) ih

@[simp] theorem use_clipboard (obs : List Clipboard.Obs) :
    (obs.map Seen.clipboard).filterMap Seen.use = [] := by
  induction obs with
  | nil => rfl
  | cons x obs ih => exact ih

@[simp] theorem use_touch (obs : List Touch.Obs) :
    (obs.map Seen.touch).filterMap Seen.use = [] := by
  induction obs with
  | nil => rfl
  | cons x obs ih => exact ih

/-- What the bridge keeps is alive, of the kind it is taken for, and open. -/
structure Sound (s : State) : Prop where
  next_pos : 0 < s.next
  made : ∀ p ∈ s.alive, 0 < p ∧ p < s.next
  live : ∀ kind, s.stored kind ≠ Ptr.null →
    s.has kind (s.stored kind) = true ∧ s.isOpen (s.stored kind) = true
  /-- An answer is awaited on an open channel only. -/
  asked : s.clipboard.peer.outstanding ≠ [] → s.clipboard.bridge.cliprdr ≠ Ptr.null

/-- The accesses of a step to the interfaces there are, of the kind they are. -/
def Reads (s : State) (o : List Seen) : Prop :=
  ∃ (kind : Kind) (ps : List Ptr), (∀ p ∈ ps, s.has kind p = true) ∧
    o.filterMap Seen.use = ps.map fun p => (kind, .access p)

theorem Reads.none (s : State) (h : o.filterMap Seen.use = []) : Reads s o :=
  ⟨.foreign, [], by simp, h⟩

theorem Sound.reads_clipboard (hI : Sound s) {act : Clipboard.Act}
    {r : Clipboard.State × List Clipboard.Obs}
    (hctx : ∀ p ∈ clipboardContext act, s.has .cliprdr p = true)
    (hr : (Clipboard.machine entry.clipboard).step s.clipboard act = some r) :
    ∀ p ∈ clipboardReads s.clipboard.bridge act, s.has .cliprdr p = true := by
  have hlive := hI.live .cliprdr
  intro p hp
  cases act with
  | channelConnected | channelDisconnected => cases hp
  | serverCapabilities cliprdr | monitorReady cliprdr | serverFormatList cliprdr formats
  | serverFormatDataRequest cliprdr format listening =>
    obtain rfl := List.mem_singleton.1 hp
    exact hctx p rfl
  | serverFormatDataResponse ok data =>
    obtain rfl := List.mem_singleton.1 hp
    refine (hlive (hI.asked ?_)).1
    intro hnone
    simp [Clipboard.machine, hnone] at hr
  | advertise formats =>
    rw [clipboardReads] at hp
    split_ifs at hp with hnull
    · cases hp
    · cases hp
    · obtain rfl := List.mem_singleton.1 hp
      exact (hlive hnull).1
  | request format | respond format data =>
    rw [clipboardReads] at hp
    split_ifs at hp with hnull
    · cases hp
    · obtain rfl := List.mem_singleton.1 hp
      exact (hlive hnull).1

theorem Sound.reads_touch (hI : Sound s) {act : Touch.Act}
    (hctx : ∀ p ∈ touchContext act, s.has .rdpei p = true) :
    ∀ p ∈ touchReads s.touch act, s.has .rdpei p = true := by
  have hlive := hI.live .rdpei
  intro p hp
  cases act with
  | channelConnected | channelDisconnected => cases hp
  | touchSuspend rdpei order | touchResume rdpei =>
    obtain rfl := List.mem_singleton.1 hp
    exact hctx p rfl
  | sendTouch transition =>
    rw [touchReads] at hp
    split_ifs at hp with hnull hoff
    · cases hp
    · cases hp
    · obtain rfl := List.mem_singleton.1 hp
      exact (hlive hnull).1

/-- What makes and frees nothing: the memory is as it was, and what is read is there. -/
structure Keeps (s t : State) (o : List Seen) : Prop where
  alive : t.alive = s.alive
  next : t.next = s.next
  kinds : t.kinds = s.kinds
  reads : Reads s o

/-- `channel_connected` keeps what is published in the place of its kind, and leaves the
other places as they are. -/
theorem channelConnected_spec {name : String} {p : Ptr}
    (hp : p = Ptr.null ∨ s.has (.ofName name) p = true)
    (hc : channelConnected s name p = (t, o)) :
    Keeps s t o ∧ t.isOpen = s.isOpen ∧
      (∀ kind, t.stored kind =
        if kind = .ofName name ∧ kind ≠ .foreign ∧ p ≠ Ptr.null then p else s.stored kind) ∧
      (t.clipboard.peer.outstanding ≠ [] → s.clipboard.peer.outstanding ≠ []) := by
  have hhas : ∀ {kind : Kind}, .ofName name = kind → p ≠ Ptr.null →
      ∀ q ∈ [p], s.has kind q = true := by
    rintro kind rfl hnull q hq
    rw [List.mem_singleton.1 hq]
    exact hp.resolve_left hnull
  unfold channelConnected at hc
  split_ifs at hc with hclip hnull hdisp hnull hrdpei hnull
  · obtain ⟨rfl, rfl⟩ := Prod.mk.inj hc
    exact ⟨⟨rfl, rfl, rfl, .none s rfl⟩, rfl, fun kind => by simp [hnull], id⟩
  · have hkind : Kind.ofName name = .cliprdr := if_pos hclip
    obtain ⟨rfl, rfl⟩ := Prod.mk.inj hc
    refine ⟨⟨rfl, rfl, rfl, .cliprdr, [p], hhas hkind hnull, by simp⟩, rfl, fun kind => ?_, ?_⟩
    · cases kind <;> simp [State.stored, Clipboard.channelConnected, hnull, hkind]
    · simp [Clipboard.channelConnected, hnull]
  · obtain ⟨rfl, rfl⟩ := Prod.mk.inj hc
    exact ⟨⟨rfl, rfl, rfl, .none s rfl⟩, rfl, fun kind => by simp [hnull], id⟩
  · have hkind : Kind.ofName name = .disp := by rw [Kind.ofName, if_neg hclip, if_pos hdisp]
    obtain ⟨rfl, rfl⟩ := Prod.mk.inj hc
    refine ⟨⟨rfl, rfl, rfl, .disp, [p], hhas hkind hnull, by simp⟩, rfl, fun kind => ?_, id⟩
    cases kind <;> simp [State.stored, hnull, hkind]
  · obtain ⟨rfl, rfl⟩ := Prod.mk.inj hc
    exact ⟨⟨rfl, rfl, rfl, .none s rfl⟩, rfl, fun kind => by simp [hnull], id⟩
  · have hkind : Kind.ofName name = .rdpei := by
      rw [Kind.ofName, if_neg hclip, if_neg hdisp, if_pos hrdpei]
    obtain ⟨rfl, rfl⟩ := Prod.mk.inj hc
    refine ⟨⟨rfl, rfl, rfl, .rdpei, [p], hhas hkind hnull, ?_⟩, rfl, fun kind => ?_, id⟩
    · rw [List.filterMap_append, use_accesses, use_touch, List.append_nil]
    cases kind <;> simp [State.stored, Touch.channelConnected, hnull, hkind]
  · have hkind : Kind.ofName name = .foreign := by
      rw [Kind.ofName, if_neg hclip, if_neg hdisp, if_neg hrdpei]
    obtain ⟨rfl, rfl⟩ := Prod.mk.inj hc
    refine ⟨⟨rfl, rfl, rfl, .none s rfl⟩, rfl, fun kind => ?_, id⟩
    rw [if_neg]
    rintro ⟨rfl, hne, -⟩
    exact hne hkind

/-- `channel_disconnected` empties the place of its kind, and leaves the other places as
they are. -/
theorem channelDisconnected_spec {name : String} (hc : channelDisconnected s name = (t, o)) :
    Keeps s t o ∧ t.isOpen = s.isOpen ∧
      (∀ kind, t.stored kind = if kind = .ofName name then Ptr.null else s.stored kind) ∧
      (t.clipboard.peer.outstanding ≠ [] →
        s.clipboard.peer.outstanding ≠ [] ∧ .cliprdr ≠ Kind.ofName name) := by
  unfold channelDisconnected at hc
  split_ifs at hc with hclip hdisp hrdpei
  · have hkind : Kind.ofName name = .cliprdr := if_pos hclip
    obtain ⟨rfl, rfl⟩ := Prod.mk.inj hc
    refine ⟨⟨rfl, rfl, rfl, .none s rfl⟩, rfl, fun kind => ?_, ?_⟩
    · cases kind <;> simp [State.stored, Clipboard.channelDisconnected, hkind]
    · simp [Clipboard.channelDisconnected]
  · have hkind : Kind.ofName name = .disp := by rw [Kind.ofName, if_neg hclip, if_pos hdisp]
    obtain ⟨rfl, rfl⟩ := Prod.mk.inj hc
    refine ⟨⟨rfl, rfl, rfl, .none s rfl⟩, rfl, fun kind => ?_, fun h => ⟨h, by simp [hkind]⟩⟩
    cases kind <;> simp [State.stored, hkind]
  · have hkind : Kind.ofName name = .rdpei := by
      rw [Kind.ofName, if_neg hclip, if_neg hdisp, if_pos hrdpei]
    obtain ⟨rfl, rfl⟩ := Prod.mk.inj hc
    refine ⟨⟨rfl, rfl, rfl, .none s rfl⟩, rfl, fun kind => ?_, fun h => ⟨h, by simp [hkind]⟩⟩
    cases kind <;> simp [State.stored, Touch.channelDisconnected, hkind]
  · have hkind : Kind.ofName name = .foreign := by
      rw [Kind.ofName, if_neg hclip, if_neg hdisp, if_neg hrdpei]
    obtain ⟨rfl, rfl⟩ := Prod.mk.inj hc
    refine ⟨⟨rfl, rfl, rfl, .none s rfl⟩, rfl, fun kind => ?_, fun h => ⟨h, by simp [hkind]⟩⟩
    cases kind <;> simp [State.stored, hkind]

/-- The calls of the clipboard leave its place as it is, and ask on an open channel. -/
theorem clipboard_frame {act : Clipboard.Act} {st st' : Clipboard.State}
    {obs : List Clipboard.Obs} (hact : clipboardEvent act = false)
    (hs : (Clipboard.machine entry.clipboard).step st act = some (st', obs)) :
    st'.bridge.cliprdr = st.bridge.cliprdr ∧
      (st'.peer.outstanding ≠ [] → st.peer.outstanding ≠ [] ∨ st.bridge.cliprdr ≠ Ptr.null) := by
  cases act with
  | channelConnected p => cases hact
  | channelDisconnected => cases hact
  | serverCapabilities cliprdr | monitorReady cliprdr | serverFormatList cliprdr formats
  | serverFormatDataRequest cliprdr format listening =>
    simp only [Clipboard.machine] at hs
    split_ifs at hs
    obtain ⟨rfl, -⟩ := Prod.mk.inj (Option.some.inj hs)
    exact ⟨rfl, .inl⟩
  | serverFormatDataResponse ok data =>
    obtain ⟨format, hout, hbridge, -, -⟩ := Clipboard.response_step hs
    exact ⟨by rw [hbridge], fun _ => .inl (by simp [hout])⟩
  | advertise formats =>
    rcases Clipboard.advertise_step hs with ⟨-, rfl, -⟩ | ⟨-, -, rfl, -⟩ | ⟨-, -, rfl, -⟩ <;>
      exact ⟨rfl, .inl⟩
  | request format =>
    simp only [Clipboard.machine, Clipboard.clipboardRequest] at hs
    split_ifs at hs with hnull
    · obtain ⟨rfl, -⟩ := Prod.mk.inj (Option.some.inj hs)
      exact ⟨rfl, .inl⟩
    · obtain ⟨rfl, -⟩ := Prod.mk.inj (Option.some.inj hs)
      exact ⟨rfl, .inl⟩
    · obtain ⟨rfl, -⟩ := Prod.mk.inj (Option.some.inj hs)
      exact ⟨rfl, fun _ => .inr hnull⟩
  | respond format data =>
    obtain ⟨rfl, -⟩ := Prod.mk.inj (Option.some.inj hs)
    exact ⟨rfl, .inl⟩

/-- So do those of touch. -/
theorem touch_frame {act : Touch.Act} {b b' : Touch.Bridge} {obs : List Touch.Obs}
    (hact : touchEvent act = false)
    (hs : (Touch.machine entry.touch).step b act = some (b', obs)) : b'.rdpei = b.rdpei := by
  cases act with
  | channelConnected p => cases hact
  | channelDisconnected => cases hact
  | sendTouch transition =>
    simp only [Touch.machine, Touch.sendTouch, Option.some.injEq] at hs
    split_ifs at hs <;>
    · obtain ⟨rfl, -⟩ := Prod.mk.inj hs
      rfl
  | touchSuspend rdpei order | touchResume rdpei =>
    simp only [Touch.machine] at hs
    split_ifs at hs
    obtain ⟨rfl, -⟩ := Prod.mk.inj (Option.some.inj hs)
    rfl

/-- What changes no place, and asks on an open channel only, keeps the bridge sound. -/
theorem Sound.of_stored (hI : Sound s) (hk : Keeps s t o) (hopen : t.isOpen = s.isOpen)
    (hstored : ∀ kind, t.stored kind = s.stored kind)
    (hasked : t.clipboard.peer.outstanding ≠ [] →
      s.clipboard.peer.outstanding ≠ [] ∨ s.clipboard.bridge.cliprdr ≠ Ptr.null) : Sound t := by
  refine ⟨by rw [hk.next]; exact hI.next_pos, by rw [hk.alive, hk.next]; exact hI.made, ?_, ?_⟩
  · intro kind hne
    rw [hstored kind] at hne
    obtain ⟨hhas, hisOpen⟩ := hI.live kind hne
    rw [State.has] at hhas
    rw [State.has, hk.alive, hk.kinds, hstored kind, hopen]
    exact ⟨hhas, hisOpen⟩
  · intro hne
    have hsame : t.clipboard.bridge.cliprdr = s.clipboard.bridge.cliprdr := hstored .cliprdr
    rw [hsame]
    exact (hasked hne).elim hI.asked id

theorem requestResize_spec (hI : Sound s) (request : ResizeRequest) (send : Ptr → Bool) :
    (requestResize s.display request send).1.disp = s.display.disp ∧
      Reads s (requestResize s.display request send).2 := by
  unfold requestResize
  by_cases hheld : s.display.disp = Ptr.null ∨ s.display.resizeReady = false
  · rw [if_pos hheld]
    exact ⟨rfl, .none s rfl⟩
  · rw [if_neg hheld]
    refine ⟨rfl, .disp, [s.display.disp], ?_, ?_⟩
    · intro p hp
      rw [List.mem_singleton.1 hp]
      exact (hI.live .disp fun hnull => hheld (.inl hnull)).1
    · cases send s.display.disp <;> rfl

theorem displayControlCaps_spec {disp : Ptr} (hdisp : s.has .disp disp = true) (m x y : ℕ) :
    (displayControlCaps s.display disp m x y).1.disp = s.display.disp ∧
      Reads s (displayControlCaps s.display disp m x y).2 := by
  unfold displayControlCaps
  split_ifs with hnull
  · exact ⟨rfl, .none s rfl⟩
  · refine ⟨rfl, .disp, [disp], ?_, ?_⟩
    · intro p hp
      rw [List.mem_singleton.1 hp]
      exact hdisp
    · cases s.display.pendingResize <;> simp [Seen.use]

/-- An event that opens an interface keeps the bridge sound. -/
theorem sound_channelConnected (hI : Sound s) {name : String} {p : Ptr}
    (hp : p = Ptr.null ∨ s.has (.ofName name) p = true)
    (hc : channelConnected { s with isOpen := Function.update s.isOpen p true } name p = (t, o)) :
    Keeps s t o ∧ Sound t := by
  obtain ⟨hk, hopen, hstored, hasked⟩ :=
    channelConnected_spec (s := { s with isOpen := Function.update s.isOpen p true }) hp hc
  refine ⟨⟨hk.alive, hk.next, hk.kinds, hk.reads⟩, ?_, ?_, ?_, ?_⟩
  · rw [hk.next]
    exact hI.next_pos
  · rw [hk.alive, hk.next]
    exact hI.made
  · intro kind hne
    rw [State.has, hk.alive, hk.kinds, hopen]
    rw [hstored kind] at hne ⊢
    split_ifs at hne ⊢ with hthis
    · obtain ⟨rfl, -, hnull⟩ := hthis
      exact ⟨hp.resolve_left hnull, Function.update_self ..⟩
    · obtain ⟨hhas, hisOpen⟩ := hI.live kind hne
      refine ⟨hhas, ?_⟩
      change Function.update s.isOpen p true (s.stored kind) = true
      by_cases heq : s.stored kind = p
      · rw [heq, Function.update_self]
      · rw [Function.update_of_ne heq, hisOpen]
  · intro hne
    have hcliprdr : t.stored .cliprdr ≠ Ptr.null := by
      rw [hstored .cliprdr]
      split_ifs with hthis
      · exact hthis.2.2
      · exact hI.asked (hasked hne)
    exact hcliprdr

/-- So does one that closes an interface: what it may name beside the one kept is of
another kind. -/
theorem sound_channelDisconnected (hI : Sound s) {name : String} {p : Ptr}
    (hp : p = Ptr.null ∨ s.has (.ofName name) p = true)
    (hc : channelDisconnected { s with isOpen := Function.update s.isOpen p false } name = (t, o)) :
    Keeps s t o ∧ Sound t := by
  obtain ⟨hk, hopen, hstored, hasked⟩ := channelDisconnected_spec hc
  refine ⟨⟨hk.alive, hk.next, hk.kinds, hk.reads⟩, ?_, ?_, ?_, ?_⟩
  · rw [hk.next]
    exact hI.next_pos
  · rw [hk.alive, hk.next]
    exact hI.made
  · intro kind hne
    rw [State.has, hk.alive, hk.kinds, hopen]
    rw [hstored kind] at hne ⊢
    split_ifs at hne ⊢ with hthis
    · exact absurd rfl hne
    · obtain ⟨hhas, hisOpen⟩ := hI.live kind hne
      refine ⟨hhas, ?_⟩
      change Function.update s.isOpen p false (s.stored kind) = true
      have hother : s.stored kind ≠ p := by
        rintro rfl
        have hname := hp.resolve_left hne
        simp only [State.has, Bool.and_eq_true, beq_iff_eq] at hhas hname
        exact hthis (hhas.2.symm.trans hname.2)
      rw [Function.update_of_ne hother, hisOpen]
  · intro hne
    obtain ⟨hasked, hname⟩ := hasked hne
    have hcliprdr : t.stored .cliprdr = s.stored .cliprdr := by
      rw [hstored .cliprdr, if_neg hname]
      rfl
    exact fun hnull => hI.asked hasked (hcliprdr.symm.trans hnull)

/-- **What a step can do to the interfaces.**  One is made, or one is freed that is not
open; or they are read, each alive and of its kind. -/
theorem step_spec (hI : Sound s) (hs : step entry s a = some (t, o)) :
    (∃ kind, a = .made kind ∧ o = [.memory kind (.alloc s.next)] ∧
      t = { s with
        next := s.next + 1
        alive := s.next :: s.alive
        kinds := Function.update s.kinds s.next kind }) ∨
    (∃ p, a = .freed p ∧ p ∈ s.alive ∧ s.isOpen p = false ∧
      o = [.memory (s.kinds p) (.release p)] ∧ t = { s with alive := s.alive.erase p }) ∨
    (Keeps s t o ∧ Sound t) := by
  cases a with
  | made kind =>
    obtain ⟨rfl, rfl⟩ := Prod.mk.inj (Option.some.inj hs)
    exact .inl ⟨kind, rfl, rfl, rfl⟩
  | freed p =>
    simp only [step] at hs
    split_ifs at hs with hp
    obtain ⟨rfl, rfl⟩ := Prod.mk.inj (Option.some.inj hs)
    exact .inr (.inl ⟨p, rfl, hp.1, hp.2, rfl, rfl⟩)
  | channelConnected name p =>
    simp only [step] at hs
    split_ifs at hs with hp
    exact .inr (.inr (sound_channelConnected hI hp (Option.some.inj hs)))
  | channelDisconnected name p =>
    simp only [step] at hs
    split_ifs at hs with hp
    exact .inr (.inr (sound_channelDisconnected hI hp (Option.some.inj hs)))
  | clipboard act =>
    simp only [step] at hs
    split_ifs at hs with hact
    obtain ⟨⟨st, obs⟩, hr, heq⟩ := Option.map_eq_some_iff.1 hs
    obtain ⟨rfl, rfl⟩ := Prod.mk.inj heq
    obtain ⟨hplace, hasked⟩ := clipboard_frame hact.1 hr
    have hk : Keeps s { s with clipboard := st }
        (accesses .cliprdr (clipboardReads s.clipboard.bridge act) ++ obs.map .clipboard) :=
      ⟨rfl, rfl, rfl, .cliprdr, _, hI.reads_clipboard hact.2 hr, by
        rw [List.filterMap_append, use_accesses, use_clipboard, List.append_nil]⟩
    refine .inr (.inr ⟨hk, hI.of_stored hk rfl (fun kind => ?_) hasked⟩)
    cases kind with
    | cliprdr => exact hplace
    | disp | rdpei | foreign => rfl
  | touch act =>
    simp only [step] at hs
    split_ifs at hs with hact
    obtain ⟨⟨b, obs⟩, hr, heq⟩ := Option.map_eq_some_iff.1 hs
    obtain ⟨rfl, rfl⟩ := Prod.mk.inj heq
    have hk : Keeps s { s with touch := b }
        (accesses .rdpei (touchReads s.touch act) ++ obs.map .touch) :=
      ⟨rfl, rfl, rfl, .rdpei, _, hI.reads_touch hact.2, by
        rw [List.filterMap_append, use_accesses, use_touch, List.append_nil]⟩
    refine .inr (.inr ⟨hk, hI.of_stored hk rfl (fun kind => ?_) .inl⟩)
    cases kind with
    | rdpei => exact touch_frame hact.1 hr
    | cliprdr | disp | foreign => rfl
  | displayControlCaps disp maxMonitors x y =>
    simp only [step] at hs
    split_ifs at hs with hdisp
    obtain ⟨rfl, rfl⟩ := Prod.mk.inj (Option.some.inj hs)
    obtain ⟨hplace, hreads⟩ := displayControlCaps_spec hdisp.1 maxMonitors x y
    have hk : Keeps s { s with display := (displayControlCaps s.display disp maxMonitors x y).1 }
        (displayControlCaps s.display disp maxMonitors x y).2 := ⟨rfl, rfl, rfl, hreads⟩
    refine .inr (.inr ⟨hk, hI.of_stored hk rfl (fun kind => ?_) .inl⟩)
    cases kind with
    | disp => exact hplace
    | cliprdr | rdpei | foreign => rfl
  | requestResize request =>
    obtain ⟨rfl, rfl⟩ := Prod.mk.inj (Option.some.inj hs)
    obtain ⟨hplace, hreads⟩ := requestResize_spec hI request entry.sendMonitorLayout
    have hk : Keeps s
        { s with display := (requestResize s.display request entry.sendMonitorLayout).1 }
        (requestResize s.display request entry.sendMonitorLayout).2 := ⟨rfl, rfl, rfl, hreads⟩
    refine .inr (.inr ⟨hk, hI.of_stored hk rfl (fun kind => ?_) .inl⟩)
    cases kind with
    | disp => exact hplace
    | cliprdr | rdpei | foreign => rfl

theorem has_iff {p : Ptr} : s.has kind p = true ↔ p ∈ s.alive ∧ s.kinds p = kind := by
  rw [State.has, Bool.and_eq_true, decide_eq_true_eq, beq_iff_eq]

theorem Sound.step (hI : Sound s) (hs : step entry s a = some (t, o)) : Sound t := by
  rcases step_spec hI hs with ⟨kind, rfl, rfl, rfl⟩ | ⟨p, rfl, hp, hclosed, rfl, rfl⟩ | ⟨-, hsound⟩
  · refine ⟨Nat.succ_pos _, ?_, ?_, hI.asked⟩
    · intro p hp
      rcases List.mem_cons.1 hp with rfl | hp
      · exact ⟨hI.next_pos, Nat.lt_succ_self _⟩
      · exact ⟨(hI.made p hp).1, Nat.lt_succ_of_lt (hI.made p hp).2⟩
    · intro k hne
      obtain ⟨hhas, hisOpen⟩ := hI.live k hne
      rw [has_iff] at hhas
      have hold : s.stored k ≠ s.next := ne_of_lt (hI.made _ hhas.1).2
      refine ⟨has_iff.2 ⟨List.mem_cons_of_mem _ hhas.1, ?_⟩, hisOpen⟩
      exact (Function.update_of_ne hold _ _).trans hhas.2
  · refine ⟨hI.next_pos, fun q hq => hI.made q (List.mem_of_mem_erase hq), ?_, hI.asked⟩
    intro k hne
    obtain ⟨hhas, hisOpen⟩ := hI.live k hne
    rw [has_iff] at hhas
    have hother : s.stored k ≠ p := by
      rintro rfl
      rw [hisOpen] at hclosed
      cases hclosed
    exact ⟨has_iff.2 ⟨(List.mem_erase_of_ne hother).2 hhas.1, hhas.2⟩, hisOpen⟩
  · exact hsound

/-- The plugins own what is alive. -/
def State.refs (s : State) : Multiset ℕ := s.alive

/-- **Every step keeps the accounts.** -/
theorem keeps_accounts (hI : Sound s) (hs : step entry s a = some (t, o)) :
    Triple s.refs s.next (o.filterMap Seen.event) t.refs t.next := by
  have hevents : o.filterMap Seen.event = (o.filterMap Seen.use).map Prod.snd :=
    List.map_filterMap.symm
  rw [hevents]
  rcases step_spec hI hs with ⟨kind, rfl, rfl, rfl⟩ | ⟨p, rfl, hp, -, rfl, rfl⟩ | ⟨hk, -⟩
  · exact (Triple.alloc _ _).congr rfl (Multiset.cons_coe _ _)
  · refine (Triple.release p (s.alive.erase p) s.next).congr ?_ rfl
    rw [State.refs, Multiset.cons_coe, Multiset.coe_eq_coe]
    exact List.perm_cons_erase hp
  · obtain ⟨kind, ps, hps, huse⟩ := hk.reads
    rw [huse, List.map_map, State.refs, State.refs, hk.alive, hk.next]
    exact Triple.accesses fun p hp => (has_iff.1 (hps p hp)).1

/-! ## Every run -/

variable {h : List (Move State Act Seen)}

theorem sound_of_run (hr : (machine entry).Run h s) : Sound s :=
  hr.invariant ⟨Nat.one_pos, fun _ hp => absurd hp List.not_mem_nil,
    fun kind hne => absurd (by cases kind <;> rfl) hne, fun hne => absurd rfl hne⟩
    fun _ _ _ _ hI hs => hI.step hs

/-- What is alive was made as what it is. -/
theorem made_of_run (hr : (machine entry).Run h s) :
    ∀ p ∈ s.alive, .memory (s.kinds p) (.alloc p) ∈ Machine.trace h := by
  induction hr with
  | nil => exact fun _ hp => absurd hp List.not_mem_nil
  | @snoc h s t a o hr hs ih =>
    have hI := sound_of_run hr
    intro p hp
    rw [Machine.trace_snoc, List.mem_append]
    rcases step_spec hI hs with ⟨kind, rfl, rfl, rfl⟩ | ⟨q, rfl, -, -, rfl, rfl⟩ | ⟨hk, -⟩
    · rcases List.mem_cons.1 hp with rfl | hp
      · exact .inr (by simp)
      · refine .inl ?_
        have hold : p ≠ s.next := ne_of_lt (hI.made p hp).2
        have hkinds : Function.update s.kinds s.next kind p = s.kinds p :=
          Function.update_of_ne hold _ _
        change Seen.memory (Function.update s.kinds s.next kind p) (.alloc p) ∈ _
        rw [hkinds]
        exact ih p hp
    · exact .inl (ih p (List.mem_of_mem_erase hp))
    · rw [hk.alive] at hp
      rw [hk.kinds]
      exact .inl (ih p hp)

/-- What is read was made as what it is read as. -/
theorem read_as_made (hr : (machine entry).Run h s) {p : Ptr}
    (hread : .memory kind (.access p) ∈ Machine.trace h) :
    .memory kind (.alloc p) ∈ Machine.trace h := by
  induction hr with
  | nil => cases hread
  | @snoc h s t a o hr hs ih =>
    rw [Machine.trace_snoc, List.mem_append] at hread ⊢
    rcases hread with hread | hread
    · exact .inl (ih hread)
    · rcases step_spec (sound_of_run hr) hs with ⟨k, rfl, rfl, rfl⟩ | ⟨q, rfl, -, -, rfl, rfl⟩ |
        ⟨hk, -⟩
      · simp at hread
      · simp at hread
      · obtain ⟨k, ps, hps, huse⟩ := hk.reads
        have hmem : (kind, Event.access p) ∈ o.filterMap Seen.use :=
          List.mem_filterMap.2 ⟨_, hread, rfl⟩
        rw [huse, List.mem_map] at hmem
        obtain ⟨q, hq, heq⟩ := hmem
        cases heq
        obtain ⟨halive, hkind⟩ := has_iff.1 (hps p hq)
        rw [← hkind]
        exact .inl (made_of_run hr p halive)

/-- What an event says of the interface of a channel. -/
def saysStored (kind : Kind) (m : Move State Act Seen) : Option Ptr :=
  match m.act with
  | .channelConnected name p => if kind = .ofName name ∧ p ≠ Ptr.null then some p else none
  | .channelDisconnected name _ => if kind = .ofName name then some Ptr.null else none
  | _ => none

theorem stored_step (hI : Sound s) (hs : step entry s a = some (t, o)) (hkind : kind ≠ .foreign) :
    t.stored kind = (saysStored kind ⟨s, a, o, t⟩).getD (s.stored kind) := by
  cases a with
  | channelConnected name p =>
    simp only [step] at hs
    split_ifs at hs with hp
    obtain ⟨-, -, hstored, -⟩ := channelConnected_spec
      (s := { s with isOpen := Function.update s.isOpen p true }) hp (Option.some.inj hs)
    rw [hstored kind]
    dsimp only [saysStored]
    by_cases hthis : kind = .ofName name ∧ p ≠ Ptr.null
    · rw [if_pos ⟨hthis.1, hkind, hthis.2⟩, if_pos hthis, Option.getD_some]
    · rw [if_neg fun h => hthis ⟨h.1, h.2.2⟩, if_neg hthis, Option.getD_none]
      cases kind <;> rfl
  | channelDisconnected name p =>
    simp only [step] at hs
    split_ifs at hs with hp
    obtain ⟨-, -, hstored, -⟩ := channelDisconnected_spec
      (s := { s with isOpen := Function.update s.isOpen p false }) (Option.some.inj hs)
    rw [hstored kind]
    dsimp only [saysStored]
    by_cases hthis : kind = .ofName name
    · rw [if_pos hthis, if_pos hthis, Option.getD_some]
    · rw [if_neg hthis, if_neg hthis, Option.getD_none]
      cases kind <;> rfl
  | made k =>
    obtain ⟨rfl, -⟩ := Prod.mk.inj (Option.some.inj hs)
    cases kind <;> rfl
  | freed p =>
    simp only [step] at hs
    split_ifs at hs
    obtain ⟨rfl, -⟩ := Prod.mk.inj (Option.some.inj hs)
    cases kind <;> rfl
  | clipboard act =>
    simp only [step] at hs
    split_ifs at hs with hact
    obtain ⟨⟨st, obs⟩, hr, heq⟩ := Option.map_eq_some_iff.1 hs
    obtain ⟨rfl, -⟩ := Prod.mk.inj heq
    cases kind with
    | cliprdr => exact (clipboard_frame hact.1 hr).1
    | disp | rdpei | foreign => rfl
  | touch act =>
    simp only [step] at hs
    split_ifs at hs with hact
    obtain ⟨⟨b, obs⟩, hr, heq⟩ := Option.map_eq_some_iff.1 hs
    obtain ⟨rfl, -⟩ := Prod.mk.inj heq
    cases kind with
    | rdpei => exact touch_frame hact.1 hr
    | cliprdr | disp | foreign => rfl
  | displayControlCaps disp maxMonitors x y =>
    simp only [step] at hs
    split_ifs at hs with hdisp
    obtain ⟨rfl, -⟩ := Prod.mk.inj (Option.some.inj hs)
    cases kind with
    | disp => exact (displayControlCaps_spec hdisp.1 maxMonitors x y).1
    | cliprdr | rdpei | foreign => rfl
  | requestResize request =>
    obtain ⟨rfl, -⟩ := Prod.mk.inj (Option.some.inj hs)
    cases kind with
    | disp => exact (requestResize_spec hI request entry.sendMonitorLayout).1
    | cliprdr | rdpei | foreign => rfl

theorem stored_of_run (hr : (machine entry).Run h s) (hkind : kind ≠ .foreign) :
    s.stored kind = (latest (saysStored kind) h).getD Ptr.null := by
  induction hr with
  | nil => cases kind <;> rfl
  | @snoc h s t a o hr hs ih =>
    rw [stored_step (sound_of_run hr) hs hkind, latest_snoc, ih]
    cases saysStored kind ⟨s, a, o, t⟩ <;> rfl

/-- **No call goes through a stale interface.**  Whatever the plugins publish, take back
and free, whatever they call back and whatever the callers ask for, in any order: no
interface is read or written that is not alive, none is taken for a struct it was not
made as, and the bridge keeps, of each of its channels, the interface of the last event,
which is open and alive. -/
theorem interfaces_never_dangle (hr : (machine entry).Run h s) :
    (∃ hp, Heap.empty.run ((Machine.trace h).filterMap Seen.event) = some hp ∧
      ∀ p, (hp p).owners = s.alive.count p) ∧
    (∀ kind p, .memory kind (.access p) ∈ Machine.trace h →
      .memory kind (.alloc p) ∈ Machine.trace h) ∧
    (∀ kind, kind ≠ .foreign → s.stored kind = (latest (saysStored kind) h).getD Ptr.null) ∧
    (∀ kind, s.stored kind ≠ Ptr.null →
      s.has kind (s.stored kind) = true ∧ s.isOpen (s.stored kind) = true) := by
  refine ⟨?_, fun _ _ => read_as_made hr, fun _ => stored_of_run hr, (sound_of_run hr).live⟩
  have haccounts : Accounts State.start.refs State.start.next Heap.empty :=
    ⟨fun _ => rfl, fun _ _ => rfl⟩
  obtain ⟨hp, hrun, ha⟩ := run_of_triples (M := machine entry) haccounts
    (fun _ _ hr => sound_of_run hr) (fun _ _ _ _ hI hs => keeps_accounts hI hs) hr
  exact ⟨hp, hrun, fun p => (ha.owners p).trans (Multiset.coe_count p s.alive)⟩

/-- Plugins that have set every entry point. -/
def everyEntryPoint : EntryPoints := ⟨fun _ _ => true, fun _ _ => true, fun _ => true⟩

/-- Two channels come up and one goes down, with a caller asking in between and after. -/
def upAndDown : List Act :=
  [.made .cliprdr, .channelConnected CLIPRDR_SVC_CHANNEL_NAME 1, .clipboard (.advertise []),
    .made .rdpei, .channelConnected RDPEI_DVC_CHANNEL_NAME 2, .clipboard (.monitorReady 1),
    .channelDisconnected CLIPRDR_SVC_CHANNEL_NAME 1, .freed 1, .clipboard (.request 13),
    .touch (.sendTouch ⟨.down, 7, (10, 20)⟩)]

theorem interfaces_never_dangle_upAndDown : ∃ h s, (machine everyEntryPoint).Run h s ∧
    s.alive = [2] ∧ s.stored .cliprdr = Ptr.null ∧ s.stored .rdpei = 2 ∧
    s.has .rdpei (s.stored .rdpei) = true ∧
    ∃ hp, Heap.empty.run ((Machine.trace h).filterMap Seen.event) = some hp ∧
      ∀ p, (hp p).owners = s.alive.count p := by
  have hrun := (machine everyEntryPoint).run_get upAndDown (by decide +kernel)
  obtain ⟨hmemory, -, -, hlive⟩ := interfaces_never_dangle hrun
  exact ⟨_, _, hrun, by decide +kernel, by decide +kernel, by decide +kernel,
    (hlive .rdpei (by decide +kernel)).1, hmemory⟩

end Interfaces
end Session
end FreerdpPrebuilt
