import FreerdpPrebuilt.Basic
import FreerdpPrebuilt.Session.Command
import FreerdpPrebuilt.Lib.Machine
import Mathlib.Logic.Function.Basic

/-!
# The clipboard channel

`cliprdr` is a negotiation: whoever copies advertises formats, whoever pastes
asks for one of them.  The callbacks here run on FreeRDP's channel context, the
commands of `clipboard.rs` on the event loop, and between them stand the channel
pointer, the flag that the capability exchange is over, and one held
advertisement.

FreeRDP's side is kept as far as the crate relies on it: a request that is sent
leaves its format in the context's `lastRequestedFormatId`, and the server
answers its requests in the order it received them.
-/

namespace FreerdpPrebuilt
namespace Clipboard

open Labelled

/-- The part of `Bridge` the clipboard functions use. -/
structure Bridge where
  /-- The open channel's context, or null. -/
  cliprdr : Ptr
  clipboardReady : Bool
  pendingAdvertise : Option (List ClipboardFormat)
  deriving DecidableEq

/-- FreeRDP's side of the channel, and the server behind it. -/
structure Peer where
  /-- The contexts whose `custom` and callbacks have been set. -/
  installed : Ptr → Bool
  /-- `lastRequestedFormatId` of each context. -/
  lastRequestedFormatId : Ptr → ℕ
  /-- The requests the server has received on the open channel and not answered. -/
  outstanding : List ℕ

structure State where
  bridge : Bridge
  peer : Peer

/-- A session before its clipboard channel has come up. -/
def State.start : State := ⟨⟨Ptr.null, false, none⟩, ⟨fun _ => false, fun _ => 0, []⟩⟩

/-- `ClipboardEvent`. -/
inductive ClipboardEvent
  | ready
  | remoteFormats (formats : List ClipboardFormat)
  | remoteData (format : ℕ) (data : Bytes)
  | remoteDataFailed (format : ℕ)
  | localDataRequest (format : ℕ)
  deriving DecidableEq

/-- The functions of a client context that this crate calls. -/
inductive EntryPoint
  | clientCapabilities
  | clientFormatList
  | clientFormatListResponse
  | clientFormatDataRequest
  | clientFormatDataResponse
  deriving DecidableEq

/-- What is seen of the clipboard. -/
inductive Obs
  | clientCapabilities (cliprdr : Ptr)
  | clientFormatList (cliprdr : Ptr) (formats : List ClipboardFormat)
  | clientFormatListResponse (cliprdr : Ptr)
  | clientFormatDataRequest (cliprdr : Ptr) (format : ℕ)
  | clientFormatDataResponse (cliprdr : Ptr) (refused : Bool) (payload : Bytes)
  | event (event : ClipboardEvent)
  deriving DecidableEq

/-- What can happen next. -/
inductive Act
  | channelConnected (pInterface : Ptr)
  | channelDisconnected
  | serverCapabilities (cliprdr : Ptr)
  | monitorReady (cliprdr : Ptr)
  | serverFormatList (cliprdr : Ptr) (formats : List ClipboardFormat)
  /-- The server asks for a format, and somebody listens for the event or not. -/
  | serverFormatDataRequest (cliprdr : Ptr) (format : ℕ) (listening : Bool)
  /-- The server answers its oldest unanswered request. -/
  | serverFormatDataResponse (ok : Bool) (data : Option Bytes)
  | advertise (formats : List ClipboardFormat)
  | request (format : ℕ)
  | respond (format : ℕ) (data : Option Bytes)
  deriving DecidableEq

variable (entry : Ptr → EntryPoint → Bool)

/-- Call an entry point of a context, if it is set. -/
def call (cliprdr : Ptr) (point : EntryPoint) (obs : Obs) : List Obs :=
  if entry cliprdr point then [obs] else []

/-- `send_client_capabilities`. -/
def sendClientCapabilities (cliprdr : Ptr) : List Obs :=
  call entry cliprdr .clientCapabilities (.clientCapabilities cliprdr)

/-- The list as `send_format_list` puts it: a name that is no C string is left
out. -/
def formatList (formats : List ClipboardFormat) : List ClipboardFormat :=
  formats.map fun format =>
    { format with name := format.name.filter fun name => !name.toList.contains '\x00' }

/-- `send_format_list`. -/
def sendFormatList (cliprdr : Ptr) (formats : List ClipboardFormat) : List Obs :=
  call entry cliprdr .clientFormatList (.clientFormatList cliprdr (formatList formats))

/-- `respond_with`: the refusal is `None`, not emptiness. -/
def respondWith (cliprdr : Ptr) (data : Option Bytes) : List Obs :=
  call entry cliprdr .clientFormatDataResponse
    (.clientFormatDataResponse cliprdr data.isNone (data.getD []))

/-- `channel_connected`, for cliprdr.  The new channel has no requests on it. -/
def channelConnected (st : State) (pInterface : Ptr) : State :=
  if pInterface = Ptr.null then st
  else
    { bridge := { st.bridge with cliprdr := pInterface }
      peer := { st.peer with
        installed := Function.update st.peer.installed pInterface true
        outstanding := [] } }

/-- `channel_disconnected`, for cliprdr.  What was asked on the channel is not
answered any more. -/
def channelDisconnected (st : State) : State :=
  { bridge := { st.bridge with cliprdr := Ptr.null, clipboardReady := false }
    peer := { st.peer with outstanding := [] } }

/-- `clipboard_monitor_ready`. -/
def monitorReady (st : State) (cliprdr : Ptr) : State × List Obs :=
  ({ st with bridge := { st.bridge with clipboardReady := true, pendingAdvertise := none } },
    sendClientCapabilities entry cliprdr ++ [.event .ready] ++
      match st.bridge.pendingAdvertise with
      | some formats => sendFormatList entry cliprdr formats
      | none => [])

/-- `clipboard_server_format_list`: the response goes first. -/
def serverFormatList (cliprdr : Ptr) (formats : List ClipboardFormat) : List Obs :=
  call entry cliprdr .clientFormatListResponse (.clientFormatListResponse cliprdr) ++
    [.event (.remoteFormats formats)]

/-- `clipboard_server_format_data_request`: refused when nobody listens. -/
def serverFormatDataRequest (cliprdr : Ptr) (format : ℕ) (listening : Bool) : List Obs :=
  if listening then [.event (.localDataRequest format)] else respondWith entry cliprdr none

/-- `clipboard_server_format_data_response`, on the open channel's context. -/
def serverFormatDataResponse (st : State) (ok : Bool) (data : Option Bytes) : ClipboardEvent :=
  let format := st.peer.lastRequestedFormatId st.bridge.cliprdr
  match ok, data with
  | true, some data => .remoteData format data
  | _, _ => .remoteDataFailed format

/-- `clipboard_advertise`. -/
def clipboardAdvertise (st : State) (formats : List ClipboardFormat) : State × List Obs :=
  if st.bridge.cliprdr = Ptr.null then (st, [])
  else if st.bridge.clipboardReady = false then
    ({ st with bridge := { st.bridge with pendingAdvertise := some formats } }, [])
  else (st, sendFormatList entry st.bridge.cliprdr formats)

/-- What FreeRDP and the server do with a request that is sent. -/
def Peer.requested (peer : Peer) (cliprdr : Ptr) (format : ℕ) : Peer :=
  { peer with
    lastRequestedFormatId := Function.update peer.lastRequestedFormatId cliprdr format
    outstanding := peer.outstanding ++ [format] }

/-- `clipboard_request`. -/
def clipboardRequest (st : State) (format : ℕ) : State × List Obs :=
  let cliprdr := st.bridge.cliprdr
  if cliprdr = Ptr.null then (st, [])
  else if entry cliprdr .clientFormatDataRequest = false then (st, [])
  else ({ st with peer := st.peer.requested cliprdr format },
    [.clientFormatDataRequest cliprdr format])

/-- `clipboard_respond`. -/
def clipboardRespond (st : State) (_format : ℕ) (data : Option Bytes) : List Obs :=
  if st.bridge.cliprdr = Ptr.null then [] else respondWith entry st.bridge.cliprdr data

/-- The clipboard as a machine.  A callback comes on a context that was given
it; an answer comes on the open channel, to its oldest unanswered request. -/
def machine : Machine State Act Obs where
  init := .start
  step st
    | .channelConnected pInterface => some (channelConnected st pInterface, [])
    | .channelDisconnected => some (channelDisconnected st, [])
    | .serverCapabilities cliprdr =>
      if st.peer.installed cliprdr = true then some (st, sendClientCapabilities entry cliprdr)
      else none
    | .monitorReady cliprdr =>
      if st.peer.installed cliprdr = true then some (monitorReady entry st cliprdr) else none
    | .serverFormatList cliprdr formats =>
      if st.peer.installed cliprdr = true then some (st, serverFormatList entry cliprdr formats)
      else none
    | .serverFormatDataRequest cliprdr format listening =>
      if st.peer.installed cliprdr = true then
        some (st, serverFormatDataRequest entry cliprdr format listening)
      else none
    | .serverFormatDataResponse ok data =>
      match st.peer.outstanding with
      | [] => none
      | _ :: rest =>
        some ({ st with peer := { st.peer with outstanding := rest } },
          [.event (serverFormatDataResponse st ok data)])
    | .advertise formats => some (clipboardAdvertise entry st formats)
    | .request format => some (clipboardRequest entry st format)
    | .respond format data => some (st, clipboardRespond entry st format data)

/-! ## One step -/

variable {entry}
variable {st st' : State} {o : List Obs}

/-- A call shows nothing of a kind that its observation does not. -/
theorem filterMap_call {β : Type*} {f : Obs → Option β} {obs : Obs} (hf : f obs = none)
    (cliprdr : Ptr) (point : EntryPoint) : (call entry cliprdr point obs).filterMap f = [] := by
  unfold call
  split_ifs <;> simp [hf]

/-- A list that is advertised is dropped, held, or sent. -/
theorem advertise_step {formats : List ClipboardFormat}
    (hs : (machine entry).step st (.advertise formats) = some (st', o)) :
    (st.bridge.cliprdr = Ptr.null ∧ st' = st ∧ o = []) ∨
      (st.bridge.cliprdr ≠ Ptr.null ∧ st.bridge.clipboardReady = false ∧
        st' = { st with bridge := { st.bridge with pendingAdvertise := some formats } } ∧
        o = []) ∨
      (st.bridge.cliprdr ≠ Ptr.null ∧ st.bridge.clipboardReady = true ∧ st' = st ∧
        o = sendFormatList entry st.bridge.cliprdr formats) := by
  have hs : clipboardAdvertise entry st formats = (st', o) := by simpa [machine] using hs
  unfold clipboardAdvertise at hs
  split_ifs at hs with hnull hready
  · obtain ⟨rfl, rfl⟩ := Prod.mk.inj hs
    exact .inl ⟨hnull, rfl, rfl⟩
  · obtain ⟨rfl, rfl⟩ := Prod.mk.inj hs
    exact .inr (.inl ⟨hnull, hready, rfl, rfl⟩)
  · obtain ⟨rfl, rfl⟩ := Prod.mk.inj hs
    exact .inr (.inr ⟨hnull, by simpa using hready, rfl, rfl⟩)

/-- A request is dropped, or it is sent: the server has it, and the slot holds
its format. -/
theorem request_step {format : ℕ}
    (hs : (machine entry).step st (.request format) = some (st', o)) :
    (st' = st ∧ o = []) ∨
      (st' = { st with peer := st.peer.requested st.bridge.cliprdr format } ∧
        o = [.clientFormatDataRequest st.bridge.cliprdr format]) := by
  have hs : clipboardRequest entry st format = (st', o) := by simpa [machine] using hs
  simp only [clipboardRequest] at hs
  split_ifs at hs
  · obtain ⟨rfl, rfl⟩ := Prod.mk.inj hs
    exact .inl ⟨rfl, rfl⟩
  · obtain ⟨rfl, rfl⟩ := Prod.mk.inj hs
    exact .inl ⟨rfl, rfl⟩
  · obtain ⟨rfl, rfl⟩ := Prod.mk.inj hs
    exact .inr ⟨rfl, rfl⟩

/-- A response takes the oldest request off, and its event carries the slot. -/
theorem response_step {ok : Bool} {data : Option Bytes}
    (hs : (machine entry).step st (.serverFormatDataResponse ok data) = some (st', o)) :
    ∃ format, st.peer.outstanding = format :: st'.peer.outstanding ∧
      st'.bridge = st.bridge ∧
      st'.peer.lastRequestedFormatId = st.peer.lastRequestedFormatId ∧
      o = [.event (serverFormatDataResponse st ok data)] := by
  cases hout : st.peer.outstanding with
  | nil => simp [machine, hout] at hs
  | cons format rest =>
    obtain ⟨rfl, rfl⟩ : _ ∧ _ := by simpa [machine, hout] using hs
    exact ⟨format, rfl, rfl, rfl, rfl⟩

end Clipboard
end FreerdpPrebuilt
