import FreerdpPrebuilt.Lib.Ownership

/-!
# The boxes of a dynamic channel plugin

`camera.rs` and `mic.rs` each give drdynvc a plugin.  The plugin gives its
channel manager listeners, and a listener makes a callback struct for every
channel the server opens.  All of these are boxes leaked to C: the plugin comes
back through `Terminated`, a channel's callback through its one `OnClose`, and a
listener's callback through nothing at all, so that the plugin frees it after
`DestroyListener`.  Under all of them lies the endpoint's shared state, counted
by the embedder's handles, the session's bridge and the plugins.

The two files differ in their listeners and in nothing else that touches these blocks,
so they are one model with the listeners as its parameter.  The blocks are the crate's own.
What drdynvc allocates, the channel objects that the crate keeps pointers to among them, is
no part of the model.
-/

namespace FreerdpPrebuilt
namespace Dvc

open Labelled Ownership

def CHANNEL_RC_OK : ℕ := 0
def CHANNEL_RC_ALREADY_INITIALIZED : ℕ := 1
def CHANNEL_RC_INITIALIZATION_ERROR : ℕ := 20

/-! ## What is kept -/

/-- A listener a plugin creates: the channel it listens for, and whether the
opening of such a channel is told to the embedder. -/
structure ListenerSpec where
  channel : String
  attaches : Bool
  deriving DecidableEq, Repr

/-- The two plugins of the crate. -/
inductive Endpoint
  | rdpecam
  | audin
  deriving DecidableEq, Repr

/-- The listeners of each, in the order `plugin_initialize` creates them. -/
def Endpoint.listeners : Endpoint → List ListenerSpec
  | .rdpecam => [⟨"RDCamera_Device_Enumerator", false⟩, ⟨"RustCam_0", true⟩]
  | .audin => [⟨"AUDIO_INPUT", false⟩]

/-- The functions of a channel manager a plugin uses, as far as they are set.  A
manager that can create listeners can destroy them. -/
structure Manager where
  createListener : Bool
  destroyListener : Bool
  paired : createListener = true → destroyListener = true

/-- A listener, with the block of its `ListenerCallback`. -/
structure Listener where
  callback : ℕ
  spec : ListenerSpec
  deriving DecidableEq, Repr

/-- A registered plugin, with its own block. -/
structure Plugin where
  block : ℕ
  /-- Whether `Initialize` has been called. -/
  initialized : Bool
  mgr : Option Manager
  listeners : List Listener

/-- An open channel, with the block of its `ChannelCallback`. -/
structure Channel where
  callback : ℕ
  attaches : Bool
  deriving DecidableEq, Repr

/-- The block of the shared state, an `Arc`. -/
def shared : ℕ := 0

/-- The block of the embedder's events object, an `Arc` the shared state owns. -/
def events : ℕ := 1

/-- Everything that holds one of the crate's blocks. -/
structure State where
  /-- The number of the next block. -/
  next : ℕ
  /-- The embedder's handles: clones of the `Camera` or the `Microphone`. -/
  handles : ℕ
  /-- Whether a session's bridge holds another. -/
  bridge : Bool
  plugins : List Plugin
  /-- The listeners the channel manager may still call. -/
  listeners : List Listener
  channels : List Channel

/-- A new `Camera` or `Microphone`, in the hands of the embedder. -/
def State.start : State := ⟨2, 1, false, [], [], []⟩

/-- The owners of the shared state. -/
def State.owners (s : State) : ℕ := s.handles + s.bridge.toNat + s.plugins.length

/-! ## The functions -/

/-- Drop one of `owners` references to the shared state; with the last goes the
state's own reference to the events object. -/
def dropShared (owners : ℕ) : List Event :=
  if owners = 1 then [.release shared, .release events] else [.release shared]

/-- Tell the embedder something. -/
def tell (told : Bool) : List Event := if told then [.access shared, .access events] else []

/-- What drdynvc's entry points answer `plugin_entry`. -/
structure EntryPoints where
  /-- `GetPlugin`, if set: whether the plugin is there already. -/
  getPlugin : Option Bool
  /-- Whether `GetRdpContext` is set and leads to the bridge. -/
  getRdpContext : Bool
  /-- `RegisterPlugin`, if set. -/
  registerPlugin : Option ℕ
  deriving DecidableEq, Repr

/-- `plugin_entry`. -/
def pluginEntry (s : State) : Option EntryPoints → State × List Event × ℕ
  | none => (s, [], CHANNEL_RC_INITIALIZATION_ERROR)
  | some entryPoints =>
    if entryPoints.getPlugin = some true then (s, [], CHANNEL_RC_ALREADY_INITIALIZED)
    else if entryPoints.getRdpContext = false then (s, [], CHANNEL_RC_INITIALIZATION_ERROR)
    else
      -- the bridge's handle is cloned for the call, and its `Arc` for the plugin
      let made : List Event := [.retain shared, .retain shared, .alloc s.next]
      let rc := entryPoints.registerPlugin.getD CHANNEL_RC_INITIALIZATION_ERROR
      if rc = CHANNEL_RC_OK then
        ({ s with next := s.next + 1, plugins := ⟨s.next, false, none, []⟩ :: s.plugins },
          made ++ [.release shared], rc)
      else
        ({ s with next := s.next + 1 },
          made ++ [.release shared, .release s.next, .release shared], rc)

/-- The listeners of `plugin_initialize`, one after another up to the first that
is refused: `create_listener` for each, its box freed again if the manager would
not have it. -/
def createListeners (mgr : Manager) (create : String → ℕ) :
    ℕ → List ListenerSpec → List Listener × List Event × ℕ × ℕ
  | next, [] => ([], [], next, CHANNEL_RC_OK)
  | next, spec :: specs =>
    let rc := if mgr.createListener then create spec.channel else CHANNEL_RC_INITIALIZATION_ERROR
    if rc = CHANNEL_RC_OK then
      let (listeners, es, next', rc') := createListeners mgr create (next + 1) specs
      (⟨next, spec⟩ :: listeners, .alloc next :: es, next', rc')
    else ([], [.alloc next, .release next], next + 1, rc)

/-- `plugin_initialize`. -/
def pluginInitialize (specs : List ListenerSpec) (s : State) (p : Plugin) (rest : List Plugin)
    (create : String → ℕ) : Option Manager → State × List Event × ℕ
  | none =>
    ({ s with plugins := { p with initialized := true } :: rest }, [],
      CHANNEL_RC_INITIALIZATION_ERROR)
  | some mgr =>
    let (listeners, es, next, rc) := createListeners mgr create s.next specs
    ({ s with
        next := next
        plugins := { p with initialized := true, mgr := some mgr, listeners := listeners } :: rest
        listeners := listeners ++ s.listeners },
      .access p.block :: es, rc)

/-- Whether `plugin_terminated` destroys the plugin's listeners. -/
def Plugin.destroys (p : Plugin) : Bool :=
  match p.mgr with
  | some mgr => mgr.destroyListener
  | none => false

/-- `plugin_terminated`: the listeners, then their callbacks, then the plugin's
count on the shared state, then the plugin.  The events object is held past the
drop, so that the embedder can still be told. -/
def pluginTerminated (s : State) (p : Plugin) (rest : List Plugin) (stopped : Bool) :
    State × List Event :=
  ({ s with
      plugins := rest
      listeners := if p.destroys then s.listeners.filter fun l => l ∉ p.listeners
        else s.listeners },
    [.access p.block] ++ (p.listeners.map Listener.callback).map .release ++
      [.access shared, .retain events] ++ dropShared s.owners ++ [.release p.block] ++
      (if stopped then [.access events] else []) ++ [.release events])

/-- `on_new_channel_connection`; the channel and the place for its callback are
null or not. -/
def onNewChannelConnection (s : State) (l : Listener) (pointers : Bool) :
    State × List Event × ℕ :=
  if pointers then
    ({ s with next := s.next + 1, channels := ⟨s.next, l.spec.attaches⟩ :: s.channels },
      [.access l.callback, .alloc s.next], CHANNEL_RC_OK)
  else (s, [], CHANNEL_RC_INITIALIZATION_ERROR)

/-- `on_open`. -/
def onOpen (c : Channel) : List Event := [.access c.callback, .access shared] ++ tell c.attaches

/-- `on_data_received`; the message is told to the embedder or not. -/
def onDataReceived (c : Channel) (told : Bool) : List Event :=
  [.access c.callback, .access shared] ++ tell told

/-- `on_close`, which takes the callback's box back. -/
def onClose (c : Channel) (stopped : Bool) : List Event :=
  [.access c.callback, .access shared] ++ tell stopped ++ [.release c.callback]

/-! ## The plugin among its callers -/

/-- What is seen: the memory, and what drdynvc is answered. -/
inductive Seen
  | memory (event : Event)
  | returned (rc : ℕ)
  deriving DecidableEq, Repr

/-- The memory events seen. -/
def Seen.event : Seen → Option Event
  | .memory event => some event
  | .returned _ => none

/-- What can happen next. -/
inductive Act
  /-- The embedder clones a handle. -/
  | clone
  /-- The embedder drops a handle. -/
  | drop
  /-- The embedder calls a method, which tells it something or not. -/
  | call (told : Bool)
  /-- `run` makes a bridge, with a clone of the session's handle. -/
  | bridgeMade
  /-- `run` reclaims the bridge. -/
  | bridgeReclaimed
  | pluginEntry (entryPoints : Option EntryPoints)
  /-- `Initialize` of the plugin in this block. -/
  | pluginInitialize (block : ℕ) (mgr : Option Manager) (create : String → ℕ)
  /-- `Terminated` of the plugin in this block. -/
  | pluginTerminated (block : ℕ) (stopped : Bool)
  /-- `OnNewChannelConnection` of the listener with this callback. -/
  | newChannel (callback : ℕ) (pointers : Bool)
  | onOpen (callback : ℕ)
  | onDataReceived (callback : ℕ) (told : Bool)
  | onClose (callback : ℕ) (stopped : Bool)

/-- An answer to drdynvc, after the memory events of the call. -/
def answer (r : State × List Event × ℕ) : State × List Seen :=
  (r.1, r.2.1.map .memory ++ [.returned r.2.2])

/-- A call with nothing to answer. -/
def quiet (s : State) (es : List Event) : State × List Seen := (s, es.map .memory)

variable (specs : List ListenerSpec)

/-- One step.  drdynvc initialises a plugin once and terminates it once, calls
only listeners that are not destroyed, and closes a channel once; the bridge goes
after the last of its callbacks. -/
def step (s : State) : Act → Option (State × List Seen)
  | .clone =>
    if 0 < s.handles then
      some (quiet { s with handles := s.handles + 1 } [.retain shared])
    else none
  | .drop =>
    if 0 < s.handles then
      some (quiet { s with handles := s.handles - 1 } (dropShared s.owners))
    else none
  | .call told => if 0 < s.handles then some (quiet s (.access shared :: tell told)) else none
  | .bridgeMade =>
    if 0 < s.handles ∧ s.bridge = false then
      some (quiet { s with bridge := true } [.retain shared])
    else none
  | .bridgeReclaimed =>
    if s.bridge = true ∧ s.plugins.isEmpty ∧ s.channels.isEmpty then
      some (quiet { s with bridge := false } (dropShared s.owners))
    else none
  | .pluginEntry entryPoints =>
    if s.bridge = true then some (answer (pluginEntry s entryPoints)) else none
  | .pluginInitialize block mgr create =>
    match s.plugins.find? (fun p => p.block == block && !p.initialized) with
    | none => none
    | some p =>
      some (answer (pluginInitialize specs s p
        (s.plugins.eraseP fun p => p.block == block && !p.initialized) create mgr))
  | .pluginTerminated block stopped =>
    match s.plugins.find? (fun p => p.block == block) with
    | none => none
    | some p =>
      let r := pluginTerminated s p (s.plugins.eraseP fun p => p.block == block) stopped
      some (answer (r.1, r.2, CHANNEL_RC_OK))
  | .newChannel callback pointers =>
    match s.listeners.find? (fun l => l.callback == callback) with
    | none => none
    | some l => some (answer (onNewChannelConnection s l pointers))
  | .onOpen callback =>
    match s.channels.find? (fun c => c.callback == callback) with
    | none => none
    | some c => some (answer (s, onOpen c, CHANNEL_RC_OK))
  | .onDataReceived callback told =>
    match s.channels.find? (fun c => c.callback == callback) with
    | none => none
    | some c => some (answer (s, onDataReceived c told, CHANNEL_RC_OK))
  | .onClose callback stopped =>
    match s.channels.find? (fun c => c.callback == callback) with
    | none => none
    | some c =>
      some (answer ({ s with channels := s.channels.eraseP fun c => c.callback == callback },
        onClose c stopped, CHANNEL_RC_OK))

/-- **A plugin and everybody who holds a pointer to it, as a machine.** -/
def machine (endpoint : Endpoint) : Machine State Act Seen := ⟨.start, step endpoint.listeners⟩

end Dvc
end FreerdpPrebuilt
