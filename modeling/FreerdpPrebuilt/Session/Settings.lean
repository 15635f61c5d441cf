import FreerdpPrebuilt.Lib.Writes
import Mathlib.Data.UInt

/-!
# The settings of a session

`apply_settings` makes FreeRDP's settings from a `Connect`: strings, numbers and switches,
one after another until one is refused, and after all of them the channels that no switch
loads.

* `settings_carry_the_config` — no setting is made twice.  If it succeeds, the configuration
  can be read back from settings and channels; what it does not write is as it was; and the
  settings go together, whatever was asked for: one security mode or all, one of the three
  audio modes, a codec with the graphics pipeline, nothing that opens the message channel,
  and the channels that were asked for, once.  If it fails, either a setting was refused,
  all before it are made and there are no channels; or all settings are made, a channel was
  refused, and those before it are registered.

FreeRDP may refuse any setting and any channel.
-/

namespace FreerdpPrebuilt
namespace Session
namespace Settings

/-! ## The configuration -/

inductive Security
  | auto
  | nla
  | tls
  | rdp
  deriving DecidableEq

/-- Where the sound goes; the sink of a `Redirect` is no matter here. -/
inductive AudioMode
  | redirect
  | leaveOnHost
  | mute
  deriving DecidableEq

/-- `std::time::Duration`. -/
structure Duration where
  secs : ℕ
  nanos : ℕ
  whole : nanos < 1000000000
  deriving DecidableEq

structure KeepAlive where
  idle : Duration
  interval : Duration
  retries : UInt32
  ackTimeout : Duration

/-- `Connect`; of the camera and the microphone, whether there is one. -/
structure Connect where
  host : String
  port : UInt16
  username : String
  password : String
  domain : Option String
  width : UInt32
  height : UInt32
  security : Security
  clipboard : Bool
  audio : AudioMode
  camera : Bool
  microphone : Bool
  resize : Bool
  egfx : Bool
  touch : Bool
  connectTimeout : Duration
  keepalive : KeepAlive

/-- `Duration::from_secs`. -/
def Duration.fromSecs (secs : ℕ) : Duration := ⟨secs, 0, by decide⟩

def KeepAlive.default : KeepAlive where
  idle := .fromSecs 10
  interval := .fromSecs 5
  retries := 3
  ackTimeout := .fromSecs 30

def Connect.default : Connect where
  host := ""
  port := 3389
  username := ""
  password := ""
  domain := none
  width := 1024
  height := 768
  security := .auto
  clipboard := true
  audio := .leaveOnHost
  camera := false
  microphone := false
  resize := false
  egfx := true
  touch := false
  connectTimeout := .fromSecs 15
  keepalive := .default

/-- There is sound, a camera or a microphone to carry. -/
def Connect.wantsProvider (config : Connect) : Bool :=
  config.audio = .redirect || config.camera || config.microphone

/-- `seconds`: it saturates. -/
def seconds (duration : Duration) : UInt32 := UInt32.ofNat (min duration.secs 4294967295)

/-- `millis`: it saturates. -/
def millis (duration : Duration) : UInt32 :=
  UInt32.ofNat (min (duration.secs * 1000 + duration.nanos / 1000000) 4294967295)

/-! ## FreeRDP's settings -/

inductive StringKey
  | ServerHostname | Username | Password | Domain
  deriving DecidableEq

inductive UInt32Key
  | ServerPort | DesktopWidth | DesktopHeight | ColorDepth | TcpConnectTimeout
  | TcpKeepAliveDelay | TcpKeepAliveInterval | TcpKeepAliveRetries | TcpAckTimeout
  | ConnectionType | OffscreenSupportLevel | GlyphSupportLevel
  deriving DecidableEq

inductive BoolKey
  | NlaSecurity | TlsSecurity | RdpSecurity | UseRdpSecurityLayer | NegotiateSecurityLayer
  | TcpKeepAlive | NetworkAutoDetect | SupportMultitransport | SupportHeartbeatPdu
  | RedirectClipboard | AudioPlayback | RemoteConsoleAudio | AudioCapture | SoftwareGdi
  | DeactivateClientDecoding | SupportGraphicsPipeline | RemoteFxCodec | SupportDisplayControl
  | MultiTouchInput | RefreshRect | SuppressOutput | AutoReconnectionEnabled
  | SupportErrorInfoPdu | FastPathInput | FastPathOutput | FrameMarkerCommandEnabled
  | SurfaceFrameMarkerEnabled | DisableWallpaper | DisableFullWindowDrag | DisableMenuAnims
  | DisableThemes | BitmapCacheEnabled
  deriving DecidableEq

inductive Key
  | string (key : StringKey)
  | uint32 (key : UInt32Key)
  | bool (key : BoolKey)
  deriving DecidableEq

inductive Value
  | string (value : String)
  | uint32 (value : UInt32)
  | bool (value : Bool)
  deriving DecidableEq

/-- A channel's name and arguments, as `freerdp_client_add_static_channel` takes them. -/
abbrev Channel := List String

structure RdpSettings where
  values : Key → Value
  staticChannels : List Channel
  dynamicChannels : List Channel

/-- What FreeRDP takes. -/
structure FreeRdp where
  accepts : Key × Value → Bool
  addsStatic : Channel → Bool
  addsDynamic : Channel → Bool

def CONNECTION_TYPE_LAN : UInt32 := 6

def GLYPH_SUPPORT_FULL : UInt32 := 2

def SUBSYSTEM_ARG : String := "sys:rust"

/-! ## `apply_settings` -/

/-- What is set by `set_string`, in this order. -/
def strings (config : Connect) : List (Key × Value) :=
  [(.string .ServerHostname, .string config.host),
    (.string .Username, .string config.username),
    (.string .Password, .string config.password)] ++
  config.domain.toList.map fun domain => (.string .Domain, .string domain)

def uints (config : Connect) : List (Key × Value) :=
  [(.ServerPort, config.port.toUInt32), (.DesktopWidth, config.width),
    (.DesktopHeight, config.height), (.ColorDepth, 32),
    (.TcpConnectTimeout, millis config.connectTimeout),
    (.TcpKeepAliveDelay, seconds config.keepalive.idle),
    (.TcpKeepAliveInterval, seconds config.keepalive.interval),
    (.TcpKeepAliveRetries, config.keepalive.retries),
    (.TcpAckTimeout, millis config.keepalive.ackTimeout),
    (.ConnectionType, CONNECTION_TYPE_LAN), (.OffscreenSupportLevel, 1),
    (.GlyphSupportLevel, GLYPH_SUPPORT_FULL)].map
    fun (key, value) => (.uint32 key, .uint32 value)

/-- `(nla, tls, rdp)`. -/
def layers : Security → Bool × Bool × Bool
  | .auto => (true, true, true)
  | .nla => (true, false, false)
  | .tls => (false, true, false)
  | .rdp => (false, false, true)

def bools (config : Connect) : List (Key × Value) :=
  let offered := layers config.security
  [(.NlaSecurity, offered.1), (.TlsSecurity, offered.2.1), (.RdpSecurity, offered.2.2),
    (.UseRdpSecurityLayer, config.security = .rdp),
    (.NegotiateSecurityLayer, config.security = .auto),
    (.TcpKeepAlive, true), (.NetworkAutoDetect, false), (.SupportMultitransport, false),
    (.SupportHeartbeatPdu, false), (.RedirectClipboard, config.clipboard),
    (.AudioPlayback, config.audio ≠ .mute), (.RemoteConsoleAudio, config.audio = .leaveOnHost),
    (.AudioCapture, config.microphone), (.SoftwareGdi, true), (.DeactivateClientDecoding, false),
    (.SupportGraphicsPipeline, config.egfx), (.RemoteFxCodec, config.egfx),
    (.SupportDisplayControl, config.resize), (.MultiTouchInput, config.touch),
    (.RefreshRect, true), (.SuppressOutput, true), (.AutoReconnectionEnabled, false),
    (.SupportErrorInfoPdu, true), (.FastPathInput, true), (.FastPathOutput, true),
    (.FrameMarkerCommandEnabled, true), (.SurfaceFrameMarkerEnabled, true),
    (.DisableWallpaper, true), (.DisableFullWindowDrag, true), (.DisableMenuAnims, true),
    (.DisableThemes, true), (.BitmapCacheEnabled, true)].map
    fun (key, value) => (.bool key, .bool value)

/-- The three loops, one after another. -/
def table (config : Connect) : List (Key × Value) := strings config ++ uints config ++ bools config

/-- What is said of a setting that FreeRDP rejects. -/
def rejection : Key → String
  | .string _ => "a connection string was rejected by FreeRDP"
  | .uint32 _ => "a numeric setting was rejected by FreeRDP"
  | .bool _ => "a boolean setting was rejected by FreeRDP"

/-- `CString::new`. -/
def holdsNul : Value → Bool
  | .string value => value.toList.contains '\x00'
  | .uint32 _ | .bool _ => false

variable (rdp : FreeRdp)

/-- Why a setting is not made. -/
def refuses (w : Key × Value) : Option String :=
  if holdsNul w.2 then some "a connection string contains a NUL byte"
  else if rdp.accepts w then none
  else some (rejection w.1)

/-- `freerdp_client_add_static_channel` and `freerdp_client_add_dynamic_channel`: nothing
happens when the name is there. -/
def add (channel : Channel) (channels : List Channel) : List Channel :=
  if channels.any fun other => other.head? = channel.head? then channels else channels ++ [channel]

/-- `register_audio_channels`: both are tried. -/
def registerAudioChannels (s : RdpSettings) : RdpSettings × Option String :=
  let params := ["rdpsnd", SUBSYSTEM_ARG]
  let addedStatic := rdp.addsStatic params
  let addedDynamic := rdp.addsDynamic params
  ({ s with
      staticChannels := if addedStatic then add params s.staticChannels else s.staticChannels
      dynamicChannels := if addedDynamic then add params s.dynamicChannels else s.dynamicChannels },
    if addedStatic && addedDynamic then none else some "FreeRDP refused the rdpsnd channel")

/-- Register a dynamic channel that takes no arguments. -/
def registerDynamic (name message : String) (s : RdpSettings) : RdpSettings × Option String :=
  if rdp.addsDynamic [name] then
    ({ s with dynamicChannels := add [name] s.dynamicChannels }, none)
  else (s, some message)

def registerCameraChannel : RdpSettings → RdpSettings × Option String :=
  registerDynamic rdp "rdpecam" "FreeRDP refused the rdpecam channel"

def registerMicChannel : RdpSettings → RdpSettings × Option String :=
  registerDynamic rdp "audin" "FreeRDP refused the audin channel"

/-- The `?` operator: go on if nothing has failed. -/
def andThen (r : RdpSettings × Option String)
    (next : RdpSettings → RdpSettings × Option String) : RdpSettings × Option String :=
  match r.2 with
  | none => next r.1
  | some _ => r

/-- The same, if there is something to do. -/
def andThenIf (condition : Bool) (r : RdpSettings × Option String)
    (next : RdpSettings → RdpSettings × Option String) : RdpSettings × Option String :=
  andThen r fun s => if condition then next s else (s, none)

/-- The three loops. -/
def applyTable (config : Connect) (s : RdpSettings) : RdpSettings × Option String :=
  let r := Writes.run (refuses rdp) (table config) s.values
  ({ s with values := r.1 }, r.2)

/-- `apply_settings`: what it leaves, and the error it returns, if any. -/
def applySettings (config : Connect) (s : RdpSettings) : RdpSettings × Option String :=
  let r := applyTable rdp config s
  let r := andThenIf (config.audio = .redirect) r (registerAudioChannels rdp)
  let r := andThenIf config.camera r (registerCameraChannel rdp)
  andThenIf config.microphone r (registerMicChannel rdp)

/-! ## What is claimed -/

/-- What the settings say of a session. -/
structure Told where
  host : String
  username : String
  password : String
  domain : Value
  port : ℕ
  width : UInt32
  height : UInt32
  security : Security
  audio : AudioMode
  clipboard : Bool
  camera : Bool
  microphone : Bool
  egfx : Bool
  resize : Bool
  touch : Bool
  connectTimeout : ℕ
  idle : ℕ
  interval : ℕ
  retries : UInt32
  ackTimeout : ℕ
  deriving DecidableEq

/-- What a configuration is to say: durations that are too long are as long as can be, and
without a domain it is the one from before. -/
def Connect.told (config : Connect) (domain : Value) : Told where
  host := config.host
  username := config.username
  password := config.password
  domain := (config.domain.map Value.string).getD domain
  port := config.port.toNat
  width := config.width
  height := config.height
  security := config.security
  audio := config.audio
  clipboard := config.clipboard
  camera := config.camera
  microphone := config.microphone
  egfx := config.egfx
  resize := config.resize
  touch := config.touch
  connectTimeout :=
    min (config.connectTimeout.secs * 1000 + config.connectTimeout.nanos / 1000000) 4294967295
  idle := min config.keepalive.idle.secs 4294967295
  interval := min config.keepalive.interval.secs 4294967295
  retries := config.keepalive.retries
  ackTimeout := min (config.keepalive.ackTimeout.secs * 1000 +
    config.keepalive.ackTimeout.nanos / 1000000) 4294967295

def RdpSettings.string (s : RdpSettings) (key : StringKey) : Option String :=
  match s.values (.string key) with
  | .string value => some value
  | _ => none

def RdpSettings.uint32 (s : RdpSettings) (key : UInt32Key) : Option UInt32 :=
  match s.values (.uint32 key) with
  | .uint32 value => some value
  | _ => none

def RdpSettings.bool (s : RdpSettings) (key : BoolKey) : Option Bool :=
  match s.values (.bool key) with
  | .bool value => some value
  | _ => none

/-- The security mode: which layers are offered, and whether there is a choice. -/
def RdpSettings.security (s : RdpSettings) : Option Security := do
  let nla ← s.bool .NlaSecurity
  let tls ← s.bool .TlsSecurity
  let rdp ← s.bool .RdpSecurity
  let useRdp ← s.bool .UseRdpSecurityLayer
  let negotiate ← s.bool .NegotiateSecurityLayer
  match nla, tls, rdp, useRdp, negotiate with
  | true, true, true, false, true => some .auto
  | true, false, false, false, false => some .nla
  | false, true, false, false, false => some .tls
  | false, false, true, true, false => some .rdp
  | _, _, _, _, _ => none

/-- The audio mode, from `INFO_NOAUDIOPLAYBACK` and `INFO_REMOTECONSOLEAUDIO`; both together
are none. -/
def RdpSettings.audio (s : RdpSettings) : Option AudioMode := do
  let playback ← s.bool .AudioPlayback
  let remoteConsole ← s.bool .RemoteConsoleAudio
  match !playback, remoteConsole with
  | false, false => some .redirect
  | false, true => some .leaveOnHost
  | true, false => some .mute
  | true, true => none

/-- Read the settings back. -/
def RdpSettings.told (s : RdpSettings) : Option Told := do
  some {
    host := ← s.string .ServerHostname
    username := ← s.string .Username
    password := ← s.string .Password
    domain := s.values (.string .Domain)
    port := (← s.uint32 .ServerPort).toNat
    width := ← s.uint32 .DesktopWidth
    height := ← s.uint32 .DesktopHeight
    security := ← s.security
    audio := ← s.audio
    clipboard := ← s.bool .RedirectClipboard
    -- the camera has no setting: it is there if its channel is
    camera := s.dynamicChannels.contains ["rdpecam"]
    microphone := ← s.bool .AudioCapture
    egfx := ← s.bool .SupportGraphicsPipeline
    resize := ← s.bool .SupportDisplayControl
    touch := ← s.bool .MultiTouchInput
    connectTimeout := (← s.uint32 .TcpConnectTimeout).toNat
    idle := (← s.uint32 .TcpKeepAliveDelay).toNat
    interval := (← s.uint32 .TcpKeepAliveInterval).toNat
    retries := ← s.uint32 .TcpKeepAliveRetries
    ackTimeout := (← s.uint32 .TcpAckTimeout).toNat }

/-- **The settings go together.** -/
structure Coherent (s : RdpSettings) : Prop where
  /-- Nothing opens the message channel, which the server measures the link on. -/
  unmeasured : s.bool .NetworkAutoDetect = some false ∧
    s.bool .SupportMultitransport = some false ∧ s.bool .SupportHeartbeatPdu = some false
  /-- The graphics pipeline never comes without a codec beside it. -/
  codec : s.bool .SupportGraphicsPipeline = s.bool .RemoteFxCodec
  /-- Each channel is registered once, and there are three: sound, as this crate's device and
  the only one that is static, the camera and the microphone. -/
  once : s.staticChannels.Nodup ∧ s.dynamicChannels.Nodup
  channels : (∀ channel ∈ s.staticChannels, channel = ["rdpsnd", SUBSYSTEM_ARG]) ∧
    ∀ channel ∈ s.dynamicChannels,
      channel = ["rdpsnd", SUBSYSTEM_ARG] ∨ channel = ["rdpecam"] ∨ channel = ["audin"]
  /-- Sound is registered both ways just if it is redirected. -/
  redirected : s.audio = some .redirect ↔
    ["rdpsnd", SUBSYSTEM_ARG] ∈ s.staticChannels ∧ ["rdpsnd", SUBSYSTEM_ARG] ∈ s.dynamicChannels
  /-- The server is told of a microphone just if there is a channel for it. -/
  captured : s.bool .AudioCapture = some true ↔ ["audin"] ∈ s.dynamicChannels

/-- The channels of sound. -/
def soundChannels (config : Connect) : List Channel :=
  if config.audio = .redirect then [["rdpsnd", SUBSYSTEM_ARG]] else []

/-- **Which channel is refused**, with what error, and what is registered then: the channels
that are tried before it, and for sound whichever of the two was taken. -/
inductive ChannelRefused (rdp : FreeRdp) (config : Connect) (s : RdpSettings) : String → Prop
  | sound : config.audio = .redirect →
      s.staticChannels =
        (if rdp.addsStatic ["rdpsnd", SUBSYSTEM_ARG] then [["rdpsnd", SUBSYSTEM_ARG]] else []) →
      s.dynamicChannels =
        (if rdp.addsDynamic ["rdpsnd", SUBSYSTEM_ARG] then [["rdpsnd", SUBSYSTEM_ARG]] else []) →
      ¬ (rdp.addsStatic ["rdpsnd", SUBSYSTEM_ARG] = true ∧
        rdp.addsDynamic ["rdpsnd", SUBSYSTEM_ARG] = true) →
      ChannelRefused rdp config s "FreeRDP refused the rdpsnd channel"
  | camera : config.camera = true → rdp.addsDynamic ["rdpecam"] = false →
      s.staticChannels = soundChannels config → s.dynamicChannels = soundChannels config →
      ChannelRefused rdp config s "FreeRDP refused the rdpecam channel"
  | microphone : config.microphone = true → rdp.addsDynamic ["audin"] = false →
      s.staticChannels = soundChannels config →
      s.dynamicChannels =
        soundChannels config ++ (if config.camera then [["rdpecam"]] else []) →
      ChannelRefused rdp config s "FreeRDP refused the audin channel"

/-! ## Durations -/

theorem toNat_seconds (duration : Duration) :
    (seconds duration).toNat = min duration.secs 4294967295 := by
  have hsmall : min duration.secs 4294967295 < 4294967296 := by omega
  exact UInt32.toNat_ofNat_of_lt' hsmall

theorem toNat_millis (duration : Duration) : (millis duration).toNat =
    min (duration.secs * 1000 + duration.nanos / 1000000) 4294967295 := by
  have hsmall : min (duration.secs * 1000 + duration.nanos / 1000000) 4294967295 < 4294967296 := by
    omega
  exact UInt32.toNat_ofNat_of_lt' hsmall

/-! ## The tables -/

variable {rdp : FreeRdp} {config : Connect} {s t : RdpSettings} {w : Key × Value}

set_option maxRecDepth 4000 in
/-- **No setting is made twice.** -/
theorem nodup_table (config : Connect) : ((table config).map Prod.fst).Nodup := by
  rw [table, strings]
  -- which keys there are is a matter of the domain only
  cases config.domain with
  | none =>
    show ((table .default).map Prod.fst).Nodup
    decide +kernel
  | some domain =>
    show ((table { Connect.default with domain := some "" }).map Prod.fst).Nodup
    decide +kernel

/-- Every line of the tables can be read back. -/
theorem values_of_mem (h : (applyTable rdp config s).2 = none) (hw : w ∈ table config) :
    (applyTable rdp config s).1.values w.1 = w.2 :=
  Writes.run_read (nodup_table config) h hw

section Read

variable (hread : ∀ w ∈ table config, t.values w.1 = w.2)

include hread

theorem string_of_mem {k : StringKey} {value : String}
    (h : (Key.string k, Value.string value) ∈ strings config) : t.string k = some value := by
  have hw := hread (.string k, .string value)
    (List.mem_append_left _ (List.mem_append_left _ h))
  rw [RdpSettings.string, show t.values (.string k) = .string value from hw]

theorem uint32_of_mem {k : UInt32Key} {value : UInt32}
    (h : (Key.uint32 k, Value.uint32 value) ∈ uints config) : t.uint32 k = some value := by
  have hw := hread (.uint32 k, .uint32 value)
    (List.mem_append_left _ (List.mem_append_right _ h))
  rw [RdpSettings.uint32, show t.values (.uint32 k) = .uint32 value from hw]

theorem bool_of_mem {k : BoolKey} {value : Bool}
    (h : (Key.bool k, Value.bool value) ∈ bools config) : t.bool k = some value := by
  have hw := hread (.bool k, .bool value) (List.mem_append_right _ h)
  rw [RdpSettings.bool, show t.values (.bool k) = .bool value from hw]

/-- The mode is one of the four, and the one asked for. -/
theorem security_eq : t.security = some config.security := by
  have hnla := bool_of_mem hread (k := .NlaSecurity) (by simp [bools]; rfl)
  have htls := bool_of_mem hread (k := .TlsSecurity) (by simp [bools]; rfl)
  have hrdp := bool_of_mem hread (k := .RdpSecurity) (by simp [bools]; rfl)
  have huse := bool_of_mem hread (k := .UseRdpSecurityLayer) (by simp [bools]; rfl)
  have hnegotiate := bool_of_mem hread (k := .NegotiateSecurityLayer) (by simp [bools]; rfl)
  rw [RdpSettings.security, hnla, htls, hrdp, huse, hnegotiate]
  cases config.security <;> rfl

theorem audio_eq : t.audio = some config.audio := by
  have hplayback := bool_of_mem hread (k := .AudioPlayback) (by simp [bools]; rfl)
  have hremote := bool_of_mem hread (k := .RemoteConsoleAudio) (by simp [bools]; rfl)
  rw [RdpSettings.audio, hplayback, hremote]
  cases config.audio <;> rfl

/-- **The configuration can be read back.** -/
theorem told_eq (hdomain : t.values (.string .Domain) =
    (config.domain.map Value.string).getD (s.values (.string .Domain)))
    (hcamera : t.dynamicChannels.contains ["rdpecam"] = config.camera) :
    t.told = some (config.told (s.values (.string .Domain))) := by
  have hhost := string_of_mem hread (k := .ServerHostname) (by simp [strings]; rfl)
  have husername := string_of_mem hread (k := .Username) (by simp [strings]; rfl)
  have hpassword := string_of_mem hread (k := .Password) (by simp [strings]; rfl)
  have hport := uint32_of_mem hread (k := .ServerPort) (by simp [uints]; rfl)
  have hwidth := uint32_of_mem hread (k := .DesktopWidth) (by simp [uints]; rfl)
  have hheight := uint32_of_mem hread (k := .DesktopHeight) (by simp [uints]; rfl)
  have htimeout := uint32_of_mem hread (k := .TcpConnectTimeout) (by simp [uints]; rfl)
  have hidle := uint32_of_mem hread (k := .TcpKeepAliveDelay) (by simp [uints]; rfl)
  have hinterval := uint32_of_mem hread (k := .TcpKeepAliveInterval) (by simp [uints]; rfl)
  have hretries := uint32_of_mem hread (k := .TcpKeepAliveRetries) (by simp [uints]; rfl)
  have hack := uint32_of_mem hread (k := .TcpAckTimeout) (by simp [uints]; rfl)
  have hclipboard := bool_of_mem hread (k := .RedirectClipboard) (by simp [bools]; rfl)
  have hmicrophone := bool_of_mem hread (k := .AudioCapture) (by simp [bools]; rfl)
  have hegfx := bool_of_mem hread (k := .SupportGraphicsPipeline) (by simp [bools]; rfl)
  have hresize := bool_of_mem hread (k := .SupportDisplayControl) (by simp [bools]; rfl)
  have htouch := bool_of_mem hread (k := .MultiTouchInput) (by simp [bools]; rfl)
  rw [RdpSettings.told, hhost, husername, hpassword, hdomain, hport, hwidth, hheight,
    security_eq hread, audio_eq hread, hclipboard, hcamera, hmicrophone, hegfx, hresize, htouch,
    htimeout, hidle, hinterval, hretries, hack]
  simp only [Option.bind_eq_bind, Option.bind_some, Connect.told, toNat_seconds, toNat_millis,
    UInt16.toNat_toUInt32]

end Read

/-! ## The channels -/

variable {c : Bool} {r : RdpSettings × Option String} {e : String}
  {next : RdpSettings → RdpSettings × Option String}

theorem andThenIf_eq_none :
    (andThenIf c r next).2 = none ↔ r.2 = none ∧ (c = true → (next r.1).2 = none) := by
  unfold andThenIf andThen
  cases hr : r.2 <;> cases c <;> simp [hr]

/-- What has been done if nothing has failed. -/
theorem andThenIf_of_none (h : (andThenIf c r next).2 = none) :
    (andThenIf c r next).1 = if c then (next r.1).1 else r.1 := by
  have hr := (andThenIf_eq_none.1 h).1
  unfold andThenIf andThen
  rw [hr]
  cases c <;> rfl

/-- An error is an earlier one, and nothing is done after it, or it is the last step's. -/
theorem andThenIf_of_some (h : (andThenIf c r next).2 = some e) :
    r.2 = some e ∧ andThenIf c r next = r ∨ r.2 = none ∧ c = true ∧ (next r.1).2 = some e := by
  unfold andThenIf andThen at h ⊢
  cases hr : r.2 with
  | some e' =>
    rw [hr] at h
    exact .inl ⟨hr ▸ h, rfl⟩
  | none =>
    rw [hr] at h
    cases c with
    | false => cases h
    | true => exact .inr ⟨rfl, rfl, h⟩

/-- A step that only registers channels. -/
theorem values_andThenIf (hnext : ∀ s, (next s).1.values = s.values) :
    (andThenIf c r next).1.values = r.1.values := by
  unfold andThenIf andThen
  cases r.2 <;> cases c <;> simp [hnext]

theorem values_registerDynamic (name message : String) (s : RdpSettings) :
    (registerDynamic rdp name message s).1.values = s.values := by
  unfold registerDynamic
  split_ifs <;> rfl

/-- **No channel changes a setting.** -/
theorem values_applySettings :
    (applySettings rdp config s).1.values = (applyTable rdp config s).1.values := by
  have haudio : ∀ s, (registerAudioChannels rdp s).1.values = s.values := fun _ => rfl
  have hcamera : ∀ s, (registerCameraChannel rdp s).1.values = s.values :=
    values_registerDynamic _ _
  have hmic : ∀ s, (registerMicChannel rdp s).1.values = s.values := values_registerDynamic _ _
  rw [applySettings, values_andThenIf hmic, values_andThenIf hcamera, values_andThenIf haudio]

/-- FreeRDP takes the channels of a configuration. -/
def Adds (rdp : FreeRdp) (config : Connect) : Prop :=
  (config.audio = .redirect →
      rdp.addsStatic ["rdpsnd", SUBSYSTEM_ARG] = true ∧
        rdp.addsDynamic ["rdpsnd", SUBSYSTEM_ARG] = true) ∧
    (config.camera = true → rdp.addsDynamic ["rdpecam"] = true) ∧
    (config.microphone = true → rdp.addsDynamic ["audin"] = true)

theorem registerDynamic_eq_none {name message : String} :
    (registerDynamic rdp name message s).2 = none ↔ rdp.addsDynamic [name] = true := by
  unfold registerDynamic
  split_ifs with hadds <;> simp [hadds]

theorem registerAudioChannels_eq_none : (registerAudioChannels rdp s).2 = none ↔
    rdp.addsStatic ["rdpsnd", SUBSYSTEM_ARG] = true ∧
      rdp.addsDynamic ["rdpsnd", SUBSYSTEM_ARG] = true := by
  simp [registerAudioChannels]

/-- **When all goes well.** -/
theorem applySettings_eq_none : (applySettings rdp config s).2 = none ↔
    (∀ w ∈ table config, refuses rdp w = none) ∧ Adds rdp config := by
  rw [applySettings, andThenIf_eq_none, andThenIf_eq_none, andThenIf_eq_none, registerMicChannel,
    registerCameraChannel, registerDynamic_eq_none, registerDynamic_eq_none,
    registerAudioChannels_eq_none, decide_eq_true_eq, Adds]
  have htable : (applyTable rdp config s).2 = none ↔ ∀ w ∈ table config, refuses rdp w = none :=
    Writes.run_eq_none
  rw [htable, and_assoc, and_assoc]

/-- `apply_settings`, as far as sound. -/
def withSound (rdp : FreeRdp) (config : Connect) (s : RdpSettings) : RdpSettings × Option String :=
  andThenIf (config.audio = .redirect) (applyTable rdp config s) (registerAudioChannels rdp)

/-- The same, as far as the camera. -/
def withCamera (rdp : FreeRdp) (config : Connect) (s : RdpSettings) :
    RdpSettings × Option String :=
  andThenIf config.camera (withSound rdp config s) (registerCameraChannel rdp)

theorem applySettings_eq (rdp : FreeRdp) (config : Connect) (s : RdpSettings) :
    applySettings rdp config s =
      andThenIf config.microphone (withCamera rdp config s) (registerMicChannel rdp) := rfl

/-- A channel that is not there yet is added. -/
theorem add_of_forall {channel : Channel} {channels : List Channel}
    (h : ∀ other ∈ channels, other.head? ≠ channel.head?) :
    add channel channels = channels ++ [channel] := by
  refine if_neg ?_
  simpa using h

/-- A channel that is refused leaves the others. -/
theorem registerDynamic_of_some {name message : String} {s : RdpSettings}
    (h : (registerDynamic rdp name message s).2 = some e) :
    e = message ∧ rdp.addsDynamic [name] = false ∧ (registerDynamic rdp name message s).1 = s := by
  unfold registerDynamic at h ⊢
  split_ifs at h ⊢ with hadds
  exact ⟨(Option.some.inj h).symm, Bool.eq_false_iff.2 hadds, rfl⟩

/-- What is done if nothing has failed and there is something to do. -/
theorem andThenIf_of_ready (h : r.2 = none) (hc : c = true) : andThenIf c r next = next r.1 := by
  unfold andThenIf andThen
  rw [h, hc]
  rfl

section Registered

variable (hfresh : s.staticChannels = [] ∧ s.dynamicChannels = [])

include hfresh

/-- **The channels that are registered** when sound has been. -/
theorem channels_withSound (h : (withSound rdp config s).2 = none) :
    (withSound rdp config s).1.staticChannels = soundChannels config ∧
      (withSound rdp config s).1.dynamicChannels = soundChannels config := by
  obtain ⟨hstatic, hdynamic⟩ := hfresh
  obtain ⟨-, hsound⟩ := andThenIf_eq_none.1 h
  rw [withSound, andThenIf_of_none h, soundChannels]
  by_cases haudio : config.audio = .redirect
  · obtain ⟨hs, hd⟩ := registerAudioChannels_eq_none.1 (hsound (decide_eq_true haudio))
    simp [haudio, registerAudioChannels, hs, hd, applyTable, hstatic, hdynamic, add]
  · simp [haudio, applyTable, hstatic, hdynamic]

/-- **The channels that are registered** when the camera has been. -/
theorem channels_withCamera (h : (withCamera rdp config s).2 = none) :
    (withCamera rdp config s).1.staticChannels = soundChannels config ∧
      (withCamera rdp config s).1.dynamicChannels =
        soundChannels config ++ (if config.camera then [["rdpecam"]] else []) := by
  obtain ⟨hbefore, hcamera⟩ := andThenIf_eq_none.1 h
  obtain ⟨hstatic, hdynamic⟩ := channels_withSound hfresh hbefore
  rw [withCamera, andThenIf_of_none h]
  cases hc : config.camera with
  | false => simp [hstatic, hdynamic]
  | true =>
    have hadds := registerDynamic_eq_none.1 (hcamera hc)
    have hadd : add ["rdpecam"] (soundChannels config) = soundChannels config ++ [["rdpecam"]] := by
      refine add_of_forall fun other hother => ?_
      unfold soundChannels at hother
      split_ifs at hother
      · rw [List.mem_singleton.1 hother]
        decide
      · cases hother
    simp [registerCameraChannel, registerDynamic, hadds, hstatic, hdynamic, hadd]

/-- **The channels that are registered**, if all goes well on settings without any. -/
theorem channels_applySettings (h : (applySettings rdp config s).2 = none) :
    (applySettings rdp config s).1.staticChannels = soundChannels config ∧
      (applySettings rdp config s).1.dynamicChannels =
        soundChannels config ++ (if config.camera then [["rdpecam"]] else []) ++
          (if config.microphone then [["audin"]] else []) := by
  rw [applySettings_eq] at h ⊢
  obtain ⟨hbefore, hmic⟩ := andThenIf_eq_none.1 h
  obtain ⟨hstatic, hdynamic⟩ := channels_withCamera hfresh hbefore
  rw [andThenIf_of_none h]
  cases hm : config.microphone with
  | false => simp [hstatic, hdynamic]
  | true =>
    have hadds := registerDynamic_eq_none.1 (hmic hm)
    have hadd :
        add ["audin"] (soundChannels config ++ if config.camera then [["rdpecam"]] else []) =
          (soundChannels config ++ if config.camera then [["rdpecam"]] else []) ++ [["audin"]] := by
      refine add_of_forall fun other hother => ?_
      unfold soundChannels at hother
      rcases List.mem_append.1 hother with hother | hother
      · split_ifs at hother
        · rw [List.mem_singleton.1 hother]
          decide
        · cases hother
      · split_ifs at hother
        · rw [List.mem_singleton.1 hother]
          decide
        · cases hother
    simp [registerMicChannel, registerDynamic, hadds, hstatic, hdynamic, hadd]

/-- **When something fails**: a setting, and no channel has been registered, or a channel. -/
theorem applySettings_of_some (h : (applySettings rdp config s).2 = some e) :
    (applyTable rdp config s).2 = some e ∧ applySettings rdp config s = applyTable rdp config s ∨
      (applyTable rdp config s).2 = none ∧
        ChannelRefused rdp config (applySettings rdp config s).1 e := by
  rw [applySettings_eq] at h ⊢
  rcases andThenIf_of_some h with ⟨h, hmic⟩ | ⟨hbefore, hm, h⟩
  · rw [hmic]
    rcases andThenIf_of_some h with ⟨h, hcamera⟩ | ⟨hbefore, hc, h⟩
    · rw [withCamera, hcamera]
      rcases andThenIf_of_some h with ⟨h, haudio⟩ | ⟨hbefore, ha, h⟩
      · exact .inl ⟨h, haudio⟩
      · refine .inr ⟨hbefore, ?_⟩
        rw [withSound, andThenIf_of_ready hbefore ha]
        have hnot := mt registerAudioChannels_eq_none.2 (by rw [h]; exact Option.some_ne_none e)
        obtain rfl : "FreeRDP refused the rdpsnd channel" = e := by
          simp only [registerAudioChannels] at h
          split_ifs at h
          exact Option.some.inj h
        refine .sound (of_decide_eq_true ha) ?_ ?_ hnot
        · simp [registerAudioChannels, applyTable, hfresh.1, add]
        · simp [registerAudioChannels, applyTable, hfresh.2, add]
    · have htable := (andThenIf_eq_none.1 hbefore).1
      obtain ⟨rfl, hadds, hleft⟩ := registerDynamic_of_some h
      obtain ⟨hstatic, hdynamic⟩ := channels_withSound hfresh hbefore
      refine .inr ⟨htable, ?_⟩
      rw [withCamera, andThenIf_of_ready hbefore hc, registerCameraChannel, hleft]
      exact .camera hc hadds hstatic hdynamic
  · have htable := (andThenIf_eq_none.1 (andThenIf_eq_none.1 hbefore).1).1
    obtain ⟨rfl, hadds, hleft⟩ := registerDynamic_of_some h
    obtain ⟨hstatic, hdynamic⟩ := channels_withCamera hfresh hbefore
    refine .inr ⟨htable, ?_⟩
    rw [andThenIf_of_ready hbefore hm, registerMicChannel, hleft]
    exact .microphone hm hadds hstatic hdynamic

end Registered

/-! ## The whole of it -/

/-- Without a domain, the one from before stays. -/
theorem domain_eq (h : (applyTable rdp config s).2 = none) :
    (applyTable rdp config s).1.values (.string .Domain) =
      (config.domain.map Value.string).getD (s.values (.string .Domain)) := by
  cases hdomain : config.domain with
  | none =>
    refine Writes.run_of_not_mem ?_
    simp [table, strings, uints, bools, hdomain]
  | some domain =>
    have hw : (Key.string .Domain, Value.string domain) ∈ table config := by
      simp [table, strings, hdomain]
    exact values_of_mem h hw

theorem coherent_applySettings (hfresh : s.staticChannels = [] ∧ s.dynamicChannels = [])
    (h : (applySettings rdp config s).2 = none)
    (hread : ∀ w ∈ table config, (applySettings rdp config s).1.values w.1 = w.2) :
    Coherent (applySettings rdp config s).1 := by
  obtain ⟨hstatic, hdynamic⟩ := channels_applySettings hfresh h
  have hautodetect := bool_of_mem hread (k := .NetworkAutoDetect) (by simp [bools]; rfl)
  have hmultitransport := bool_of_mem hread (k := .SupportMultitransport) (by simp [bools]; rfl)
  have hheartbeat := bool_of_mem hread (k := .SupportHeartbeatPdu) (by simp [bools]; rfl)
  have hegfx := bool_of_mem hread (k := .SupportGraphicsPipeline) (by simp [bools]; rfl)
  have hcodec := bool_of_mem hread (k := .RemoteFxCodec) (by simp [bools]; rfl)
  have hcapture := bool_of_mem hread (k := .AudioCapture) (by simp [bools]; rfl)
  refine ⟨⟨hautodetect, hmultitransport, hheartbeat⟩, hegfx.trans hcodec.symm, ?_, ?_, ?_, ?_⟩
  · rw [hstatic, hdynamic, soundChannels]
    split_ifs <;> decide
  · rw [hstatic, hdynamic, soundChannels]
    split_ifs <;> simp
  · rw [audio_eq hread, hstatic, hdynamic, soundChannels]
    by_cases haudio : config.audio = .redirect
    · simp [haudio]
    · simp [haudio]
  · rw [hcapture, hdynamic, soundChannels]
    by_cases haudio : config.audio = .redirect <;> cases config.camera <;>
      cases config.microphone <;> simp [haudio]

/-- There is a camera just if its channel is there. -/
theorem contains_camera (hfresh : s.staticChannels = [] ∧ s.dynamicChannels = [])
    (h : (applySettings rdp config s).2 = none) :
    (applySettings rdp config s).1.dynamicChannels.contains ["rdpecam"] = config.camera := by
  rw [(channels_applySettings hfresh h).2, soundChannels]
  by_cases haudio : config.audio = .redirect
  · rw [if_pos haudio]
    cases config.camera <;> cases config.microphone <;> rfl
  · rw [if_neg haudio]
    cases config.camera <;> cases config.microphone <;> rfl

/-- **The settings are the configuration's.**  No key stands twice in the tables.  On
settings without channels, `apply_settings` succeeds just if no string of the configuration
holds a NUL and FreeRDP takes every setting and channel.  Then the whole configuration can be
read back, camera and microphone included, the settings go together, and what the tables do
not name is as it was.  If it fails, either a line of the tables was refused, with its error,
all before it and nothing else has been done, and there are no channels; or every line of the
tables is made, a channel was refused, with its error, and those before it are registered. -/
theorem settings_carry_the_config (rdp : FreeRdp) (config : Connect) (s : RdpSettings)
    (hfresh : s.staticChannels = [] ∧ s.dynamicChannels = []) :
    ((table config).map Prod.fst).Nodup ∧
    ((applySettings rdp config s).2 = none ↔
      (∀ w ∈ table config, holdsNul w.2 = false ∧ rdp.accepts w = true) ∧ Adds rdp config) ∧
    ((applySettings rdp config s).2 = none →
      (applySettings rdp config s).1.told = some (config.told (s.values (.string .Domain))) ∧
      Coherent (applySettings rdp config s).1 ∧
      ∀ key, key ∉ (table config).map Prod.fst →
        (applySettings rdp config s).1.values key = s.values key) ∧
    ∀ e, (applySettings rdp config s).2 = some e →
      (∃ before w after, table config = before ++ w :: after ∧ refuses rdp w = some e ∧
        (∀ w ∈ before, refuses rdp w = none) ∧ (applySettings rdp config s).1 =
          { s with values := (Writes.run (refuses rdp) before s.values).1 }) ∨
      (∀ w ∈ table config, refuses rdp w = none ∧
        (applySettings rdp config s).1.values w.1 = w.2) ∧
        ChannelRefused rdp config (applySettings rdp config s).1 e := by
  have hrefuses : ∀ w, refuses rdp w = none ↔ holdsNul w.2 = false ∧ rdp.accepts w = true := by
    intro w
    unfold refuses
    split_ifs with hnul haccepts <;> simp_all
  have hmade : (applyTable rdp config s).2 = none →
      ∀ w ∈ table config, (applySettings rdp config s).1.values w.1 = w.2 := by
    intro htable w hw
    rw [values_applySettings]
    exact values_of_mem htable hw
  refine ⟨nodup_table config, ?_, ?_, ?_⟩
  · rw [applySettings_eq_none]
    simp only [hrefuses]
  · intro h
    have htable : (applyTable rdp config s).2 = none :=
      Writes.run_eq_none.2 (applySettings_eq_none.1 h).1
    have hread := hmade htable
    refine ⟨told_eq hread ?_ (contains_camera hfresh h), coherent_applySettings hfresh h hread, ?_⟩
    · rw [values_applySettings]
      exact domain_eq htable
    · intro key hkey
      rw [values_applySettings]
      exact Writes.run_of_not_mem hkey
  · intro e h
    rcases applySettings_of_some hfresh h with ⟨htable, heq⟩ | ⟨htable, hrefused⟩
    · obtain ⟨before, w, after, hsplit, hrefused, hbefore, hvalues⟩ := Writes.run_eq_some htable
      refine .inl ⟨before, w, after, hsplit, hrefused, hbefore, ?_⟩
      rw [heq, ← hvalues]
      rfl
    · exact .inr ⟨fun w hw => ⟨Writes.run_eq_none.1 htable w hw, hmade htable w hw⟩, hrefused⟩

/-- A FreeRDP that takes everything but a second sound channel. -/
def silent : FreeRdp := ⟨fun _ => true, fun _ => true, fun channel => channel.head? ≠ some "rdpsnd"⟩

/-- Settings as they are created. -/
def created : RdpSettings := ⟨fun _ => .bool false, [], []⟩

/-- A session with a microphone, by NLA, that waits for ever. -/
def patient : Connect :=
  { Connect.default with
    security := .nla
    microphone := true
    connectTimeout := .fromSecs 18446744073709551615 }

theorem settings_carry_the_config_patient :
    (applySettings silent patient created).2 = none ∧
    (applySettings silent patient created).1.told = some (patient.told (.bool false)) ∧
    (patient.told (.bool false)).connectTimeout = 4294967295 := by
  obtain ⟨-, hsucceeds, hcarries, -⟩ :=
    settings_carry_the_config silent patient created ⟨rfl, rfl⟩
  have hdone : (applySettings silent patient created).2 = none := by
    refine hsucceeds.2 ⟨?_, by decide, by decide, by decide⟩
    intro w hw
    refine ⟨?_, rfl⟩
    revert w
    decide +kernel
  exact ⟨hdone, (hcarries hdone).1, by decide⟩

end Settings
end Session
end FreerdpPrebuilt
