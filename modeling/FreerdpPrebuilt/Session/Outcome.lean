import FreerdpPrebuilt.Lib.Numerals
import FreerdpPrebuilt.Lib.Text
import FreerdpPrebuilt.Session.Settings
import FreerdpPrebuilt.Session.Shutdown

/-!
# How a session ended, and what is said of it

The last event of a session is `Ended`, and its error is a sentence.  What the sentence is
made of comes from three places: FreeRDP, which records a code and knows a text for it; the
operating system; and the session thread, which knows what was being done.

`Session.machine` leaves it to the world to name the errors.  Here the calls of each stage
return what they return, and the errors are those that `run_connected`, `apply_settings` and
`event_loop` make of it.  `Stage.verdict` says what an onlooker makes of the same calls.

* `ended_is_told` — a session ends once, with the first thing that went wrong.  The
  onlooker's verdict can be read back from the printed result, FreeRDP's code and text
  included, whatever the text is; the code in the error is FreeRDP's or zero; and a host is
  called unreachable only on FreeRDP's word for it.
-/

namespace FreerdpPrebuilt
namespace Session

open Labelled

/-! ## The errors -/

/-- `freerdp_get_last_error_string`; `none` is the null pointer. -/
abbrev Strings := UInt32 → Option String

def hexDigits : List Char :=
  ['0', '1', '2', '3', '4', '5', '6', '7', '8', '9', 'A', 'B', 'C', 'D', 'E', 'F']

/-- The format `08X`. -/
def upperHex (code : UInt32) : String :=
  String.ofList ((Numerals.padded 16 8 code.toNat).map fun d => hexDigits.getD d '0')

/-- Whatever FreeRDP last recorded, with what was being attempted: `Error::from_context`. -/
def Error.fromContext (strings : Strings) (code : UInt32) (doing : String) : Error :=
  let text := (strings code).getD ""
  ⟨code.toNat,
    if text = "" then doing ++ " failed (0x" ++ upperHex code ++ ")"
    else doing ++ " failed: " ++ text ++ " (0x" ++ upperHex code ++ ")"⟩

def FREERDP_ERROR_CONNECT_CLASS : ℕ := 2

def ERRCONNECT_CONNECT_FAILED : ℕ := 6

def ERRCONNECT_CONNECT_TRANSPORT_FAILED : ℕ := 13

/-- `Error::is_unreachable`: the class is in the high half and the reason in the low half. -/
def Error.isUnreachable (error : Error) : Bool :=
  error.code >>> 16 == FREERDP_ERROR_CONNECT_CLASS &&
    (error.code &&& 0xFFFF == ERRCONNECT_CONNECT_FAILED ||
      error.code &&& 0xFFFF == ERRCONNECT_CONNECT_TRANSPORT_FAILED)

/-- What `Debug` prints of a `Result<(), Error>`. -/
def Ended.debug : Ended → String
  | .ok => "Ok(())"
  | .err error => "Err(" ++ error.message ++ ")"

/-! ## What the calls of a stage return -/

/-- What a session depends on: its configuration, FreeRDP's settings before it, what FreeRDP
takes of it, and FreeRDP's texts. -/
structure World where
  config : Settings.Connect
  settings : Settings.RdpSettings
  rdp : Settings.FreeRdp
  strings : Strings

/-- What the calls of a stage return. -/
inductive Returned
  /-- Nothing there can fail, or nothing is called. -/
  | done
  /-- Code called there panics. -/
  | panics
  /-- The two `PubSub_Subscribe`. -/
  | subscribed (connected disconnected : ℤ)
  /-- `freerdp_register_addin_provider`. -/
  | registered (status : ℤ)
  /-- `freerdp_connect`, and FreeRDP's last error. -/
  | connected (ok : Bool) (code : UInt32)
  /-- `freerdp_get_event_handles`, FreeRDP's last error, `WaitForMultipleObjects`. -/
  | waited (count code status : UInt32)
  /-- The debounce of a reconnect-resize is over. -/
  | due
  | reconnected (ok : Bool)
  /-- `freerdp_check_event_handles`, FreeRDP's last error,
  `freerdp_shall_disconnect_context`. -/
  | checked (ok : Bool) (code : UInt32) (shallDisconnect : Bool)
  deriving DecidableEq

def WAIT_FAILED : UInt32 := 4294967295

/-- `apply_settings`, as its caller sees it. -/
def World.applySettings (w : World) : Answer :=
  match (Settings.applySettings w.rdp w.config w.settings).2 with
  | some message => .fail (.localError message)
  | none => .ok

/-- `subscribe_channels`. -/
def Answer.subscribeChannels (connected disconnected : ℤ) : Answer :=
  if connected < 0 ∨ disconnected < 0 then
    .fail (.localError "could not subscribe to the channel events")
  else .ok

/-- `install_provider`, where it is called. -/
def World.installProvider (w : World) (status : Option ℤ) : Option Answer :=
  match w.config.wantsProvider, status with
  | false, none => some .ok
  | true, some status =>
    if status = 0 then some .ok
    else some (.fail (.localError "FreeRDP refused this crate's audio addin provider"))
  | _, _ => none

def World.connect (w : World) (ok : Bool) (code : UInt32) : Answer :=
  if ok then .ok else .fail (.fromContext w.strings code "connect")

/-- A connection that is torn down: in good order, if FreeRDP has recorded no error. -/
def World.tornDown (w : World) (code : UInt32) : Answer :=
  if code = 0 then .ended else .fail (.fromContext w.strings code "the session")

/-- The top of `event_loop`. -/
def World.wait (w : World) (count code status : UInt32) : Answer :=
  if count = 0 then w.tornDown code
  else if status = WAIT_FAILED then .fail (.localError "WaitForMultipleObjects failed")
  else .ok

/-- The middle of it, after `reconnect_resize`. -/
def Answer.reconnect (ok : Bool) : Answer :=
  if ok then .ok else .fail (.localError "a resize-by-reconnect failed")

/-- The end of it. -/
def World.checkHandles (w : World) (ok : Bool) (code : UInt32) (shallDisconnect : Bool) : Answer :=
  if ok then if shallDisconnect then .ended else .ok else w.tornDown code

/-- What a stage makes of what its calls return; `none` where they return something else. -/
def Stage.answer (w : World) : Stage → Returned → Option Answer
  | _, .panics => some .panicked
  | .applySettings, .done => some w.applySettings
  | .subscribeChannels, .subscribed connected disconnected =>
    some (.subscribeChannels connected disconnected)
  | .installProvider, .done => w.installProvider none
  | .installProvider, .registered status => w.installProvider (some status)
  | .connecting, .connected ok code => some (w.connect ok code)
  | .wait, .waited count code status => some (w.wait count code status)
  | .due, .due => some .due
  | .reconnecting, .reconnected ok => some (.reconnect ok)
  | .checkHandles, .checked ok code shallDisconnect => some (w.checkHandles ok code shallDisconnect)
  | .installCallbacks, .done | .abortRequested, .done | .connect, .done | .drain, .done
  | .take, .done | .execute _, .done | .due, .done => some .ok
  | _, _ => none

/-- Outside `run_connected` there is nothing to fail. -/
def Pc.answer (w : World) : Pc → Returned → Option Answer
  | .connected stage, ret => stage.answer w ret
  | _, .done => some .ok
  | _, _ => none

/-! ## What an onlooker says -/

/-- What this crate finds wrong by itself. -/
inductive Local
  | context | nul | string | number | boolean | sound | camera | microphone | subscribe | provider
  | abandoned | wait | reconnect | panicked
  deriving DecidableEq

/-- What FreeRDP was doing. -/
inductive Doing
  | connect | session
  deriving DecidableEq

/-- How a session ended. -/
inductive Cause
  /-- It was asked to, or the connection was closed and there was no error. -/
  | orderly
  | here (cause : Local)
  /-- FreeRDP failed, with this code and this text. -/
  | freerdp (doing : Doing) (code : UInt32) (said : String)
  deriving DecidableEq

/-- What is wrong with a setting. -/
def World.wrongSetting (w : World) (x : Settings.Key × Settings.Value) : Option Local :=
  if Settings.holdsNul x.2 then some .nul
  else if w.rdp.accepts x then none
  else match x.1 with
    | .string _ => some .string
    | .uint32 _ => some .number
    | .bool _ => some .boolean

/-- What is wrong with the channels: the first that is wanted and cannot be had. -/
def World.wrongChannel (w : World) : Option Local :=
  let sound := ["rdpsnd", Settings.SUBSYSTEM_ARG]
  if w.config.audio = .redirect ∧ (w.rdp.addsStatic sound && w.rdp.addsDynamic sound) = false then
    some .sound
  else if w.config.camera ∧ w.rdp.addsDynamic ["rdpecam"] = false then some .camera
  else if w.config.microphone ∧ w.rdp.addsDynamic ["audin"] = false then some .microphone
  else none

/-- The first thing in a configuration that cannot be had. -/
def World.refusal (w : World) : Option Local :=
  ((Settings.table w.config).findSome? w.wrongSetting).or w.wrongChannel

/-- FreeRDP's own words. -/
def World.fault (w : World) (doing : Doing) (code : UInt32) : Cause :=
  .freerdp doing code ((w.strings code).getD "")

/-- The connection is no more. -/
def World.gone (w : World) (code : UInt32) : Cause :=
  if code = 0 then .orderly else w.fault .session code

/-- What ends a session at a stage, if anything does. -/
def Stage.verdict (w : World) (sh : Shared) : Stage → Returned → Option Cause
  | _, .panics => some (.here .panicked)
  | .applySettings, .done => w.refusal.map .here
  | .subscribeChannels, .subscribed connected disconnected =>
    if 0 ≤ connected ∧ 0 ≤ disconnected then none else some (.here .subscribe)
  | .installProvider, .registered status => if status = 0 then none else some (.here .provider)
  | .abortRequested, .done => if sh.abortRequested then some (.here .abandoned) else none
  | .connecting, .connected ok code => if ok then none else some (w.fault .connect code)
  | .wait, .waited count code status =>
    if count = 0 then some (w.gone code)
    else if status = WAIT_FAILED then some (.here .wait)
    else none
  | .execute (.shutdown :: _), .done => some .orderly
  | .reconnecting, .reconnected ok => if ok then none else some (.here .reconnect)
  | .checkHandles, .checked ok code shallDisconnect =>
    if ok then if shallDisconnect then some .orderly else none else some (w.gone code)
  | _, _ => none

/-! ## What is read in a result -/

/-- What this crate says. -/
def Local.message : Local → String
  | .context => "freerdp_client_context_new failed"
  | .nul => "a connection string contains a NUL byte"
  | .string => "a connection string was rejected by FreeRDP"
  | .number => "a numeric setting was rejected by FreeRDP"
  | .boolean => "a boolean setting was rejected by FreeRDP"
  | .sound => "FreeRDP refused the rdpsnd channel"
  | .camera => "FreeRDP refused the rdpecam channel"
  | .microphone => "FreeRDP refused the audin channel"
  | .subscribe => "could not subscribe to the channel events"
  | .provider => "FreeRDP refused this crate's audio addin provider"
  | .abandoned => "the session was ended before it connected"
  | .wait => "WaitForMultipleObjects failed"
  | .reconnect => "a resize-by-reconnect failed"
  | .panicked => "the FreeRDP session thread panicked"

def Local.all : List Local :=
  [.context, .nul, .string, .number, .boolean, .sound, .camera, .microphone, .subscribe, .provider,
    .abandoned, .wait, .reconnect, .panicked]

def Doing.words : Doing → String
  | .connect => "connect"
  | .session => "the session"

/-- Read the code at the end of a sentence, which is thirteen characters long with what is
around it: what stands before, and the code. -/
def readCode (text : List Char) : Option (List Char × UInt32) := do
  let behind ← Text.stripPrefix [' ', '(', '0', 'x'] (text.drop (text.length - 13))
  let digits := (behind.take 8).map hexDigits.idxOf
  if behind.drop 8 = [')'] then
    some (text.take (text.length - 13), UInt32.ofNat (Numerals.value 16 digits))
  else none

/-- Read a sentence with a code, of FreeRDP doing this. -/
def readFault (doing : Doing) (text : List Char) : Option Cause := do
  let (front, code) ← readCode text
  let said ← Text.stripPrefix (doing.words ++ " failed").toList front
  if said = [] then some (.freerdp doing code "")
  else (Text.stripPrefix [':', ' '] said).map fun said => .freerdp doing code (String.ofList said)

/-- Read any sentence. -/
def readMessage (text : List Char) : Option Cause :=
  ((readFault .connect text).or (readFault .session text)).or
    ((Local.all.find? fun cause => cause.message.toList = text).map .here)

/-- Read a printed result. -/
def readDebug (text : List Char) : Option Cause :=
  if text = "Ok(())".toList then some .orderly
  else (Text.stripPrefix "Err(".toList text).bind fun rest => readMessage rest.dropLast

/-- The code of a cause. -/
def Cause.code : Cause → ℕ
  | .freerdp _ code _ => code.toNat
  | .orderly | .here _ => 0

/-- The transport never came up: the two words of FreeRDP's that mean it. -/
def Cause.unreachable : Cause → Bool
  | .freerdp _ code _ => code = 0x00020006 || code = 0x0002000D
  | .orderly | .here _ => false

/-- A result tells a cause: in print, in its code, and in what is made of the code. -/
structure Ended.Tells (result : Ended) (cause : Cause) : Prop where
  read : readDebug result.debug.toList = some cause
  orderly : result = .ok ↔ cause = .orderly
  code : ∀ error, result = .err error → error.code = cause.code
  unreachable : ∀ error, result = .err error → error.isUnreachable = cause.unreachable

/-! ## Reading what was printed -/

theorem idxOf_hexDigits {d : ℕ} (h : d < 16) : hexDigits.idxOf (hexDigits.getD d '0') = d := by
  have hlen : d < hexDigits.length := h
  rw [List.getD_eq_getElem?_getD, List.getElem?_eq_getElem hlen, Option.getD_some]
  exact List.Nodup.idxOf_getElem (by decide) d hlen

/-- What stands around a code. -/
theorem toList_code (code : UInt32) : (" (0x" ++ upperHex code ++ ")").toList =
    [' ', '(', '0', 'x'] ++ ((upperHex code).toList ++ [')']) := by
  rw [String.toList_append, String.toList_append, List.append_assoc]
  rfl

theorem length_upperHex (code : UInt32) : (upperHex code).toList.length = 8 := by
  rw [upperHex, String.toList_ofList, List.length_map]
  exact Numerals.length_padded (by decide) code.toNat_lt

/-- **A code is read back.** -/
theorem readCode_append (front : List Char) (code : UInt32) :
    readCode (front ++ (" (0x" ++ upperHex code ++ ")").toList) = some (front, code) := by
  have hlen := length_upperHex code
  have hcut : (front ++ (" (0x" ++ upperHex code ++ ")").toList).length - 13 = front.length := by
    rw [toList_code]
    simp only [List.length_append, List.length_cons, List.length_nil, hlen]
    omega
  have hdigits : (upperHex code).toList.map hexDigits.idxOf = Numerals.padded 16 8 code.toNat := by
    rw [upperHex, String.toList_ofList, List.map_map]
    refine (List.map_congr_left fun d hd => ?_).trans (List.map_id _)
    exact idxOf_hexDigits (Numerals.lt_of_mem_padded (by decide) hd)
  rw [readCode, hcut, List.drop_left, List.take_left, toList_code, Text.stripPrefix_append]
  simp only [Option.bind_eq_bind, Option.bind_some]
  rw [List.drop_left' hlen, List.take_left' hlen, if_pos rfl, hdigits, Numerals.value_padded,
    UInt32.ofNat_toNat]

/-- What FreeRDP's text adds to a sentence. -/
def added (text : String) : List Char := if text = "" then [] else [':', ' '] ++ text.toList

theorem message_fromContext (strings : Strings) (code : UInt32) (doing : String) :
    (Error.fromContext strings code doing).message.toList =
      (doing ++ " failed").toList ++ (added ((strings code).getD "") ++
        (" (0x" ++ upperHex code ++ ")").toList) := by
  unfold added
  by_cases htext : (strings code).getD "" = ""
  · have hshort : (Error.fromContext strings code doing).message =
        doing ++ " failed (0x" ++ upperHex code ++ ")" := if_pos htext
    rw [hshort, if_pos htext]
    simp [String.toList_append]
  · have hlong : (Error.fromContext strings code doing).message =
        doing ++ " failed: " ++ (strings code).getD "" ++ " (0x" ++ upperHex code ++ ")" :=
      if_neg htext
    rw [hlong, if_neg htext]
    simp [String.toList_append]

/-- **FreeRDP's failures are read back**, code and text. -/
theorem readFault_fromContext (strings : Strings) (code : UInt32) (doing : Doing) :
    readFault doing (Error.fromContext strings code doing.words).message.toList =
      some (.freerdp doing code ((strings code).getD "")) := by
  rw [message_fromContext, ← List.append_assoc, readFault, readCode_append]
  simp only [Option.bind_eq_bind, Option.bind_some, Text.stripPrefix_append]
  unfold added
  by_cases htext : (strings code).getD "" = ""
  · rw [if_pos htext, if_pos rfl, htext]
  · rw [if_neg htext, if_neg (by simp), Text.stripPrefix_append, Option.map_some,
      String.ofList_toList]

/-- A session that fails does not fail to connect. -/
theorem readFault_connect_session (strings : Strings) (code : UInt32) :
    readFault .connect (Error.fromContext strings code (Doing.words .session)).message.toList =
      none := by
  rw [message_fromContext, ← List.append_assoc, readFault, readCode_append]
  simp only [Option.bind_eq_bind, Option.bind_some]
  rw [Option.bind_eq_none_iff]
  intro said hsaid
  -- the first letters differ
  have hhead := congrArg List.head? (Text.stripPrefix_eq_some.1 hsaid)
  cases hhead

theorem readMessage_fromContext (strings : Strings) (code : UInt32) (doing : Doing) :
    readMessage (Error.fromContext strings code doing.words).message.toList =
      some (.freerdp doing code ((strings code).getD "")) := by
  rw [readMessage]
  cases doing with
  | connect => rw [readFault_fromContext, Option.some_or, Option.some_or]
  | session =>
    rw [readFault_connect_session, Option.none_or, readFault_fromContext, Option.some_or]

/-- **This crate's own sentences are told apart**, and from FreeRDP's. -/
theorem readMessage_local (cause : Local) :
    readMessage cause.message.toList = some (.here cause) := by
  cases cause <;> decide +kernel

theorem readDebug_err (error : Error) :
    readDebug (Ended.err error).debug.toList = readMessage error.message.toList := by
  have hlist : (Ended.err error).debug.toList =
      "Err(".toList ++ (error.message.toList ++ [')']) := by
    rw [Ended.debug, String.toList_append, String.toList_append, List.append_assoc]
    rfl
  have hne : (Ended.err error).debug.toList ≠ "Ok(())".toList := by
    rw [hlist]
    intro heq
    cases congrArg List.head? heq
  rw [readDebug, if_neg hne, hlist, Text.stripPrefix_append, Option.bind_some,
    List.dropLast_concat]

/-! ## What each result tells -/

/-- **Only two words of FreeRDP's mean that the host was not reached.** -/
theorem isUnreachable_iff (error : Error) : error.isUnreachable = true ↔
    error.code = 0x00020006 ∨ error.code = 0x0002000D := by
  have hlow : error.code &&& 0xFFFF = error.code % 65536 :=
    Nat.and_two_pow_sub_one_eq_mod error.code 16
  have hhigh : error.code >>> 16 = error.code / 65536 := Nat.shiftRight_eq_div_pow error.code 16
  simp only [Error.isUnreachable, hlow, hhigh, FREERDP_ERROR_CONNECT_CLASS,
    ERRCONNECT_CONNECT_FAILED, ERRCONNECT_CONNECT_TRANSPORT_FAILED, Bool.and_eq_true,
    Bool.or_eq_true, beq_iff_eq]
  omega

theorem tells_ok : Ended.ok.Tells .orderly where
  read := by decide
  orderly := by simp
  code := by rintro error ⟨⟩
  unreachable := by rintro error ⟨⟩

theorem tells_local (cause : Local) :
    (Ended.err (.localError cause.message)).Tells (.here cause) where
  read := by
    rw [readDebug_err]
    exact readMessage_local cause
  orderly := by simp
  code := by
    rintro error ⟨⟩
    rfl
  unreachable := by
    rintro error ⟨⟩
    rw [Bool.eq_iff_iff, isUnreachable_iff]
    simp [Error.localError, Cause.unreachable]

theorem tells_fault (w : World) (doing : Doing) (code : UInt32) :
    (Ended.err (.fromContext w.strings code doing.words)).Tells (w.fault doing code) where
  read := by
    rw [readDebug_err]
    exact readMessage_fromContext w.strings code doing
  orderly := by simp [World.fault]
  code := by
    rintro error ⟨⟩
    rfl
  unreachable := by
    rintro error ⟨⟩
    rw [Bool.eq_iff_iff, isUnreachable_iff]
    simp [World.fault, Cause.unreachable, Error.fromContext, ← UInt32.toNat_inj]

/-! ## What each stage makes of it -/

/-- Of several things that are to be done, the first error is kept. -/
theorem andThenIf_snd (condition : Bool) (r : Settings.RdpSettings × Option String)
    (next : Settings.RdpSettings → Settings.RdpSettings × Option String) :
    (Settings.andThenIf condition r next).2 =
      r.2.or (if condition then (next r.1).2 else none) := by
  obtain ⟨s, error⟩ := r
  cases error <;> cases condition <;> rfl

theorem registerDynamic_snd (rdp : Settings.FreeRdp) (name message : String)
    (s : Settings.RdpSettings) : (Settings.registerDynamic rdp name message s).2 =
      if rdp.addsDynamic [name] then none else some message := by
  unfold Settings.registerDynamic
  split_ifs <;> rfl

/-- A setting that is refused, and what is said of it. -/
theorem refuses_eq (w : World) (x : Settings.Key × Settings.Value) :
    Settings.refuses w.rdp x = (w.wrongSetting x).map Local.message := by
  unfold Settings.refuses World.wrongSetting
  split_ifs
  · rfl
  · rfl
  · cases x.1 <;> rfl

/-- **`apply_settings` says what is wrong first.** -/
theorem applySettings_refusal (w : World) :
    (Settings.applySettings w.rdp w.config w.settings).2 = w.refusal.map Local.message := by
  have htable : (Settings.applyTable w.rdp w.config w.settings).2 =
      ((Settings.table w.config).findSome? w.wrongSetting).map Local.message := by
    rw [List.map_findSome?]
    simp only [Settings.applyTable, Writes.run_snd]
    exact congrArg (List.findSome? · _) (funext fun x => refuses_eq w x)
  simp only [Settings.applySettings, andThenIf_snd, Settings.registerCameraChannel,
    Settings.registerMicChannel, registerDynamic_snd, htable, World.refusal]
  cases (Settings.table w.config).findSome? w.wrongSetting with
  | some cause => rfl
  | none =>
    simp only [Option.map_none, Option.none_or, World.wrongChannel,
      Settings.registerAudioChannels]
    by_cases hsound : w.config.audio = .redirect <;> cases hcamera : w.config.camera <;>
      cases hmic : w.config.microphone <;> simp [hsound] <;> split_ifs <;> simp_all <;> rfl

/-- Where a stage leads, and what the onlooker says to that. -/
def Next.Told (verdict : Option Cause) : Next → Prop
  | .goto _ => verdict = none
  | .ret result => ∃ cause, verdict = some cause ∧ result.Tells cause
  | .unwind => verdict = some (.here .panicked)

/-- A connection that is torn down ends the session, as is seen. -/
theorem told_tornDown {w : World} {code : UInt32} {sh sh' : Shared} {stage : Stage} {n : Next}
    (hstage : stage = .wait ∨ stage = .checkHandles)
    (h : stage.next sh (w.tornDown code) = some (sh', n)) : n.Told (some (w.gone code)) := by
  unfold World.tornDown at h
  unfold World.gone
  split_ifs at h ⊢ with hcode
  · rcases hstage with rfl | rfl <;> cases h <;> exact ⟨_, rfl, tells_ok⟩
  · rcases hstage with rfl | rfl <;> cases h <;> exact ⟨_, rfl, tells_fault w .session code⟩

variable {w : World} {sh sh' : Shared} {stage : Stage} {answer : Answer} {n : Next}

/-- Executing what is in hand: only `Shutdown` ends the session. -/
theorem told_execute {batch : List Command}
    (h : (Stage.execute batch).next sh .ok = some (sh', n)) :
    n.Told ((Stage.execute batch).verdict w sh .done) := by
  cases batch with
  | nil =>
    cases h
    rfl
  | cons command batch =>
    by_cases hc : command = .shutdown
    · subst hc
      cases h
      exact ⟨_, rfl, tells_ok⟩
    · obtain ⟨-, rfl⟩ : sh = sh' ∧ Next.goto (.execute batch) = n := by
        cases command <;> first | exact absurd rfl hc | simpa [Stage.next] using h
      cases command <;> first | exact absurd rfl hc | rfl

/-- `apply_settings` ends the session with what is wrong first. -/
theorem told_applySettings (h : Stage.applySettings.next sh w.applySettings = some (sh', n)) :
    n.Told (w.refusal.map .here) := by
  unfold World.applySettings at h
  rw [applySettings_refusal] at h
  cases hrefusal : w.refusal with
  | none =>
    rw [hrefusal] at h
    cases h
    rfl
  | some cause =>
    rw [hrefusal] at h
    cases h
    exact ⟨_, rfl, tells_local cause⟩

/-- The stages whose calls return nothing that matters. -/
theorem told_done (ha : stage.answer w .done = some answer)
    (h : stage.next sh answer = some (sh', n)) : n.Told (stage.verdict w sh .done) := by
  cases stage with
  | applySettings =>
    cases ha
    exact told_applySettings h
  | installProvider =>
    have hnone : w.installProvider none = some answer := ha
    unfold World.installProvider at hnone
    split at hnone
    · cases hnone
      cases h
      rfl
    · contradiction
    · cases hnone
  | abortRequested =>
    cases ha
    unfold Stage.next at h
    split_ifs at h with hasked
    · cases h
      exact ⟨_, if_pos hasked, tells_local .abandoned⟩
    · cases h
      exact if_neg hasked
  | execute batch =>
    cases ha
    exact told_execute h
  | _ =>
    cases ha
    try
      cases h
      rfl

/-- **A stage ends the session just when the onlooker says so**, and with what he says. -/
theorem Stage.next_told {ret : Returned} (ha : stage.answer w ret = some answer)
    (h : stage.next sh answer = some (sh', n)) : n.Told (stage.verdict w sh ret) := by
  cases ret with
  | panics =>
    have hanswer : some Answer.panicked = some answer := by cases stage <;> exact ha
    cases hanswer
    have hn : some (sh, Next.unwind) = some (sh', n) := by cases stage <;> exact h
    cases hn
    cases stage <;> rfl
  | done => exact told_done ha h
  | subscribed connected disconnected =>
    cases stage with
    | subscribeChannels =>
      cases ha
      unfold Answer.subscribeChannels at h
      split_ifs at h with hfail
      · have hnot : ¬ (0 ≤ connected ∧ 0 ≤ disconnected) := by omega
        cases h
        exact ⟨_, if_neg hnot, tells_local .subscribe⟩
      · cases h
        exact if_pos (by omega)
    | _ => cases ha
  | registered status =>
    cases stage with
    | installProvider =>
      have hsome : w.installProvider (some status) = some answer := ha
      unfold World.installProvider at hsome
      split at hsome
      · contradiction
      · rename_i hstatus
        cases hstatus
        split_ifs at hsome with hzero
        · cases hsome
          cases h
          exact if_pos hzero
        · cases hsome
          cases h
          exact ⟨_, if_neg hzero, tells_local .provider⟩
      · cases hsome
    | _ => cases ha
  | connected ok code =>
    cases stage with
    | connecting =>
      cases ha
      cases ok with
      | true =>
        cases h
        rfl
      | false =>
        cases h
        exact ⟨_, rfl, tells_fault w .connect code⟩
    | _ => cases ha
  | waited count code status =>
    cases stage with
    | wait =>
      cases ha
      unfold World.wait at h
      split_ifs at h with hcount hstatus
      · have hgone : Stage.wait.verdict w sh (.waited count code status) = some (w.gone code) :=
          if_pos hcount
        rw [hgone]
        exact told_tornDown (.inl rfl) h
      · cases h
        exact ⟨_, (if_neg hcount).trans (if_pos hstatus), tells_local .wait⟩
      · cases h
        exact (if_neg hcount).trans (if_neg hstatus)
    | _ => cases ha
  | due =>
    cases stage with
    | due =>
      cases ha
      cases h
      rfl
    | _ => cases ha
  | reconnected ok =>
    cases stage with
    | reconnecting =>
      cases ha
      cases ok with
      | true =>
        cases h
        rfl
      | false =>
        cases h
        exact ⟨_, rfl, tells_local .reconnect⟩
    | _ => cases ha
  | checked ok code shallDisconnect =>
    cases stage with
    | checkHandles =>
      cases ha
      cases ok with
      | false => exact told_tornDown (.inr rfl) h
      | true =>
        cases shallDisconnect with
        | true =>
          cases h
          exact ⟨_, rfl, tells_ok⟩
        | false =>
          cases h
          rfl
    | _ => cases ha

/-! ## The machine -/

namespace Outcome

open Interleaving (Seen)

/-- What can happen next. -/
inductive Act
  /-- The session thread takes its next step. -/
  | thread (ret : Returned)
  /-- `freerdp_client_context_new` answers, or somebody else takes a step. -/
  | other (act : Interleaving.Act)
  deriving DecidableEq

/-- What it is at the grain of atomic steps. -/
def Act.lower (w : World) (pc : Pc) : Act → Option Interleaving.Act
  | .thread ret => (pc.answer w ret).map .thread
  | .other (.thread _) => none
  | .other act => some act

/-- **The session, with the errors it makes itself.** -/
def machine (w : World) : Machine Interleaving Act Seen where
  init := .start
  step s a := (a.lower w s.session.pc).bind (Interleaving.machine.step s)

/-- What ends a session in a move. -/
def verdict (w : World) (m : Move Interleaving Act Seen) : Option Cause :=
  match m.src.session.pc, m.act with
  | .entry, .other (.newContext ctx) => if ctx = Ptr.null then some (.here .context) else none
  | .connected stage, .thread ret => Stage.verdict w m.src.session.shared stage ret
  | _, _ => none

/-! ## Runs -/

variable {w : World} {h : List (Move Interleaving Act Seen)} {s t : Interleaving} {a : Act}
  {o : List Seen}

theorem step_eq_some : (machine w).step s a = some (t, o) ↔
    ∃ b, a.lower w s.session.pc = some b ∧ Interleaving.machine.step s b = some (t, o) := by
  rw [machine]
  exact Option.bind_eq_some_iff

/-- **It is the same session**: whatever it does, it does at the grain of atomic steps. -/
theorem lowered (hr : (machine w).Run h s) :
    ∃ h', Interleaving.machine.Run h' s ∧ Machine.trace h' = Machine.trace h := by
  induction hr with
  | nil => exact ⟨[], .nil, rfl⟩
  | snoc hr hs ih =>
    obtain ⟨h', hr', htrace⟩ := ih
    obtain ⟨b, -, hb⟩ := step_eq_some.1 hs
    exact ⟨_, hr'.snoc hb, by rw [Machine.trace_snoc, Machine.trace_snoc, htrace]⟩

/-- The end that is seen. -/
def ended : Seen → Option Ended
  | .session (.ended result) => some result
  | _ => none

/-- The end that is over. -/
def finishedWith : Pc → Option Ended
  | .finished result => some result
  | _ => none

/-- What the onlooker has said by now. -/
def Told (v : Option Cause) : Pc → Prop
  | .entry | .guarded | .published | .connected _ => v = none
  | .returned result | .withdrawn result | .disconnected result | .dropped result
  | .finished result => ∃ cause, v = some cause ∧ result.Tells cause
  | .unwinding | .unwindingDisconnected => v = some (.here .panicked)

theorem told_pc {v : Option Cause} {n : Next} (h : n.Told v) : Told v n.pc := by
  cases n <;> exact h

/-- A stage shows no end. -/
theorem filterMap_signals (ctx : Ptr) (stage : Stage) (answer : Answer) :
    ((stage.signals ctx answer).map Seen.session).filterMap ended = [] := by
  refine List.filterMap_eq_nil_iff.2 fun x hx => ?_
  obtain ⟨obs, hobs, rfl⟩ := List.mem_map.1 hx
  unfold Stage.signals at hobs
  split at hobs
  · rw [List.mem_singleton.1 hobs]
    rfl
  · cases hobs

theorem filterMap_shows (sh : Shared) (pc : Pc) (answer : Answer) :
    (Interleaving.shows sh pc answer).filterMap ended = [] := by
  unfold Interleaving.shows
  split <;> rfl

/-- One step of the session thread: the end, if it comes, is what the onlooker has said. -/
theorem Told.thread {v : Option Cause} {ret : Returned} (hI : Told v s.session.pc)
    (hs : (machine w).step s (.thread ret) = some (t, o)) :
    Told (v.or (verdict w ⟨s, .thread ret, o, t⟩)) t.session.pc ∧
      (finishedWith t.session.pc).toList =
        (finishedWith s.session.pc).toList ++ o.filterMap ended := by
  obtain ⟨b, hb, hstep⟩ := step_eq_some.1 hs
  obtain ⟨answer, hanswer, rfl⟩ := Option.map_eq_some_iff.1 hb
  obtain ⟨-, r, hr, rfl, rfl⟩ := Interleaving.threadStep_eq_some.1 hstep
  rw [List.filterMap_append, filterMap_shows, List.nil_append]
  unfold State.advance at hr
  cases hpc : s.session.pc with
  | connected stage =>
    rw [hpc] at hr hI hanswer
    obtain ⟨⟨sh, n⟩, hn, rfl⟩ := Option.map_eq_some_iff.1 hr
    have htold := Stage.next_told hanswer hn
    obtain rfl : v = none := hI
    simp only [verdict, hpc, Option.none_or, State.leave_pc, filterMap_signals]
    refine ⟨told_pc htold, ?_⟩
    cases n <;> rfl
  | entry | finished =>
    rw [hpc] at hr
    cases hr
  | unwindingDisconnected =>
    rw [hpc] at hr hI
    cases hr
    obtain rfl : v = some (.here .panicked) := hI
    exact ⟨⟨_, rfl, tells_local .panicked⟩, rfl⟩
  | _ =>
    rw [hpc] at hr hI
    cases hr
    simp only [verdict, hpc, Option.or_none]
    exact ⟨hI, rfl⟩

/-- `freerdp_client_context_new` answers. -/
theorem Told.newContext {v : Option Cause} {ctx : Ptr} (hI : Told v s.session.pc)
    (hs : (machine w).step s (.other (.newContext ctx)) = some (t, o)) :
    Told (v.or (verdict w ⟨s, .other (.newContext ctx), o, t⟩)) t.session.pc ∧
      (finishedWith t.session.pc).toList =
        (finishedWith s.session.pc).toList ++ o.filterMap ended := by
  obtain ⟨b, hb, hstep⟩ := step_eq_some.1 hs
  cases hb
  obtain ⟨r, hr, heq⟩ := Option.map_eq_some_iff.1 hstep
  obtain ⟨rfl, rfl⟩ := Prod.mk.inj heq
  by_cases hpc : s.session.pc = .entry
  · rw [hpc] at hI
    obtain rfl : v = none := hI
    by_cases hctx : ctx = Ptr.null
    · obtain rfl := by simpa [Session.machine, hpc, hctx] using hr
      simp only [verdict, hpc, hctx, if_true, Option.none_or]
      exact ⟨⟨_, rfl, tells_local .context⟩, rfl⟩
    · obtain rfl := by simpa [Session.machine, hpc, hctx] using hr
      simp only [verdict, hpc, hctx, if_false, Option.none_or]
      exact ⟨rfl, rfl⟩
  · simp [Session.machine, hpc] at hr

/-- Nobody else ends the session, or says so. -/
theorem other_step {act : Interleaving.Act} (hnew : ∀ ctx, act ≠ .newContext ctx)
    (hs : (machine w).step s (.other act) = some (t, o)) :
    t.session.pc = s.session.pc ∧ o.filterMap ended = [] ∧
      verdict w ⟨s, .other act, o, t⟩ = none := by
  obtain ⟨b, hb, hstep⟩ := step_eq_some.1 hs
  have hquiet : verdict w ⟨s, .other act, o, t⟩ = none := by
    cases act with
    | newContext ctx => exact absurd rfl (hnew ctx)
    | _ => cases hpc : s.session.pc <;> simp [verdict, hpc]
  cases act with
  | newContext ctx => exact absurd rfl (hnew ctx)
  | thread answer => cases hb
  | reconnect =>
    cases hb
    obtain ⟨-, rfl, rfl⟩ := by simpa [Interleaving.machine] using hstep
    exact ⟨rfl, rfl, hquiet⟩
  | append producer command =>
    cases hb
    obtain ⟨-, rfl, rfl⟩ := by simpa [Interleaving.machine] using hstep
    exact ⟨rfl, rfl, hquiet⟩
  | setEvent producer =>
    cases hb
    obtain ⟨-, rfl, rfl⟩ := by simpa [Interleaving.machine] using hstep
    exact ⟨rfl, rfl, hquiet⟩
  | abortConnect =>
    cases hb
    obtain ⟨hd, hdrop⟩ := Option.ite_none_right_eq_some.1 hstep
    obtain ⟨r, hr, heq⟩ := Option.map_eq_some_iff.1 hdrop
    obtain ⟨rfl, rfl⟩ := Prod.mk.inj heq
    simp only [State.dropStep, hd] at hr
    cases hr
    refine ⟨rfl, ?_, hquiet⟩
    cases s.session.shared.abortConnect.2 <;> rfl
  | join =>
    cases hb
    obtain ⟨rfl, rfl⟩ := Interleaving.step_join hstep
    exact ⟨rfl, rfl, hquiet⟩

/-- What the onlooker has said, at the end of a run and before it. -/
theorem told_of_run (hr : (machine w).Run h s) :
    Told (h.findSome? (verdict w)) s.session.pc ∧
      (finishedWith s.session.pc).toList = (Machine.trace h).filterMap ended := by
  induction hr with
  | nil => exact ⟨rfl, rfl⟩
  | @snoc h s t a o hr hs ih =>
    obtain ⟨hI, hover⟩ := ih
    rw [List.findSome?_append, List.findSome?_singleton, Machine.trace_snoc,
      List.filterMap_append, ← hover]
    cases a with
    | thread ret => exact hI.thread hs
    | other act =>
      by_cases hnew : ∃ ctx, act = .newContext ctx
      · obtain ⟨ctx, rfl⟩ := hnew
        exact hI.newContext hs
      · obtain ⟨hpc, hout, hquiet⟩ := other_step (fun ctx heq => hnew ⟨ctx, heq⟩) hs
        rw [hquiet, Option.or_none, hpc, hout, List.append_nil]
        exact ⟨hI, rfl⟩

/-- **A session ends once, and says truly why.**  In every order of steps, the ends that are
seen are the one that is over, or none; and an end that is seen tells the first thing that
went wrong, as whoever watched the calls would say it: it can be read in the printed result,
with FreeRDP's code and text; the code is FreeRDP's, or zero; and the host is called
unreachable just if FreeRDP's code is one of two. -/
theorem ended_is_told (hr : (machine w).Run h s) :
    (Machine.trace h).filterMap ended = (finishedWith s.session.pc).toList ∧
      ∀ result, .session (.ended result) ∈ Machine.trace h →
        ∃ cause, h.findSome? (verdict w) = some cause ∧ result.Tells cause := by
  obtain ⟨htold, hover⟩ := told_of_run hr
  refine ⟨hover.symm, fun result hin => ?_⟩
  have hmem : result ∈ (Machine.trace h).filterMap ended :=
    List.mem_filterMap.2 ⟨_, hin, rfl⟩
  rw [← hover, Option.mem_toList] at hmem
  cases hpc : s.session.pc with
  | finished result' =>
    rw [hpc] at hmem htold
    cases hmem
    exact htold
  | _ =>
    rw [hpc] at hmem
    cases hmem

/-- A host that cannot be reached, by a FreeRDP that takes all settings. -/
def nowhere : World where
  config := Settings.Connect.default
  settings := Settings.created
  rdp := ⟨fun _ => true, fun _ => true, fun _ => true⟩
  strings code := if code = 0x00020006 then some "no route" else none

/-- A key is pressed while the session connects. -/
def unreached : List Act :=
  .other (.newContext 1) :: List.replicate 4 (.thread .done) ++
    [.thread (.subscribed 0 0), .thread .done, .thread .done, .thread .done,
      .other (.append (.thread 0) (.key true 30)), .other (.setEvent (.thread 0)),
      .thread (.connected false 0x00020006)] ++ List.replicate 4 (.thread .done)

theorem ended_is_told_unreached : ∃ h s cause, (machine nowhere).Run h s ∧
    h.findSome? (verdict nowhere) = some cause ∧ cause.unreachable = true ∧
    readDebug "Err(connect failed: no route (0x00020006))".toList = some cause := by
  have hrun := (machine nowhere).run_get unreached (by decide +kernel)
  obtain ⟨-, htells⟩ := ended_is_told hrun
  obtain ⟨cause, hcause, htell⟩ :=
    htells (.err ⟨0x00020006, "connect failed: no route (0x00020006)"⟩) (by decide +kernel)
  refine ⟨_, _, cause, hrun, hcause, ?_, htell.read⟩
  rw [← htell.unreachable _ rfl]
  decide

end Outcome
end Session
end FreerdpPrebuilt
