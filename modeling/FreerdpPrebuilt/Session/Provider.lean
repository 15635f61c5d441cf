import FreerdpPrebuilt.Lib.History
import FreerdpPrebuilt.Session.Settings

/-!
# One addin provider for every session

FreeRDP finds a channel's plugin by asking one function, a global of the process.
`freerdp_client_context_new` puts FreeRDP's own there, each time.  A session with
sound, a camera or a microphone puts `addin_provider` there instead, which answers
for three names and passes everything else on to `UPSTREAM`: what stood there when
the first such session looked, in a `OnceLock`.  If that were `addin_provider`
itself, passing on would never end.

Here any number of sessions start, connect and end on threads of their own, step by
step, the initialisation of the lock included.

* `lookups_come_back` — no lookup runs on for ever, and each is answered: what is not
  one of the three names by FreeRDP alone, whoever asks and whenever; one of the three
  by this crate's plugin exactly if no session has made a context since the last one
  installed the provider, and by FreeRDP otherwise.  Only a session that was configured
  with a plugin asks for it, because only that session's `apply_settings` has registered
  its channel.

FreeRDP's search for a plugin, its own plugins and what a connection looks up are
parameters; `Documented` is what is relied on of them.
-/

namespace FreerdpPrebuilt
namespace Session
namespace Provider

open Labelled

/-! ## `addin_provider` -/

/-- What is asked for: two C strings, or null. -/
structure Query where
  name : Option String
  subsystem : Option String
  deriving DecidableEq

/-- The entries of this crate: `camera::plugin_entry`, `mic::plugin_entry` and
`subsystem_entry`. -/
inductive Plugin
  | camera
  | microphone
  | device
  deriving DecidableEq

/-- An entry, this crate's or FreeRDP's, by a number. -/
inductive Entry
  | ours (plugin : Plugin)
  | theirs (entry : ℕ)
  deriving DecidableEq

def SUBSYSTEM : String := "rust"

/-- What `addin_provider` answers itself. -/
def ownAnswer (q : Query) : Option Plugin :=
  if q.name = some "rdpecam" ∧ q.subsystem = none then some .camera
  else if q.name = some "audin" ∧ q.subsystem = none then some .microphone
  else if q.name = some "rdpsnd" ∧ q.subsystem = some SUBSYSTEM then some .device
  else none

/-- The functions that are registered as providers. -/
inductive Installed
  /-- `freerdp_channels_load_static_addin_entry`. -/
  | freerdp
  /-- `addin_provider`. -/
  | ours
  deriving DecidableEq

/-- A `OnceLock`; while one thread initialises it, the others wait. -/
inductive Once
  | empty
  | initialising (read : Option Installed)
  | set (value : Option Installed)
  deriving DecidableEq

/-- `OnceLock::get`. -/
def Once.get : Once → Option (Option Installed)
  | .set value => some value
  | .empty | .initialising _ => none

structure Globals where
  /-- FreeRDP's: the provider that is registered. -/
  current : Option Installed
  /-- `UPSTREAM`. -/
  upstream : Once

/-- What a provider says to a query; `none` if the stack overflows. -/
abbrev Lookup := Query → Option (Option Entry)

/-- FreeRDP. -/
structure FreeRdp where
  /-- `freerdp_channels_load_static_addin_entry`. -/
  compiledIn : Query → Option ℕ
  /-- `freerdp_load_channel_addin_entry`, with the provider that is registered. -/
  load : Option Lookup → Lookup
  /-- Whether a connection with these static and these dynamic channels looks this up. -/
  looksUp : List Settings.Channel → List Settings.Channel → Query → Bool

/-- **What is relied on of FreeRDP.** -/
structure Documented (rdp : FreeRdp) : Prop where
  /-- What the registered provider finds is loaded. -/
  found : ∀ {provider : Lookup} {q entry}, provider q = some (some entry) →
    rdp.load (some provider) q = some (some entry)
  /-- The provider is asked for what is looked up, and for nothing else. -/
  asks : ∀ {provider provider' : Lookup} {q}, provider q = provider' q →
    rdp.load (some provider) q = rdp.load (some provider') q
  /-- The search comes back, if the provider does. -/
  returns : ∀ {provider : Lookup} {q}, (provider q).isSome = true →
    (rdp.load (some provider) q).isSome = true
  /-- The crate's names are looked up for channels that are registered: by drdynvc under the
  bare name of a dynamic channel, by rdpsnd for the subsystem among its arguments. -/
  registered : ∀ {statics dynamics q}, rdp.looksUp statics dynamics q = true →
    (ownAnswer q).isSome = true → ∃ channel ∈ statics ++ dynamics, channel.head? = q.name

/-- FreeRDP's own provider. -/
def FreeRdp.provider (rdp : FreeRdp) : Lookup := fun q => some ((rdp.compiledIn q).map .theirs)

/-- A call of a provider, on a stack with room for so many. -/
def call (rdp : FreeRdp) (g : Globals) : ℕ → Installed → Lookup
  | 0, _, _ => none
  | _ + 1, .freerdp, q => rdp.provider q
  | depth + 1, .ours, q =>
    match ownAnswer q with
    | some plugin => some (some (.ours plugin))
    | none =>
      match g.upstream.get with
      | some (some upstream) => call rdp g depth upstream q
      | _ => some none

/-- A lookup, with the provider that is registered. -/
def load (rdp : FreeRdp) (g : Globals) (depth : ℕ) : Lookup :=
  rdp.load (g.current.map (call rdp g depth))

/-! ## The sessions -/

/-- What a session starts from: its configuration, the settings of its context, which have no
channels yet, and what FreeRDP takes of the configuration. -/
structure Setup where
  config : Settings.Connect
  created : Settings.RdpSettings
  fresh : created.staticChannels = [] ∧ created.dynamicChannels = []
  takes : Settings.FreeRdp

/-- What `apply_settings` leaves, and the error it returns, if any. -/
def Setup.applied (setup : Setup) : Settings.RdpSettings × Option String :=
  Settings.applySettings setup.takes setup.config setup.created

/-- Whether a configuration has what a plugin is for. -/
def has (config : Settings.Connect) : Plugin → Bool
  | .camera => config.camera
  | .microphone => config.microphone
  | .device => config.audio = .redirect

/-- How far a session has got. -/
inductive Phase
  | fresh
  /-- It has a context. -/
  | made
  /-- Its settings and channels are made. -/
  | applied
  /-- Inside the closure of `get_or_init`. -/
  | initialising
  /-- After `get_or_init`. -/
  | taken
  /-- Inside `freerdp_connect`, or connected. -/
  | connecting
  | over
  deriving DecidableEq

structure State where
  globals : Globals
  phase : ℕ → Phase

inductive Act
  /-- `freerdp_client_context_new`; one that fails may have registered before it did. -/
  | contextNew (session : ℕ) (ok registered : Bool)
  /-- `apply_settings`. -/
  | applies (session : ℕ)
  /-- `get_or_init`: the session reads the provider, or finds one read. -/
  | takes (session : ℕ)
  /-- The end of the closure. -/
  | stores (session : ℕ)
  /-- `freerdp_register_addin_provider`. -/
  | registers (session : ℕ) (ok : Bool)
  /-- A session without sound, camera and microphone goes on to connect. -/
  | skips (session : ℕ)
  /-- FreeRDP looks for a plugin. -/
  | loads (session : ℕ) (query : Query)
  | ends (session : ℕ)

/-- What is seen: the answer to a lookup, or none. -/
structure Obs where
  session : ℕ
  query : Query
  answer : Option (Option Entry)
  deriving DecidableEq

def State.goes (s : State) (session : ℕ) (phase : Phase) : State :=
  { s with phase := fun i => if i = session then phase else s.phase i }

def State.install (s : State) (provider : Installed) : State :=
  { s with globals := { s.globals with current := some provider } }

def State.once (s : State) (once : Once) : State :=
  { s with globals := { s.globals with upstream := once } }

section

variable (rdp : FreeRdp) (setups : ℕ → Setup) (depth : ℕ)

/-- One step. -/
def step (s : State) : Act → Option (State × List Obs)
  | .contextNew session ok registered =>
    if s.phase session = .fresh ∧ (ok = true → registered = true) then
      let s := if registered then s.install .freerdp else s
      some (s.goes session (if ok then .made else .over), [])
    else none
  | .applies session =>
    if s.phase session = .made then
      some (s.goes session (if (setups session).applied.2 = none then .applied else .over), [])
    else none
  | .takes session =>
    if s.phase session = .applied ∧ (setups session).config.wantsProvider = true then
      match s.globals.upstream with
      | .empty => some ((s.once (.initialising s.globals.current)).goes session .initialising, [])
      | .initialising _ => none
      | .set _ => some (s.goes session .taken, [])
    else none
  | .stores session =>
    if s.phase session = .initialising then
      match s.globals.upstream with
      | .initialising read => some ((s.once (.set read)).goes session .taken, [])
      | .empty | .set _ => none
    else none
  | .registers session ok =>
    if s.phase session = .taken then
      if ok then some ((s.install .ours).goes session .connecting, [])
      else some (s.goes session .over, [])
    else none
  | .skips session =>
    if s.phase session = .applied ∧ (setups session).config.wantsProvider = false then
      some (s.goes session .connecting, [])
    else none
  | .loads session query =>
    let settings := (setups session).applied.1
    if s.phase session = .connecting ∧
        rdp.looksUp settings.staticChannels settings.dynamicChannels query = true then
      some (s, [⟨session, query, load rdp s.globals depth query⟩])
    else none
  | .ends session =>
    if s.phase session = .initialising then none else some (s.goes session .over, [])

/-- **The sessions of a process.** -/
def machine : Machine State Act Obs where
  init := ⟨⟨none, .empty⟩, fun _ => .fresh⟩
  step := step rdp setups depth

end

/-! ## What is claimed -/

/-- The provider a move puts in place. -/
def installs (m : Move State Act Obs) : Option Installed :=
  match m.act with
  | .contextNew _ _ registered => if registered then some .freerdp else none
  | .registers _ ok => if ok then some .ours else none
  | .applies _ | .takes _ | .stores _ | .skips _ | .loads _ _ | .ends _ => none

/-- What FreeRDP answers by itself. -/
def FreeRdp.alone (rdp : FreeRdp) : Lookup := rdp.load (some rdp.provider)

/-- **What is promised of a lookup**, by the provider that was put in place last. -/
def promised (rdp : FreeRdp) (last : Option Installed) (q : Query) : Option (Option Entry) :=
  match ownAnswer q with
  | some plugin => if last = some .ours then some (some (.ours plugin)) else rdp.alone q
  | none => rdp.alone q

/-! ## One step -/

section

variable (rdp : FreeRdp) (setups : ℕ → Setup) (depth : ℕ) (s : State)

/-- **All that one step can do.** -/
inductive Stepped : Act → State → List Obs → Prop
  | created {session} : Stepped (.contextNew session true true)
      ((s.install .freerdp).goes session .made) []
  | notCreated {session registered} : Stepped (.contextNew session false registered)
      ((if registered then s.install .freerdp else s).goes session .over) []
  | prepared {session} : s.phase session = .made → (setups session).applied.2 = none →
      Stepped (.applies session) (s.goes session .applied) []
  | refused {session} : s.phase session = .made → (setups session).applied.2 ≠ none →
      Stepped (.applies session) (s.goes session .over) []
  /-- It reads the provider that is in place. -/
  | reads {session} : s.phase session = .applied → s.globals.upstream = .empty →
      Stepped (.takes session)
        ((s.once (.initialising s.globals.current)).goes session .initialising) []
  /-- It finds one read. -/
  | finds {session value} : s.phase session = .applied → s.globals.upstream = .set value →
      Stepped (.takes session) (s.goes session .taken) []
  | stores {session read} : s.phase session = .initialising →
      s.globals.upstream = .initialising read →
      Stepped (.stores session) ((s.once (.set read)).goes session .taken) []
  | registers {session} : s.phase session = .taken →
      Stepped (.registers session true) ((s.install .ours).goes session .connecting) []
  | notRegistered {session} : s.phase session = .taken →
      Stepped (.registers session false) (s.goes session .over) []
  | skips {session} : s.phase session = .applied →
      Stepped (.skips session) (s.goes session .connecting) []
  | loads {session query} : s.phase session = .connecting →
      rdp.looksUp (setups session).applied.1.staticChannels
        (setups session).applied.1.dynamicChannels query = true →
      Stepped (.loads session query) s [⟨session, query, load rdp s.globals depth query⟩]
  | ends {session} : Stepped (.ends session) (s.goes session .over) []

end

variable {rdp : FreeRdp} {setups : ℕ → Setup} {depth : ℕ} {s t : State} {a : Act} {o : List Obs}
  {session : ℕ}

theorem stepped (hs : (machine rdp setups depth).step s a = some (t, o)) :
    Stepped rdp setups depth s a t o := by
  cases a with
  | contextNew session ok registered =>
    simp only [machine, Provider.step, Option.ite_none_right_eq_some] at hs
    obtain ⟨⟨-, hok⟩, hs⟩ := hs
    cases hs
    cases ok with
    | true =>
      obtain rfl : registered = true := hok rfl
      exact .created
    | false => exact .notCreated
  | applies session =>
    simp only [machine, Provider.step, Option.ite_none_right_eq_some] at hs
    obtain ⟨hmade, hs⟩ := hs
    split_ifs at hs with hdone
    · cases hs
      exact .prepared hmade hdone
    · cases hs
      exact .refused hmade hdone
  | takes session =>
    simp only [machine, Provider.step, Option.ite_none_right_eq_some] at hs
    obtain ⟨⟨happlied, -⟩, hs⟩ := hs
    split at hs
    · next hempty =>
      cases hs
      exact .reads happlied hempty
    · cases hs
    · next hset =>
      cases hs
      exact .finds happlied hset
  | stores session =>
    simp only [machine, Provider.step, Option.ite_none_right_eq_some] at hs
    obtain ⟨hphase, hs⟩ := hs
    split at hs
    · next hread =>
      cases hs
      exact .stores hphase hread
    · cases hs
    · cases hs
  | registers session ok =>
    simp only [machine, Provider.step, Option.ite_none_right_eq_some] at hs
    obtain ⟨htaken, hs⟩ := hs
    cases ok with
    | true =>
      cases hs
      exact .registers htaken
    | false =>
      cases hs
      exact .notRegistered htaken
  | skips session =>
    simp only [machine, Provider.step, Option.ite_none_right_eq_some] at hs
    obtain ⟨⟨happlied, -⟩, hs⟩ := hs
    cases hs
    exact .skips happlied
  | loads session query =>
    simp only [machine, Provider.step, Option.ite_none_right_eq_some] at hs
    obtain ⟨⟨hconnecting, hlooks⟩, hs⟩ := hs
    cases hs
    exact .loads hconnecting hlooks
  | ends session =>
    simp only [machine, Provider.step, Option.ite_none_left_eq_some] at hs
    obtain ⟨-, hs⟩ := hs
    cases hs
    exact .ends

/-- A session that has a context. -/
def Phase.hasContext : Phase → Bool
  | .fresh | .over => false
  | .made | .applied | .initialising | .taken | .connecting => true

/-- A session whose settings have been made. -/
def Phase.hasSettings : Phase → Bool
  | .fresh | .made | .over => false
  | .applied | .initialising | .taken | .connecting => true

/-- What the lock knows of the provider that is in place. -/
def Once.Knows (phase : ℕ → Phase) (current : Option Installed) : Once → Prop
  | .empty => current ≠ some .ours ∧ ∀ i, phase i ≠ .taken
  | .initialising read => read = some .freerdp ∧ current ≠ some .ours ∧ ∀ i, phase i ≠ .taken
  | .set value => value = some .freerdp

/-- **What holds of the globals**, however far each session has got. -/
structure Sound (s : State) : Prop where
  /-- Where there is a context, there is a provider. -/
  provided : ∀ i, (s.phase i).hasContext = true → s.globals.current ≠ none
  /-- `addin_provider` is in place only once `UPSTREAM` is FreeRDP's. -/
  knows : s.globals.upstream.Knows s.phase s.globals.current

theorem goes_phase (s : State) (session i : ℕ) (phase : Phase) :
    (s.goes session phase).phase i = if i = session then phase else s.phase i := rfl

/-- A session moves on, and no other notices. -/
theorem Sound.goes (hI : Sound s) {phase : Phase}
    (hcontext : phase.hasContext = true → s.globals.current ≠ none)
    (htaken : phase = .taken → ∃ value, s.globals.upstream = .set value) :
    Sound (s.goes session phase) := by
  have hknows := hI.knows
  refine ⟨?_, ?_⟩
  · intro i hi
    rw [goes_phase] at hi
    split_ifs at hi
    · exact hcontext hi
    · exact hI.provided i hi
  · have hquiet : (∀ i, s.phase i ≠ .taken) → phase ≠ .taken →
        ∀ i, (s.goes session phase).phase i ≠ .taken := by
      intro hall hphase i
      rw [goes_phase]
      split_ifs
      · exact hphase
      · exact hall i
    show s.globals.upstream.Knows (s.goes session phase).phase s.globals.current
    cases honce : s.globals.upstream with
    | empty =>
      rw [honce] at hknows
      refine ⟨hknows.1, hquiet hknows.2 ?_⟩
      rintro rfl
      obtain ⟨value, hset⟩ := htaken rfl
      cases honce.symm.trans hset
    | initialising read =>
      rw [honce] at hknows
      refine ⟨hknows.1, hknows.2.1, hquiet hknows.2.2 ?_⟩
      rintro rfl
      obtain ⟨value, hset⟩ := htaken rfl
      cases honce.symm.trans hset
    | set value =>
      rw [honce] at hknows
      exact hknows

/-- FreeRDP puts its own provider in place. -/
theorem Sound.install_freerdp (hI : Sound s) : Sound (s.install .freerdp) := by
  have hknows := hI.knows
  refine ⟨fun _ _ => by simp [State.install], ?_⟩
  show s.globals.upstream.Knows s.phase (some .freerdp)
  cases honce : s.globals.upstream with
  | empty =>
    rw [honce] at hknows
    exact ⟨by simp, hknows.2⟩
  | initialising read =>
    rw [honce] at hknows
    exact ⟨hknows.1, by simp, hknows.2.2⟩
  | set value =>
    rw [honce] at hknows
    exact hknows

/-- A session that has come past `get_or_init` knows that the lock is set. -/
theorem Sound.set_of_taken (hI : Sound s) (h : s.phase session = .taken) :
    s.globals.upstream = .set (some .freerdp) := by
  have hknows := hI.knows
  cases honce : s.globals.upstream with
  | empty =>
    rw [honce] at hknows
    exact absurd h (hknows.2 session)
  | initialising read =>
    rw [honce] at hknows
    exact absurd h (hknows.2.2 session)
  | set value =>
    rw [honce] at hknows
    rw [show value = some .freerdp from hknows]

theorem Sound.step (hI : Sound s) (hs : Stepped rdp setups depth s a t o) : Sound t := by
  have hknows := hI.knows
  cases hs with
  | created =>
    exact hI.install_freerdp.goes (fun _ => by simp [State.install]) (fun h => by cases h)
  | @notCreated session registered =>
    cases registered with
    | true => exact hI.install_freerdp.goes (fun h => by cases h) (fun h => by cases h)
    | false => exact hI.goes (fun h => by cases h) (fun h => by cases h)
  | prepared hmade =>
    exact hI.goes (fun _ => hI.provided _ (by rw [hmade]; rfl)) (fun h => by cases h)
  | reads happlied hempty =>
    rw [hempty] at hknows
    have hcurrent : s.globals.current ≠ none := hI.provided _ (by rw [happlied]; rfl)
    -- what is read is not ours, and there is something to read
    have hread : s.globals.current = some .freerdp := by
      cases hcur : s.globals.current with
      | none => exact absurd hcur hcurrent
      | some provider =>
        cases provider with
        | freerdp => rfl
        | ours => exact absurd hcur hknows.1
    have hmid : Sound (s.once (.initialising s.globals.current)) :=
      ⟨hI.provided, hread, hknows.1, hknows.2⟩
    exact hmid.goes (fun _ => hcurrent) (fun h => by cases h)
  | @finds session value happlied hset =>
    exact hI.goes (fun _ => hI.provided _ (by rw [happlied]; rfl)) (fun _ => ⟨value, hset⟩)
  | @stores session read hphase hinitialising =>
    rw [hinitialising] at hknows
    have hmid : Sound (s.once (.set read)) := ⟨hI.provided, hknows.1⟩
    refine hmid.goes ?_ fun _ => ⟨read, rfl⟩
    intro _
    exact hI.provided session (by rw [hphase]; rfl)
  | registers htaken =>
    have hmid : Sound (s.install .ours) := by
      refine ⟨fun _ _ => by simp [State.install], ?_⟩
      show s.globals.upstream.Knows s.phase (some .ours)
      rw [hI.set_of_taken htaken]
      rfl
    exact hmid.goes (fun _ => by simp [State.install]) (fun h => by cases h)
  | skips happlied =>
    exact hI.goes (fun _ => hI.provided _ (by rw [happlied]; rfl)) (fun h => by cases h)
  | loads => exact hI
  | refused | notRegistered | ends => exact hI.goes (fun h => by cases h) (fun h => by cases h)

/-- What a move puts in place is in place after it. -/
theorem current_step (hs : Stepped rdp setups depth s a t o) :
    t.globals.current = (installs ⟨s, a, o, t⟩).or s.globals.current := by
  cases hs with
  | @notCreated session registered => cases registered <;> rfl
  | _ => rfl

/-- The settings of a session that has gone past them are made. -/
def Prepared (setups : ℕ → Setup) (s : State) : Prop :=
  ∀ i, (s.phase i).hasSettings = true → (setups i).applied.2 = none

theorem Prepared.goes (hI : Prepared setups s) {t : State} {phase : Phase}
    (ht : t.phase = (s.goes session phase).phase)
    (hphase : phase.hasSettings = true → (setups session).applied.2 = none) :
    Prepared setups t := by
  intro i hi
  rw [ht, goes_phase] at hi
  split_ifs at hi with hsame
  · rw [hsame]
    exact hphase hi
  · exact hI i hi

/-- **Only `apply_settings` prepares a session**, and it has to succeed. -/
theorem Prepared.step (hI : Prepared setups s) (hs : Stepped rdp setups depth s a t o) :
    Prepared setups t := by
  cases hs with
  | created => exact hI.goes rfl fun h => by cases h
  | @notCreated session registered =>
    exact hI.goes (by cases registered <;> rfl) fun h => by cases h
  | prepared _ hdone => exact hI.goes rfl fun _ => hdone
  | reads hphase | finds hphase | stores hphase | registers hphase | skips hphase =>
    exact hI.goes rfl fun _ => hI _ (by rw [hphase]; rfl)
  | loads => exact hI
  | refused | notRegistered | ends => exact hI.goes rfl fun h => by cases h

/-! ## One lookup -/

/-- **A channel of this crate's is registered only for what the configuration has.** -/
theorem has_of_registered {setup : Setup} {q : Query} {plugin : Plugin}
    {channel : Settings.Channel} (h : setup.applied.2 = none)
    (hchannel : channel ∈ setup.applied.1.staticChannels ++ setup.applied.1.dynamicChannels)
    (hname : channel.head? = q.name) (hown : ownAnswer q = some plugin) :
    has setup.config plugin = true := by
  obtain ⟨hstatic, hdynamic⟩ := Settings.channels_applySettings setup.fresh h
  have hsound : channel ∈ Settings.soundChannels setup.config → has setup.config .device = true ∧
      q.name = some "rdpsnd" := by
    intro hmem
    unfold Settings.soundChannels at hmem
    split_ifs at hmem with haudio
    · rw [List.mem_singleton.1 hmem] at hname
      exact ⟨decide_eq_true haudio, hname.symm⟩
    · cases hmem
  -- the name of the channel says which plugin is meant
  have hplugin : ∀ plugin', has setup.config plugin' = true →
      (∀ other, ownAnswer q = some other → other = plugin') → has setup.config plugin = true := by
    intro plugin' hhas honly
    rw [honly plugin hown]
    exact hhas
  have hname' : q.name = channel.head? := hname.symm
  rw [Setup.applied, hstatic, hdynamic] at hchannel
  simp only [List.mem_append] at hchannel
  rcases hchannel with hmem | (hmem | hmem) | hmem
  · obtain ⟨hhas, hq⟩ := hsound hmem
    exact hplugin .device hhas (by simp [ownAnswer, hq])
  · obtain ⟨hhas, hq⟩ := hsound hmem
    exact hplugin .device hhas (by simp [ownAnswer, hq])
  · split_ifs at hmem with hcamera
    · rw [List.mem_singleton.1 hmem] at hname'
      exact hplugin .camera hcamera (by simp [ownAnswer, hname'])
    · cases hmem
  · split_ifs at hmem with hmic
    · rw [List.mem_singleton.1 hmem] at hname'
      exact hplugin .microphone hmic (by simp [ownAnswer, hname'])
    · cases hmem

/-- FreeRDP by itself always comes back. -/
theorem isSome_alone (hrdp : Documented rdp) (q : Query) : (rdp.alone q).isSome = true :=
  hrdp.returns rfl

/-- **A lookup comes back**: it goes through `addin_provider` at most once, and
through FreeRDP's provider after that. -/
theorem Sound.load_eq (hrdp : Documented rdp) (hI : Sound s) (hdepth : 2 ≤ depth)
    (hcontext : s.globals.current ≠ none) (q : Query) :
    load rdp s.globals depth q = promised rdp s.globals.current q := by
  obtain ⟨d, rfl⟩ : ∃ d, depth = d + 2 := ⟨depth - 2, by omega⟩
  cases hcurrent : s.globals.current with
  | none => exact absurd hcurrent hcontext
  | some provider =>
    rw [load, hcurrent, Option.map_some]
    cases provider with
    | freerdp =>
      have hsame : call rdp s.globals (d + 2) .freerdp = rdp.provider := rfl
      rw [hsame, promised]
      cases ownAnswer q <;> rfl
    | ours =>
      have hset : s.globals.upstream = .set (some .freerdp) := by
        have hknows := hI.knows
        cases honce : s.globals.upstream with
        | empty =>
          rw [honce] at hknows
          exact absurd hcurrent hknows.1
        | initialising read =>
          rw [honce] at hknows
          exact absurd hcurrent hknows.2.1
        | set value =>
          rw [honce] at hknows
          rw [show value = some .freerdp from hknows]
      cases hown : ownAnswer q with
      | some plugin =>
        have hfound : call rdp s.globals (d + 2) .ours q = some (some (.ours plugin)) := by
          rw [call, hown]
        simp only [promised, hown, if_true]
        exact hrdp.found hfound
      | none =>
        have hpassed : call rdp s.globals (d + 2) .ours q = rdp.provider q := by
          rw [call, hown, hset]
          rfl
        simp only [promised, hown]
        exact hrdp.asks hpassed

/-! ## The whole run -/

variable {h : List (Move State Act Obs)}

theorem sound_of_run (hr : (machine rdp setups depth).Run h s) :
    Sound s ∧ Prepared setups s ∧ s.globals.current = latest installs h := by
  induction hr with
  | nil =>
    refine ⟨⟨?_, by simp [machine], fun i => by simp [machine]⟩, ?_, rfl⟩
    · intro i hi
      cases hi
    · intro i hi
      cases hi
  | snoc _ hs ih =>
    obtain ⟨hI, hprepared, hcurrent⟩ := ih
    refine ⟨hI.step (stepped hs), hprepared.step (stepped hs), ?_⟩
    rw [current_step (stepped hs), latest_snoc, hcurrent]

variable {hist : List (Move (State × List (Move State Act Obs)) Act Obs)}
  {last : State × List (Move State Act Obs)}

/-- **Every lookup comes back, and with the right answer.**  In every run of any number
of sessions, each on a thread of its own: what FreeRDP looks up in a session is answered
without the provider calling itself.  What is not this crate's is answered as FreeRDP
alone would, whatever the sessions do.  One of the crate's own three is looked up only in a
session configured with it, and answered with its plugin if the provider has been
installed since a session last made a context; if a context was made since, FreeRDP
answers. -/
theorem lookups_come_back (hrdp : Documented rdp) (hdepth : 2 ≤ depth)
    (hr : (machine rdp setups depth).logged.Run hist last) :
    ∀ m ∈ hist, ∀ session q, m.act = .loads session q →
      (rdp.alone q).isSome = true ∧
      (ownAnswer q = none → m.out = [⟨session, q, rdp.alone q⟩]) ∧
      ∀ plugin, ownAnswer q = some plugin → has (setups session).config plugin = true ∧
        (latest installs m.src.2 = some .ours →
          m.out = [⟨session, q, some (some (.ours plugin))⟩]) ∧
        (latest installs m.src.2 = some .freerdp → m.out = [⟨session, q, rdp.alone q⟩]) ∧
        latest installs m.src.2 ≠ none := by
  intro m hm session q hact
  obtain ⟨hbefore, hs⟩ := hr.logged_src hm
  obtain ⟨hI, hprepared, hcurrent⟩ := sound_of_run hbefore
  rw [hact] at hs
  simp only [machine, Provider.step, Option.ite_none_right_eq_some] at hs
  obtain ⟨⟨hphase, hlooks⟩, hs⟩ := hs
  have hcontext : m.src.1.globals.current ≠ none := hI.provided session (by rw [hphase]; rfl)
  have hout : m.out = [⟨session, q, promised rdp (latest installs m.src.2) q⟩] := by
    rw [← hcurrent, ← hI.load_eq hrdp hdepth hcontext]
    exact (Prod.mk.inj (Option.some.inj hs)).2.symm
  refine ⟨isSome_alone hrdp q, ?_, ?_⟩
  · intro hnone
    rw [hout]
    simp [promised, hnone]
  · intro plugin hplugin
    have hdone := hprepared session (by rw [hphase]; rfl)
    obtain ⟨channel, hchannel, hname⟩ := hrdp.registered hlooks (by rw [hplugin]; rfl)
    refine ⟨has_of_registered hdone hchannel hname hplugin, ?_, ?_, hcurrent ▸ hcontext⟩
    · intro hlast
      rw [hout]
      simp [promised, hplugin, hlast]
    · intro hlast
      rw [hout]
      simp [promised, hplugin, hlast]

/-- FreeRDP has `rdpsnd` compiled in, and finds no libraries.  It looks up the plugin of each
channel, and rdpsnd the device its first argument names. -/
def sndOnly : FreeRdp where
  compiledIn q := if q.name = some "rdpsnd" ∧ q.subsystem = none then some 1 else none
  load provider q := (provider.map (· q)).getD (some none)
  looksUp statics dynamics q :=
    q = ⟨some "rdpsnd", none⟩ || (statics ++ dynamics).any fun channel =>
      channel.head? == q.name &&
        (q.subsystem.isNone || channel[1]? == q.subsystem.map ("sys:" ++ ·))

theorem documented_sndOnly : Documented sndOnly where
  found := id
  asks := id
  returns := id
  registered := by
    intro statics dynamics q hlooks hown
    simp only [sndOnly, Bool.or_eq_true] at hlooks
    rcases hlooks with hq | hlooks
    · rw [of_decide_eq_true hq] at hown
      cases hown
    · obtain ⟨channel, hchannel, hname⟩ := List.any_eq_true.1 hlooks
      rw [Bool.and_eq_true] at hname
      exact ⟨channel, hchannel, eq_of_beq hname.1⟩

/-- The first session has sound and a camera, the third a camera, the others nothing. -/
def three (session : ℕ) : Setup where
  config :=
    { Settings.Connect.default with
      audio := if session = 0 then .redirect else .mute
      camera := session = 0 || session = 2 }
  created := Settings.created
  fresh := ⟨rfl, rfl⟩
  takes := ⟨fun _ => true, fun _ => true, fun _ => true⟩

def camera : Query := ⟨some "rdpecam", none⟩

/-- The second session makes its context while the first initialises the lock; the first
finds its camera.  Another context is made, and the camera is not found until the third
session has installed the provider again. -/
def overlapping : List Act :=
  [.contextNew 0 true true, .contextNew 2 true true, .applies 0, .applies 2, .takes 0,
    .contextNew 1 true true, .stores 0, .takes 2, .registers 0 true, .loads 0 camera,
    .loads 0 ⟨some "rdpsnd", some SUBSYSTEM⟩, .contextNew 3 true true, .loads 0 camera,
    .applies 1, .skips 1, .loads 1 ⟨some "rdpsnd", none⟩, .registers 2 true, .loads 0 camera,
    .ends 0]

theorem lookups_come_back_overlapping : ∃ hist last,
    (machine sndOnly three 2).logged.Run hist last ∧ hist.length = 19 ∧
    ∀ m ∈ hist, ∀ session, m.act = .loads session camera →
      has (three session).config .camera = true ∧
      (latest installs m.src.2 = some .ours →
        m.out = [⟨session, camera, some (some (.ours .camera))⟩]) := by
  have hrun := (machine sndOnly three 2).logged.run_get overlapping (by decide +kernel)
  refine ⟨_, _, hrun, by decide +kernel, ?_⟩
  intro m hm session hact
  obtain ⟨-, -, hours⟩ :=
    lookups_come_back documented_sndOnly (Nat.le_refl 2) hrun m hm session camera hact
  obtain ⟨hhas, hfound, -, -⟩ := hours .camera (by decide)
  exact ⟨hhas, hfound⟩

end Provider
end Session
end FreerdpPrebuilt
