import FreerdpPrebuilt.Lib.History
import FreerdpPrebuilt.Mic.Reply
import Mathlib.Logic.Function.Basic

/-!
# The host hears what the embedder sent

The host reads the messages of an instance one after the other.  A DataIncoming
announces a list or audio; a list is kept; a FormatChange names a place in it, and
from then on audio is in that format.  Here is such a reader, over the bytes on the
channel, and what it hears is compared with what `sample` was given.

The lock is held over the writes of a message, not over the event that comes of it:
`opened` is delivered afterwards, and a sample may come in between (`talk`).

`host_hears_the_samples` is about a host that keeps one instance open at a time and
names only places in lists it was sent on it, and a channel that takes every answer to a
message of the host's; a sample may be refused at either of its writes.  The host can
read every message; and what it hears is what `sample` was given whenever it returned
`true`, in order, once, each buffer in the format the stream was in.  That is the format
the embedder was told last, once it has been told.
-/

namespace FreerdpPrebuilt
namespace Mic

open Labelled
open Camera (readLe32 le32 ofNat_le32)

/-! ## The host's end -/

/-- What the host has read on one instance. -/
structure Line where
  /-- A DataIncoming has come, and not yet what it announces. -/
  incoming : Bool
  /-- The last list. -/
  list : Option (List MicFormat)
  /-- The format last confirmed. -/
  current : Option MicFormat

def Line.new : Line := ⟨false, none, none⟩

/-- The host reads one message; `none` if it can make nothing of it here. -/
def Line.read (l : Line) : Bytes → Option (Line × Option (MicFormat × Bytes))
  | [] => none
  | id :: body =>
    if id = DATA_INCOMING then
      if body = [] then some ({ l with incoming := true }, none) else none
    else if id = FORMATS then
      if l.incoming then
        some ({ l with incoming := false, list := some (parseFormats body) }, none)
      else none
    else if id = FORMAT_CHANGE then
      if body.length = 4 then
        (l.list.bind fun list => list[(readLe32 body 0).toNat]?).map fun format =>
          ({ l with current := some format }, none)
      else none
    else if id = DATA then
      if l.incoming then
        l.current.map fun format => ({ l with incoming := false }, some (format, body))
      else none
    else if id = VERSION ∨ id = OPEN_REPLY then if body.length = 4 then some (l, none) else none
    else none

/-- The host: its ends of the instances, and all the audio it has heard. -/
structure Host where
  lines : Ptr → Line
  heard : List (MicFormat × Bytes)
  /-- It could read every message so far. -/
  follows : Bool

/-- A message that the channel took is read. -/
def Host.hear (g : Host) (w : Write) : Host :=
  if w.accepted then
    match (g.lines w.channel).read w.message.bytes with
    | none => { g with follows := false }
    | some (l, audio) =>
      { g with
        lines := Function.update g.lines w.channel l
        heard := g.heard ++ audio.toList }
  else g

/-! ## The conversation -/

/-- The endpoint, and the events of the last callback that are not delivered yet. -/
structure Talk where
  system : System
  pending : List Event

inductive Turn
  | call (act : Act)
  /-- The callback delivers its next event. -/
  | deliver

/-- The calls that are callbacks, on one thread. -/
def Act.isCallback : Act → Bool
  | .sample _ _ => false
  | .opened _ | .closed _ | .terminated | .received _ _ _ => true

/-- The event, if it is one. -/
def Obs.event? : Obs → Option Event
  | .event e => some e
  | .write _ | .returned _ => none

/-- The write, if it is one. -/
def Obs.written : Obs → Option Write
  | .write w => some w
  | .event _ | .returned _ => none

/-- **The endpoint with its lock.**  What an operation writes is written under it;
the events follow. -/
def talk : Machine Talk Turn Obs where
  init := ⟨.start, []⟩
  step s
    | .call act =>
      if act.isCallback = true ∧ s.pending ≠ [] then none
      else
        (machine.step s.system act).map fun (system, o) =>
          (⟨system, s.pending ++ o.filterMap Obs.event?⟩,
            o.filter fun obs => (Obs.event? obs).isNone)
    | .deliver =>
      match s.pending with
      | [] => none
      | e :: rest => some (⟨s.system, rest⟩, [.event e])

/-- What an event tells the embedder of the format. -/
def Event.tells : Event → Option (Option MicFormat)
  | .opened format => some (some format)
  | .closed => some none
  | .negotiated _ => none

def Obs.tells (obs : Obs) : Option (Option MicFormat) := obs.event?.bind Event.tells

/-- The two ends: the host, and the format the embedder was told last. -/
structure Ends where
  host : Host
  told : Option MicFormat

/-- The host's ends before a turn: an instance that opens has heard nothing. -/
def Host.before (g : Host) : Turn → Host
  | .call (.opened channel) => { g with lines := Function.update g.lines channel .new }
  | _ => g

def Ends.see (g : Ends) (m : Move Talk Turn Obs) : Ends where
  host := (m.out.filterMap Obs.written).foldl Host.hear (g.host.before m.act)
  told := (latest Obs.tells m.out).getD g.told

/-- The conversation with both ends listening. -/
def listened : Machine (Talk × Ends) Turn Obs :=
  talk.observe ⟨⟨fun _ => .new, [], true⟩, none⟩ Ends.see

/-! ## What is claimed -/

/-- The host opens one instance at a time, names places in lists it has read on that
instance, and sends no message past 32 bits; and **every write that answers a message of
the host's is accepted**.  Nothing is asked of the writes of `sample`. -/
def keepsToItsList (m : Move (Talk × Ends) Turn Obs) : Bool :=
  match m.act with
  | .call (.opened _) => m.src.1.system.channels.isEmpty
  | .call (.received channel bytes _) =>
    (m.out.filterMap Obs.written).all Write.accepted && decide (bytes.length ≤ u32Max) &&
      ((named bytes).isNone || (m.src.2.host.lines channel).list.isSome)
  | .call (.closed _) | .call .terminated | .call (.sample _ _) | .deliver => true

/-- The audio of a call of `sample` that returns `true`, in the format of the
stream. -/
def sent (m : Move (Talk × Ends) Turn Obs) : Option (MicFormat × Bytes) :=
  match m.act with
  | .call (.sample pcm _) =>
    if .returned true ∈ m.out then m.src.1.system.mic.openFormat.map (·, pcm) else none
  | _ => none

/-! ## One message -/

variable {l : Line} {g : Host} {channel : Ptr} {list : List MicFormat} {format : MicFormat}

theorem read_dataIncoming (l : Line) :
    l.read Message.dataIncoming.bytes = some ({ l with incoming := true }, none) := rfl

theorem read_formats (hincoming : l.incoming = true) (hcount : list.length ≤ u32Max) :
    l.read (Message.formats list).bytes =
      some ({ l with incoming := false, list := some list }, none) := by
  have hparse := parseFormats_reply hcount
  show (if l.incoming = true then
    some ({ l with incoming := false, list := some (parseFormats (formats list).tail) }, none)
      else none) = _
  rw [if_pos hincoming, hparse]

theorem read_formatChange {index : UInt32} (hlist : l.list = some list)
    (hat : list[index.toNat]? = some format) :
    l.read (Message.formatChange index).bytes =
      some ({ l with current := some format }, none) := by
  have hindex : readLe32 (le32 index) 0 = index := ofNat_le32 index
  show ((l.list.bind fun list => list[(readLe32 (le32 index) 0).toNat]?).map fun format =>
    (({ l with current := some format } : Line), (none : Option (MicFormat × Bytes)))) = _
  rw [hlist, hindex, Option.bind_some, hat]
  rfl

theorem read_data {pcm : Bytes} (hincoming : l.incoming = true)
    (hcurrent : l.current = some format) :
    l.read (Message.data pcm).bytes = some ({ l with incoming := false }, some (format, pcm)) := by
  show (if l.incoming = true then
    l.current.map fun format => ({ l with incoming := false }, some (format, pcm)) else none) = _
  rw [if_pos hincoming, hcurrent]
  rfl

/-- A message that tells the host nothing of the audio. -/
def Message.isPlain : Message → Bool
  | .version _ | .openReply _ => true
  | .formats _ | .formatChange _ | .dataIncoming | .data _ => false

theorem read_plain {m : Message} (h : m.isPlain = true) (l : Line) :
    l.read m.bytes = some (l, none) := by
  cases m with
  | version v => rfl
  | openReply result => rfl
  | _ => cases h

/-- A message the channel took, read. -/
theorem hear_eq {w : Write} {l' : Line} {audio : Option (MicFormat × Bytes)}
    (haccepted : w.accepted = true)
    (hread : (g.lines w.channel).read w.message.bytes = some (l', audio)) :
    g.hear w = { g with
      lines := Function.update g.lines w.channel l', heard := g.heard ++ audio.toList } := by
  rw [Host.hear, if_pos haccepted, hread]

theorem hear_refused {w : Write} (h : w.accepted = false) : g.hear w = g := by
  simp [Host.hear, h]

theorem hear_plain {w : Write} (h : w.message.isPlain = true) : g.hear w = g := by
  cases haccepted : w.accepted with
  | false => exact hear_refused haccepted
  | true => rw [hear_eq haccepted (read_plain h _)]; simp

theorem foldl_hear_plain {ws : List Write} (h : ∀ w ∈ ws, w.message.isPlain = true) :
    ws.foldl Host.hear g = g := by
  induction ws with
  | nil => rfl
  | cons w ws ih =>
    rw [List.foldl_cons, hear_plain (h w List.mem_cons_self)]
    exact ih fun w' hw' => h w' (List.mem_cons_of_mem w hw')

/-! ## What is written -/

variable {st : MicState} {bytes : Bytes} {answers : ℕ → Bool}

/-- What a message of the host does, by what is written in answer. -/
inductive Answered (st : MicState) (channel : Ptr) (bytes : Bytes) : Outcome → Prop
  /-- Nothing changes, and the embedder is told of no format. -/
  | plain {writes : List Write} {events : List Event}
    (hwrites : ∀ w ∈ writes, w.message.isPlain = true)
    (hevents : ∀ e ∈ events, e.tells = none) : Answered st channel bytes ⟨st, writes, events⟩
  /-- A list is announced and sent. -/
  | listed {body : Bytes} {a b : Bool} (hbytes : bytes = FORMATS :: body) :
    Answered st channel bytes ⟨{ st with formats := acceptedFormats body },
      [⟨channel, .dataIncoming, a⟩, ⟨channel, .formats (acceptedFormats body), b⟩], []⟩
  /-- A format is confirmed. -/
  | confirmed {index : UInt32} {format : MicFormat} {a : Bool} {rest : List Write}
    (hnamed : (named bytes).isSome = true) (hat : st.formats[index.toNat]? = some format)
    (hrest : ∀ w ∈ rest, w.message.isPlain = true) :
    Answered st channel bytes ⟨{ st with openFormat := some format },
      ⟨channel, .formatChange index, a⟩ :: rest, [.opened format]⟩

theorem answered_nothing : Answered st channel bytes (.nothing st) :=
  .plain (by simp) (by simp)

/-- **Any message.** -/
theorem answered (st : MicState) (channel : Ptr) (bytes : Bytes) (answers : ℕ → Bool) :
    Answered st channel bytes (onDataReceived st channel bytes answers) := by
  cases bytes with
  | nil => exact answered_nothing
  | cons id body =>
    show Answered st channel (id :: body) (handle st channel id body answers)
    unfold handle
    split_ifs with hversion hformats hopen hchange
    · unfold versionReceived
      split
      · exact answered_nothing
      · split_ifs
        · exact answered_nothing
        · exact .plain (by simp [Message.isPlain]) (by simp [Event.tells])
    · exact .listed (by rw [hformats])
    · unfold openReceived
      split
      · exact answered_nothing
      · rename_i index hparse
        split
        · rename_i format hat
          exact .confirmed (by simp [named, hopen, hparse]) hat (by simp [Message.isPlain])
        · exact .plain (by simp [Message.isPlain]) (by simp)
    · unfold formatChangeReceived
      split
      · exact answered_nothing
      · rename_i index hparse
        split
        · rename_i format hat
          have hnamed : named (id :: body) = some index.toNat := by
            simp only [named, if_neg hopen, if_pos hchange, hparse]
            rfl
          exact .confirmed (by simp [hnamed]) hat (by simp)
        · exact answered_nothing
    · exact answered_nothing

/-! ## The observations of a turn -/

variable {r : Outcome} {o : List Obs}

/-- What is observed under the lock: everything but the events. -/
def locked (o : List Obs) : List Obs := o.filter fun obs => obs.event?.isNone

theorem written_locked (o : List Obs) :
    (locked o).filterMap Obs.written = o.filterMap Obs.written := by
  rw [locked, List.filterMap_filter]
  refine List.filterMap_congr ?_
  intro obs _
  cases obs <;> rfl

theorem tells_locked (o : List Obs) : latest Obs.tells (locked o) = none := by
  rw [latest_eq_none]
  intro obs hobs
  have hnone : obs.event? = none := by simpa using (List.mem_filter.1 hobs).2
  rw [Obs.tells, hnone]
  rfl

theorem written_shown (r : Outcome) : r.shown.filterMap Obs.written = r.writes := by
  have hevents : (r.events.map Obs.event).filterMap Obs.written = [] := by
    rw [List.filterMap_eq_nil_iff]
    intro obs hobs
    obtain ⟨e, -, rfl⟩ := List.mem_map.1 hobs
    rfl
  rw [Outcome.shown, List.filterMap_append, hevents, List.append_nil, List.filterMap_map]
  exact (List.filterMap_congr fun _ _ => rfl).trans List.filterMap_some

theorem events_shown (r : Outcome) : r.shown.filterMap Obs.event? = r.events := by
  have hwrites : (r.writes.map Obs.write).filterMap Obs.event? = [] := by
    rw [List.filterMap_eq_nil_iff]
    intro obs hobs
    obtain ⟨w, -, rfl⟩ := List.mem_map.1 hobs
    rfl
  rw [Outcome.shown, List.filterMap_append, hwrites, List.nil_append, List.filterMap_map]
  exact (List.filterMap_congr fun _ _ => rfl).trans List.filterMap_some

/-! ## One turn -/

/-- **What holds between two turns.** -/
structure Hears (s : Talk × Ends) : Prop where
  follows : s.2.host.follows = true
  /-- Once everything is delivered, the embedder knows the format. -/
  told : (latest Event.tells s.1.pending).getD s.2.told = s.1.system.mic.openFormat
  /-- The instance that is open is the stored one. -/
  one : s.1.system.channels = s.1.system.mic.channel.toList
  idle : s.1.system.mic.channel = none → s.1.system.mic.openFormat = none
  /-- The host's list is the endpoint's. -/
  lists : ∀ channel ∈ s.1.system.mic.channel, (s.2.host.lines channel).list = none ∨
    (s.2.host.lines channel).list = some s.1.system.mic.formats
  /-- So is its format. -/
  current : ∀ channel ∈ s.1.system.mic.channel,
    (s.2.host.lines channel).current = s.1.system.mic.openFormat

variable {s t : Talk × Ends} {a : Act} {turn : Turn} {pcm : Bytes}

/-- A call, seen from both ends. -/
theorem listened_call (hs : listened.step s (.call a) = some (t, o)) : ∃ system shown,
    machine.step s.1.system a = some (system, shown) ∧ o = locked shown ∧
    (a.isCallback = true → s.1.pending = []) ∧
    t = (⟨system, s.1.pending ++ shown.filterMap Obs.event?⟩,
      ⟨(shown.filterMap Obs.written).foldl Host.hear (s.2.host.before (.call a)), s.2.told⟩) := by
  obtain ⟨hstep, hsee⟩ := Machine.observe_step.1 hs
  simp only [talk, Option.ite_none_left_eq_some, not_and, not_not] at hstep
  obtain ⟨hidle, hstep⟩ := hstep
  obtain ⟨⟨system, shown⟩, hmachine, heq⟩ := Option.map_eq_some_iff.1 hstep
  obtain ⟨hsystem, rfl⟩ := Prod.mk.inj heq
  refine ⟨system, shown, hmachine, rfl, hidle, ?_⟩
  have htold : (latest Obs.tells (locked shown)).getD s.2.told = s.2.told := by
    rw [tells_locked]
    rfl
  refine Prod.ext hsystem.symm ?_
  rw [hsee, Ends.see]
  refine congrArg₂ Ends.mk ?_ htold
  exact congrArg (List.foldl Host.hear _) (written_locked shown)

/-- An event is delivered. -/
theorem Hears.deliver (hI : Hears s) (hs : listened.step s .deliver = some (t, o)) :
    Hears t ∧ t.2.host = s.2.host := by
  obtain ⟨hstep, hsee⟩ := Machine.observe_step.1 hs
  obtain ⟨⟨system, pending⟩, ends⟩ := s
  obtain ⟨talk', ends'⟩ := t
  cases pending with
  | nil => cases hstep
  | cons e rest =>
    obtain ⟨rfl, rfl⟩ := Prod.mk.inj (Option.some.inj hstep)
    obtain rfl : ends' = ⟨ends.host, (latest Obs.tells [.event e]).getD ends.told⟩ := hsee
    refine ⟨⟨hI.follows, ?_, hI.one, hI.idle, hI.lists, hI.current⟩, rfl⟩
    have hbefore : (latest Event.tells (e :: rest)).getD ends.told = system.mic.openFormat :=
      hI.told
    have hfirst : latest Event.tells [e] = e.tells := by
      rw [← List.nil_append [e], latest_snoc]
      cases e.tells <;> rfl
    have hsaid : latest Obs.tells [.event e] = e.tells := by
      rw [← List.nil_append [Obs.event e], latest_snoc]
      show (e.tells).or none = e.tells
      cases e.tells <;> rfl
    rw [← hbefore, show e :: rest = [e] ++ rest from rfl, latest_append, hfirst]
    show (latest Event.tells rest).getD ((latest Obs.tells [.event e]).getD ends.told) = _
    rw [hsaid]
    cases latest Event.tells rest <;> rfl

/-- What is said later has the last word. -/
theorem told_append {pending events : List Event} {told before after : Option MicFormat}
    (hbefore : (latest Event.tells pending).getD told = before)
    (hafter : (latest Event.tells events).getD before = after) :
    (latest Event.tells (pending ++ events)).getD told = after := by
  rw [latest_append, ← hafter, ← hbefore]
  cases latest Event.tells events <;> rfl

/-- A stream that is stopped: nothing is written, and the embedder will know. -/
theorem tells_stopped (st : MicState) :
    (latest Event.tells (Outcome.stopped st).events).getD st.openFormat = none := by
  cases hopen : st.openFormat <;> simp [Outcome.stopped, hopen, latest, Event.tells]

theorem written_stopped (st : MicState) :
    (Outcome.stopped st).shown.filterMap Obs.written = [] := by
  rw [written_shown]
  rfl

/-- The stored instance goes, and with it the stream. -/
theorem Hears.gone (hI : Hears s) {st : MicState} {system : System}
    (hopen : st.openFormat = s.1.system.mic.openFormat) (hchannel : st.channel = none)
    (hmic : system.mic = st.stop) (hchannels : system.channels = []) :
    Hears (⟨system, s.1.pending ++ (Outcome.stopped st).events⟩, s.2) where
  follows := hI.follows
  told := by
    have hstopped := tells_stopped st
    rw [hopen] at hstopped
    rw [hmic]
    exact told_append hI.told hstopped
  one := by
    rw [hmic, hchannels]
    show [] = st.channel.toList
    rw [hchannel]
    rfl
  idle _ := by rw [hmic]; rfl
  lists channel hmem := by
    rw [hmic, MicState.stop, hchannel] at hmem
    cases hmem
  current channel hmem := by
    rw [hmic, MicState.stop, hchannel] at hmem
    cases hmem

/-- An instance opens when there is none. -/
theorem Hears.opened (hI : Hears s) (hs : listened.step s (.call (.opened channel)) = some (t, o))
    (hg : s.1.system.channels = []) : Hears t ∧ t.2.host.heard = s.2.host.heard := by
  obtain ⟨system, shown, hmachine, -, -, rfl⟩ := listened_call hs
  obtain ⟨-, hmic, hchannels, rfl⟩ := step_opened hmachine
  have hnone : s.1.system.mic.channel = none := by
    have hone := hI.one
    rw [hg] at hone
    cases hstored : s.1.system.mic.channel with
    | none => rfl
    | some stored => rw [hstored] at hone; cases hone
  have hidle := hI.idle hnone
  refine ⟨⟨hI.follows, ?_, ?_, ?_, ?_, ?_⟩, rfl⟩
  · rw [hmic]
    exact told_append hI.told rfl
  · rw [hmic, hchannels, hg]
    rfl
  · rw [hmic]
    intro h
    cases h
  · intro stored hmem
    rw [hmic] at hmem
    obtain rfl : channel = stored := Option.some.inj hmem
    refine .inl ?_
    show (Function.update s.2.host.lines channel Line.new channel).list = none
    rw [Function.update_self]
    rfl
  · intro stored hmem
    rw [hmic] at hmem ⊢
    obtain rfl : channel = stored := Option.some.inj hmem
    show (Function.update s.2.host.lines channel Line.new channel).current = _
    rw [Function.update_self]
    exact hidle.symm

/-- An instance closes: the stored one, or one that is gone already. -/
theorem Hears.closed (hI : Hears s) (hs : listened.step s (.call (.closed channel)) = some (t, o)) :
    Hears t ∧ t.2.host.heard = s.2.host.heard := by
  obtain ⟨system, shown, hmachine, -, -, rfl⟩ := listened_call hs
  obtain ⟨hmic, hchannels, rfl⟩ := step_closed hmachine
  have hone := hI.one
  by_cases hstored : s.1.system.mic.channel = some channel
  · rw [onClose, if_pos hstored] at hmic ⊢
    rw [events_shown, written_stopped]
    refine ⟨hI.gone rfl rfl hmic ?_, rfl⟩
    rw [hchannels, hone, hstored]
    simp
  · rw [onClose, if_neg hstored] at hmic ⊢
    have hmic : system.mic = s.1.system.mic := hmic
    have hsame : system.channels = s.1.system.channels := by
      rw [hchannels, hone]
      refine List.erase_of_not_mem ?_
      intro hmem
      exact hstored (Option.mem_toList.1 hmem)
    refine ⟨⟨hI.follows, ?_, ?_, ?_, ?_, ?_⟩, rfl⟩
    · rw [hmic]
      exact told_append hI.told rfl
    · rw [hmic, hsame]
      exact hone
    · rw [hmic]
      exact hI.idle
    · rw [hmic]
      exact hI.lists
    · rw [hmic]
      exact hI.current

theorem Hears.terminated (hI : Hears s) (hs : listened.step s (.call .terminated) = some (t, o)) :
    Hears t ∧ t.2.host.heard = s.2.host.heard := by
  obtain ⟨system, shown, hmachine, -, -, rfl⟩ := listened_call hs
  obtain ⟨hmic, hchannels, rfl⟩ := step_terminated hmachine
  rw [events_shown, pluginTerminated, written_stopped]
  exact ⟨hI.gone rfl rfl hmic hchannels, rfl⟩

/-- The host reads the answer to its message. -/
theorem Hears.received (hI : Hears s)
    (hs : listened.step s (.call (.received channel bytes answers)) = some (t, o))
    (hg : keepsToItsList ⟨s, .call (.received channel bytes answers), o, t⟩ = true) :
    Hears t ∧ t.2.host.heard = s.2.host.heard := by
  obtain ⟨system, shown, hmachine, rfl, -, rfl⟩ := listened_call hs
  obtain ⟨hmem, hmic, hchannels, rfl⟩ := step_received hmachine
  have hstored : s.1.system.mic.channel = some channel := by
    rw [hI.one] at hmem
    exact Option.mem_toList.1 hmem
  simp only [keepsToItsList, written_locked, written_shown, Bool.and_eq_true, List.all_eq_true,
    decide_eq_true_eq, Bool.or_eq_true] at hg
  obtain ⟨⟨haccepted, hlength⟩, hknows⟩ := hg
  rw [written_shown, events_shown]
  show Hears (⟨system, _⟩, ⟨List.foldl Host.hear s.2.host _, s.2.told⟩) ∧
    (List.foldl Host.hear s.2.host _).heard = _
  have hanswered := answered s.1.system.mic channel bytes answers
  generalize onDataReceived s.1.system.mic channel bytes answers = r at *
  cases hanswered with
  | plain hwrites hevents =>
    have hmic : system.mic = s.1.system.mic := hmic
    rw [foldl_hear_plain hwrites]
    refine ⟨⟨hI.follows, ?_, ?_, ?_, ?_, ?_⟩, rfl⟩
    · rw [hmic]
      refine told_append hI.told ?_
      rw [latest_eq_none.2 hevents]
      rfl
    · rw [hmic, hchannels]
      exact hI.one
    · rw [hmic]
      exact hI.idle
    · rw [hmic]
      exact hI.lists
    · rw [hmic]
      exact hI.current
  | @listed body a b hbytes =>
    have hcount : (acceptedFormats body).length ≤ u32Max := by
      have hroom := length_acceptedFormats body
      rw [hbytes, List.length_cons] at hlength
      omega
    have ha : a = true := haccepted _ List.mem_cons_self
    have hb : b = true := haccepted _ (List.mem_cons_of_mem _ List.mem_cons_self)
    have hfirst := hear_eq (g := s.2.host) (w := ⟨channel, .dataIncoming, a⟩) ha
      (read_dataIncoming _)
    rw [List.foldl_cons, List.foldl_cons, List.foldl_nil, hfirst]
    rw [hear_eq (w := ⟨channel, .formats (acceptedFormats body), b⟩) hb
      (read_formats (by simp) hcount)]
    refine ⟨⟨hI.follows, ?_, ?_, ?_, ?_, ?_⟩, ?_⟩
    · rw [hmic]
      exact told_append hI.told rfl
    · rw [hmic, hchannels]
      exact hI.one
    · rw [hmic]
      exact hI.idle
    · intro other hother
      rw [hmic] at hother ⊢
      obtain rfl : channel = other := Option.some.inj (hstored.symm.trans hother)
      exact .inr (by simp)
    · intro other hother
      rw [hmic] at hother ⊢
      obtain rfl : channel = other := Option.some.inj (hstored.symm.trans hother)
      simpa using hI.current channel hstored
    · simp
  | @confirmed index format a rest hnamed hat hrest =>
    have hlist : (s.2.host.lines channel).list = some s.1.system.mic.formats := by
      rcases hI.lists channel hstored with hnone | hsome
      · rw [hnone, Option.isNone_iff_eq_none] at hknows
        rcases hknows with hknows | hknows
        · rw [hknows] at hnamed
          cases hnamed
        · cases hknows
      · exact hsome
    have ha : a = true := haccepted _ List.mem_cons_self
    rw [List.foldl_cons, foldl_hear_plain hrest,
      hear_eq (w := ⟨channel, .formatChange index, a⟩) ha (read_formatChange hlist hat)]
    refine ⟨⟨hI.follows, ?_, ?_, ?_, ?_, ?_⟩, ?_⟩
    · rw [hmic]
      exact told_append hI.told rfl
    · rw [hmic, hchannels]
      exact hI.one
    · intro hnone
      rw [hmic] at hnone
      cases hstored.symm.trans hnone
    · intro other hother
      rw [hmic] at hother ⊢
      obtain rfl : channel = other := Option.some.inj (hstored.symm.trans hother)
      exact .inr (by simpa using hlist)
    · intro other hother
      rw [hmic] at hother ⊢
      obtain rfl : channel = other := Option.some.inj (hstored.symm.trans hother)
      simp
    · simp

/-- What the host makes of the two messages of a sample. -/
theorem hear_sample {st : MicState} (hstored : st.channel = some channel)
    (hopen : st.openFormat = some format) (hcurrent : (g.lines channel).current = some format)
    (pcm : Bytes) (answers : ℕ → Bool) :
    ∃ l : Line, l.list = (g.lines channel).list ∧ l.current = some format ∧
      (Mic.sample st pcm answers).1.writes.foldl Host.hear g = { g with
        lines := Function.update g.lines channel l
        heard := g.heard ++ if (Mic.sample st pcm answers).2 then [(format, pcm)] else [] } := by
  simp only [Mic.sample, hopen, hstored, Option.isNone_some, Bool.false_eq_true, if_false]
  cases hheader : answers 0 with
  | false => exact ⟨g.lines channel, rfl, hcurrent, by simp [Host.hear]⟩
  | true =>
    have hfirst := hear_eq (g := g) (w := ⟨channel, .dataIncoming, true⟩) rfl (read_dataIncoming _)
    simp only [if_true, List.foldl_cons, List.foldl_nil, hfirst]
    cases hdata : answers 1 with
    | false =>
      exact ⟨{ g.lines channel with incoming := true }, rfl, hcurrent, by simp [Host.hear]⟩
    | true =>
      have hread : (Function.update g.lines channel { g.lines channel with incoming := true }
          channel).read (Message.data pcm).bytes =
            some ({ g.lines channel with incoming := false }, some (format, pcm)) := by
        rw [Function.update_self]
        exact read_data rfl hcurrent
      refine ⟨{ g.lines channel with incoming := false }, rfl, hcurrent, ?_⟩
      rw [hear_eq (w := ⟨channel, .data pcm, true⟩) rfl hread]
      simp

/-- A sample that is not sent is not heard. -/
theorem sample_closed {st : MicState} (hopen : st.openFormat = none) (pcm : Bytes)
    (answers : ℕ → Bool) : Mic.sample st pcm answers = (.nothing st, false) := by
  rw [Mic.sample, hopen]
  rfl

/-- What `sample` returns is seen. -/
theorem returned_mem (r : Outcome) (accepted : Bool) :
    .returned true ∈ locked (r.shown ++ [.returned accepted]) ↔ accepted = true := by
  simp [locked, Outcome.shown, Obs.event?, eq_comm]

/-- **A sample.**  The host hears it if it was taken whole. -/
theorem Hears.sample (hI : Hears s)
    (hs : listened.step s (.call (.sample pcm answers)) = some (t, o)) :
    Hears t ∧ t.2.host.heard =
      s.2.host.heard ++ (sent ⟨s, .call (.sample pcm answers), o, t⟩).toList := by
  obtain ⟨system, shown, hmachine, rfl, -, rfl⟩ := listened_call hs
  obtain ⟨rfl, hquiet, -⟩ := step_sample hmachine
  obtain ⟨-, rfl⟩ : _ ∧ (Mic.sample s.1.system.mic pcm answers).1.shown ++
      [Obs.returned (Mic.sample s.1.system.mic pcm answers).2] = shown := by
    simpa [machine] using hmachine
  have hevents : ((Mic.sample s.1.system.mic pcm answers).1.shown ++
      [Obs.returned (Mic.sample s.1.system.mic pcm answers).2]).filterMap Obs.event? = [] := by
    rw [List.filterMap_eq_nil_iff]
    intro obs hobs
    cases obs with
    | event e => exact absurd hobs (hquiet e)
    | _ => rfl
  have hwritten : ((Mic.sample s.1.system.mic pcm answers).1.shown ++
      [Obs.returned (Mic.sample s.1.system.mic pcm answers).2]).filterMap Obs.written =
        (Mic.sample s.1.system.mic pcm answers).1.writes := by
    rw [List.filterMap_append, written_shown]
    exact List.append_nil _
  rw [hevents, hwritten, List.append_nil]
  simp only [sent, returned_mem, Host.before]
  cases hopen : s.1.system.mic.openFormat with
  | none =>
    rw [sample_closed hopen]
    exact ⟨⟨hI.follows, hI.told, hI.one, hI.idle, hI.lists, hI.current⟩, by simp [Outcome.nothing]⟩
  | some format =>
    cases hstored : s.1.system.mic.channel with
    | none =>
      rw [hI.idle hstored] at hopen
      cases hopen
    | some channel =>
      have hcurrent := (hI.current channel hstored).trans hopen
      obtain ⟨l, hlist, hformat, hheard⟩ := hear_sample hstored hopen hcurrent pcm answers
      rw [hheard]
      refine ⟨⟨hI.follows, hI.told, hI.one, hI.idle, ?_, ?_⟩, ?_⟩
      · intro other hother
        obtain rfl : channel = other := Option.some.inj (hstored.symm.trans hother)
        have hlists := hI.lists channel hstored
        rw [← hlist] at hlists
        simpa using hlists
      · intro other hother
        obtain rfl : channel = other := Option.some.inj (hstored.symm.trans hother)
        simp [hformat, hopen]
      · cases (Mic.sample s.1.system.mic pcm answers).2 <;> simp

/-- **One turn.**  Both ends stay in step, and the host hears what was sent. -/
theorem Hears.step (hI : Hears s) (hs : listened.step s turn = some (t, o))
    (hg : keepsToItsList ⟨s, turn, o, t⟩ = true) :
    Hears t ∧ t.2.host.heard = s.2.host.heard ++ (sent ⟨s, turn, o, t⟩).toList := by
  cases turn with
  | deliver =>
    obtain ⟨hnext, hhost⟩ := hI.deliver hs
    refine ⟨hnext, ?_⟩
    rw [hhost]
    exact (List.append_nil _).symm
  | call act =>
    cases act with
    | opened channel =>
      have hnone : s.1.system.channels = [] := List.isEmpty_iff.1 hg
      obtain ⟨hnext, hheard⟩ := hI.opened hs hnone
      exact ⟨hnext, hheard.trans (List.append_nil _).symm⟩
    | closed channel =>
      obtain ⟨hnext, hheard⟩ := hI.closed hs
      exact ⟨hnext, hheard.trans (List.append_nil _).symm⟩
    | terminated =>
      obtain ⟨hnext, hheard⟩ := hI.terminated hs
      exact ⟨hnext, hheard.trans (List.append_nil _).symm⟩
    | received channel bytes answers =>
      obtain ⟨hnext, hheard⟩ := hI.received hs hg
      exact ⟨hnext, hheard.trans (List.append_nil _).symm⟩
    | sample pcm answers => exact hI.sample hs

/-! ## The whole conversation -/

variable {h : List (Move (Talk × Ends) Turn Obs)}

theorem hears_init : Hears listened.init where
  follows := rfl
  told := rfl
  one := rfl
  idle _ := rfl
  lists _ hmem := by cases hmem
  current _ hmem := by cases hmem

/-- **The host hears what the embedder sent.**  In every run, with samples taken at any
moment and refused or not, of a host that keeps one instance open at a time and names
places in lists it was sent on it, as long as no answer to the host is refused: the host
can read every message it gets; what it hears is the audio of the calls of `sample` that
return `true`, in order, each once and in the format of the stream; and whenever no event
is on its way, that is the format the embedder was told last. -/
theorem host_hears_the_samples (hr : listened.Run h s) (hg : ∀ m ∈ h, keepsToItsList m = true) :
    s.2.host.follows = true ∧ s.2.host.heard = h.filterMap sent ∧
      ∀ m ∈ h, m.src.1.pending = [] → m.src.2.told = m.src.1.system.mic.openFormat := by
  suffices hall : Hears s ∧ s.2.host.heard = h.filterMap sent ∧ ∀ m ∈ h, Hears m.src by
    refine ⟨hall.1.follows, hall.2.1, ?_⟩
    intro m hm hdelivered
    have htold := (hall.2.2 m hm).told
    rw [hdelivered] at htold
    exact htold
  induction hr with
  | nil => exact ⟨hears_init, rfl, by simp⟩
  | @snoc h s t turn o _ hs ih =>
    obtain ⟨hbefore, hheard, hsrc⟩ := ih fun m hm => hg m (List.mem_append_left _ hm)
    obtain ⟨hafter, hnew⟩ := hbefore.step hs (hg _ (by simp))
    refine ⟨hafter, ?_, ?_⟩
    · rw [hnew, hheard, List.filterMap_append]
      cases hsent : sent ⟨s, turn, o, t⟩ <;> simp [hsent]
    · intro m hm
      rcases List.mem_append.1 hm with hm | hm
      · exact hsrc m hm
      · rw [List.mem_singleton.1 hm]
        exact hbefore

/-- Two formats are offered and the second is opened.  One sample comes before the
embedder is told, one after, and of a third the data is refused; then the instance
closes. -/
def speaks : List Turn :=
  let host := encodeFormats 2 0 [(MicFormat.mk 2 48000 16).record, (MicFormat.mk 1 16000 16).record]
  [.call (.opened 1), .call (.received 1 (FORMATS :: host) fun _ => true),
    .call (.received 1 (OPEN :: (le32 0 ++ le32 1)) fun _ => true),
    .call (.sample [1, 2] fun _ => true), .deliver, .call (.sample [3, 4] fun _ => true),
    .call (.sample [5, 6] fun n => n == 0), .call (.closed 1), .deliver]

theorem host_hears_the_samples_speaks : ∃ h s, listened.Run h s ∧ s.2.host.follows = true ∧
    s.2.host.heard = [(⟨1, 16000, 16⟩, [1, 2]), (⟨1, 16000, 16⟩, [3, 4])] := by
  have hrun := listened.run_get speaks (by decide +kernel)
  obtain ⟨hfollows, hheard, -⟩ := host_hears_the_samples hrun
    (List.all_eq_true.1 (show List.all _ keepsToItsList = true by decide +kernel))
  refine ⟨_, _, hrun, hfollows, hheard.trans ?_⟩
  decide +kernel

end Mic
end FreerdpPrebuilt
