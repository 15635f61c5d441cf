import FreerdpPrebuilt.Mic.Endpoint
import Mathlib.Logic.Function.Basic

/-!
# What a format's index means

An OPEN and a FormatChange name a format by its place in the list this endpoint
wrote last, on the channel they arrive on.  The endpoint keeps one list, for
whichever channel comes next: a matching OnClose clears it, but an OnClose of a
channel that was replaced does not, Terminated does not, and every FORMATS
overwrites it.

`index_names_own_list_iff` says when an index means what the host was told:
exactly if each one that resolves arrives on the channel on which the host's
last FORMATS arrived, still open since.  After a Terminated the list of the last
connection answers for the next one (`index_of_the_last_connection`).
-/

namespace FreerdpPrebuilt
namespace Mic

open Labelled

/-! ## What is recorded of a run -/

/-- What the host was told, by channel. -/
structure Told where
  /-- The last Sound Formats PDU written to the instance at an address, since it
  opened. -/
  lists : Ptr → List MicFormat
  /-- The instance on which the last FORMATS arrived: still the same one, and its
  list not cleared. -/
  source : Option Ptr
  /-- The instance that the last list was written to, likewise. -/
  writer : Option Ptr

/-- The list a write puts on a channel. -/
def Obs.advertises : Obs → Option (Ptr × List MicFormat)
  | .write w => w.message.advertises.map (w.channel, ·)
  | .event _ | .returned _ => none

/-- The format an observed event announces. -/
def Obs.opens : Obs → Option MicFormat
  | .event e => e.opens
  | .write _ | .returned _ => none

/-- Record the lists that are written. -/
def Told.write (lists : Ptr → List MicFormat) (out : List Obs) : Ptr → List MicFormat :=
  (out.filterMap Obs.advertises).foldl (fun lists w => Function.update lists w.1 w.2) lists

/-- The instance of the last list that is written. -/
def Told.wrote (writer : Option Ptr) (out : List Obs) : Option Ptr :=
  ((out.filterMap Obs.advertises).getLast?.map Prod.fst).or writer

/-- Record one move. -/
def Told.see (g : Told) (m : Move System Act Obs) : Told :=
  match m.act with
  | .opened channel =>
    ⟨Function.update g.lists channel [], if g.source = some channel then none else g.source,
      if g.writer = some channel then none else g.writer⟩
  | .closed channel =>
    let cleared := m.src.mic.channel = some channel
    ⟨Told.write g.lists m.out, if cleared then none else g.source,
      if cleared then none else Told.wrote g.writer m.out⟩
  | .received channel bytes _ =>
    ⟨Told.write g.lists m.out, if (offered bytes).isSome then some channel else g.source,
      Told.wrote g.writer m.out⟩
  | .terminated | .sample _ _ =>
    ⟨Told.write g.lists m.out, g.source, Told.wrote g.writer m.out⟩

abbrev Recorded := System × Told

/-- The microphone with that record as its history variable. -/
def recorded : Machine Recorded Act Obs := machine.observe ⟨fun _ => [], none, none⟩ Told.see

/-! ## What is claimed -/

/-- The channel and the index a message names. -/
def Act.names : Act → Option (Ptr × ℕ)
  | .received channel bytes _ => (named bytes).map (channel, ·)
  | .opened _ | .closed _ | .terminated | .sample _ _ => none

/-- **Whenever the embedder is told of a format**, a message named its index in the
list last written on the very channel. -/
def namesOwnList (m : Move Recorded Act Obs) : Bool :=
  (m.out.filterMap Obs.opens).all fun format =>
    m.act.names.any fun (channel, index) => (m.src.2.lists channel)[index]? == some format

/-- An index is resolved against a list that was written on another channel, or another
connection. -/
def looksElsewhere (m : Move Recorded Act Obs) : Bool :=
  m.act.names.any fun (channel, index) =>
    (m.src.1.mic.formats[index]?).isSome && m.src.2.writer != some channel

/-- An index that resolves arrives on the channel of the last FORMATS. -/
def asksWhereTold (m : Move Recorded Act Obs) : Bool :=
  match m.act.names with
  | some (channel, index) =>
    m.src.1.mic.formats[index]?.isNone || m.src.2.source == some channel
  | none => true

/-! ## One step -/

variable {s t : Recorded} {a : Act} {o : List Obs}

/-- The endpoint's list is the one it wrote last on the channel it came from, and it writes
where it is asked. -/
structure Agrees (s : Recorded) : Prop where
  lists : ∀ channel, s.2.source = some channel → s.1.mic.formats = s.2.lists channel
  writer : s.2.writer = s.2.source

theorem write_quiet {lists : Ptr → List MicFormat} (ho : o.filterMap Obs.advertises = []) :
    Told.write lists o = lists := by
  rw [Told.write, ho, List.foldl_nil]

theorem wrote_quiet {writer : Option Ptr} (ho : o.filterMap Obs.advertises = []) :
    Told.wrote writer o = writer := by
  rw [Told.wrote, ho]
  rfl

/-- An operation that writes no list. -/
theorem advertises_shown {r : Outcome} (hw : ∀ w ∈ r.writes, w.message.advertises = none) :
    r.shown.filterMap Obs.advertises = [] := by
  rw [List.filterMap_eq_nil_iff]
  intro obs hobs
  rcases List.mem_append.1 hobs with hobs | hobs
  · obtain ⟨w, hmem, rfl⟩ := List.mem_map.1 hobs
    simp [Obs.advertises, hw w hmem]
  · obtain ⟨e, -, rfl⟩ := List.mem_map.1 hobs
    rfl

theorem advertises_stopped (st : MicState) :
    (Outcome.stopped st).shown.filterMap Obs.advertises = [] :=
  advertises_shown (by simp [Outcome.stopped])

theorem advertises_onClose (st : MicState) (channel : Ptr) :
    (onClose st channel).shown.filterMap Obs.advertises = [] := by
  unfold onClose
  split_ifs
  · exact advertises_stopped _
  · rfl

/-- A message writes the list it offers, to its own channel. -/
theorem Received.advertised {st : MicState} {channel : Ptr} {bytes : Bytes} {r : Outcome}
    (hr : Received st channel bytes r) :
    r.shown.filterMap Obs.advertises = ((offered bytes).map (channel, ·)).toList := by
  have hevents : (r.events.map Obs.event).filterMap Obs.advertises = [] := by
    rw [List.filterMap_eq_nil_iff]
    intro obs hobs
    obtain ⟨e, -, rfl⟩ := List.mem_map.1 hobs
    rfl
  have hwrites : (r.writes.map Obs.write).filterMap Obs.advertises =
      (r.writes.filterMap fun w => w.message.advertises).map (channel, ·) := by
    rw [List.filterMap_map, List.map_filterMap]
    refine List.filterMap_congr fun w hw => ?_
    show w.message.advertises.map (w.channel, ·) = _
    rw [(hr.writes w hw).1]
  rw [Outcome.shown, List.filterMap_append, hevents, hwrites, hr.advertises, List.append_nil]
  cases offered bytes <;> rfl

theorem Agrees.step (hI : Agrees s) (hs : recorded.step s a = some (t, o)) : Agrees t := by
  obtain ⟨st, g⟩ := s
  obtain ⟨st', g'⟩ := t
  obtain ⟨hlists, hwriter⟩ := hI
  obtain ⟨hstep, hsee⟩ : machine.step st a = some (st', o) ∧ g' = g.see ⟨st, a, o, st'⟩ :=
    Machine.observe_step.1 hs
  clear hs
  subst hsee
  replace hwriter : g.writer = g.source := hwriter
  cases a with
  | opened fresh =>
    obtain ⟨-, hmic, -, -⟩ := step_opened hstep
    refine ⟨?_, ?_⟩
    · intro channel hsource
      replace hsource : (if g.source = some fresh then none else g.source) = some channel := hsource
      split_ifs at hsource with hsame
      have hne : channel ≠ fresh := by
        rintro rfl
        exact hsame hsource
      show st'.mic.formats = Function.update g.lists fresh [] channel
      rw [hmic, Function.update_of_ne hne]
      exact hlists channel hsource
    · show (if g.writer = some fresh then none else g.writer) = if _ then _ else _
      rw [hwriter]
  | closed gone =>
    obtain ⟨hmic, -, rfl⟩ := step_closed hstep
    refine ⟨?_, ?_⟩
    · intro channel hsource
      replace hsource : (if st.mic.channel = some gone then none else g.source) = some channel :=
        hsource
      split_ifs at hsource with hsame
      show st'.mic.formats = Told.write g.lists _ channel
      rw [hmic, write_quiet (advertises_onClose _ _), onClose, if_neg hsame]
      exact hlists channel hsource
    · show (if st.mic.channel = some gone then none else Told.wrote g.writer _) = if _ then _ else _
      rw [wrote_quiet (advertises_onClose _ _), hwriter]
  | terminated =>
    obtain ⟨hmic, -, rfl⟩ := step_terminated hstep
    refine ⟨?_, ?_⟩
    · intro channel hsource
      show st'.mic.formats = Told.write g.lists (pluginTerminated st.mic).shown channel
      rw [hmic, pluginTerminated, write_quiet (advertises_stopped _)]
      exact hlists channel hsource
    · exact (wrote_quiet (advertises_stopped _)).trans hwriter
  | received from' bytes answers =>
    obtain ⟨-, hmic, -, rfl⟩ := step_received hstep
    have hr : Received st.mic from' bytes _ := received answers
    refine ⟨?_, ?_⟩
    · intro channel hsource
      replace hsource : (if (offered bytes).isSome then some from' else g.source) = some channel :=
        hsource
      show st'.mic.formats = Told.write g.lists _ channel
      rw [hmic, hr.state, Told.write, hr.advertised]
      cases hoffers : offered bytes with
      | none =>
        rw [hoffers] at hsource
        exact hlists channel hsource
      | some list =>
        rw [hoffers] at hsource
        obtain rfl : from' = channel := Option.some.inj hsource
        exact (Function.update_self from' list g.lists).symm
    · show Told.wrote g.writer _ = if (offered bytes).isSome then some from' else g.source
      rw [Told.wrote, hr.advertised, hwriter]
      cases offered bytes <;> rfl
  | sample pcm answers =>
    obtain ⟨rfl, hevents, hwrites⟩ := step_sample hstep
    have hquiet : o.filterMap Obs.advertises = [] := by
      rw [List.filterMap_eq_nil_iff]
      intro obs hobs
      cases obs with
      | write w => simp [Obs.advertises, (hwrites w hobs).2.2]
      | _ => rfl
    refine ⟨?_, (wrote_quiet hquiet).trans hwriter⟩
    intro channel hsource
    show st'.mic.formats = Told.write g.lists o channel
    rw [write_quiet hquiet]
    exact hlists channel hsource

/-- What a message announces is what it resolves. -/
theorem Received.announced {st : MicState} {channel : Ptr} {bytes : Bytes} {r : Outcome}
    (hr : Received st channel bytes r) :
    r.shown.filterMap Obs.opens = (st.resolve bytes).toList := by
  have hwrites : (r.writes.map Obs.write).filterMap Obs.opens = [] := by
    rw [List.filterMap_eq_nil_iff]
    intro obs hobs
    obtain ⟨w, -, rfl⟩ := List.mem_map.1 hobs
    rfl
  have hevents : (r.events.map Obs.event).filterMap Obs.opens = r.events.filterMap Event.opens := by
    rw [List.filterMap_map]
    rfl
  rw [Outcome.shown, List.filterMap_append, hwrites, hevents, hr.opens, List.nil_append]

/-- Only a message announces a format. -/
theorem opens_of_step {st st' : System} (hs : machine.step st a = some (st', o))
    (ha : ∀ channel bytes answers, a ≠ .received channel bytes answers) :
    o.filterMap Obs.opens = [] := by
  have hstopped : ∀ mic : MicState, (Outcome.stopped mic).shown.filterMap Obs.opens = [] := by
    intro mic
    unfold Outcome.stopped
    split_ifs <;> rfl
  cases a with
  | opened channel =>
    obtain ⟨-, -, -, rfl⟩ := step_opened hs
    rfl
  | closed channel =>
    obtain ⟨-, -, rfl⟩ := step_closed hs
    unfold onClose
    split_ifs
    · exact hstopped _
    · rfl
  | terminated =>
    obtain ⟨-, -, rfl⟩ := step_terminated hs
    exact hstopped _
  | received channel bytes answers => exact absurd rfl (ha channel bytes answers)
  | sample pcm answers =>
    obtain ⟨-, hevents, -⟩ := step_sample hs
    rw [List.filterMap_eq_nil_iff]
    intro obs hobs
    cases obs with
    | event e => exact absurd hobs (hevents e)
    | _ => rfl

/-- An index that arrives where the list was told looks nowhere else, and no other does. -/
theorem Agrees.elsewhere_iff (hI : Agrees s) :
    looksElsewhere ⟨s, a, o, t⟩ = false ↔ asksWhereTold ⟨s, a, o, t⟩ = true := by
  rw [looksElsewhere, asksWhereTold, hI.writer]
  cases a.names with
  | none => simp
  | some named => cases hi : s.1.mic.formats[named.2]? <;> simp [hi]

/-- **One move.**  An index that arrives where the list was told means what was told. -/
theorem Agrees.names (hI : Agrees s) (hs : recorded.step s a = some (t, o))
    (hasks : asksWhereTold ⟨s, a, o, t⟩ = true) : namesOwnList ⟨s, a, o, t⟩ = true := by
  obtain ⟨st, g⟩ := s
  have hstep : machine.step st a = some (t.1, o) := (Machine.observe_step.1 hs).1
  cases a with
  | received channel bytes answers =>
    obtain ⟨-, -, -, rfl⟩ := step_received hstep
    have hr : Received st.mic channel bytes _ := received answers
    rw [namesOwnList, hr.announced, MicState.resolve]
    cases hnamed : named bytes with
    | none => rfl
    | some index =>
      rw [Option.bind_some]
      cases hi : st.mic.formats[index]? with
      | none => rfl
      | some format =>
        -- the list that was looked at is the one written on the channel it came from
        have hsource : g.source = some channel := by
          simpa [asksWhereTold, Act.names, hnamed, hi] using hasks
        have hlist : (g.lists channel)[index]? = some format := by
          rw [← hI.lists channel hsource]
          exact hi
        simp [Act.names, hnamed, hlist]
  | _ =>
    have hnone := opens_of_step hstep fun _ _ _ heq => by cases heq
    rw [namesOwnList, hnone]
    rfl

/-! ## The whole run -/

variable {h : List (Move Recorded Act Obs)}

/-- **When an index means what the host was told.**  In every run, over any number of
channels and plugins: whenever an index makes the endpoint announce a format, it is the
format at that place of the list last written on the same channel, and no index is
resolved against a list that was written on another, if and only if every index that
resolves arrives on the channel of the host's last FORMATS. -/
theorem index_names_own_list_iff (hr : recorded.Run h s) :
    (∀ m ∈ h, namesOwnList m = true ∧ looksElsewhere m = false) ↔
      ∀ m ∈ h, asksWhereTold m = true := by
  have hstart : Agrees recorded.init := by
    refine ⟨?_, rfl⟩
    intro channel hsource
    cases hsource
  have hagrees := hr.invariant_mem hstart fun _ _ _ _ hI hs => hI.step hs
  refine forall₂_congr fun m hm => ?_
  have hI := (hagrees m hm).1
  constructor
  · rintro ⟨-, helsewhere⟩
    exact hI.elsewhere_iff.1 helsewhere
  · intro hasks
    exact ⟨hI.names (hr.step_of_mem m hm) hasks, hI.elsewhere_iff.2 hasks⟩

/-- The host's list: mono at 16 kHz, stereo at 44.1 kHz. -/
def hostFormats : Bytes := formats [⟨1, 16000, 16⟩, ⟨2, 44100, 16⟩]

/-- An OPEN with the format at an index. -/
def openMessage (index : UInt32) : Bytes := OPEN :: Camera.le32 441 ++ Camera.le32 index

def accepts : ℕ → Bool := fun _ => true

/-- A channel is told its formats, opens one, and changes to the other; so does
the next one. -/
def toldTwice : List Act :=
  [.opened 1, .received 1 hostFormats accepts, .received 1 (openMessage 1) accepts,
    .received 1 (formatChange 0) accepts, .closed 1, .opened 2,
    .received 2 hostFormats accepts, .received 2 (openMessage 0) accepts]

theorem index_names_own_list_toldTwice : ∃ h s, recorded.Run h s ∧
    (Machine.trace h).filterMap Obs.opens =
      [⟨2, 44100, 16⟩, ⟨1, 16000, 16⟩, ⟨1, 16000, 16⟩] ∧
    ∀ m ∈ h, namesOwnList m = true ∧ looksElsewhere m = false := by
  have hrun := recorded.run_get toldTwice (by decide)
  exact ⟨_, _, hrun, by decide, (index_names_own_list_iff hrun).2 (by decide)⟩

/-- **The list of the last connection.**  The plugin is terminated and the next
one's channel opens; an OPEN on it, before any FORMATS, is answered from the
list the last connection left. -/
theorem index_of_the_last_connection : ∃ h s, recorded.Run h s ∧
    s.2.lists 2 = [] ∧ s.1.mic.openFormat = some ⟨2, 44100, 16⟩ ∧
    ¬ ∀ m ∈ h, namesOwnList m = true := by
  have hrun := recorded.run_get [.opened 1, .received 1 hostFormats accepts, .terminated,
    .opened 2, .received 2 (openMessage 1) accepts] (by decide)
  exact ⟨_, _, hrun, by decide, by decide, by decide⟩

end Mic
end FreerdpPrebuilt
