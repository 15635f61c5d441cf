import FreerdpPrebuilt.Mic.Formats
import FreerdpPrebuilt.Lib.History

/-!
# A microphone stream ends with its channel

A message opens the stream on whichever instance it arrives, a sample goes to
the stored instance, and an OnClose looks at the stored one only.  The two are
the same as long as no instance opens under a stream and a stream is opened on
the stored instance; `stream_keeps_to_its_channel_iff` says that nothing less will
do.  Otherwise the audio goes to an instance that did not ask for it, and the
close of the one that did passes unnoticed (`audio_goes_astray`).

Whatever happens, the embedder hears `closed` only of a stream it heard
`opened` of.
-/

namespace FreerdpPrebuilt
namespace Mic

open Labelled

/-! ## What is recorded of a run -/

/-- The stream, as it is seen from outside. -/
structure Watch where
  /-- The open instance whose message made the last `opened`. -/
  opener : Option Ptr
  /-- The embedder has heard `opened`, and no `closed` since. -/
  heard : Bool
  deriving DecidableEq

/-- What an observation says on whether the embedder hears a stream. -/
def Obs.saysHeard : Obs → Option Bool
  | .event (.opened _) => some true
  | .event .closed => some false
  | .event (.negotiated _) | .write _ | .returned _ => none

/-- Record one move. -/
def Watch.see (g : Watch) (m : Move System Act Obs) : Watch where
  opener :=
    match m.act with
    | .received channel _ _ =>
      if m.out.filterMap Obs.opens = [] then g.opener else some channel
    | .closed channel => if g.opener = some channel then none else g.opener
    | .terminated => none
    | .opened _ | .sample _ _ => g.opener
  heard := (latest Obs.saysHeard m.out).getD g.heard

abbrev Watched := System × Watch

/-- The microphone with that record as its history variable. -/
def watched : Machine Watched Act Obs := machine.observe ⟨none, false⟩ Watch.see

/-! ## What is claimed of one move -/

/-- While a stream is open, the stored instance is the open one whose message
opened it. -/
def OnItsChannel (s : Watched) : Prop :=
  s.1.mic.openFormat.isSome → ∃ channel ∈ s.1.channels,
    s.1.mic.channel = some channel ∧ s.2.opener = some channel

/-- The audio the move writes goes to the instance whose message opened the
stream. -/
def ShipsOnItsChannel (m : Move Watched Act Obs) : Prop :=
  ∀ channel pcm accepted, .write ⟨channel, .data pcm, accepted⟩ ∈ m.out →
    m.src.2.opener = some channel

/-- The move closes the instance of the stream, or terminates the plugin. -/
def Act.takesAway (opener : Option Ptr) : Act → Bool
  | .closed channel => opener == some channel
  | .terminated => true
  | .opened _ | .received _ _ _ | .sample _ _ => false

/-- A stream whose instance or plugin goes is over, and the embedder is told so,
once. -/
def EndsWithItsChannel (m : Move Watched Act Obs) : Prop :=
  m.src.1.mic.openFormat.isSome → m.act.takesAway m.src.2.opener = true →
    m.dst.1.mic.openFormat = none ∧ m.out.count (.event .closed) = 1

/-- `closed` is delivered at most once, and only after an `opened`. -/
def ClosesWhatOpened (m : Move Watched Act Obs) : Prop :=
  m.out.count (.event .closed) ≤ if m.src.2.heard then 1 else 0

/-- **What is promised of one move.** -/
structure KeepsToChannel (m : Move Watched Act Obs) : Prop where
  stays : OnItsChannel m.dst
  ships : ShipsOnItsChannel m
  ends : EndsWithItsChannel m
  closes : ClosesWhatOpened m

/-- No instance opens under a stream, and a stream is opened on the stored
instance. -/
def onStoredChannel (m : Move Watched Act Obs) : Bool :=
  match m.act with
  | .opened _ => m.src.1.mic.openFormat.isNone
  | .received channel bytes _ =>
    (m.src.1.mic.resolve bytes).isNone || m.src.1.mic.channel == some channel
  | .closed _ | .terminated | .sample _ _ => true

/-! ## One step -/

variable {s t : Watched} {a : Act} {o : List Obs}

/-- What holds in every state: the stored instance is open, and the embedder has
heard what the endpoint remembers. -/
structure Sound (s : Watched) : Prop where
  stored : ∀ channel ∈ s.1.mic.channel, channel ∈ s.1.channels
  heard : s.2.heard = s.1.mic.openFormat.isSome

theorem count_stopped (st : MicState) :
    (Outcome.stopped st).shown.count (.event .closed) = if st.openFormat.isSome then 1 else 0 := by
  rw [shown_stopped]
  split_ifs <;> rfl

theorem count_onClose (st : MicState) (channel : Ptr) :
    (onClose st channel).shown.count (.event .closed) =
      if st.channel = some channel ∧ st.openFormat.isSome then 1 else 0 := by
  unfold onClose
  by_cases hstored : st.channel = some channel
  · simp [hstored, count_stopped]
  · simp [hstored, Outcome.shown, Outcome.nothing]

/-- When a stream is stopped, nothing is heard any more. -/
theorem heard_stopped {st : MicState} {heard : Bool} (hI : heard = st.openFormat.isSome) :
    (latest Obs.saysHeard (Outcome.stopped st).shown).getD heard = false := by
  rw [shown_stopped, hI]
  cases st.openFormat <;> rfl

/-- A message is heard if it opens the stream. -/
theorem Received.heard {st : MicState} {channel : Ptr} {bytes : Bytes} {r : Outcome}
    (hr : Received st channel bytes r) (heard : Bool) :
    (latest Obs.saysHeard r.shown).getD heard = ((st.resolve bytes).isSome || heard) := by
  have hword : ∀ obs ∈ r.shown, obs.saysHeard = obs.opens.map fun _ => true := by
    intro obs hobs
    rcases List.mem_append.1 hobs with hobs | hobs
    · obtain ⟨w, -, rfl⟩ := List.mem_map.1 hobs
      rfl
    · obtain ⟨e, he, rfl⟩ := List.mem_map.1 hobs
      cases e with
      | closed => exact absurd he hr.quiet
      | _ => rfl
  have hall : r.shown.filterMap Obs.saysHeard =
      (r.shown.filterMap Obs.opens).map fun _ => true := by
    rw [List.map_filterMap]
    exact List.filterMap_congr hword
  rw [latest, hall, hr.announced]
  cases st.resolve bytes <;> rfl

/-- A message closes nothing. -/
theorem Received.count_closed {st : MicState} {channel : Ptr} {bytes : Bytes} {r : Outcome}
    (hr : Received st channel bytes r) : r.shown.count (.event .closed) = 0 := by
  rw [List.count_eq_zero]
  intro hmem
  have hquiet := hr.quiet
  simp [Outcome.shown, hquiet] at hmem

/-- A sample is not heard of. -/
theorem latest_quiet (ho : ∀ e, .event e ∉ o) : latest Obs.saysHeard o = none := by
  rw [latest_eq_none]
  intro obs hobs
  cases obs with
  | event e => exact absurd hobs (ho e)
  | _ => rfl

/-- The stored instance is open. -/
theorem stored_step {st st' : System} (hI : ∀ channel ∈ st.mic.channel, channel ∈ st.channels)
    (hs : machine.step st a = some (st', o)) :
    ∀ channel ∈ st'.mic.channel, channel ∈ st'.channels := by
  intro channel hmem
  cases a with
  | opened fresh =>
    obtain ⟨-, hmic, hchannels, -⟩ := step_opened hs
    rw [hmic] at hmem
    obtain rfl : fresh = channel := Option.some.inj hmem
    rw [hchannels]
    exact List.mem_cons_self
  | closed gone =>
    obtain ⟨hmic, hchannels, -⟩ := step_closed hs
    by_cases hstored : st.mic.channel = some gone
    · rw [hmic, onClose, if_pos hstored] at hmem
      cases hmem
    · rw [hmic, onClose, if_neg hstored] at hmem
      have hne : channel ≠ gone := by
        rintro rfl
        exact hstored hmem
      rw [hchannels]
      exact (List.mem_erase_of_ne hne).2 (hI channel hmem)
  | terminated =>
    obtain ⟨hmic, -, -⟩ := step_terminated hs
    rw [hmic] at hmem
    cases hmem
  | received asker bytes answers =>
    obtain ⟨-, hmic, hchannels, -⟩ := step_received hs
    have hr : Received st.mic asker bytes _ := received answers
    rw [hmic, hr.state] at hmem
    rw [hchannels]
    exact hI channel hmem
  | sample pcm answers =>
    obtain ⟨rfl, -, -⟩ := step_sample hs
    exact hI channel hmem

/-- The embedder hears what the endpoint remembers. -/
theorem heard_step {st st' : System} {heard : Bool} (hI : heard = st.mic.openFormat.isSome)
    (hs : machine.step st a = some (st', o)) :
    (latest Obs.saysHeard o).getD heard = st'.mic.openFormat.isSome := by
  cases a with
  | opened fresh =>
    obtain ⟨-, hmic, -, rfl⟩ := step_opened hs
    rw [hmic]
    exact hI
  | closed gone =>
    obtain ⟨hmic, -, rfl⟩ := step_closed hs
    rw [hmic, onClose]
    split_ifs
    · exact heard_stopped hI
    · exact hI
  | terminated =>
    obtain ⟨hmic, -, rfl⟩ := step_terminated hs
    rw [hmic]
    exact heard_stopped hI
  | received asker bytes answers =>
    obtain ⟨-, hmic, -, rfl⟩ := step_received hs
    have hr : Received st.mic asker bytes _ := received answers
    rw [hr.heard, hmic, hr.state, hI]
    cases st.mic.resolve bytes <;> rfl
  | sample pcm answers =>
    obtain ⟨rfl, hevents, -⟩ := step_sample hs
    rw [latest_quiet hevents]
    exact hI

theorem Sound.step (hI : Sound s) (hs : watched.step s a = some (t, o)) : Sound t := by
  obtain ⟨hstep, hsee⟩ := Machine.observe_step.1 hs
  have hheard : t.2.heard = (latest Obs.saysHeard o).getD s.2.heard := by rw [hsee]; rfl
  exact ⟨stored_step hI.stored hstep, hheard.trans (heard_step hI.heard hstep)⟩

/-- Whatever the channels do, `closed` is heard once for a stream. -/
theorem Sound.closes (hI : Sound s) (hs : watched.step s a = some (t, o)) :
    ClosesWhatOpened ⟨s, a, o, t⟩ := by
  have hstep : machine.step s.1 a = some (t.1, o) := (Machine.observe_step.1 hs).1
  show o.count (.event .closed) ≤ if s.2.heard = true then 1 else 0
  rw [hI.heard]
  cases a with
  | opened fresh =>
    obtain ⟨-, -, -, rfl⟩ := step_opened hstep
    exact Nat.zero_le _
  | closed gone =>
    obtain ⟨-, -, rfl⟩ := step_closed hstep
    rw [count_onClose]
    by_cases hopen : s.1.mic.openFormat.isSome = true
    · rw [if_pos hopen]
      split_ifs
      · exact Nat.le_refl 1
      · exact Nat.zero_le 1
    · rw [if_neg fun hboth => hopen hboth.2]
      exact Nat.zero_le _
  | terminated =>
    obtain ⟨-, -, rfl⟩ := step_terminated hstep
    exact Nat.le_of_eq (count_stopped _)
  | received channel bytes answers =>
    obtain ⟨-, -, -, rfl⟩ := step_received hstep
    have hr : Received s.1.mic channel bytes _ := received answers
    rw [hr.count_closed]
    exact Nat.zero_le _
  | sample pcm answers =>
    obtain ⟨-, hevents, -⟩ := step_sample hstep
    rw [List.count_eq_zero.2 (hevents _)]
    exact Nat.zero_le _

/-- Audio goes to the stored instance, which is the opener's. -/
theorem OnItsChannel.ships (hI : OnItsChannel s) (hs : watched.step s a = some (t, o)) :
    ShipsOnItsChannel ⟨s, a, o, t⟩ := by
  intro channel pcm accepted hw
  obtain ⟨hto, hopen⟩ := data_step (Machine.observe_step.1 hs).1 hw
  obtain ⟨stored, -, hstored, hopener⟩ := hI hopen
  exact hopener.trans (hstored.symm.trans hto)

/-- The stored instance is the opener's, so its close ends the stream. -/
theorem OnItsChannel.ends (hI : OnItsChannel s) (hs : watched.step s a = some (t, o)) :
    EndsWithItsChannel ⟨s, a, o, t⟩ := by
  have hstep : machine.step s.1 a = some (t.1, o) := (Machine.observe_step.1 hs).1
  intro hopen haway
  have hopen : s.1.mic.openFormat.isSome := hopen
  show t.1.mic.openFormat = none ∧ o.count (.event .closed) = 1
  cases a with
  | closed gone =>
    obtain ⟨hmic, -, rfl⟩ := step_closed hstep
    have hgone : s.2.opener = some gone := by simpa [Act.takesAway] using haway
    obtain ⟨stored, -, hstored, hopener⟩ := hI hopen
    have hsame : s.1.mic.channel = some gone := hstored.trans (hopener.symm.trans hgone)
    refine ⟨?_, ?_⟩
    · rw [hmic, onClose, if_pos hsame]
      rfl
    · rw [count_onClose, if_pos ⟨hsame, hopen⟩]
  | terminated =>
    obtain ⟨hmic, -, rfl⟩ := step_terminated hstep
    refine ⟨?_, ?_⟩
    · rw [hmic]
    · exact (count_stopped _).trans (if_pos hopen)
  | _ => cases haway

/-- Who opened the stream, after a message. -/
theorem opener_received {st st' : System} {g : Watch} {channel : Ptr} {bytes : Bytes}
    {answers : ℕ → Bool} {r : Outcome} (hr : Received st.mic channel bytes r) :
    (g.see ⟨st, .received channel bytes answers, r.shown, st'⟩).opener =
      if (st.mic.resolve bytes).isSome then some channel else g.opener := by
  show (if r.shown.filterMap Obs.opens = [] then g.opener else some channel) = _
  rw [hr.announced]
  cases st.mic.resolve bytes <;> rfl

/-- A new instance takes the place of the opener's, if there is one. -/
theorem OnItsChannel.opened_iff {st st' : System} {g : Watch} {fresh : Ptr}
    (hI : OnItsChannel (st, g)) (hs : machine.step st (.opened fresh) = some (st', o)) :
    OnItsChannel (st', g.see ⟨st, .opened fresh, o, st'⟩) ↔ st.mic.openFormat = none := by
  obtain ⟨hfresh, hmic, hchannels, -⟩ := step_opened hs
  show (st'.mic.openFormat.isSome → ∃ channel ∈ st'.channels,
    st'.mic.channel = some channel ∧ g.opener = some channel) ↔ _
  rw [hchannels, hmic]
  cases hopen : st.mic.openFormat with
  | none => simp
  | some format =>
    -- the opener is open, so it is not the new instance
    obtain ⟨channel, hmem, -, hopener⟩ := hI (by simp [hopen])
    have hopener : g.opener = some channel := hopener
    have hne : fresh ≠ channel := by
      rintro rfl
      simp [System.isFresh, show fresh ∈ st.channels from hmem] at hfresh
    simp [hopener, Ne.symm hne]

/-- A close ends the stream, or is another instance's. -/
theorem OnItsChannel.closed {st st' : System} {g : Watch} {gone : Ptr}
    (hI : OnItsChannel (st, g)) (hs : machine.step st (.closed gone) = some (st', o)) :
    OnItsChannel (st', g.see ⟨st, .closed gone, o, st'⟩) := by
  obtain ⟨hmic, hchannels, -⟩ := step_closed hs
  intro hopen
  have hopen : st'.mic.openFormat.isSome := hopen
  by_cases hstored : st.mic.channel = some gone
  · rw [hmic, onClose, if_pos hstored] at hopen
    cases hopen
  · have hmic : st'.mic = st.mic := by rw [hmic, onClose, if_neg hstored, Outcome.nothing]
    rw [hmic] at hopen
    obtain ⟨channel, hmem, hchannel, hopener⟩ := hI hopen
    have hchannel : st.mic.channel = some channel := hchannel
    have hopener : g.opener = some channel := hopener
    have hne : channel ≠ gone := by
      rintro rfl
      exact hstored hchannel
    refine ⟨channel, ?_, ?_, ?_⟩
    · rw [show st'.channels = _ from hchannels]
      exact (List.mem_erase_of_ne hne).2 hmem
    · rw [show st'.mic = st.mic from hmic]
      exact hchannel
    · show (if g.opener = some gone then none else g.opener) = some channel
      rw [hopener, if_neg fun heq => hne (Option.some.inj heq)]

/-- A message that opens the stream has to come on the stored instance. -/
theorem OnItsChannel.received_iff {st st' : System} {g : Watch} {asker : Ptr} {bytes : Bytes}
    {answers : ℕ → Bool} (hstored : ∀ channel ∈ st.mic.channel, channel ∈ st.channels)
    (hI : OnItsChannel (st, g))
    (hs : machine.step st (.received asker bytes answers) = some (st', o)) :
    OnItsChannel (st', g.see ⟨st, .received asker bytes answers, o, st'⟩) ↔
      (st.mic.resolve bytes).isNone || st.mic.channel == some asker := by
  obtain ⟨-, hmic, hchannels, rfl⟩ := step_received hs
  have hr : Received st.mic asker bytes _ := received answers
  show (st'.mic.openFormat.isSome → ∃ channel ∈ st'.channels, st'.mic.channel = some channel ∧
    (g.see ⟨st, _, _, st'⟩).opener = some channel) ↔ _
  rw [opener_received hr, hchannels, hmic, hr.state]
  cases hopens : st.mic.resolve bytes with
  | none => exact iff_of_true hI rfl
  | some format =>
    constructor
    · intro hstays
      obtain ⟨channel, -, hchannel, hopener⟩ := hstays rfl
      obtain rfl : asker = channel := Option.some.inj hopener
      simpa using hchannel
    · intro hasker _
      have hasker : st.mic.channel = some asker := by simpa using hasker
      exact ⟨asker, hstored asker hasker, hasker, rfl⟩

/-- **One move.**  From a state in which a stream is on its channel, the next one
is such a state exactly if no other instance is brought in. -/
theorem Sound.stays_iff (hsound : Sound s) (hI : OnItsChannel s)
    (hs : watched.step s a = some (t, o)) :
    OnItsChannel t ↔ onStoredChannel ⟨s, a, o, t⟩ = true := by
  obtain ⟨st, g⟩ := s
  obtain ⟨st', g'⟩ := t
  obtain ⟨hstep, hsee⟩ : machine.step st a = some (st', o) ∧ g' = g.see ⟨st, a, o, st'⟩ :=
    Machine.observe_step.1 hs
  clear hs
  subst hsee
  cases a with
  | opened fresh =>
    rw [hI.opened_iff hstep, onStoredChannel, Option.isNone_iff_eq_none]
  | closed gone => exact iff_of_true (hI.closed hstep) rfl
  | terminated =>
    obtain ⟨hmic, -, -⟩ := step_terminated hstep
    refine iff_of_true ?_ rfl
    intro hopen
    rw [show st'.mic = _ from hmic] at hopen
    cases hopen
  | received asker bytes answers => exact hI.received_iff hsound.stored hstep
  | sample pcm answers =>
    obtain ⟨rfl, -, -⟩ := step_sample hstep
    exact iff_of_true hI rfl

/-! ## The whole run -/

variable {h : List (Move Watched Act Obs)}

theorem sound_start : Sound watched.init := by
  refine ⟨?_, rfl⟩
  intro channel hchannel
  cases hchannel

theorem onItsChannel_start : OnItsChannel watched.init := by
  intro hopen
  cases hopen

/-- **When a stream keeps to its channel.**  In every run, over any number of
instances and plugins: while a stream is open the stored instance is the open one
whose message opened it, all audio goes there, and when it closes or the plugin
is terminated the stream is over and `closed` delivered once, if and only if no
instance opens under a stream and every stream is opened on the stored instance.
In any run `closed` is delivered once at most for an `opened`. -/
theorem stream_keeps_to_its_channel_iff (hr : watched.Run h s) :
    ((∀ m ∈ h, KeepsToChannel m) ↔ ∀ m ∈ h, onStoredChannel m = true) ∧
      ∀ m ∈ h, ClosesWhatOpened m := by
  have hsound := hr.invariant_mem sound_start fun _ _ _ _ hI hs => hI.step hs
  have hcloses : ∀ m ∈ h, ClosesWhatOpened m := fun m hm =>
    (hsound m hm).1.closes (hr.step_of_mem m hm)
  refine ⟨?_, hcloses⟩
  refine hr.promise_iff (I := fun s => OnItsChannel s ∧ Sound s) ⟨onItsChannel_start, sound_start⟩
    ?_ ?_
  · intro m hm hs hI hkeeps
    exact ⟨hkeeps.stays, hI.2.step hs⟩
  · intro m hm hs hI
    have hiff := hI.2.stays_iff hI.1 hs
    constructor
    · intro hkeeps
      exact hiff.1 hkeeps.stays
    · intro hstored
      exact ⟨hiff.2 hstored, hI.1.ships hs, hI.1.ends hs, hcloses m hm⟩

/-- A stream on each of two channels in turn: one ends with its channel, one
with its plugin. -/
def streamTwice : List Act :=
  [.opened 1, .received 1 hostFormats accepts, .received 1 (openMessage 1) accepts,
    .sample [1, 2, 3, 4] accepts, .closed 1, .sample [5, 6, 7, 8] accepts, .opened 2,
    .received 2 hostFormats accepts, .received 2 (openMessage 0) accepts, .terminated, .closed 2]

theorem stream_keeps_to_its_channel_streamTwice : ∃ h s, watched.Run h s ∧
    (∀ m ∈ h, KeepsToChannel m) ∧
    (Machine.trace h).filterMap Obs.saysHeard = [true, false, true, false] := by
  have hrun := watched.run_get streamTwice (by decide)
  exact ⟨_, _, hrun, (stream_keeps_to_its_channel_iff hrun).1.2 (by decide), by decide⟩

/-- Audio that goes elsewhere breaks the promise. -/
theorem not_keeps_of_stray {m : Move Watched Act Obs} {opener channel : Ptr} {pcm : Bytes}
    {accepted : Bool} (hopener : m.src.2.opener = some opener)
    (hw : .write ⟨channel, .data pcm, accepted⟩ ∈ m.out) (hne : opener ≠ channel) :
    ¬ KeepsToChannel m := by
  intro hkeeps
  have hships := hkeeps.ships channel pcm accepted hw
  rw [hopener] at hships
  exact hne (Option.some.inj hships)

/-- A second instance opens under a stream, and the first one closes. -/
def leftBehind : List Act :=
  [.opened 1, .received 1 hostFormats accepts, .received 1 (openMessage 1) accepts, .opened 2,
    .sample [1, 2, 3, 4] accepts, .closed 1]

/-- **A stream left behind.**  The second instance is the stored one: the audio
goes there, and the close of the instance that asked for it ends nothing. -/
theorem audio_goes_astray : ∃ h s, watched.Run h s ∧
    (∃ m ∈ h, m.src.2.opener = some 1 ∧ .write ⟨2, .data [1, 2, 3, 4], true⟩ ∈ m.out) ∧
    s.2.opener = none ∧ s.1.mic.openFormat.isSome ∧
    ¬ ∀ m ∈ h, KeepsToChannel m := by
  have hrun := watched.run_get leftBehind (by decide)
  have hstray : ∃ m ∈ ((watched.exec leftBehind).get (by decide)).1,
      m.src.2.opener = some 1 ∧ .write ⟨2, .data [1, 2, 3, 4], true⟩ ∈ m.out := by decide
  refine ⟨_, _, hrun, hstray, by decide, by decide, ?_⟩
  intro hkeeps
  obtain ⟨m, hm, hopener, hw⟩ := hstray
  exact not_keeps_of_stray hopener hw (by decide) (hkeeps m hm)

end Mic
end FreerdpPrebuilt
