import FreerdpPrebuilt.Mic.Formats

/-!
# The microphone streams after an OPEN

An OPEN that is accepted is answered by an OpenReply with `S_OK`, and from then on
`sample` sends audio.  A FormatChange switches the format of an open stream; in
the source it sets the same field and asks for nothing else, so that one which
comes first opens the stream itself, with no OPEN and no OpenReply.

What an OPEN licenses is read off the replies on the channel (`licences`), not off
the endpoint's state.  `streams_after_open_iff` is about every run on one channel.
-/

namespace FreerdpPrebuilt
namespace Mic

open Labelled

/-! ## What is recorded of a run -/

/-- An OpenReply with `S_OK`. -/
def Obs.acceptsOpen : Obs → Bool
  | .write w => w.message == .openReply RESULT_OK
  | .event _ | .returned _ => false

/-- What a move says on whether an OPEN has been accepted on the channel, which has
not closed since. -/
def licences (m : Move System Act Obs) : Option Bool :=
  match m.act with
  | .closed _ | .terminated => some false
  | .opened _ | .received _ _ _ | .sample _ _ =>
    if m.out.any Obs.acceptsOpen then some true else none

abbrev Licensed := System × Bool

/-- The microphone with that as its history variable. -/
def licensed : Machine Licensed Act Obs :=
  machine.observe false fun licence m => (licences m).getD licence

/-! ## What is claimed -/

/-- The action is about this channel, or about none. -/
def Act.isOn (channel : Ptr) : Act → Bool
  | .opened other | .closed other | .received other _ _ => other == channel
  | .terminated | .sample _ _ => true

/-- A FormatChange. -/
def isFormatChange (bytes : Bytes) : Bool := bytes.head? == some FORMAT_CHANGE

/-- **What is promised of one move**: whatever shows that a stream is open comes
after an OPEN. -/
structure OnlyAfterOpen (m : Move Licensed Act Obs) : Prop where
  opens : m.dst.1.mic.openFormat.isSome → m.dst.2 = true
  told : ∀ format, .event (.opened format) ∈ m.out → m.dst.2 = true
  ships : ∀ channel pcm accepted, .write ⟨channel, .data pcm, accepted⟩ ∈ m.out → m.dst.2 = true
  switches : ∀ channel bytes answers, m.act = .received channel bytes answers →
    isFormatChange bytes = true → m.dst.1.mic.openFormat ≠ m.src.1.mic.openFormat →
    m.src.1.mic.openFormat.isSome ∧ m.src.2 = true

/-- A FormatChange that names a format comes when a stream is open. -/
def changesOpenStream (m : Move Licensed Act Obs) : Bool :=
  match m.act with
  | .received _ bytes _ =>
    !isFormatChange bytes || (m.src.1.mic.resolve bytes).isNone || m.src.1.mic.openFormat.isSome
  | .opened _ | .closed _ | .terminated | .sample _ _ => true

/-! ## One message -/

section

variable {st : MicState} {channel : Ptr} {bytes body : Bytes} {answers : ℕ → Bool} {r : Outcome}

/-- The message is an OPEN that names a format of the list. -/
def MicState.grants (st : MicState) (bytes : Bytes) : Bool :=
  bytes.head? == some OPEN && (st.resolve bytes).isSome

theorem acceptsOpen_shown :
    r.shown.any Obs.acceptsOpen = r.writes.any fun w => w.message == .openReply RESULT_OK := by
  have hevents : (r.events.map Obs.event).any Obs.acceptsOpen = false := by
    simp [Obs.acceptsOpen]
  rw [Outcome.shown, List.any_append, hevents, Bool.or_false, List.any_map]
  rfl

/-- An OpenReply with `S_OK` answers an OPEN that names a format. -/
theorem acceptsOpen_openReceived :
    (openReceived st channel body answers).shown.any Obs.acceptsOpen =
      (st.resolve (OPEN :: body)).isSome := by
  have hresolve : st.resolve (OPEN :: body) =
      ((parseOpen body).map UInt32.toNat).bind fun index => st.formats[index]? := rfl
  rw [acceptsOpen_shown, hresolve]
  unfold openReceived
  cases parseOpen body with
  | none => rfl
  | some index =>
    simp only [Option.map_some, Option.bind_some]
    cases st.formats[index.toNat]? with
    | none => rfl
    | some format => rfl

/-- **No other message is answered by one.** -/
theorem acceptsOpen_received (answers : ℕ → Bool) :
    (onDataReceived st channel bytes answers).shown.any Obs.acceptsOpen = st.grants bytes := by
  cases bytes with
  | nil => rfl
  | cons id body =>
    show (handle st channel id body answers).shown.any Obs.acceptsOpen =
      (some id == some OPEN && (st.resolve (id :: body)).isSome)
    by_cases hopen : id = OPEN
    · subst hopen
      rw [beq_self_eq_true, Bool.true_and]
      exact acceptsOpen_openReceived
    · have hid : (some id == some OPEN) = false := by simpa using hopen
      rw [hid, Bool.false_and, acceptsOpen_shown]
      unfold handle
      split_ifs with hversion hformats hchange
      · unfold versionReceived
        split
        · rfl
        · split_ifs <;> rfl
      · rfl
      · unfold formatChangeReceived
        split
        · rfl
        · split <;> rfl
      · rfl

/-- What names a format is an OPEN or a FormatChange. -/
theorem grants_or_changes (h : (st.resolve bytes).isSome) :
    st.grants bytes = !isFormatChange bytes := by
  unfold MicState.grants isFormatChange
  rw [h, Bool.and_true]
  cases bytes with
  | nil => exact absurd h (by simp [MicState.resolve, named])
  | cons id body =>
    by_cases hopen : id = OPEN
    · subst hopen
      rfl
    · by_cases hchange : id = FORMAT_CHANGE
      · subst hchange
        rfl
      · exact absurd h (by simp [MicState.resolve, named, hopen, hchange])

end

/-! ## One step -/

variable {s t : Licensed} {a : Act} {o : List Obs} {channel : Ptr}

/-- The instance, if it is open, is the stored one; and an open stream is what an
OPEN licensed, on that instance. -/
structure OnOne (channel : Ptr) (s : Licensed) : Prop where
  lone : (s.1.channels = [] ∧ s.1.mic.channel = none) ∨
    (s.1.channels = [channel] ∧ s.1.mic.channel = some channel)
  stored : s.1.mic.openFormat.isSome → s.1.mic.channel.isSome
  licence : s.2 = s.1.mic.openFormat.isSome

theorem onOne_start : OnOne channel licensed.init := by
  refine ⟨.inl ⟨rfl, rfl⟩, ?_, rfl⟩
  intro hopen
  cases hopen

/-- What a message leaves of the licence. -/
theorem licence_received {asker : Ptr} {bytes : Bytes} {answers : ℕ → Bool}
    (hs : licensed.step s (.received asker bytes answers) = some (t, o)) :
    t.2 = (s.1.mic.grants bytes || s.2) := by
  obtain ⟨hstep, hsee⟩ := Machine.observe_step.1 hs
  obtain ⟨-, -, -, rfl⟩ := step_received hstep
  rw [hsee]
  show (if (onDataReceived s.1.mic asker bytes answers).shown.any Obs.acceptsOpen = true
    then some true else none).getD s.2 = _
  rw [acceptsOpen_received]
  cases s.1.mic.grants bytes <;> rfl

/-- An operation that answers no OPEN leaves the licence. -/
theorem licence_quiet (hs : licensed.step s a = some (t, o))
    (ha : licences ⟨s.1, a, o, t.1⟩ = if o.any Obs.acceptsOpen then some true else none)
    (ho : ∀ obs ∈ o, obs.acceptsOpen = false) : t.2 = s.2 := by
  have hsee : t.2 = (licences ⟨s.1, a, o, t.1⟩).getD s.2 := (Machine.observe_step.1 hs).2
  have hnone : o.any Obs.acceptsOpen = false := by
    rw [List.any_eq_false]
    intro obs hobs
    rw [ho obs hobs]
    exact Bool.false_ne_true
  rw [hsee, ha, hnone]
  rfl

theorem acceptsOpen_sample {st st' : System} {pcm : Bytes} {answers : ℕ → Bool}
    (hs : machine.step st (.sample pcm answers) = some (st', o)) :
    ∀ obs ∈ o, obs.acceptsOpen = false := by
  obtain ⟨rfl, rfl⟩ : _ ∧ _ := by simpa [machine] using hs
  unfold Mic.sample
  cases st.mic.openFormat with
  | none => simp [Outcome.nothing, Outcome.shown, Obs.acceptsOpen]
  | some format =>
    cases st.mic.channel with
    | none => simp [Outcome.nothing, Outcome.shown, Obs.acceptsOpen]
    | some channel => cases answers 0 <;> simp [Outcome.shown, Obs.acceptsOpen]

/-- The close of the instance ends the stream and its licence; a late close of one
that is gone finds neither. -/
theorem OnOne.closed (hI : OnOne channel s) (hs : licensed.step s (.closed channel) = some (t, o)) :
    OnOne channel t := by
  obtain ⟨hstep, hsee⟩ := Machine.observe_step.1 hs
  obtain ⟨hmic, hchannels, -⟩ := step_closed hstep
  have hlicence : t.2 = false := hsee
  rw [onClose] at hmic
  rcases hI.lone with ⟨hnone, hstored⟩ | ⟨hone, hstored⟩
  · have hopen : s.1.mic.openFormat = none := by
      rw [← Option.not_isSome_iff_eq_none]
      intro hopen
      have hsome := hI.stored hopen
      rw [hstored] at hsome
      cases hsome
    rw [hstored, if_neg (Option.some_ne_none channel).symm, Outcome.nothing] at hmic
    refine ⟨.inl ⟨?_, ?_⟩, ?_, ?_⟩
    · rw [hchannels, hnone]
      rfl
    · rw [hmic, hstored]
    · rw [hmic]
      exact hI.stored
    · rw [hlicence, hmic, hopen]
      rfl
  · rw [if_pos hstored] at hmic
    refine ⟨.inl ⟨?_, ?_⟩, ?_, ?_⟩
    · rw [hchannels, hone, List.erase_cons_head]
    · rw [hmic]
      rfl
    · intro hopen
      rw [hmic] at hopen
      cases hopen
    · rw [hlicence, hmic]
      rfl

/-- What is no message keeps to the instance and the licence. -/
theorem OnOne.quiet (hI : OnOne channel s) (hs : licensed.step s a = some (t, o))
    (hon : a.isOn channel = true) (ha : ∀ asker bytes answers, a ≠ .received asker bytes answers) :
    OnOne channel t := by
  obtain ⟨hstep, hsee⟩ := Machine.observe_step.1 hs
  cases a with
  | opened fresh =>
    obtain rfl : fresh = channel := beq_iff_eq.1 hon
    obtain ⟨hfresh, hmic, hchannels, rfl⟩ := step_opened hstep
    have hnone : s.1.channels = [] := by
      rcases hI.lone with ⟨hnone, -⟩ | ⟨hone, -⟩
      · exact hnone
      · simp [System.isFresh, hone] at hfresh
    refine ⟨.inr ⟨?_, ?_⟩, ?_, ?_⟩
    · rw [hchannels, hnone]
    · rw [hmic]
    · intro _
      rw [hmic]
      rfl
    · rw [licence_quiet hs rfl (by simp), hmic]
      exact hI.licence
  | closed gone =>
    obtain rfl : gone = channel := beq_iff_eq.1 hon
    exact hI.closed hs
  | terminated =>
    obtain ⟨hmic, hchannels, -⟩ := step_terminated hstep
    have hlicence : t.2 = false := hsee
    refine ⟨.inl ⟨hchannels, ?_⟩, ?_, ?_⟩
    · rw [hmic]
    · intro hopen
      rw [hmic] at hopen
      cases hopen
    · rw [hlicence, hmic]
      rfl
  | received asker bytes answers => exact absurd rfl (ha asker bytes answers)
  | sample pcm answers =>
    have hlicence : t.2 = s.2 := licence_quiet hs rfl (acceptsOpen_sample hstep)
    obtain ⟨hsame, -, -⟩ := step_sample hstep
    refine ⟨?_, ?_, ?_⟩
    · rw [hsame]
      exact hI.lone
    · rw [hsame]
      exact hI.stored
    · rw [hlicence, hsame]
      exact hI.licence

/-- What is no message shows a stream only after an OPEN. -/
theorem OnOne.onlyAfterOpen (hI : OnOne channel s) (hs : licensed.step s a = some (t, o))
    (hon : a.isOn channel = true) (ha : ∀ asker bytes answers, a ≠ .received asker bytes answers) :
    OnlyAfterOpen ⟨s, a, o, t⟩ := by
  have hstep : machine.step s.1 a = some (t.1, o) := (Machine.observe_step.1 hs).1
  have hnext := hI.quiet hs hon ha
  refine ⟨?_, ?_, ?_, ?_⟩
  · intro hopen
    exact hnext.licence.trans hopen
  · intro format hmem
    have hsome : format ∈ o.filterMap Obs.opens :=
      List.mem_filterMap.2 ⟨.event (.opened format), hmem, rfl⟩
    rw [opens_of_step hstep ha] at hsome
    cases hsome
  · intro target pcm accepted hmem
    have hopen := (data_step hstep hmem).2
    obtain ⟨pcm', answers, rfl⟩ := sample_of_data hstep hmem
    obtain ⟨hsame, -, -⟩ := step_sample hstep
    show t.2 = true
    rw [hnext.licence, hsame]
    exact hopen
  · intro asker bytes answers heq
    exact absurd heq (ha asker bytes answers)

section

variable {asker : Ptr} {bytes : Bytes} {answers : ℕ → Bool}

/-- What a message leaves open. -/
theorem open_received (hs : licensed.step s (.received asker bytes answers) = some (t, o)) :
    t.1.mic.openFormat = (s.1.mic.resolve bytes).or s.1.mic.openFormat := by
  obtain ⟨-, hmic, -, -⟩ := step_received (Machine.observe_step.1 hs).1
  have hr : Received s.1.mic asker bytes _ := received answers
  rw [hmic, hr.state]

/-- What a message announces is what it names. -/
theorem told_received (hs : licensed.step s (.received asker bytes answers) = some (t, o)) :
    o.filterMap Obs.opens = (s.1.mic.resolve bytes).toList := by
  obtain ⟨-, -, -, rfl⟩ := step_received (Machine.observe_step.1 hs).1
  have hr : Received s.1.mic asker bytes _ := received answers
  exact hr.announced

/-- A FormatChange that keeps the promise finds the stream open. -/
theorem OnOne.changes (hI : OnOne channel s)
    (hs : licensed.step s (.received asker bytes answers) = some (t, o))
    (honly : OnlyAfterOpen ⟨s, .received asker bytes answers, o, t⟩)
    (hchange : isFormatChange bytes = true) (hresolve : (s.1.mic.resolve bytes).isSome) :
    s.1.mic.openFormat.isSome := by
  have hgrants : s.1.mic.grants bytes = false := by
    rw [grants_or_changes hresolve, hchange]
    rfl
  -- the stream is open after the message, so an OPEN has been accepted before it
  have hopen : t.1.mic.openFormat.isSome := by
    rw [open_received hs, Option.isSome_or, hresolve, Bool.true_or]
  have hlicence := licence_received hs
  rw [hgrants, Bool.false_or, honly.opens hopen] at hlicence
  exact hI.licence.symm.trans hlicence.symm

/-- **One message** shows a stream only after an OPEN, exactly if it is no
FormatChange that opens the stream. -/
theorem OnOne.received_iff (hI : OnOne channel s)
    (hs : licensed.step s (.received asker bytes answers) = some (t, o)) :
    OnlyAfterOpen ⟨s, .received asker bytes answers, o, t⟩ ↔
      changesOpenStream ⟨s, .received asker bytes answers, o, t⟩ = true := by
  have hstep : machine.step s.1 (.received asker bytes answers) = some (t.1, o) :=
    (Machine.observe_step.1 hs).1
  have hopens := open_received hs
  simp only [changesOpenStream, Bool.or_eq_true, Bool.not_eq_true', Option.isNone_iff_eq_none]
  constructor
  · intro honly
    by_cases hchange : isFormatChange bytes = true
    · cases hresolve : s.1.mic.resolve bytes with
      | none => exact .inl (.inr rfl)
      | some format => exact .inr (hI.changes hs honly hchange (by rw [hresolve]; rfl))
    · exact .inl (.inl (Bool.eq_false_iff.2 hchange))
  · intro hchanges
    have hdst : t.1.mic.openFormat.isSome → t.2 = true := by
      intro hopen
      rw [licence_received hs, hI.licence]
      cases hresolve : s.1.mic.resolve bytes with
      | none =>
        rw [hopens, hresolve] at hopen
        exact Bool.or_eq_true_iff.2 (.inr hopen)
      | some format =>
        rw [grants_or_changes (by rw [hresolve]; rfl)]
        rcases hchanges with (hopening | hnone) | hrunning
        · rw [hopening]
          rfl
        · rw [hresolve] at hnone
          cases hnone
        · rw [hrunning, Bool.or_true]
    refine ⟨hdst, ?_, ?_, ?_⟩
    · intro format hmem
      have hsome : format ∈ o.filterMap Obs.opens :=
        List.mem_filterMap.2 ⟨.event (.opened format), hmem, rfl⟩
      rw [told_received hs, Option.mem_toList] at hsome
      refine hdst ?_
      rw [hopens, Option.mem_def.1 hsome]
      rfl
    · intro target pcm accepted hmem
      obtain ⟨pcm', answers', heq⟩ := sample_of_data hstep hmem
      cases heq
    · intro asker' bytes' answers' heq hchange hdiffers
      obtain ⟨rfl, rfl, rfl⟩ : asker = asker' ∧ bytes = bytes' ∧ answers = answers' := by
        simpa using heq
      have hrunning : s.1.mic.openFormat.isSome := by
        rcases hchanges with (hopening | hnone) | hrunning
        · rw [hchange] at hopening
          cases hopening
        · exact absurd (by rw [hopens, hnone, Option.none_or]) hdiffers
        · exact hrunning
      exact ⟨hrunning, hI.licence.trans hrunning⟩

/-- A message that keeps the promise keeps to the instance and the licence. -/
theorem OnOne.received (hI : OnOne channel s)
    (hs : licensed.step s (.received asker bytes answers) = some (t, o))
    (honly : OnlyAfterOpen ⟨s, .received asker bytes answers, o, t⟩) : OnOne channel t := by
  obtain ⟨hmem, hmic, hchannels, -⟩ := step_received (Machine.observe_step.1 hs).1
  have hr : Received s.1.mic asker bytes _ := Mic.received answers
  have hkept : t.1.mic.channel = s.1.mic.channel := by rw [hmic, hr.state]
  have hopens := open_received hs
  have hlicence := licence_received hs
  refine ⟨?_, ?_, ?_⟩
  · rw [hchannels, hkept]
    exact hI.lone
  · intro _
    rw [hkept]
    rcases hI.lone with ⟨hnone, -⟩ | ⟨-, hstored⟩
    · rw [hnone] at hmem
      cases hmem
    · rw [hstored]
      rfl
  · rw [Bool.eq_iff_iff]
    constructor
    · intro hdst
      rw [hlicence, Bool.or_eq_true] at hdst
      rw [hopens, Option.isSome_or, Bool.or_eq_true]
      rcases hdst with hgrants | hlicensed
      · exact .inl (Bool.and_eq_true_iff.1 hgrants).2
      · exact .inr (hI.licence.symm.trans hlicensed)
    · exact honly.opens

end

/-! ## The whole run -/

variable {h : List (Move Licensed Act Obs)}

/-- **When the microphone streams only after an OPEN.**  In every run on one
channel, which may close and open again, with any messages and any samples: a
stream is open, is announced and ships audio only if an OPEN has been accepted on
the channel, which has not closed since, if and only if every FormatChange that
names a format comes when a stream is open. -/
theorem streams_after_open_iff (hr : licensed.Run h s) (channel : Ptr)
    (hone : ∀ m ∈ h, m.act.isOn channel = true) :
    (∀ m ∈ h, OnlyAfterOpen m) ↔ ∀ m ∈ h, changesOpenStream m = true := by
  refine hr.promise_iff (I := OnOne channel) onOne_start ?_ ?_
  · intro m hm hs hI honly
    by_cases ha : ∃ asker bytes answers, m.act = .received asker bytes answers
    · obtain ⟨src, act, out, dst⟩ := m
      obtain ⟨asker, bytes, answers, rfl⟩ := ha
      exact hI.received hs honly
    · exact hI.quiet hs (hone m hm) fun asker bytes answers heq => ha ⟨asker, bytes, answers, heq⟩
  · intro m hm hs hI
    by_cases ha : ∃ asker bytes answers, m.act = .received asker bytes answers
    · obtain ⟨src, act, out, dst⟩ := m
      obtain ⟨asker, bytes, answers, rfl⟩ := ha
      exact hI.received_iff hs
    · refine iff_of_true (hI.onlyAfterOpen hs (hone m hm) fun asker bytes answers heq =>
        ha ⟨asker, bytes, answers, heq⟩) ?_
      obtain ⟨src, act, out, dst⟩ := m
      cases act with
      | received asker bytes answers => exact absurd ⟨asker, bytes, answers, rfl⟩ ha
      | _ => rfl

/-- A stream opens, changes its format and ends; the channel opens again. -/
def openedTwice : List Act :=
  [.opened 1, .received 1 hostFormats accepts, .received 1 (openMessage 1) accepts,
    .received 1 (formatChange 0) accepts, .sample [1, 2] accepts, .closed 1,
    .sample [3, 4] accepts, .opened 1, .received 1 hostFormats accepts,
    .received 1 (openMessage 0) accepts, .terminated]

theorem streams_after_open_openedTwice : ∃ h s, licensed.Run h s ∧
    (Machine.trace h).filterMap Obs.opens =
      [⟨2, 44100, 16⟩, ⟨1, 16000, 16⟩, ⟨1, 16000, 16⟩] ∧
    ∀ m ∈ h, OnlyAfterOpen m := by
  have hrun := licensed.run_get openedTwice (by decide)
  exact ⟨_, _, hrun, by decide, (streams_after_open_iff hrun 1 (by decide)).2 (by decide)⟩

/-- **Audio without an OPEN.**  The host lists its formats and sends a
FormatChange, and never an OPEN: the next sample goes out. -/
theorem audio_without_open : ∃ h s, licensed.Run h s ∧
    (∀ m ∈ h, m.act.isOn 1 = true) ∧ s.2 = false ∧
    .write ⟨1, .data [1, 2], true⟩ ∈ Machine.trace h ∧ ¬ ∀ m ∈ h, OnlyAfterOpen m := by
  have hrun := licensed.run_get [.opened 1, .received 1 hostFormats accepts,
    .received 1 (formatChange 0) accepts, .sample [1, 2] accepts] (by decide)
  have hships : ∃ m ∈ ((licensed.exec [.opened 1, .received 1 hostFormats accepts,
      .received 1 (formatChange 0) accepts, .sample [1, 2] accepts]).get (by decide)).1,
      m.dst.2 = false ∧ .write ⟨1, .data [1, 2], true⟩ ∈ m.out := by decide
  refine ⟨_, _, hrun, by decide, by decide, by decide, ?_⟩
  intro hall
  obtain ⟨m, hm, hunlicensed, hw⟩ := hships
  have hlicensed := (hall m hm).ships 1 [1, 2] true hw
  rw [hunlicensed] at hlicensed
  cases hlicensed

end Mic
end FreerdpPrebuilt
