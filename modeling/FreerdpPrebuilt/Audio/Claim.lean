import FreerdpPrebuilt.Audio.Device
import FreerdpPrebuilt.Lib.Machine

/-!
# Who fills the sink, and at which rate

The device callbacks of `FreerdpPrebuilt.Audio.Device` as a machine: rdpsnd
mints devices, calls them in any order as long as they are alive, and frees
them.  The question is whether a buffer can reach the sink from a device that
was last opened at another rate than the session asked for.

`open` sees to it on its own side: a mismatched open gives the claim back.  But
`play` adopts a vacant claim, and asks nothing about how the device was opened,
so the silence lasts only as long as somebody else holds the claim
(`fortyEight_is_heard`).  `rateSafe_iff` says that this is the one way it
can go wrong.
-/

namespace FreerdpPrebuilt
namespace Audio

open Labelled

/-! ## The machine -/

/-- A callback rdpsnd makes on one device. -/
inductive Callback
  | formatSupported (format : Option AUDIO_FORMAT)
  | serverFormatAnnounce (formats : List AUDIO_FORMAT)
  | openDevice (format : Option AUDIO_FORMAT)
  | play (data : Option Bytes)
  | close
  | free

/-- What rdpsnd can do: mint a device at a fresh address, or call a live one. -/
inductive Act
  | subsystemEntry (entryPoints : Option EntryPoints) (fresh : Ptr)
  | callback (device : Ptr) (call : Callback)

/-- The transition of one callback, and its calls on the sink. -/
def Rdpsnd.callback (st : Rdpsnd) (device : Ptr) : Callback → Rdpsnd × List SinkCall
  | .formatSupported _ => (st, [])
  | .serverFormatAnnounce formats => Audio.serverFormatAnnounce st device formats
  | .openDevice format =>
    ((Audio.openDevice st device format).1, (Audio.openDevice st device format).2.1)
  | .play data => Audio.play st device data
  | .close => Audio.close st device
  | .free => (Audio.free st device, [])

/-- The session's sound as a machine.  An allocation returns an address that is
not null and not in use; no call is made on a device that has been freed. -/
def machine (config : Option AudioFormat) : Machine Rdpsnd Act SinkCall where
  init := Rdpsnd.start config
  step st
    | .subsystemEntry entryPoints fresh =>
      if fresh ≠ Ptr.null ∧ st.devices fresh = none then
        some ((Audio.subsystemEntry st entryPoints fresh).1, [])
      else none
    | .callback device call =>
      if (st.devices device).isSome then some (st.callback device call) else none

/-! ## What each callback does to the claim -/

@[simp] theorem setClaim_audioDevice (st : Rdpsnd) (p : Ptr) :
    (st.setClaim p).bridge.audioDevice = p := rfl

@[simp] theorem setClaim_audio (st : Rdpsnd) (p : Ptr) :
    (st.setClaim p).bridge.audio = st.bridge.audio := rfl

@[simp] theorem setClaim_devices (st : Rdpsnd) (p : Ptr) :
    (st.setClaim p).devices = st.devices := rfl

theorem audio_eq_some {st : Rdpsnd} {p : Ptr} {fmt : AudioFormat} :
    audio st p = some fmt ↔ p ≠ Ptr.null ∧ st.bridge.audio = some fmt ∧
      ∃ d, st.devices p = some d ∧ d.rdpsnd ≠ Ptr.null := by
  unfold audio
  by_cases hp : p = Ptr.null
  · simp [hp]
  · cases hd : st.devices p with
    | none => simp [hp]
    | some d => by_cases hr : d.rdpsnd = Ptr.null <;> simp [hp, hr]

/-- What the subsystem entry leaves alone: everything but the fresh address. -/
theorem subsystemEntry_spec (st : Rdpsnd) (e : Option EntryPoints) (fresh : Ptr) :
    let t := (subsystemEntry st e fresh).1
    t.bridge.audio = st.bridge.audio ∧ t.bridge.audioDevice = st.bridge.audioDevice ∧
      ∀ p, p ≠ fresh → t.devices p = st.devices p := by
  cases e with
  | none => simp [subsystemEntry]
  | some e =>
    cases hr : e.pRegisterRdpsndDevice with
    | none => simp [subsystemEntry, hr]
    | some r =>
      simp only [subsystemEntry, hr]
      refine ⟨trivial, trivial, fun p hp => ?_⟩
      exact Function.update_of_ne hp _ _

theorem serverFormatAnnounce_spec (st : Rdpsnd) (p : Ptr) (fs : List AUDIO_FORMAT) :
    let t := (serverFormatAnnounce st p fs).1
    t.bridge.audio = st.bridge.audio ∧ t.bridge.audioDevice = st.bridge.audioDevice ∧
      t.devices = st.devices := by
  cases ha : audio st p with
  | none => simp [serverFormatAnnounce, ha]
  | some fmt =>
    simp only [serverFormatAnnounce, ha]
    split_ifs <;> exact ⟨rfl, rfl, rfl⟩

/-- **`open`, in one lemma.**  On a device with a configured session it leaves
the claim with this device exactly when the format matches, and otherwise takes
it away from this device and from nobody else. -/
theorem openDevice_spec {st : Rdpsnd} {p : Ptr} {fmt : AudioFormat} (ha : audio st p = some fmt)
    (f : AUDIO_FORMAT) :
    let t := (openDevice st p (some f)).1
    t.bridge.audio = st.bridge.audio ∧ t.devices = st.devices ∧
      t.bridge.audioDevice = if fmt.matchesFormat f then p
        else if st.bridge.audioDevice = p then Ptr.null else st.bridge.audioDevice := by
  by_cases hm : fmt.matchesFormat f = true <;> by_cases hd : st.bridge.audioDevice = p <;>
    simp [openDevice, ha, hm, hd]

theorem openDevice_of_audio_none {st : Rdpsnd} {p : Ptr} (ha : audio st p = none)
    (f : Option AUDIO_FORMAT) : (openDevice st p f).1 = st := by
  cases f <;> simp [openDevice, ha]

/-- **`play`, in one lemma.**  A buffer is delivered when it is not empty, the
session is configured, and the claim is this device's or vacant; the claim is
then this device's.  Nothing else happens. -/
theorem play_spec (st : Rdpsnd) (p : Ptr) (data : Option Bytes) :
    play st p data = (st, []) ∨
    ∃ b fmt, data = some b ∧ b ≠ [] ∧ audio st p = some fmt ∧
      (st.bridge.audioDevice = p ∨ st.bridge.audioDevice = Ptr.null) ∧
      (play st p data).1 = st.setClaim p ∧ (play st p data).2.any SinkCall.isWave = true := by
  cases data with
  | none => simp [play]
  | some b =>
    by_cases hb : b = []
    · simp [play, hb]
    · cases ha : audio st p with
      | none => simp [play, hb, ha]
      | some fmt =>
        by_cases hp : st.bridge.audioDevice = p
        · subst hp
          exact .inr ⟨b, fmt, rfl, hb, rfl, .inl rfl, by simp [play, hb, ha, Rdpsnd.setClaim],
            by simp [play, hb, ha, SinkCall.isWave]⟩
        · by_cases hn : st.bridge.audioDevice = Ptr.null
          · have hne : Ptr.null ≠ p := fun h => hp (hn.trans h)
            exact .inr ⟨b, fmt, rfl, hb, rfl, .inr hn, by simp [play, hb, ha, hn, hne],
              by simp [play, hb, ha, hn, hne, SinkCall.isWave]⟩
          · exact .inl (by simp [play, hb, ha, hp, hn])

theorem close_spec (st : Rdpsnd) (p : Ptr) :
    let t := (close st p).1
    t.bridge.audio = st.bridge.audio ∧ t.devices = st.devices ∧
      (t.bridge.audioDevice = Ptr.null ∨ t.bridge.audioDevice = st.bridge.audioDevice) := by
  cases ha : audio st p with
  | none => simp [close, ha]
  | some fmt => by_cases hp : st.bridge.audioDevice = p <;> simp [close, ha, hp]

/-- **`free`, in one lemma.**  The device's memory goes, and the claim with it
if a configured device held it. -/
theorem free_spec (st : Rdpsnd) (p : Ptr) :
    (free st p).bridge.audio = st.bridge.audio ∧
      (∀ q, q ≠ p → (free st p).devices q = st.devices q) ∧
      ((free st p).bridge.audioDevice = Ptr.null ∨
        (free st p).bridge.audioDevice = st.bridge.audioDevice) ∧
      (∀ fmt, audio st p = some fmt → st.bridge.audioDevice = p →
        (free st p).bridge.audioDevice = Ptr.null) := by
  by_cases h0 : p = Ptr.null
  · simp [free, h0, audio]
  · cases ha : audio st p with
    | none =>
      simp only [free, h0, ha, if_false]
      exact ⟨trivial, fun q hq => Function.update_of_ne hq _ _, .inr trivial, by simp⟩
    | some fmt =>
      by_cases hp : st.bridge.audioDevice = p
      · simp only [free, h0, ha, hp, if_true, if_false]
        exact ⟨rfl, fun q hq => Function.update_of_ne hq _ _, .inl rfl, fun _ _ _ => rfl⟩
      · simp only [free, h0, ha, hp, if_false]
        exact ⟨trivial, fun q hq => Function.update_of_ne hq _ _, .inr trivial,
          fun _ _ h => absurd h id⟩

/-! ## How each device was last opened -/

/-- The format each device was last opened with since it was minted. -/
def lastOpened (g : Ptr → Option AUDIO_FORMAT) (m : Move Rdpsnd Act SinkCall) :
    Ptr → Option AUDIO_FORMAT :=
  match m.act with
  | .subsystemEntry _ fresh => Function.update g fresh none
  | .callback device (.openDevice (some format)) => Function.update g device (some format)
  | .callback _ _ => g

/-- The sound of a session, with a record of how each device was last opened. -/
abbrev Watched := Rdpsnd × (Ptr → Option AUDIO_FORMAT)

/-- The machine with that record as its history variable. -/
def watched (config : Option AudioFormat) : Machine Watched Act SinkCall :=
  (machine config).observe (fun _ => none) lastOpened

/-- Whether the most recent open of this device carried a format the session
did not ask for. -/
def mismatched (s : Watched) (device : Ptr) : Bool :=
  match s.1.bridge.audio, s.2 device with
  | some fmt, some f => !fmt.matchesFormat f
  | _, _ => false

/-- **Rate safety of one move.**  If it is a `play` that hands a buffer to the
sink, the device playing was not last opened at another format. -/
def rateSafe (m : Move Watched Act SinkCall) : Bool :=
  match m.act with
  | .callback device (.play _) => !(m.out.any SinkCall.isWave && mismatched m.src device)
  | _ => true

/-- Whether the move adopts a vacant claim for a device last opened at another
format: it is a `play` of a buffer, on a configured device, while nobody holds
the claim. -/
def adoptsMismatched (m : Move Watched Act SinkCall) : Bool :=
  match m.act with
  | .callback device (.play (some data)) =>
    data ≠ [] && (audio m.src.1 device).isSome && m.src.1.bridge.audioDevice == Ptr.null &&
      mismatched m.src device
  | _ => false

/-- Whoever holds the claim is a configured device, alive, and was not last
opened at another format. -/
def HolderMatched (s : Watched) : Prop :=
  s.1.bridge.audioDevice ≠ Ptr.null →
    (audio s.1 s.1.bridge.audioDevice).isSome ∧ mismatched s s.1.bridge.audioDevice = false

/-- A step that leaves the claim, the configuration and the holder's own device
and record alone keeps the holder matched. -/
theorem HolderMatched.of_same {s t : Watched} (hI : HolderMatched s)
    (hc : t.1.bridge.audioDevice = s.1.bridge.audioDevice)
    (ha : t.1.bridge.audio = s.1.bridge.audio)
    (hp : s.1.bridge.audioDevice ≠ Ptr.null →
      t.1.devices s.1.bridge.audioDevice = s.1.devices s.1.bridge.audioDevice ∧
        t.2 s.1.bridge.audioDevice = s.2 s.1.bridge.audioDevice) : HolderMatched t := by
  intro hn
  rw [hc] at hn ⊢
  obtain ⟨hlive, hmat⟩ := hI hn
  obtain ⟨hd, hg⟩ := hp hn
  refine ⟨?_, ?_⟩
  · simpa only [audio, hd, ha] using hlive
  · simpa only [mismatched, ha, hg] using hmat

/-- A vacant claim is nobody's. -/
theorem HolderMatched.of_vacant {t : Watched} (h : t.1.bridge.audioDevice = Ptr.null) :
    HolderMatched t := fun hn => absurd h hn

theorem HolderMatched.subsystemEntry {s : Watched} (hI : HolderMatched s)
    (e : Option EntryPoints) {fresh : Ptr} (hfresh : s.1.devices fresh = none) :
    HolderMatched ((Audio.subsystemEntry s.1 e fresh).1, Function.update s.2 fresh none) := by
  obtain ⟨ha, hc, hd⟩ := subsystemEntry_spec s.1 e fresh
  refine hI.of_same hc ha fun hn => ?_
  have hne : s.1.bridge.audioDevice ≠ fresh := by
    intro heq
    obtain ⟨fmt, hfmt⟩ := Option.isSome_iff_exists.1 (hI hn).1
    obtain ⟨-, -, d, hsome, -⟩ := audio_eq_some.1 hfmt
    rw [heq, hfresh] at hsome
    exact absurd hsome (by simp)
  exact ⟨hd _ hne, Function.update_of_ne hne _ _⟩

theorem HolderMatched.openDevice {s : Watched} (hI : HolderMatched s) (p : Ptr)
    (f : AUDIO_FORMAT) :
    HolderMatched ((Audio.openDevice s.1 p (some f)).1, Function.update s.2 p (some f)) := by
  cases ha : audio s.1 p with
  | none =>
    rw [openDevice_of_audio_none ha]
    refine hI.of_same rfl rfl fun hn => ⟨rfl, ?_⟩
    refine Function.update_of_ne (fun heq => ?_) _ _
    rw [← heq] at ha
    exact absurd (hI hn).1 (by simp [ha])
  | some fmt =>
    obtain ⟨haud, hdev, hclaim⟩ := openDevice_spec ha f
    by_cases hm : fmt.matchesFormat f = true
    · -- the claim is this device's, opened at the right format
      rw [if_pos hm] at hclaim
      intro _
      simp only [hclaim]
      refine ⟨?_, ?_⟩
      · have : audio (Audio.openDevice s.1 p (some f)).1 p = some fmt := by
          simpa only [audio, hdev, haud] using ha
        simp [this]
      · simp [mismatched, haud, (audio_eq_some.1 ha).2.1, hm]
    · rw [if_neg hm] at hclaim
      by_cases hp : s.1.bridge.audioDevice = p
      · rw [if_pos hp] at hclaim
        exact .of_vacant hclaim
      · rw [if_neg hp] at hclaim
        exact hI.of_same hclaim haud fun _ => ⟨by rw [hdev], Function.update_of_ne hp _ _⟩

theorem HolderMatched.free {s : Watched} (hI : HolderMatched s) (p : Ptr) :
    HolderMatched (Audio.free s.1 p, s.2) := by
  obtain ⟨ha, hd, hc, hwith⟩ := free_spec s.1 p
  rcases hc with hc | hc
  · exact .of_vacant hc
  · by_cases hp : s.1.bridge.audioDevice = p
    · by_cases hn : s.1.bridge.audioDevice = Ptr.null
      · exact .of_vacant (hc.trans hn)
      · obtain ⟨fmt, hfmt⟩ := Option.isSome_iff_exists.1 (hI hn).1
        exact .of_vacant (hwith fmt (hp ▸ hfmt) hp)
    · exact hI.of_same hc ha fun _ => ⟨hd _ hp, rfl⟩

theorem HolderMatched.play {s : Watched} (hI : HolderMatched s) (p : Ptr) (data : Option Bytes)
    {o : List SinkCall} {t : Watched}
    (hg : adoptsMismatched ⟨s, .callback p (.play data), o, t⟩ = false) :
    HolderMatched ((Audio.play s.1 p data).1, s.2) := by
  rcases play_spec s.1 p data with heq | ⟨b, fmt, rfl, hb, ha, hclaim, heq, -⟩
  · rw [heq]; exact hI
  · rw [heq]
    rcases hclaim with hclaim | hclaim
    · exact hI.of_same (by simp [hclaim]) rfl fun _ => ⟨rfl, rfl⟩
    · have hok : mismatched s p = false := by simpa [adoptsMismatched, hb, ha, hclaim] using hg
      have hown : audio (s.1.setClaim p) p = some fmt := ha
      exact fun _ => ⟨by simp [hown], hok⟩

/-- **The holder stays matched** through every move that does not adopt the
claim for a mismatched device. -/
theorem HolderMatched.step {config : Option AudioFormat} {s t : Watched} {a : Act}
    {o : List SinkCall} (hI : HolderMatched s) (hs : (watched config).step s a = some (t, o))
    (hg : adoptsMismatched ⟨s, a, o, t⟩ = false) : HolderMatched t := by
  obtain ⟨hstep, hhist⟩ := Machine.observe_step.1 hs
  obtain ⟨t, g⟩ := t
  simp only at hhist
  subst hhist
  cases a with
  | subsystemEntry e fresh =>
    simp only [machine, Option.ite_none_right_eq_some, Option.some.injEq, Prod.mk.injEq] at hstep
    obtain ⟨⟨-, hfresh⟩, rfl, -⟩ := hstep
    exact hI.subsystemEntry e hfresh
  | callback p call =>
    simp only [machine, Option.ite_none_right_eq_some, Option.some.injEq] at hstep
    obtain ⟨-, hstep⟩ := hstep
    have ht : t = (s.1.callback p call).1 := by rw [hstep]
    subst ht
    cases call with
    | formatSupported f => exact hI
    | serverFormatAnnounce fs =>
      obtain ⟨ha, hc, hd⟩ := serverFormatAnnounce_spec s.1 p fs
      exact hI.of_same hc ha fun _ => ⟨congrFun hd _, rfl⟩
    | openDevice f =>
      cases f with
      | none => exact hI
      | some f => exact hI.openDevice p f
    | play data => exact hI.play p data hg
    | close =>
      obtain ⟨ha, hd, hc⟩ := close_spec s.1 p
      rcases hc with hc | hc
      · exact .of_vacant hc
      · exact hI.of_same hc ha fun _ => ⟨congrFun hd _, rfl⟩
    | free => exact hI.free p

/-! ## Rate safety -/

/-- What a `play` move shows the sink is what `play` computes. -/
theorem out_of_play {config : Option AudioFormat} {s t : Watched} {p : Ptr} {data : Option Bytes}
    {o : List SinkCall}
    (hs : (watched config).step s (.callback p (.play data)) = some (t, o)) :
    o = (play s.1 p data).2 := by
  obtain ⟨hstep, -⟩ := Machine.observe_step.1 hs
  simp only [machine, Rdpsnd.callback, Option.ite_none_right_eq_some, Option.some.injEq] at hstep
  rw [hstep.2]

/-- Adopting the claim for a mismatched device delivers its buffer. -/
theorem not_rateSafe_of_adopts {config : Option AudioFormat} {s t : Watched} {a : Act}
    {o : List SinkCall} (hs : (watched config).step s a = some (t, o))
    (h : adoptsMismatched ⟨s, a, o, t⟩ = true) : rateSafe ⟨s, a, o, t⟩ = false := by
  unfold adoptsMismatched at h
  split at h
  · rename_i p b hact
    subst hact
    simp only [Bool.and_eq_true, decide_eq_true_eq, beq_iff_eq] at h
    obtain ⟨⟨⟨hb, hlive⟩, hclaim⟩, hmis⟩ := h
    obtain ⟨fmt, hfmt⟩ := Option.isSome_iff_exists.1 hlive
    have hne : Ptr.null ≠ p := Ne.symm (audio_eq_some.1 hfmt).1
    have hout : o = [.opened fmt, .wave b] := by
      rw [out_of_play hs]; simp [play, hb, hfmt, hclaim, hne]
    simp [rateSafe, hout, hmis, SinkCall.isWave]
  · simp at h

/-- With the holder matched, every other move is safe. -/
theorem HolderMatched.rateSafe {config : Option AudioFormat} {s t : Watched} {a : Act}
    {o : List SinkCall} (hI : HolderMatched s) (hs : (watched config).step s a = some (t, o))
    (hg : adoptsMismatched ⟨s, a, o, t⟩ = false) : rateSafe ⟨s, a, o, t⟩ = true := by
  unfold Audio.rateSafe
  split
  · rename_i p data hact
    subst hact
    have hout := out_of_play hs
    rcases play_spec s.1 p data with hplay | ⟨b, fmt, rfl, hb, ha, hclaim | hclaim, -, -⟩
    · simp [hout, hplay]
    · have hp : s.1.bridge.audioDevice ≠ Ptr.null := hclaim ▸ (audio_eq_some.1 ha).1
      simp [hclaim ▸ (hI hp).2]
    · have hok : mismatched s p = false := by simpa [adoptsMismatched, hb, ha, hclaim] using hg
      simp [hok]
  · rfl

/-- **When the wrong rate can reach the sink.**  In every run of the device
callbacks, over any number of devices and any number of them sharing addresses
over time, the buffers handed to the sink all come from devices that were not
last opened at another format, if and only if no `play` adopted a vacant claim
for such a device. -/
theorem rateSafe_iff {config : Option AudioFormat} {h : List (Move Watched Act SinkCall)}
    {s : Watched} (hr : (watched config).Run h s) :
    (∀ m ∈ h, rateSafe m = true) ↔ ∀ m ∈ h, adoptsMismatched m = false := by
  have hstart : HolderMatched (watched config).init := .of_vacant rfl
  have hadopts : ∀ m ∈ h, rateSafe m = true → adoptsMismatched m = false := by
    intro m hm hsafe
    by_contra hbad
    have hbroken := not_rateSafe_of_adopts (hr.step_of_mem m hm) (by simpa using hbad)
    exact absurd hsafe (by simp [hbroken])
  refine hr.promise_iff (I := HolderMatched) hstart ?_ ?_
  · intro m hm hs hI hsafe
    exact hI.step hs (hadopts m hm hsafe)
  · intro m hm hs hI
    exact ⟨hadopts m hm, hI.rateSafe hs⟩

/-- 48 kHz PCM, as rdpsnd invents it when a server's format is refused. -/
def fortyEight : AUDIO_FORMAT := ⟨WAVE_FORMAT_PCM, 2, 48000, 16⟩

/-- 44.1 kHz PCM, the format a `CD` session asks for. -/
def fortyFour : AUDIO_FORMAT := ⟨WAVE_FORMAT_PCM, 2, 44100, 16⟩

/-- One device minted, opened at `format` and played. -/
def openAndPlay (format : AUDIO_FORMAT) : List Act :=
  [.subsystemEntry (some ⟨9, some true⟩) 1, .callback 1 (.openDevice (some format)),
    .callback 1 (.play (some [0, 0, 0, 0]))]

/-- Opened at the right rate, the device plays and every buffer is safe. -/
theorem rateSafe_fortyFour : ∃ h s, (watched (some .CD)).Run h s ∧ h.length = 3 ∧
    ∀ m ∈ h, rateSafe m = true :=
  have hr := (watched (some .CD)).run_get (openAndPlay fortyFour) (by decide)
  ⟨_, _, hr, by decide, (rateSafe_iff hr).2 (by decide)⟩

/-- **A device opened at the wrong rate is heard.**  One device, opened at
48 kHz in a session that asked for 44.1: nobody holds the claim, so its first
buffer adopts it and goes to the sink. -/
theorem fortyEight_is_heard : ∃ h s, (watched (some .CD)).Run h s ∧
    ¬ ∀ m ∈ h, rateSafe m = true :=
  ⟨_, _, (watched (some .CD)).run_get (openAndPlay fortyEight) (by decide),
    by decide⟩

end Audio
end FreerdpPrebuilt
