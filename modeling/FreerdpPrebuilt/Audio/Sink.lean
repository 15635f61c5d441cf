import FreerdpPrebuilt.Audio.Claim

/-!
# What the sink is told, and by whom

The sink sees nothing of the claim.  It is told `opened` and `closed`, and takes
a wave to belong to the last device that opened.  This file compares the two
views over every run of the device callbacks.

* `one_live_producer` — a wave always comes from the device that made the last
  `opened`, with no `closed` since, and the claim is never a freed device's.
* `sink_in_step_iff` — the sink thinks itself open exactly while somebody holds
  the claim, *except* for a device freed while it holds it: `free` withdraws the
  claim and tells nobody (`freed_holder_stays_open`).

`Turn` says once what a callback can do to the claim and to the sink together;
both results are read off its five cases.  A device is known by its address only
as long as it lives, so the history numbers the devices as they are minted.
-/

namespace FreerdpPrebuilt
namespace Audio

open Labelled

/-! ## What a callback does to the claim, and tells the sink -/

/-- The calls that are neither `opened`, `closed` nor a wave. -/
def SinkCall.isQuiet : SinkCall → Bool
  | .negotiated _ => true
  | .opened _ | .wave _ | .closed => false

/-- **The five turns of a callback**, on `device`, from `st` to `t`, by the
calls it makes on the sink. -/
inductive Turn (st t : Rdpsnd) (device : Ptr) (call : Callback) : List SinkCall → Prop
  /-- The claim stays where it is, and the sink hears nothing of it. -/
  | kept {o : List SinkCall} (hclaim : t.bridge.audioDevice = st.bridge.audioDevice)
      (hquiet : ∀ c ∈ o, c.isQuiet = true)
      (hfree : call = .free → st.bridge.audioDevice = device → audio st device = none) :
      Turn st t device call o
  /-- The device takes the claim, and perhaps plays at once. -/
  | taken {fmt : AudioFormat} {waves : List SinkCall} (hother : st.bridge.audioDevice ≠ device)
      (hlive : (audio st device).isSome) (hclaim : t.bridge.audioDevice = device)
      (hcall : (∃ f, call = .openDevice f ∧ waves = []) ∨
        ∃ data b, call = .play data ∧ waves = [.wave b]) :
      Turn st t device call (.opened fmt :: waves)
  /-- The device holds the claim and plays. -/
  | played {b : Bytes} (hheld : st.bridge.audioDevice = device)
      (hlive : (audio st device).isSome) (hclaim : t.bridge.audioDevice = device)
      (hcall : ∃ data, call = .play data) : Turn st t device call [.wave b]
  /-- The device gives the claim up, and the sink is told. -/
  | given (hheld : st.bridge.audioDevice = device) (hlive : (audio st device).isSome)
      (hclaim : t.bridge.audioDevice = Ptr.null) (hcall : call ≠ .free) :
      Turn st t device call [.closed]
  /-- The device is freed with the claim, and the sink is not told. -/
  | freed (hheld : st.bridge.audioDevice = device) (hlive : (audio st device).isSome)
      (hclaim : t.bridge.audioDevice = Ptr.null) (hcall : call = .free) :
      Turn st t device call []

theorem openDevice_turn (st : Rdpsnd) (p : Ptr) (f : Option AUDIO_FORMAT) :
    Turn st (openDevice st p f).1 p (.openDevice f) (openDevice st p f).2.1 := by
  cases f with
  | none => exact .kept rfl (by simp [openDevice]) (by simp)
  | some f =>
    cases ha : audio st p with
    | none =>
      rw [openDevice_of_audio_none ha]
      exact .kept rfl (by simp [openDevice, ha]) (by simp)
    | some fmt =>
      have hlive : (audio st p).isSome := by rw [ha]; rfl
      by_cases hm : fmt.matchesFormat f = true <;> by_cases hd : st.bridge.audioDevice = p
      · simp only [openDevice, ha, hm, hd, not_true_eq_false, if_false, ne_eq]
        exact .kept rfl (by simp) (by simp)
      · simp only [openDevice, ha, hm, hd, not_true_eq_false, not_false_eq_true, if_true, if_false,
          ne_eq]
        exact .taken hd hlive rfl (.inl ⟨_, rfl, rfl⟩)
      · simp only [openDevice, ha, hm, hd, if_true]
        exact .given hd hlive rfl (by simp)
      · simp only [openDevice, ha, hm, hd, if_false]
        exact .kept rfl (by simp) (by simp)

theorem play_turn (st : Rdpsnd) (p : Ptr) (data : Option Bytes) :
    Turn st (play st p data).1 p (.play data) (play st p data).2 := by
  cases data with
  | none => exact .kept rfl (by simp [play]) (by simp)
  | some b =>
    by_cases hb : b = []
    · simp only [play, hb, if_true]
      exact .kept rfl (by simp) (by simp)
    · cases ha : audio st p with
      | none =>
        simp only [play, hb, ha, if_false]
        exact .kept rfl (by simp) (by simp)
      | some fmt =>
        have hlive : (audio st p).isSome := by rw [ha]; rfl
        by_cases hp : st.bridge.audioDevice = p
        · simp only [play, hb, ha, hp, if_false, ne_eq, not_true_eq_false]
          exact .played hp hlive hp ⟨_, rfl⟩
        · by_cases hn : st.bridge.audioDevice = Ptr.null
          · simp only [play, hb, ha, hn, if_false, ne_eq, not_true_eq_false]
            rw [if_pos fun h => hp (hn.trans h)]
            exact .taken hp hlive rfl (.inr ⟨_, b, rfl, rfl⟩)
          · simp only [play, hb, ha, hp, hn, if_false, if_true, ne_eq, not_false_eq_true]
            exact .kept rfl (by simp) (by simp)

theorem close_turn (st : Rdpsnd) (p : Ptr) :
    Turn st (close st p).1 p .close (close st p).2 := by
  cases ha : audio st p with
  | none =>
    simp only [close, ha]
    exact .kept rfl (by simp) (by simp)
  | some fmt =>
    have hlive : (audio st p).isSome := by rw [ha]; rfl
    by_cases hp : st.bridge.audioDevice = p
    · simp only [close, ha, hp, ne_eq, not_true_eq_false, if_false]
      exact .given hp hlive rfl (by simp)
    · simp only [close, ha, hp, ne_eq, not_false_eq_true, if_true]
      exact .kept rfl (by simp) (by simp)

theorem free_turn (st : Rdpsnd) (p : Ptr) : Turn st (free st p) p .free [] := by
  obtain ⟨-, -, hclaim, hheld⟩ := free_spec st p
  cases ha : audio st p with
  | none =>
    refine .kept ?_ (by simp) fun _ _ => ha
    by_cases h0 : p = Ptr.null <;> simp [free, ha, h0]
  | some fmt =>
    have hlive : (audio st p).isSome := by rw [ha]; rfl
    by_cases hp : st.bridge.audioDevice = p
    · exact .freed hp hlive (hheld fmt ha hp) rfl
    · refine .kept ?_ (by simp) fun _ h => absurd h hp
      by_cases h0 : p = Ptr.null <;> simp [free, ha, h0, hp]

theorem serverFormatAnnounce_quiet (st : Rdpsnd) (p : Ptr) (fs : List AUDIO_FORMAT) :
    ∀ c ∈ (serverFormatAnnounce st p fs).2, c.isQuiet = true := by
  cases ha : audio st p <;> simp [serverFormatAnnounce, ha, SinkCall.isQuiet]

/-- Every callback takes one of the five turns. -/
theorem callback_turn (st : Rdpsnd) (p : Ptr) (call : Callback) :
    Turn st (st.callback p call).1 p call (st.callback p call).2 := by
  cases call with
  | formatSupported f => exact .kept rfl (by simp [Rdpsnd.callback]) (by simp)
  | serverFormatAnnounce fs =>
    exact .kept (serverFormatAnnounce_spec st p fs).2.1 (serverFormatAnnounce_quiet st p fs)
      (by simp)
  | openDevice f => exact openDevice_turn st p f
  | play data => exact play_turn st p data
  | close => exact close_turn st p
  | free => exact free_turn st p

/-- What a callback leaves alone: the session's format, and every device but
the one it frees. -/
theorem callback_frame (st : Rdpsnd) (p : Ptr) (call : Callback) :
    (st.callback p call).1.bridge.audio = st.bridge.audio ∧
      ∀ q, (call = .free → q ≠ p) → (st.callback p call).1.devices q = st.devices q := by
  cases call with
  | formatSupported f => exact ⟨rfl, fun _ _ => rfl⟩
  | serverFormatAnnounce fs =>
    obtain ⟨ha, -, hd⟩ := serverFormatAnnounce_spec st p fs
    exact ⟨ha, fun q _ => congrFun hd q⟩
  | openDevice f =>
    cases f with
    | none => exact ⟨rfl, fun _ _ => rfl⟩
    | some f =>
      cases ha : audio st p with
      | none =>
        show (openDevice st p (some f)).1.bridge.audio = _ ∧ _
        rw [openDevice_of_audio_none ha]
        refine ⟨rfl, fun q _ => ?_⟩
        show (openDevice st p (some f)).1.devices q = _
        rw [openDevice_of_audio_none ha]
      | some fmt =>
        obtain ⟨haud, hdev, -⟩ := openDevice_spec ha f
        exact ⟨haud, fun q _ => congrFun hdev q⟩
  | play data =>
    rcases play_spec st p data with heq | ⟨b, fmt, -, -, -, -, heq, -⟩
    · simp [Rdpsnd.callback, heq]
    · simp [Rdpsnd.callback, heq]
  | close =>
    obtain ⟨ha, hd, -⟩ := close_spec st p
    exact ⟨ha, fun q _ => congrFun hd q⟩
  | free =>
    obtain ⟨ha, hd, -, -⟩ := free_spec st p
    exact ⟨ha, fun q hq => hd q (hq rfl)⟩

/-! ## What is recorded of a run -/

/-- The history of a session's sound: the number of each device alive, and the
device that made the last `opened`, until there is a `closed`. -/
structure Heard where
  minted : ℕ
  number : Ptr → ℕ
  opener : Option ℕ

/-- Nothing minted, and nothing heard. -/
def Heard.nothing : Heard := ⟨0, fun _ => 0, none⟩

/-- What one call on the sink makes of the last opener, when it is made by the
device of this number. -/
def hear (device : ℕ) (opener : Option ℕ) : SinkCall → Option ℕ
  | .opened _ => some device
  | .closed => none
  | .negotiated _ | .wave _ => opener

/-- Record one move. -/
def Heard.see (g : Heard) (m : Move Rdpsnd Act SinkCall) : Heard :=
  match m.act with
  | .subsystemEntry _ fresh =>
    { g with minted := g.minted + 1, number := Function.update g.number fresh g.minted }
  | .callback device _ => { g with opener := m.out.foldl (hear (g.number device)) g.opener }

abbrev Listened := Rdpsnd × Heard

/-- The sound of a session with that record as its history variable. -/
def listened (config : Option AudioFormat) : Machine Listened Act SinkCall :=
  (machine config).observe .nothing Heard.see

/-- Whether the sink thinks itself open: the last of its `opened` and `closed`
was an `opened`. -/
def sinkOpen (s : Listened) : Bool := s.2.opener.isSome

/-- Whether somebody holds the claim. -/
def claimed (s : Listened) : Bool := s.1.bridge.audioDevice != Ptr.null

/-! ## What is claimed of one move -/

/-- Every call on the sink is in order, given the device that makes them and the
last opener at that point. -/
def inOrder (ok : Option ℕ → SinkCall → Bool) (device : ℕ) : Option ℕ → List SinkCall → Bool
  | _, [] => true
  | opener, c :: cs => ok opener c && inOrder ok device (hear device opener c) cs

/-- Check the calls of one move against the last opener; no device makes a call
as it is minted. -/
def callsInOrder (ok : ℕ → Option ℕ → SinkCall → Bool) (m : Move Listened Act SinkCall) : Bool :=
  match m.act with
  | .subsystemEntry _ _ => m.out.isEmpty
  | .callback device _ =>
    inOrder (ok (m.src.2.number device)) (m.src.2.number device) m.src.2.opener m.out

/-- A wave or a `closed` reaches a sink that is open. -/
def toOpenSink (_device : ℕ) (opener : Option ℕ) : SinkCall → Bool
  | .wave _ | .closed => opener.isSome
  | .negotiated _ | .opened _ => true

/-- A wave comes from the device that made the last `opened`. -/
def fromOpener (device : ℕ) (opener : Option ℕ) : SinkCall → Bool
  | .wave _ => opener == some device
  | .negotiated _ | .opened _ | .closed => true

/-- The sink and the claim agree after the move, the calls of the move were in
order, and a claim that fell vacant was one `closed`. -/
def sinkInStep (m : Move Listened Act SinkCall) : Bool :=
  sinkOpen m.dst == claimed m.dst && callsInOrder toOpenSink m &&
    (!claimed m.src || claimed m.dst || m.out.count .closed == 1)

/-- The move frees the device that holds the claim. -/
def freesHolder (m : Move Listened Act SinkCall) : Bool :=
  match m.act with
  | .callback device .free => device != Ptr.null && m.src.1.bridge.audioDevice == device
  | _ => false

/-- Only `open` and `play` tell the sink that it opened. -/
def openedByOpenOrPlay (m : Move Listened Act SinkCall) : Bool :=
  match m.act with
  | .callback _ (.openDevice _) | .callback _ (.play _) => true
  | _ => m.out.all fun c => c.isQuiet || c == .closed

/-! ## The holder is alive -/

/-- The holder of the claim is a configured device, alive. -/
def HolderLive (st : Rdpsnd) : Prop :=
  st.bridge.audioDevice ≠ Ptr.null → (audio st st.bridge.audioDevice).isSome

theorem isSome_devices_of_audio {st : Rdpsnd} {p : Ptr} (h : (audio st p).isSome) :
    (st.devices p).isSome := by
  obtain ⟨fmt, hfmt⟩ := Option.isSome_iff_exists.1 h
  obtain ⟨-, -, d, hd, -⟩ := audio_eq_some.1 hfmt
  rw [hd]
  rfl

theorem ne_null_of_audio {st : Rdpsnd} {p : Ptr} (h : (audio st p).isSome) : p ≠ Ptr.null := by
  obtain ⟨fmt, hfmt⟩ := Option.isSome_iff_exists.1 h
  exact (audio_eq_some.1 hfmt).1

/-- A device whose memory and format are untouched is as it was. -/
theorem audio_congr {st t : Rdpsnd} {p : Ptr} (ha : t.bridge.audio = st.bridge.audio)
    (hd : t.devices p = st.devices p) : audio t p = audio st p := by
  rw [audio, audio, ha, hd]

theorem HolderLive.subsystemEntry {st : Rdpsnd} (hI : HolderLive st) (e : Option EntryPoints)
    {fresh : Ptr} (hfresh : st.devices fresh = none) :
    HolderLive (Audio.subsystemEntry st e fresh).1 ∧
      (st.bridge.audioDevice ≠ Ptr.null → st.bridge.audioDevice ≠ fresh) := by
  obtain ⟨ha, hc, hd⟩ := subsystemEntry_spec st e fresh
  have hne : st.bridge.audioDevice ≠ Ptr.null → st.bridge.audioDevice ≠ fresh := by
    intro hn heq
    have hlive := isSome_devices_of_audio (hI hn)
    rw [heq, hfresh] at hlive
    cases hlive
  refine ⟨?_, hne⟩
  intro hn
  rw [hc] at hn ⊢
  rw [audio_congr ha (hd _ (hne hn))]
  exact hI hn

theorem HolderLive.callback {st : Rdpsnd} (hI : HolderLive st) (p : Ptr) (call : Callback) :
    HolderLive (st.callback p call).1 := by
  obtain ⟨ha, hd⟩ := callback_frame st p call
  have hturn := callback_turn st p call
  intro hn
  generalize (st.callback p call).1 = t at *
  generalize (st.callback p call).2 = o at *
  cases hturn with
  | kept hclaim _ hfree =>
    rw [hclaim] at hn ⊢
    rw [audio_congr ha]
    · exact hI hn
    · refine hd _ fun hf heq => ?_
      have hlive := hI hn
      rw [heq, hfree hf heq] at hlive
      cases hlive
  | taken hother hlive hclaim hcall =>
    rw [hclaim, audio_congr ha]
    · exact hlive
    · refine hd _ fun hf => ?_
      rcases hcall with ⟨f, rfl, -⟩ | ⟨data, b, rfl, -⟩ <;> cases hf
  | played hheld hlive hclaim hcall =>
    obtain ⟨data, rfl⟩ := hcall
    rw [hclaim, audio_congr ha]
    · exact hlive
    · exact hd _ fun hf => by cases hf
  | given hheld hlive hclaim hcall => exact absurd hclaim hn
  | freed hheld hlive hclaim hcall => exact absurd hclaim hn

/-! ## One step -/

variable {config : Option AudioFormat} {s t : Listened} {o : List SinkCall} {p : Ptr}

theorem foldl_hear_quiet {d : ℕ} {opener : Option ℕ} (ho : ∀ c ∈ o, c.isQuiet = true) :
    o.foldl (hear d) opener = opener := by
  induction o with
  | nil => rfl
  | cons c o ih =>
    have hc : hear d opener c = opener := by
      cases c <;> first | rfl | exact absurd (ho _ List.mem_cons_self) (by simp [SinkCall.isQuiet])
    rw [List.foldl_cons, hc]
    exact ih fun x hx => ho x (List.mem_cons_of_mem _ hx)

theorem inOrder_quiet {ok : Option ℕ → SinkCall → Bool} {d : ℕ} {opener : Option ℕ}
    (hok : ∀ c, c.isQuiet = true → ok opener c = true) (ho : ∀ c ∈ o, c.isQuiet = true) :
    inOrder ok d opener o = true := by
  induction o with
  | nil => rfl
  | cons c o ih =>
    have hq := ho c List.mem_cons_self
    have hc : hear d opener c = opener := by
      cases c <;> first | rfl | exact absurd hq (by simp [SinkCall.isQuiet])
    rw [inOrder, hok c hq, hc, Bool.true_and]
    exact ih fun x hx => ho x (List.mem_cons_of_mem _ hx)

/-- A device is minted in silence, and not where the holder of the claim is. -/
theorem listened_mint {e : Option EntryPoints}
    (hs : (listened config).step s (.subsystemEntry e p) = some (t, o)) :
    o = [] ∧ t.1.bridge.audioDevice = s.1.bridge.audioDevice ∧ t.2.opener = s.2.opener ∧
      t.2.number = Function.update s.2.number p s.2.minted ∧
      (HolderLive s.1 → HolderLive t.1 ∧
        (s.1.bridge.audioDevice ≠ Ptr.null → s.1.bridge.audioDevice ≠ p)) := by
  obtain ⟨hstep, hsee⟩ := Machine.observe_step.1 hs
  simp only [machine, Option.ite_none_right_eq_some, Option.some.injEq, Prod.mk.injEq] at hstep
  obtain ⟨⟨-, hfresh⟩, ht, ho⟩ := hstep
  rw [hsee, ← ht, ← ho]
  obtain ⟨-, hclaim, -⟩ := subsystemEntry_spec s.1 e p
  exact ⟨rfl, hclaim, rfl, rfl, fun hI => hI.subsystemEntry e hfresh⟩

/-- A callback takes its turn, and the record follows what the sink is told. -/
theorem listened_callback {call : Callback}
    (hs : (listened config).step s (.callback p call) = some (t, o)) :
    Turn s.1 t.1 p call o ∧
      t.2 = { s.2 with opener := o.foldl (hear (s.2.number p)) s.2.opener } ∧
      (HolderLive s.1 → HolderLive t.1) := by
  obtain ⟨hstep, hsee⟩ := Machine.observe_step.1 hs
  simp only [machine, Option.ite_none_right_eq_some, Option.some.injEq] at hstep
  have hturn := callback_turn s.1 p call
  have hlive := fun hI : HolderLive s.1 => hI.callback p call
  rw [hstep.2] at hturn hlive
  exact ⟨hturn, hsee, hlive⟩

/-! ## One live producer -/

/-- The holder of the claim is alive, and it made the last `opened`. -/
structure Held (s : Listened) : Prop where
  live : HolderLive s.1
  opener : s.1.bridge.audioDevice ≠ Ptr.null →
    s.2.opener = some (s.2.number s.1.bridge.audioDevice)

theorem Held.step {a : Act} (hI : Held s) (hs : (listened config).step s a = some (t, o)) :
    Held t := by
  cases a with
  | subsystemEntry e fresh =>
    obtain ⟨-, hclaim, hopener, hnumber, hmint⟩ := listened_mint hs
    obtain ⟨hlive, hne⟩ := hmint hI.live
    refine ⟨hlive, ?_⟩
    intro hn
    rw [hclaim] at hn
    rw [hopener, hnumber, hclaim, Function.update_of_ne (hne hn)]
    exact hI.opener hn
  | callback p call =>
    obtain ⟨hturn, hsee, hlive⟩ := listened_callback hs
    refine ⟨hlive hI.live, ?_⟩
    intro hn
    rw [hsee]
    cases hturn with
    | kept hclaim hquiet _ =>
      rw [hclaim] at hn ⊢
      rw [foldl_hear_quiet hquiet]
      exact hI.opener hn
    | taken hother hsound hclaim hcall =>
      rw [hclaim]
      rcases hcall with ⟨f, -, rfl⟩ | ⟨data, b, -, rfl⟩ <;> rfl
    | played hheld hsound hclaim hcall =>
      rw [hclaim, ← hheld]
      rw [hclaim, ← hheld] at hn
      exact hI.opener hn
    | given hheld hsound hclaim hcall => exact absurd hclaim hn
    | freed hheld hsound hclaim hcall => exact absurd hclaim hn

theorem Held.wavesFromOpener {a : Act} (hI : Held s)
    (hs : (listened config).step s a = some (t, o)) :
    callsInOrder fromOpener ⟨s, a, o, t⟩ = true ∧ openedByOpenOrPlay ⟨s, a, o, t⟩ = true := by
  cases a with
  | subsystemEntry e fresh =>
    obtain ⟨rfl, -⟩ := listened_mint hs
    exact ⟨rfl, rfl⟩
  | callback p call =>
    obtain ⟨hturn, -, -⟩ := listened_callback hs
    unfold callsInOrder openedByOpenOrPlay
    cases hturn with
    | kept hclaim hquiet _ =>
      refine ⟨inOrder_quiet ?_ hquiet, ?_⟩
      · intro c hc
        cases c <;> first | rfl | cases hc
      · cases call <;> first | rfl | exact List.all_eq_true.2 fun c hc => by simp [hquiet c hc]
    | taken hother hsound hclaim hcall =>
      rcases hcall with ⟨f, rfl, rfl⟩ | ⟨data, b, rfl, rfl⟩
      · exact ⟨rfl, rfl⟩
      · exact ⟨by simp [inOrder, fromOpener, hear], rfl⟩
    | played hheld hsound hclaim hcall =>
      obtain ⟨data, rfl⟩ := hcall
      subst hheld
      have hopener := hI.opener (ne_null_of_audio hsound)
      exact ⟨by simp [inOrder, fromOpener, hopener], rfl⟩
    | given hheld hsound hclaim hcall => exact ⟨rfl, by cases call <;> rfl⟩
    | freed hheld hsound hclaim hcall =>
      subst hcall
      exact ⟨rfl, rfl⟩

theorem held_start : Held (listened config).init :=
  ⟨fun hn => absurd rfl hn, fun hn => absurd rfl hn⟩

variable {h : List (Move Listened Act SinkCall)}

theorem held_src (hr : (listened config).Run h s) {m : Move Listened Act SinkCall} (hm : m ∈ h) :
    Held m.src :=
  ((hr.invariant_mem held_start fun _ _ _ _ hI hs => hI.step hs) m hm).1

/-- **One live producer.**  In every run, over any number of devices and of
addresses used again, the claim is vacant or a live device's; a wave comes from
the device that made the last `opened`, with no `closed` since; and only `open`
and `play` make one. -/
theorem one_live_producer (hr : (listened config).Run h s) :
    (s.1.bridge.audioDevice = Ptr.null ∨ (s.1.devices s.1.bridge.audioDevice).isSome) ∧
    ∀ m ∈ h, callsInOrder fromOpener m = true ∧ openedByOpenOrPlay m = true := by
  have hheld : Held s := hr.invariant held_start fun _ _ _ _ hI hs => hI.step hs
  refine ⟨?_, ?_⟩
  · by_cases hn : s.1.bridge.audioDevice = Ptr.null
    · exact .inl hn
    · exact .inr (isSome_devices_of_audio (hheld.live hn))
  · intro m hm
    exact (held_src hr hm).wavesFromOpener (hr.step_of_mem m hm)

/-- Two devices: the second opens while the first plays, and is freed. -/
def twoDevices : List Act :=
  [.subsystemEntry (some ⟨9, some true⟩) 1, .callback 1 (.openDevice (some fortyFour)),
    .callback 1 (.play (some [0, 0, 0, 0])), .subsystemEntry (some ⟨9, some true⟩) 2,
    .callback 2 (.openDevice (some fortyFour)), .callback 1 (.play (some [1, 1, 1, 1])),
    .callback 2 (.play (some [2, 2, 2, 2]))]

/-- The displaced device stays silent, and every wave is the opener's. -/
theorem one_live_producer_twoDevices : ∃ h s, (listened (some .CD)).Run h s ∧
    Machine.trace h = [.opened .CD, .wave [0, 0, 0, 0], .opened .CD, .wave [2, 2, 2, 2]] ∧
    (s.1.devices s.1.bridge.audioDevice).isSome ∧
    ∀ m ∈ h, callsInOrder fromOpener m = true ∧ openedByOpenOrPlay m = true := by
  have hrun := (listened (some .CD)).run_get twoDevices (by decide)
  obtain ⟨hlive, hwaves⟩ := one_live_producer hrun
  exact ⟨_, _, hrun, by decide, hlive.resolve_left (by decide), hwaves⟩

/-! ## The sink in step with the claim -/

theorem claimed_iff {s : Listened} : claimed s = true ↔ s.1.bridge.audioDevice ≠ Ptr.null := by
  simp [claimed]

/-- A claim that is held is an open sink's. -/
theorem Held.isOpen (hI : Held s) (hn : s.1.bridge.audioDevice ≠ Ptr.null) :
    sinkOpen s = true := by
  rw [sinkOpen, hI.opener hn]
  rfl

/-- Whatever else it does, a step that does not free the holder keeps the sink
in step with the claim. -/
theorem Held.inStep {a : Act} (hI : Held s) (hsync : sinkOpen s = claimed s)
    (hs : (listened config).step s a = some (t, o))
    (hg : freesHolder ⟨s, a, o, t⟩ = false) :
    sinkInStep ⟨s, a, o, t⟩ = true := by
  cases a with
  | subsystemEntry e fresh =>
    obtain ⟨rfl, hclaim, hopener, -⟩ := listened_mint hs
    have hsame : claimed t = claimed s := by rw [claimed, claimed, hclaim]
    have hopen : sinkOpen t = sinkOpen s := by rw [sinkOpen, hopener, sinkOpen]
    simp [sinkInStep, callsInOrder, hopen, hsync, hsame]
  | callback p call =>
    obtain ⟨hturn, hsee, -⟩ := listened_callback hs
    have hopen : sinkOpen t = (o.foldl (hear (s.2.number p)) s.2.opener).isSome := by
      rw [sinkOpen, hsee]
    simp only [sinkInStep, callsInOrder, Bool.and_eq_true, beq_iff_eq]
    rw [hopen]
    cases hturn with
    | kept hclaim hquiet _ =>
      have hsame : claimed t = claimed s := by rw [claimed, claimed, hclaim]
      rw [foldl_hear_quiet hquiet]
      refine ⟨⟨hsync.trans hsame.symm, inOrder_quiet ?_ hquiet⟩, by simp [hsame]⟩
      intro c hc
      cases c <;> first | rfl | cases hc
    | taken hother hsound hclaim hcall =>
      have hheld : claimed t = true := claimed_iff.2 (hclaim ▸ ne_null_of_audio hsound)
      rcases hcall with ⟨f, rfl, rfl⟩ | ⟨data, b, rfl, rfl⟩ <;>
        simp [inOrder, toOpenSink, hear, hheld]
    | played hheld hsound hclaim hcall =>
      have hne := ne_null_of_audio hsound
      have hafter : claimed t = true := claimed_iff.2 (hclaim ▸ hne)
      have hbefore : s.2.opener.isSome = true := hI.isOpen (hheld ▸ hne)
      simp [inOrder, toOpenSink, hear, hafter, hbefore]
    | given hheld hsound hclaim hcall =>
      have hne := ne_null_of_audio hsound
      have hafter : claimed t = false := by simp [claimed, hclaim]
      have hbefore : s.2.opener.isSome = true := hI.isOpen (hheld ▸ hne)
      simp [inOrder, toOpenSink, hear, hafter, hbefore]
    | freed hheld hsound hclaim hcall =>
      have hne := ne_null_of_audio hsound
      subst hcall
      simp [freesHolder, hheld, hne] at hg

/-- Freeing the holder is the step the sink is not told of. -/
theorem Held.outOfStep {a : Act} (hI : Held s)
    (hs : (listened config).step s a = some (t, o))
    (hbad : freesHolder ⟨s, a, o, t⟩ = true) : sinkInStep ⟨s, a, o, t⟩ = false := by
  unfold freesHolder at hbad
  split at hbad
  · rename_i p hact
    obtain rfl : a = .callback p .free := hact
    simp only [Bool.and_eq_true, bne_iff_ne, beq_iff_eq] at hbad
    obtain ⟨hne, hheld⟩ := hbad
    obtain ⟨hturn, -, -⟩ := listened_callback hs
    have hbefore : claimed s = true := claimed_iff.2 (hheld ▸ hne)
    cases hturn with
    | kept hclaim hquiet hfree =>
      have hlive := hI.live (hheld ▸ hne)
      rw [hheld, hfree rfl hheld] at hlive
      cases hlive
    | taken hother hsound hclaim hcall => exact absurd hheld hother
    | played hheld hsound hclaim hcall =>
      obtain ⟨data, hcall⟩ := hcall
      cases hcall
    | given hheld hsound hclaim hcall => exact absurd rfl hcall
    | freed hheld hsound hclaim hcall =>
      have hafter : claimed t = false := by simp [claimed, hclaim]
      simp [sinkInStep, hbefore, hafter]
  · cases hbad

/-- **When the sink's view matches the claim.**  Every move of a run leaves the
sink open exactly while somebody holds the claim, delivers waves and `closed` to
an open sink only, and tells it `closed` once whenever the claim falls vacant,
if and only if no device is freed while it holds the claim. -/
theorem sink_in_step_iff (hr : (listened config).Run h s) :
    (∀ m ∈ h, sinkInStep m = true) ↔ ∀ m ∈ h, freesHolder m = false := by
  have hstart : Held (listened config).init ∧
      sinkOpen (listened config).init = claimed (listened config).init := ⟨held_start, rfl⟩
  refine hr.promise_iff (I := fun s => Held s ∧ sinkOpen s = claimed s) hstart ?_ ?_
  · intro m hm hs hI hmove
    refine ⟨hI.1.step hs, ?_⟩
    simp only [sinkInStep, Bool.and_eq_true, beq_iff_eq] at hmove
    exact hmove.1.1
  · intro m hm hs hI
    constructor
    · intro hstep
      by_contra hbad
      have hout := hI.1.outOfStep hs (by simpa using hbad)
      rw [hstep] at hout
      cases hout
    · intro hnone
      exact hI.1.inStep hI.2 hs hnone

/-- Close before free, and the sink is in step. -/
theorem sink_in_step_closed : ∃ h s, (listened (some .CD)).Run h s ∧
    Machine.trace h = [.opened .CD, .wave [0, 0, 0, 0], .closed] ∧
    ∀ m ∈ h, sinkInStep m = true := by
  have hrun := (listened (some .CD)).run_get
    (openAndPlay fortyFour ++ [.callback 1 .close, .callback 1 .free]) (by decide)
  exact ⟨_, _, hrun, by decide, (sink_in_step_iff hrun).2 (by decide)⟩

/-- **A device freed while it plays leaves the sink open.**  This is how rdpsnd
tears an open device down: `Free` without a `Close`. -/
theorem freed_holder_stays_open : ∃ h s, (listened (some .CD)).Run h s ∧
    ¬ ∀ m ∈ h, sinkInStep m = true := by
  have hrun := (listened (some .CD)).run_get
    (openAndPlay fortyFour ++ [.callback 1 .free]) (by decide)
  exact ⟨_, _, hrun, by decide⟩

end Audio
end FreerdpPrebuilt
