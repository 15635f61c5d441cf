import FreerdpPrebuilt.Camera.Metering
import Mathlib.Data.List.Chain
import Mathlib.Logic.Function.Basic

/-!
# The announcement follows the enumeration channel

`enum_ready` and `announced` are facts about one enumeration channel, stored
once for all of them.  An `Announcer` is what they amount to when the channel
takes every write: `announces_of_step` says that the camera is one.  Beside it
runs a diary of each channel: when SelectVersion was answered there, and which
notices about the device were written.

`announcement_tracks_channel` says exactly when flags and diaries agree: no
enumeration channel opens while an announcement is out, no `plug` finds
`enum_ready` left over from another channel, and no SelectVersion is answered on
another channel than the stored one while an announcement is due.  A channel
that opens under an announcement inherits it (`announced_on_nothing`).
-/

namespace FreerdpPrebuilt
namespace Camera

open Labelled

/-! ## Notices -/

/-- What is noted of an enumeration channel. -/
inductive Note
  /-- SelectVersion was answered. -/
  | selected
  | added
  | removed
  deriving DecidableEq

/-- The notice a message gives about the device. -/
def Message.notice : Message → Option Note
  | .deviceAdded _ _ => some .added
  | .deviceRemoved _ => some .removed
  | _ => none

/-- The notice a write gives, and the channel it is given on. -/
def Obs.notice : Obs → Option (Ptr × Note)
  | .write w => w.message.notice.map fun note => (w.channel, note)
  | _ => none

/-- The notices of a step. -/
def notices (o : List Obs) : List (Ptr × Note) := o.filterMap Obs.notice

/-- The notices among the notes. -/
def shown (l : List Note) : List Note := l.filter (· ≠ .selected)

/-- A DeviceAdded was written, and no DeviceRemoved after it. -/
def OnShow (l : List Note) : Prop := (shown l).getLast? = some .added

/-- **Notes in order**: DeviceAdded and DeviceRemoved alternate, starting with
DeviceAdded, and SelectVersion was answered before the first. -/
structure InOrder (l : List Note) : Prop where
  first : ∀ note ∈ (shown l).head?, note = .added
  alternate : (shown l).IsChain (· ≠ ·)
  selected : ∀ before after, l = before ++ .added :: after → .selected ∈ before

theorem shown_selected (l : List Note) : shown (l ++ [.selected]) = shown l := by
  simp [shown]

theorem shown_snoc (l : List Note) {note : Note} (h : note ≠ .selected) :
    shown (l ++ [note]) = shown l ++ [note] := by
  simp [shown, h]

@[simp] theorem onShow_selected (l : List Note) : OnShow (l ++ [.selected]) ↔ OnShow l := by
  rw [OnShow, shown_selected, OnShow]

@[simp] theorem onShow_added (l : List Note) : OnShow (l ++ [.added]) := by
  rw [OnShow, shown_snoc l (by decide)]
  simp

@[simp] theorem not_onShow_removed (l : List Note) : ¬ OnShow (l ++ [.removed]) := by
  rw [OnShow, shown_snoc l (by decide)]
  simp

@[simp] theorem not_onShow_nil : ¬ OnShow [] := by
  simp [OnShow, shown]

theorem inOrder_nil : InOrder [] where
  first := fun note h => absurd h (by simp [shown])
  alternate := List.isChain_nil
  selected := fun before after h => absurd h (by simp)

/-- Every DeviceAdded of a list that goes on comes after a SelectVersion, if the
one it goes on with does. -/
theorem selected_snoc {l : List Note} {note : Note}
    (h : ∀ before after, l = before ++ .added :: after → .selected ∈ before)
    (hnote : note = .added → .selected ∈ l) :
    ∀ before after, l ++ [note] = before ++ .added :: after → .selected ∈ before := by
  intro before after heq
  rcases Machine.split_snoc heq with ⟨-, rfl, hlast⟩ | ⟨after', -, heq⟩
  · exact hnote hlast.symm
  · exact h before after' heq

theorem InOrder.select {l : List Note} (h : InOrder l) : InOrder (l ++ [.selected]) where
  first := by rw [shown_selected]; exact h.first
  alternate := by rw [shown_selected]; exact h.alternate
  selected := selected_snoc h.selected fun heq => absurd heq (by decide)

/-- A device on show was announced after a SelectVersion. -/
theorem InOrder.selected_mem {l : List Note} (h : InOrder l) (hon : OnShow l) :
    .selected ∈ l := by
  have hmem : .added ∈ l := (List.mem_filter.1 (List.mem_of_getLast? hon)).1
  obtain ⟨before, after, rfl⟩ := List.append_of_mem hmem
  exact List.mem_append_left _ (h.selected before after rfl)

/-- Notes in order go on with a notice that differs from the last one. -/
theorem InOrder.snoc {l : List Note} {note : Note} (h : InOrder l) (hnote : note ≠ .selected)
    (hstart : shown l = [] → note = .added) (hlast : ∀ last ∈ (shown l).getLast?, last ≠ note)
    (hsel : note = .added → .selected ∈ l) : InOrder (l ++ [note]) := by
  have hshown := shown_snoc l hnote
  refine ⟨?_, ?_, selected_snoc h.selected hsel⟩
  · intro x hx
    rw [hshown] at hx
    cases hl : shown l with
    | nil =>
      rw [hl] at hx
      obtain rfl : note = x := by simpa using hx
      exact hstart hl
    | cons head rest =>
      refine h.first x ?_
      rw [hl] at hx ⊢
      exact hx
  · rw [hshown]
    refine List.isChain_append.2 ⟨h.alternate, List.isChain_singleton _, fun x hx y hy => ?_⟩
    obtain rfl : note = y := by simpa using hy
    exact hlast x hx

theorem InOrder.add {l : List Note} (h : InOrder l) (hsel : .selected ∈ l) (hoff : ¬ OnShow l) :
    InOrder (l ++ [.added]) := by
  refine h.snoc (by decide) (fun _ => rfl) (fun last hlast => ?_) fun _ => hsel
  rintro rfl
  exact hoff hlast

theorem InOrder.remove {l : List Note} (h : InOrder l) (hon : OnShow l) :
    InOrder (l ++ [.removed]) := by
  refine h.snoc (by decide) (fun hnil => ?_) (fun last hlast => ?_) fun heq =>
    absurd heq (by decide)
  · rw [OnShow, hnil] at hon
    exact absurd hon (by simp)
  · obtain rfl : last = .added := Option.mem_unique hlast hon
    decide

/-! ## The announcer -/

/-- What the announcement of a device depends on. -/
structure Announcer where
  plugged : Bool
  /-- `enum_ready`. -/
  ready : Bool
  announced : Bool
  enumerator : Option Ptr

/-- The announcer in a camera. -/
def CamState.announcer (st : CamState) : Announcer :=
  ⟨st.plugged, st.enumReady, st.announced, st.enumerator⟩

/-- Announce on a channel, if that is due. -/
def Announcer.add (f : Announcer) (channel : Ptr) : Announcer × List (Ptr × Note) :=
  if f.plugged && !f.announced then ({ f with announced := true }, [(channel, .added)])
  else (f, [])

/-- What an action does to an announcer whose channels take everything. -/
def Announcer.next (f : Announcer) : Act → Announcer × List (Ptr × Note)
  | .plug _ _ =>
    match f.ready, f.enumerator with
    | true, some channel => { f with plugged := true }.add channel
    | _, _ => ({ f with plugged := true }, [])
  | .unplug _ =>
    ({ f with plugged := false, announced := false },
      if f.announced then f.enumerator.toList.map fun channel => (channel, .removed) else [])
  | .opened true channel _ => ({ f with enumerator := some channel }, [])
  | .closed true channel =>
    if f.enumerator = some channel then
      ({ f with enumerator := none, ready := false, announced := false }, [])
    else (f, [])
  | .terminated => ({ f with enumerator := none, ready := false, announced := false }, [])
  | .received true channel bytes _ =>
    if selectsVersion bytes then { f with ready := true }.add channel else (f, [])
  | _ => (f, [])

/-- Whether a write was taken. -/
def Obs.taken : Obs → Bool
  | .write w => w.accepted
  | _ => true

/-- The channels took everything that was written. -/
def AllTaken (o : List Obs) : Prop := ∀ obs ∈ o, obs.taken = true

instance (o : List Obs) : Decidable (AllTaken o) :=
  inferInstanceAs (Decidable (∀ obs ∈ o, obs.taken = true))

/-- **A step of the camera is a step of its announcer**, and what it writes about
the device are the announcer's notices. -/
structure Announces (s : System) (a : Act) (t : System) (o : List Obs) : Prop where
  state : t.cam.announcer = (s.cam.announcer.next a).1
  notices : notices o = (s.cam.announcer.next a).2
  format : t.cam.format.isSome = t.cam.plugged

/-- Writes that give no notice. -/
theorem notices_quiet {writes : List Write} (h : ∀ w ∈ writes, w.message.notice = none) :
    notices (writes.map .write) = [] := by
  refine List.filterMap_eq_nil_iff.2 fun o ho => ?_
  obtain ⟨w, hw, rfl⟩ := List.mem_map.1 ho
  rw [Obs.notice, h w hw]
  rfl

theorem Replies.quiet {writes : List Write} (h : Replies writes) :
    ∀ w ∈ writes, w.message.notice = none := by
  intro w hw
  have hreply := h w hw
  cases hm : w.message with
  | deviceAdded version deviceName =>
    rw [hm] at hreply
    exact absurd hreply (by simp [Message.isReply])
  | deviceRemoved version =>
    rw [hm] at hreply
    exact absurd hreply (by simp [Message.isReply])
  | _ => rfl

theorem shipping_quiet (version : UInt8) (channel : Ptr) (out : List (Sample × Bool)) :
    ∀ w ∈ shipping version channel out, w.message.notice = none := by
  intro w hw
  obtain ⟨x, -, rfl⟩ := List.mem_map.1 hw
  rfl

/-- An operation that changes nothing but the stream. -/
theorem announces_quiet {s : System} {a : Act} {t : System} {o : List Obs}
    {q : Metered.Queue Sample} {channel : Option Ptr}
    (hnext : s.cam.announcer.next a = (s.cam.announcer, []))
    (hstate : t.cam = { s.cam.withQueue q with device := channel }) (hnotices : notices o = [])
    (hformat : s.cam.format.isSome = s.cam.plugged) : Announces s a t o := by
  refine ⟨?_, ?_, ?_⟩
  · rw [hnext, hstate]
    rfl
  · rw [hnext]
    exact hnotices
  · rw [hstate]
    exact hformat

/-- `announce` on a camera that is plugged. -/
theorem announces_announce (deviceName : String) (st : CamState) (answers : ℕ → Bool)
    (hplugged : st.plugged = true) (hformat : st.format.isSome = true)
    (htaken : ∀ w ∈ (announce deviceName st answers).writes, w.accepted = true) :
    let next := match st.enumReady, st.enumerator with
      | true, some channel => st.announcer.add channel
      | _, _ => (st.announcer, [])
    (announce deviceName st answers).state.announcer = next.1 ∧
      notices ((announce deviceName st answers).writes.map .write) = next.2 ∧
      (announce deviceName st answers).state.format = st.format := by
  rcases announce_cases deviceName st answers with ⟨hidle, heq⟩ | ⟨channel, hchannel, hdue, heq⟩
  · rw [heq]
    split
    · rename_i channel hready hchannel
      have hout : st.announced = true := by
        by_contra hnot
        simp [hplugged, hformat, hready, hnot, hchannel] at hidle
      simp [Outcome.nothing, Announcer.add, CamState.announcer, hout, notices]
    · exact ⟨rfl, rfl, rfl⟩
  · rw [heq] at htaken ⊢
    have hyes : answers 0 = true := htaken _ (List.mem_singleton_self _)
    simp only [Bool.and_eq_true, Bool.not_eq_true'] at hdue
    obtain ⟨⟨⟨-, hready⟩, hnot⟩, -⟩ := hdue
    simp [hready, hchannel, Announcer.add, CamState.announcer, hplugged, hnot, hyes, notices,
      Obs.notice, Message.notice]

/-- A message on an enumeration channel. -/
theorem announces_enumerated {deviceName : String} {st : CamState} {channel : Ptr}
    {answers : ℕ → Bool} {selects : Bool} {outcome : Outcome}
    (h : Enumerated deviceName st channel answers selects outcome)
    (hformat : st.format.isSome = st.plugged) (htaken : ∀ w ∈ outcome.writes, w.accepted = true) :
    let next := if selects then { st.announcer with ready := true }.add channel
      else (st.announcer, [])
    outcome.state.announcer = next.1 ∧ notices (outcome.writes.map .write) = next.2 ∧
      outcome.state.format.isSome = outcome.state.plugged := by
  cases h with
  | other hreplies => exact ⟨rfl, notices_quiet hreplies.quiet, hformat⟩
  | due version hplugged hnot _ =>
    have hyes : answers 0 = true := htaken _ (List.mem_singleton_self _)
    refine ⟨?_, ?_, hformat⟩ <;>
      simp [hyes, Announcer.add, CamState.announcer, hplugged, hnot, notices, Obs.notice,
        Message.notice]
  | known version hknown =>
    have hidle : (st.plugged && !st.announced) = false := by
      rw [hformat] at hknown
      cases hplugged : st.plugged with
      | false => rfl
      | true => simp [hknown hplugged hplugged]
    refine ⟨?_, ?_, hformat⟩ <;>
      simp [Announcer.add, CamState.announcer, hidle, notices]

/-- A message on a device channel leaves the announcement alone. -/
theorem announces_handled {s : System} {channel : Ptr} {bytes : Bytes} {answers : ℕ → Bool}
    {asked : Request} {outcome : Outcome} (h : Handled s.cam channel answers asked outcome)
    (hformat : s.cam.format.isSome = s.cam.plugged) :
    Announces s (.received false channel bytes answers) (s.apply outcome).1
      (s.apply outcome).2 := by
  cases h with
  | answered _ hreplies =>
    exact announces_quiet (q := s.cam.queue) rfl rfl (notices_quiet hreplies.quiet) hformat
  | stopped hreplies =>
    exact announces_quiet (q := .idle) rfl rfl (notices_quiet hreplies.quiet) hformat
  | started hreplies =>
    exact announces_quiet (q := .fresh) rfl rfl (notices_quiet hreplies.quiet) hformat
  | @paid q _ _ _ _ =>
    exact announces_quiet (q := q) rfl rfl (notices_quiet (shipping_quiet _ _ _)) hformat

/-- **Every step of the camera is a step of its announcer**, as long as the
channels take everything. -/
theorem announces_of_step {deviceName : String} {s t : System} {a : Act} {o : List Obs}
    (h : step deviceName s a = some (t, o)) (htaken : AllTaken o)
    (hformat : s.cam.format.isSome = s.cam.plugged) : Announces s a t o := by
  cases a with
  | plug format answers =>
    obtain ⟨rfl, rfl⟩ := Prod.mk.inj (Option.some.inj h)
    obtain ⟨hstate, hnotices, hfmt⟩ := announces_announce deviceName
      { s.cam with plugged := true, format := some (s.cam.format.getD format) } answers rfl rfl
      fun w hw => htaken (.write w) (List.mem_map_of_mem hw)
    refine ⟨hstate, hnotices, ?_⟩
    show (plug deviceName s.cam format answers).state.format.isSome =
      (plug deviceName s.cam format answers).state.plugged
    rw [plug, hfmt, (announce_frame _ _ _).1]
    rfl
  | unplug answers =>
    obtain ⟨rfl, rfl⟩ := Prod.mk.inj (Option.some.inj h)
    refine ⟨?_, ?_, ?_⟩ <;> rw [unplug_eq]
    · rfl
    · show notices ((removals s.cam answers).map .write) = _
      cases hout : s.cam.announced with
      | false => simp [removals, hout, Announcer.next, CamState.announcer, notices]
      | true =>
        cases hchannel : s.cam.enumerator <;>
          simp [removals, hout, hchannel, Announcer.next, CamState.announcer, notices, Obs.notice,
            Message.notice]
    · rfl
  | sample data keyframe answers =>
    obtain ⟨rfl, rfl⟩ := Prod.mk.inj (Option.some.inj h)
    by_cases hrun : s.cam.streaming = true
    · obtain ⟨q, out, channel, hstate, -, -, hwrites, -⟩ :=
        sample_spec s.cam ⟨data, keyframe, s.calls⟩ answers hrun
      refine announces_quiet (q := q) rfl hstate ?_ hformat
      simp only [System.apply, hwrites, notices, List.filterMap_append]
      have hquiet := notices_quiet (shipping_quiet s.cam.version channel out)
      rw [notices] at hquiet
      rw [hquiet]
      rfl
    · rw [sample_of_not_streaming hrun]
      exact announces_quiet (q := s.cam.queue) rfl rfl rfl hformat
  | opened enumerator channel answers =>
    obtain ⟨-, rfl, rfl⟩ := step_opened h
    cases enumerator with
    | true => exact ⟨rfl, rfl, hformat⟩
    | false => exact announces_quiet (q := s.cam.queue) rfl rfl rfl hformat
  | closed enumerator channel =>
    obtain ⟨-, rfl, rfl⟩ := step_closed h
    cases enumerator with
    | true =>
      by_cases hchannel : s.cam.enumerator = some channel
      · refine ⟨?_, ?_, ?_⟩ <;>
          simp [System.apply, onClose, CamState.announcer, Announcer.next, hchannel,
            Outcome.nothing, notices, hformat]
      · refine ⟨?_, ?_, ?_⟩ <;>
          simp [System.apply, onClose, CamState.announcer, Announcer.next, hchannel,
            Outcome.nothing, notices, hformat]
    | false =>
      simp only [onClose, Bool.false_eq_true, if_false]
      split
      · exact announces_quiet (q := .idle) rfl rfl rfl hformat
      · exact announces_quiet (q := s.cam.queue) rfl rfl rfl hformat
  | terminated =>
    obtain ⟨rfl, rfl⟩ := Prod.mk.inj (Option.some.inj h)
    exact ⟨rfl, rfl, hformat⟩
  | received enumerator channel bytes answers =>
    obtain ⟨-, rfl, rfl⟩ := step_received h
    cases enumerator with
    | true =>
      rcases bytes with _ | ⟨serverVersion, _ | ⟨id, body⟩⟩
      · exact announces_quiet (q := s.cam.queue) rfl rfl rfl hformat
      · exact announces_quiet (q := s.cam.queue) rfl rfl rfl hformat
      · obtain ⟨hstate, hnotices, hfmt⟩ := announces_enumerated
          (handleEnumerator_spec deviceName s.cam channel serverVersion id answers) hformat
          fun w hw => htaken (.write w) (List.mem_map_of_mem hw)
        exact ⟨hstate, hnotices, hfmt⟩
    | false =>
      rcases bytes with _ | ⟨serverVersion, _ | ⟨id, body⟩⟩
      · exact announces_quiet (q := s.cam.queue) rfl rfl rfl hformat
      · exact announces_quiet (q := s.cam.queue) rfl rfl rfl hformat
      · exact announces_handled (handleDevice_spec s.cam channel id body answers) hformat
  | deliver position =>
    obtain ⟨event, -, rfl, rfl⟩ := step_deliver h
    exact announces_quiet (q := s.cam.queue) rfl rfl rfl hformat

/-! ## The diary -/

/-- The notes of each enumeration channel since it opened. -/
abbrev Diary := Ptr → List Note

/-- What is noted of a channel before the action is carried out. -/
def Diary.hear (d : Diary) : Act → Diary
  | .opened true channel _ => Function.update d channel []
  | .received true channel bytes _ =>
    if selectsVersion bytes then Function.update d channel (d channel ++ [.selected]) else d
  | _ => d

/-- Note a list of notices. -/
def Diary.write (d : Diary) (written : List (Ptr × Note)) : Diary :=
  written.foldl (fun d n => Function.update d n.1 (d n.1 ++ [n.2])) d

/-- Note a move. -/
def Diary.note (d : Diary) (m : Move System Act Obs) : Diary :=
  (d.hear m.act).write (notices m.out)

abbrev DiaryWatched := System × Diary

/-- The camera, with the diary of its enumeration channels as history variable. -/
def diaryWatched (deviceName : String) : Machine DiaryWatched Act Obs :=
  (machine deviceName).observe (fun _ => []) Diary.note

/-- An announcer and its diary. -/
abbrev Account := Announcer × Diary

/-- The account of a camera. -/
def account (s : DiaryWatched) : Account := (s.1.cam.announcer, s.2)

/-- What an action does to an account. -/
def Account.next (p : Account) (a : Act) : Account :=
  ((p.1.next a).1, (p.2.hear a).write (p.1.next a).2)

/-- **The announcement tracks the stored enumeration channel**: it is out only if
the device is on show there; it is out if the camera is plugged and SelectVersion
was answered there; and every channel's notes are in order. -/
structure Tracks (p : Account) : Prop where
  announced : p.1.announced = true → ∃ channel ∈ p.1.enumerator, OnShow (p.2 channel)
  plugged : p.1.plugged = true → ∀ channel ∈ p.1.enumerator, .selected ∈ p.2 channel →
    p.1.announced = true
  inOrder : ∀ channel, InOrder (p.2 channel)

/-- The action comes when the flags are about the right channel: none opens while
an announcement is out, no `plug` finds `enum_ready` left over from another, and
SelectVersion is not answered on another while an announcement is due. -/
def Account.inTurn (p : Account) : Act → Bool
  | .opened true _ _ => !p.1.announced
  | .plug _ _ => !p.1.ready || p.1.enumerator.all fun channel => .selected ∈ p.2 channel
  | .received true channel bytes _ =>
    !selectsVersion bytes || p.1.enumerator == some channel || !p.1.plugged || p.1.announced
  | _ => true

/-- What holds of an account in any run: where SelectVersion was answered,
`enum_ready` is set, and where the device is on show, `announced` is. -/
structure Known (p : Account) : Prop where
  ready : ∀ channel ∈ p.1.enumerator, .selected ∈ p.2 channel → p.1.ready = true
  onShow : ∀ channel ∈ p.1.enumerator, OnShow (p.2 channel) → p.1.announced = true

/-! ## One step of an account -/

variable {f : Announcer} {d : Diary} {p : Account} {a : Act} {channel : Ptr}

/-- An announcement that is due goes out, and no other does. -/
theorem add_cases (f : Announcer) (channel : Ptr) :
    (f.plugged = true ∧ f.announced = false ∧
        f.add channel = ({ f with announced := true }, [(channel, .added)])) ∨
      ((f.plugged = true → f.announced = true) ∧ f.add channel = (f, [])) := by
  unfold Announcer.add
  cases hp : f.plugged <;> cases ho : f.announced <;> simp

@[simp] theorem write_nil (d : Diary) : d.write [] = d := rfl

theorem write_one (d : Diary) (channel : Ptr) (note : Note) :
    d.write [(channel, note)] = Function.update d channel (d channel ++ [note]) := rfl

/-- Notes stay in order when those of one channel are replaced by some in order. -/
theorem inOrder_update {l : List Note} (h : ∀ other, InOrder (d other)) (hl : InOrder l)
    (channel other : Ptr) : InOrder (Function.update d channel l other) := by
  by_cases hother : other = channel
  · subst hother
    rw [Function.update_self]
    exact hl
  · rw [Function.update_of_ne hother]
    exact h other

/-- To hear that SelectVersion was answered changes nothing that is on show. -/
theorem onShow_hear (d : Diary) (channel other : Ptr) :
    OnShow (Function.update d channel (d channel ++ [.selected]) other) ↔ OnShow (d other) := by
  by_cases hother : other = channel
  · subst hother
    rw [Function.update_self, onShow_selected]
  · rw [Function.update_of_ne hother]

/-- An announcer that has SelectVersion, and announces if that is due, is known. -/
theorem known_add (hready : f.ready = true)
    (hshow : ∀ other ∈ f.enumerator, OnShow (d other) → f.announced = true) (channel : Ptr) :
    Known ((f.add channel).1, d.write (f.add channel).2) := by
  rcases add_cases f channel with ⟨-, -, hadd⟩ | ⟨-, hadd⟩ <;> rw [hadd]
  · exact ⟨fun _ _ _ => hready, fun _ _ _ => rfl⟩
  · exact ⟨fun _ _ _ => hready, hshow⟩

/-- Where the device goes off show, SelectVersion was answered before. -/
theorem known_unplug (hK : Known p) (answers : ℕ → Bool) : Known (p.next (.unplug answers)) := by
  obtain ⟨f, d⟩ := p
  cases hout : f.announced with
  | false =>
    have hnext : Account.next (f, d) (.unplug answers) =
        ({ f with plugged := false, announced := false }, d) := by
      simp [Account.next, Announcer.next, Diary.hear, hout]
    rw [hnext]
    refine ⟨hK.ready, fun channel hmem hon => ?_⟩
    exact absurd (hout.symm.trans (hK.onShow channel hmem hon)) (by simp)
  | true =>
    refine ⟨fun channel hmem hsel => ?_, fun channel hmem hon => ?_⟩
    · have hmem : f.enumerator = some channel := hmem
      simp [Account.next, Announcer.next, Diary.hear, hout, hmem, write_one] at hsel
      exact hK.ready channel hmem hsel
    · have hmem : f.enumerator = some channel := hmem
      simp [Account.next, Announcer.next, Diary.hear, hout, hmem, write_one] at hon

theorem Known.next (hK : Known p) (a : Act) : Known (p.next a) := by
  cases a with
  | plug format answers =>
    simp only [Account.next, Announcer.next]
    split
    · rename_i hready _
      exact known_add (f := { p.1 with plugged := true }) hready hK.onShow _
    · exact ⟨hK.ready, hK.onShow⟩
  | unplug answers => exact known_unplug hK answers
  | opened enumerator fresh answers =>
    cases enumerator with
    | false => exact hK
    | true =>
      refine ⟨fun channel hmem hsel => ?_, fun channel hmem hon => ?_⟩
      · obtain rfl : fresh = channel := Option.some.inj hmem
        simp [Account.next, Announcer.next, Diary.hear] at hsel
      · obtain rfl : fresh = channel := Option.some.inj hmem
        simp [Account.next, Announcer.next, Diary.hear] at hon
  | closed enumerator gone =>
    cases enumerator with
    | false => exact hK
    | true =>
      simp only [Account.next, Announcer.next]
      split
      · exact ⟨fun _ hmem => absurd hmem (Option.not_mem_none _),
          fun _ hmem => absurd hmem (Option.not_mem_none _)⟩
      · exact hK
  | terminated => exact ⟨fun _ hmem => absurd hmem (Option.not_mem_none _),
      fun _ hmem => absurd hmem (Option.not_mem_none _)⟩
  | received enumerator channel bytes answers =>
    cases enumerator with
    | false => exact hK
    | true =>
      simp only [Account.next, Announcer.next, Diary.hear]
      split
      · refine known_add rfl (fun other hmem hon => ?_) channel
        exact hK.onShow other hmem ((onShow_hear _ _ _).1 hon)
      · exact hK
  | _ => exact hK

/-- An announcer that announces, if that is due, on the stored channel, where
SelectVersion was answered, keeps track. -/
theorem tracks_add (hmem : channel ∈ f.enumerator) (hsel : .selected ∈ d channel)
    (horder : ∀ other, InOrder (d other)) (hshow : OnShow (d channel) → f.announced = true)
    (hout : f.announced = true → ∃ other ∈ f.enumerator, OnShow (d other)) :
    Tracks ((f.add channel).1, d.write (f.add channel).2) := by
  rcases add_cases f channel with ⟨-, hnot, hadd⟩ | ⟨hplugged, hadd⟩ <;> rw [hadd]
  · have hoff : ¬ OnShow (d channel) := fun hon => absurd (hnot.symm.trans (hshow hon)) (by simp)
    refine ⟨fun _ => ⟨channel, hmem, ?_⟩, fun _ _ _ _ => rfl, fun other => ?_⟩
    · simp only [write_one, Function.update_self]
      exact onShow_added _
    · exact inOrder_update horder ((horder channel).add hsel hoff) channel other
  · exact ⟨hout, fun hp _ _ _ => hplugged hp, horder⟩

theorem Tracks.unplug (hT : Tracks p) (answers : ℕ → Bool) :
    Tracks (p.next (.unplug answers)) := by
  obtain ⟨f, d⟩ := p
  refine ⟨fun hout => absurd hout Bool.false_ne_true,
    fun hplugged => absurd hplugged Bool.false_ne_true, fun other => ?_⟩
  cases hout : f.announced with
  | false =>
    simp only [Account.next, Announcer.next, Diary.hear, hout, Bool.false_eq_true, if_false,
      write_nil]
    exact hT.inOrder other
  | true =>
    obtain ⟨channel, hmem, hon⟩ := hT.announced hout
    have hmem : f.enumerator = some channel := hmem
    simp only [Account.next, Announcer.next, Diary.hear, hout, hmem, if_true, Option.toList_some,
      List.map_cons, List.map_nil, write_one]
    exact inOrder_update hT.inOrder ((hT.inOrder channel).remove hon) channel other

theorem Tracks.next (hT : Tracks p) (hK : Known p) (hturn : p.inTurn a = true) :
    Tracks (p.next a) := by
  cases a with
  | plug format answers =>
    simp only [Account.next, Announcer.next]
    split
    · rename_i channel hready hchannel
      have hsel : .selected ∈ p.2 channel := by simpa [Account.inTurn, hready, hchannel] using hturn
      exact tracks_add hchannel hsel hT.inOrder (hK.onShow channel hchannel) hT.announced
    · rename_i hnot
      refine ⟨hT.announced, fun _ channel hmem hsel => ?_, hT.inOrder⟩
      exact absurd hmem (hnot channel (hK.ready channel hmem hsel))
  | unplug answers => exact hT.unplug answers
  | opened enumerator fresh answers =>
    cases enumerator with
    | false => exact hT
    | true =>
      have hnot : p.1.announced = false := by simpa [Account.inTurn] using hturn
      refine ⟨fun hout => absurd (hnot.symm.trans hout) (by simp), fun _ channel hmem hsel => ?_,
        fun other => ?_⟩
      · obtain rfl : fresh = channel := Option.some.inj hmem
        simp [Account.next, Announcer.next, Diary.hear] at hsel
      · exact inOrder_update hT.inOrder inOrder_nil fresh other
  | closed enumerator gone =>
    cases enumerator with
    | false => exact hT
    | true =>
      simp only [Account.next, Announcer.next]
      split
      · exact ⟨fun hout => absurd hout Bool.false_ne_true,
          fun _ _ hmem => absurd hmem (Option.not_mem_none _), hT.inOrder⟩
      · exact hT
  | terminated => exact ⟨fun hout => absurd hout Bool.false_ne_true,
      fun _ _ hmem => absurd hmem (Option.not_mem_none _), hT.inOrder⟩
  | received enumerator channel bytes answers =>
    cases enumerator with
    | false => exact hT
    | true =>
      simp only [Account.next, Announcer.next, Diary.hear]
      split
      · rename_i hselects
        have horder := inOrder_update hT.inOrder (hT.inOrder channel).select channel
        have hout : p.1.announced = true → ∃ other ∈ p.1.enumerator,
            OnShow (Function.update p.2 channel (p.2 channel ++ [.selected]) other) := by
          intro hout
          obtain ⟨other, hmem, hon⟩ := hT.announced hout
          exact ⟨other, hmem, (onShow_hear _ _ _).2 hon⟩
        by_cases hstored : p.1.enumerator = some channel
        · refine tracks_add hstored ?_ horder (fun hon => ?_) hout
          · rw [Function.update_self]
            exact List.mem_append_right _ (List.mem_singleton_self _)
          · exact hK.onShow channel hstored ((onShow_hear _ _ _).1 hon)
        · -- on another channel: nothing is due, so nothing goes out
          rcases add_cases { p.1 with ready := true } channel with ⟨hp, hnot, -⟩ | ⟨hnone, hadd⟩
          · have hp : p.1.plugged = true := hp
            have hnot : p.1.announced = false := hnot
            simp [Account.inTurn, hselects, hstored, hp, hnot] at hturn
          · rw [hadd]
            exact ⟨hout, fun hp _ _ _ => hnone hp, horder⟩
      · exact hT
  | _ => exact hT

/-- An account that is still kept after an action had it in turn. -/
theorem inTurn_of_tracks (hT : Tracks p) (hK : Known p) (hnext : Tracks (p.next a)) :
    p.inTurn a = true := by
  cases a with
  | plug format answers =>
    by_contra hturn
    simp only [Account.inTurn, Bool.or_eq_true, Bool.not_eq_true', not_or, Bool.not_eq_false,
      Option.all_eq_true, decide_eq_true_eq, not_forall] at hturn
    obtain ⟨hready, channel, hchannel, hsel⟩ := hturn
    have hnot : p.1.announced = false := by
      by_contra hout
      obtain ⟨other, hother, hon⟩ := hT.announced (by simpa using hout)
      obtain rfl : channel = other := Option.mem_unique hchannel hother
      exact hsel ((hT.inOrder channel).selected_mem hon)
    -- the announcement goes out on a channel without SelectVersion
    have horder := hnext.inOrder channel
    have hchannel : p.1.enumerator = some channel := hchannel
    simp only [Account.next, Announcer.next, hready, hchannel, Announcer.add, hnot, Bool.not_false,
      Bool.and_self, if_true, Diary.hear, write_one, Function.update_self] at horder
    exact hsel (horder.selected (p.2 channel) [] rfl)
  | opened enumerator fresh answers =>
    cases enumerator with
    | false => rfl
    | true =>
      cases hout : p.1.announced with
      | false => simp [Account.inTurn, hout]
      | true =>
        obtain ⟨channel, hmem, hon⟩ := hnext.announced hout
        obtain rfl : fresh = channel := Option.some.inj hmem
        simp [Account.next, Announcer.next, Diary.hear] at hon
  | received enumerator channel bytes answers =>
    cases enumerator with
    | false => rfl
    | true =>
      by_contra hturn
      simp only [Account.inTurn, Bool.or_eq_true, Bool.not_eq_true', not_or, Bool.not_eq_false,
        beq_iff_eq, Bool.not_eq_true] at hturn
      obtain ⟨⟨⟨hselects, hstored⟩, hplugged⟩, hnot⟩ := hturn
      -- the announcement goes out on a channel that is not the stored one
      obtain ⟨other, hmem, hon⟩ := hnext.announced (by
        simp [Account.next, Announcer.next, hselects, Announcer.add, hplugged, hnot])
      simp only [Account.next, Announcer.next, hselects, if_true, Announcer.add, hplugged, hnot,
        Bool.not_false, Bool.and_self, Diary.hear, write_one] at hmem hon
      have hne : other ≠ channel := by
        rintro rfl
        exact hstored hmem
      rw [Function.update_of_ne hne, Function.update_of_ne hne] at hon
      exact absurd (hnot.symm.trans (hK.onShow other hmem hon)) (by simp)
  | closed enumerator gone => cases enumerator <;> rfl
  | _ => rfl

/-! ## The whole run -/

variable {deviceName : String} {h : List (Move DiaryWatched Act Obs)} {s t : DiaryWatched}
  {o : List Obs}

/-- **Every step of the camera is a step of its account**, as long as the
channels take everything. -/
theorem account_step (hs : (diaryWatched deviceName).step s a = some (t, o)) (htaken : AllTaken o)
    (hformat : s.1.cam.format.isSome = s.1.cam.plugged) :
    account t = (account s).next a ∧ t.1.cam.format.isSome = t.1.cam.plugged := by
  obtain ⟨hstep, hsee⟩ := Machine.observe_step.1 hs
  have hann := announces_of_step hstep htaken hformat
  refine ⟨?_, hann.format⟩
  rw [account, hann.state, hsee, Diary.note, hann.notices]
  rfl

/-- What holds of a camera in any run in which its channels take everything. -/
structure Accounted (s : DiaryWatched) : Prop where
  format : s.1.cam.format.isSome = s.1.cam.plugged
  known : Known (account s)

theorem accounted_start : Accounted (diaryWatched deviceName).init where
  format := rfl
  known := ⟨fun _ hmem => absurd hmem (Option.not_mem_none _),
    fun _ hmem => absurd hmem (Option.not_mem_none _)⟩

theorem Accounted.step (hI : Accounted s) (hs : (diaryWatched deviceName).step s a = some (t, o))
    (htaken : AllTaken o) : Accounted t := by
  obtain ⟨hnext, hformat⟩ := account_step hs htaken hI.format
  refine ⟨hformat, ?_⟩
  rw [hnext]
  exact hI.known.next a

theorem tracks_start : Tracks (account (diaryWatched deviceName).init) where
  announced := fun hout => absurd hout Bool.false_ne_true
  plugged := fun hplugged => absurd hplugged Bool.false_ne_true
  inOrder := fun _ => inOrder_nil

/-- **The announcement tracks the stored enumeration channel exactly when every
action comes in turn.**  Over a run in which the channels take everything. -/
theorem announcement_tracks_channel (hr : (diaryWatched deviceName).Run h s)
    (htaken : ∀ m ∈ h, AllTaken m.out) :
    ((∀ m ∈ h, (account m.src).inTurn m.act = true) → Tracks (account s)) ∧
      ((∀ m ∈ h, Tracks (account m.dst)) ↔ ∀ m ∈ h, (account m.src).inTurn m.act = true) := by
  have hacc := (hr.guarded (I := Accounted) (g := fun m => AllTaken m.out) accounted_start
    (fun _ _ _ _ hI hs ht => hI.step hs ht) htaken).2
  have hkept : (∀ m ∈ h, (account m.src).inTurn m.act = true) →
      Tracks (account s) ∧ ∀ m ∈ h, Tracks (account m.src) ∧ Tracks (account m.dst) := by
    intro hturn
    have hinv := hr.guarded (I := fun s => Tracks (account s) ∧ Accounted s)
      (g := fun m => AllTaken m.out ∧ (account m.src).inTurn m.act = true)
      ⟨tracks_start, accounted_start⟩
      (fun s a t o hI hs hg => ⟨by
        rw [(account_step hs hg.1 hI.2.format).1]
        exact hI.1.next hI.2.known hg.2, hI.2.step hs hg.1⟩)
      fun m hm => ⟨htaken m hm, hturn m hm⟩
    exact ⟨hinv.1.1, fun m hm => ⟨(hinv.2 m hm).1.1, (hinv.2 m hm).2.1⟩⟩
  refine ⟨fun hturn => (hkept hturn).1, fun htracks m hm => ?_,
    fun hturn m hm => ((hkept hturn).2 m hm).2⟩
  have hsrc := ((hr.guarded (I := fun s => Tracks (account s))
    (g := fun m => Tracks (account m.dst)) tracks_start (fun _ _ _ _ _ _ ht => ht) htracks).2
    m hm).1
  have hnext := (account_step (hr.step_of_mem m hm) (htaken m hm) (hacc m hm).1.format).1
  have hdst := htracks m hm
  rw [hnext] at hdst
  exact inTurn_of_tracks hsrc (hacc m hm).1.known hdst

/-- The SelectVersionResponse. -/
def versionMessage : Bytes := [2, SELECT_VERSION_RESPONSE]

/-- The law kept, by a camera that is plugged, unplugged and plugged again, on a
channel that is then closed and replaced. -/
theorem announcement_tracks_channel_replaced : ∃ h s, (diaryWatched "Cam").Run h s ∧
    s.2 1 = [.selected, .added, .removed, .added] ∧ s.1.cam.enumerator = some 2 ∧
    s.2 2 = [.selected, .added] ∧ Tracks (account s) := by
  have hrun := (diaryWatched "Cam").run_get
    [.opened true 1 accepts, .received true 1 versionMessage accepts, .plug hd accepts,
      .unplug accepts, .plug hd accepts, .closed true 1, .opened true 2 accepts,
      .received true 2 versionMessage accepts] (by decide)
  exact ⟨_, _, hrun, by decide, by decide, by decide,
    (announcement_tracks_channel hrun (by decide)).1 (by decide)⟩

/-- **An announcement on nothing.**  A second channel opens under an announcement
and inherits it, although nothing was written there. -/
theorem announced_on_nothing : ∃ h s, (diaryWatched "Cam").Run h s ∧
    (∀ m ∈ h, AllTaken m.out) ∧ s.1.cam.announced = true ∧ s.1.cam.enumerator = some 2 ∧
    s.2 2 = [] ∧ ¬ Tracks (account s) := by
  have hrun := (diaryWatched "Cam").run_get
    [.plug hd accepts, .opened true 1 accepts, .received true 1 versionMessage accepts,
      .opened true 2 accepts] (by decide)
  refine ⟨_, _, hrun, by decide, by decide, by decide, by decide, fun htracks => ?_⟩
  obtain ⟨channel, hmem, hon⟩ := htracks.announced (by decide)
  obtain rfl : 2 = channel := Option.some.inj hmem
  exact absurd hon not_onShow_nil

end Camera
end FreerdpPrebuilt
