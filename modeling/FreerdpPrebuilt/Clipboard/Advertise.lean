import FreerdpPrebuilt.Clipboard.Channel
import FreerdpPrebuilt.Lib.History

/-!
# Which list goes out when the channel is ready

A list that is advertised too early is meant to be held until `MonitorReady`,
and a newer one to take its place.  What the newest list is, the history says:
the last one advertised since the channel stopped being ready.  What is held is
less: an advertisement on no channel at all is dropped, and leaves an older list
in the slot.  So the handler sends the newest list exactly when the newest one
and the newest one advertised on an open channel are the same, and the channel
was not ready before (`newest_sent_iff`).
-/

namespace FreerdpPrebuilt
namespace Clipboard

open Labelled

variable {entry : Ptr → EntryPoint → Bool}

/-! ## What the history says -/

/-- The list a call puts on the channel. -/
def Obs.lists : Obs → Option (List ClipboardFormat)
  | .clientFormatList _ formats => some formats
  | _ => none

/-- What a move says on the newest list: an advertisement that counts names one,
and a channel that stops being ready takes it back. -/
def saysNewest (counts : State → Bool) (m : Move State Act Obs) :
    Option (Option (List ClipboardFormat)) :=
  match m.act with
  | .advertise formats => if counts m.src then some (some formats) else none
  | .channelDisconnected => if m.src.bridge.clipboardReady then some none else none
  | _ => none

/-- **The newest list**: the last one advertised since the channel stopped being
ready. -/
def newest (log : List (Move State Act Obs)) : Option (List ClipboardFormat) :=
  (latest (saysNewest fun _ => true) log).join

/-- There is a channel to advertise on. -/
def State.isOpen (st : State) : Bool := st.bridge.cliprdr != Ptr.null

/-- The same for the lists that were advertised on an open channel. -/
def newestOpen (log : List (Move State Act Obs)) : Option (List ClipboardFormat) :=
  (latest (saysNewest State.isOpen) log).join

abbrev Logged := State × List (Move State Act Obs)

/-- A `MonitorReady` sends the newest list, if there is one. -/
def newestSent (m : Move Logged Act Obs) : Bool :=
  match m.act with
  | .monitorReady _ =>
    match newest m.src.2 with
    | some formats => m.out.filterMap Obs.lists == [formatList formats]
    | none => true
  | _ => true

/-- A `MonitorReady` finds no list advertised, or it finds the channel not ready
and the newest list the same as the newest that was advertised on an open one. -/
def newestHeld (m : Move Logged Act Obs) : Bool :=
  match m.act with
  | .monitorReady _ =>
    (newest m.src.2).isNone ||
      (!m.src.1.bridge.clipboardReady &&
        (newestOpen m.src.2).map formatList == (newest m.src.2).map formatList)
  | _ => true

/-! ## What is held -/

variable {log : List (Move State Act Obs)} {s t : State} {a : Act} {o : List Obs}

theorem newestOpen_snoc_of_none {m : Move State Act Obs} (hm : saysNewest State.isOpen m = none) :
    newestOpen (log ++ [m]) = newestOpen log := by
  rw [newestOpen, latest_snoc_of_none hm, newestOpen]

theorem newestOpen_snoc_of_some {m : Move State Act Obs} {said : Option (List ClipboardFormat)}
    (hm : saysNewest State.isOpen m = some said) : newestOpen (log ++ [m]) = said := by
  rw [newestOpen, latest_snoc_of_some hm]
  rfl

/-- The slot holds the newest list that was advertised on an open channel, until
the channel is ready; then it is empty. -/
structure Holds (log : List (Move State Act Obs)) (s : State) : Prop where
  ready : s.bridge.clipboardReady = true → s.bridge.pendingAdvertise = none
  held : s.bridge.clipboardReady = false → s.bridge.pendingAdvertise = newestOpen log

/-- A move that says nothing and leaves flag and slot alone keeps what is held. -/
theorem Holds.frame {m : Move State Act Obs} (hI : Holds log s)
    (hm : saysNewest State.isOpen m = none)
    (hready : t.bridge.clipboardReady = s.bridge.clipboardReady)
    (hpending : t.bridge.pendingAdvertise = s.bridge.pendingAdvertise) :
    Holds (log ++ [m]) t := by
  refine ⟨?_, ?_⟩
  · rw [hready, hpending]
    exact hI.ready
  · rw [hready, hpending, newestOpen_snoc_of_none hm]
    exact hI.held

theorem Holds.step (hI : Holds log s) (hs : (machine entry).step s a = some (t, o)) :
    Holds (log ++ [⟨s, a, o, t⟩]) t := by
  cases a with
  | advertise formats =>
    rcases advertise_step hs with
      ⟨hnull, rfl, -⟩ | ⟨hopen, hready, rfl, -⟩ | ⟨-, hready, rfl, -⟩
    · exact hI.frame (by simp [saysNewest, State.isOpen, hnull]) rfl rfl
    · refine ⟨fun htrue => ?_, fun _ => ?_⟩
      · rw [show s.bridge.clipboardReady = true from htrue] at hready
        cases hready
      · exact (newestOpen_snoc_of_some (by simp [saysNewest, State.isOpen, hopen])).symm
    · refine ⟨hI.ready, fun hfalse => ?_⟩
      rw [hready] at hfalse
      cases hfalse
  | channelDisconnected =>
    obtain ⟨rfl, rfl⟩ : _ ∧ _ := by simpa [machine] using hs
    cases hready : s.bridge.clipboardReady with
    | true =>
      -- the slot was emptied when the channel became ready
      refine ⟨fun htrue => (by cases htrue), fun _ => ?_⟩
      have hword : saysNewest State.isOpen
          ⟨s, .channelDisconnected, [], channelDisconnected s⟩ = some none := by
        simp [saysNewest, hready]
      rw [newestOpen_snoc_of_some hword]
      exact hI.ready hready
    | false => exact hI.frame (by simp [saysNewest, hready]) hready.symm rfl
  | monitorReady cliprdr =>
    obtain ⟨-, rfl, -⟩ : _ ∧ _ ∧ _ := by simpa [machine, monitorReady] using hs
    exact ⟨fun _ => rfl, fun hfalse => by cases hfalse⟩
  | channelConnected pInterface =>
    obtain ⟨rfl, rfl⟩ : _ ∧ _ := by simpa [machine] using hs
    unfold channelConnected
    split_ifs <;> exact hI.frame rfl rfl rfl
  | serverFormatDataResponse ok data =>
    obtain ⟨-, -, hbridge, -, -⟩ := response_step hs
    exact hI.frame rfl (by rw [hbridge]) (by rw [hbridge])
  | request format =>
    rcases request_step hs with ⟨rfl, -⟩ | ⟨rfl, -⟩ <;> exact hI.frame rfl rfl rfl
  | serverCapabilities cliprdr =>
    obtain ⟨-, rfl, -⟩ : _ ∧ _ ∧ _ := by simpa [machine] using hs
    exact hI.frame rfl rfl rfl
  | serverFormatList cliprdr formats =>
    obtain ⟨-, rfl, -⟩ : _ ∧ _ ∧ _ := by simpa [machine] using hs
    exact hI.frame rfl rfl rfl
  | serverFormatDataRequest cliprdr format listening =>
    obtain ⟨-, rfl, -⟩ : _ ∧ _ ∧ _ := by simpa [machine] using hs
    exact hI.frame rfl rfl rfl
  | respond format data =>
    obtain ⟨rfl, -⟩ : _ ∧ _ := by simpa [machine] using hs
    exact hI.frame rfl rfl rfl

theorem holds_run (hr : (machine entry).Run log s) : Holds log s := by
  induction hr with
  | nil => exact ⟨fun _ => rfl, fun _ => rfl⟩
  | snoc _ hs ih => exact ih.step hs

/-! ## What is sent -/

/-- `MonitorReady` sends what is held. -/
theorem lists_monitorReady (hentry : ∀ cliprdr, entry cliprdr .clientFormatList = true)
    {cliprdr : Ptr} (hs : (machine entry).step s (.monitorReady cliprdr) = some (t, o)) :
    o.filterMap Obs.lists = (s.bridge.pendingAdvertise.map formatList).toList := by
  obtain ⟨-, -, rfl⟩ : _ ∧ _ ∧ _ := by simpa [machine, monitorReady] using hs
  rw [List.filterMap_append, sendClientCapabilities, filterMap_call rfl, List.nil_append]
  cases hpending : s.bridge.pendingAdvertise with
  | none => rfl
  | some formats =>
    show (sendFormatList entry cliprdr formats).filterMap Obs.lists = [formatList formats]
    rw [sendFormatList, call, if_pos (hentry cliprdr)]
    rfl

variable {h : List (Move Logged Act Obs)} {u : Logged}

/-- **When the newest list is sent.**  For contexts whose format list can be
sent, in every run, over any number of channels: a `MonitorReady` sends the
newest list advertised since the channel stopped being ready, if there is one,
if and only if the channel was not ready and no newer list than the one held was
advertised while there was no channel. -/
theorem newest_sent_iff (hentry : ∀ cliprdr, entry cliprdr .clientFormatList = true)
    (hr : (machine entry).logged.Run h u) :
    ∀ m ∈ h, newestSent m = true ↔ newestHeld m = true := by
  intro m hm
  obtain ⟨hbefore, hs⟩ := hr.logged_src hm
  obtain ⟨⟨s, log⟩, a, o, ⟨t, log'⟩⟩ := m
  have hI := holds_run hbefore
  cases a with
  | monitorReady cliprdr =>
    have hlists := lists_monitorReady hentry hs
    simp only [newestSent, newestHeld]
    cases hnewest : newest log with
    | none => simp
    | some formats =>
      rw [hlists]
      cases hready : s.bridge.clipboardReady with
      | true =>
        rw [hI.ready hready]
        simp
      | false =>
        rw [hI.held hready]
        cases newestOpen log <;> simp
  | _ => exact Iff.rfl

/-- Two lists, the second before the channel is ready; and after a disconnect a
third one, on the next channel. -/
def heldTwice : List Act :=
  [.channelConnected 1, .advertise [⟨13, none⟩], .advertise [⟨8, none⟩], .monitorReady 1,
    .advertise [⟨1, none⟩], .channelDisconnected, .channelConnected 2, .advertise [⟨13, none⟩],
    .monitorReady 2]

theorem newest_sent_heldTwice : ∃ h u, (machine fun _ _ => true).logged.Run h u ∧
    (Machine.trace h).filterMap Obs.lists = [[⟨8, none⟩], [⟨1, none⟩], [⟨13, none⟩]] ∧
    ∀ m ∈ h, newestSent m = true := by
  have hrun := (machine fun _ _ => true).logged.run_get heldTwice (by decide)
  refine ⟨_, _, hrun, by decide, fun m hm => ?_⟩
  apply (newest_sent_iff (fun _ => rfl) hrun m hm).2
  revert m
  decide

/-- **The older list goes out.**  Text is advertised on a channel that goes away
before it is ready, and a picture while there is none; the next channel's
`MonitorReady` sends the text. -/
theorem older_list_goes_out : ∃ h u, (machine fun _ _ => true).logged.Run h u ∧
    newest u.2 = some [⟨8, none⟩] ∧ (Machine.trace h).filterMap Obs.lists = [[⟨13, none⟩]] ∧
    ¬ ∀ m ∈ h, newestSent m = true := by
  have hrun := (machine fun _ _ => true).logged.run_get
    [.channelConnected 1, .advertise [⟨13, none⟩], .channelDisconnected, .advertise [⟨8, none⟩],
      .channelConnected 2, .monitorReady 2] (by decide)
  exact ⟨_, _, hrun, by decide, by decide, by decide⟩

end Clipboard
end FreerdpPrebuilt
