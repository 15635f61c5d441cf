import FreerdpPrebuilt.Camera.Channels
import FreerdpPrebuilt.Camera.Stored
import FreerdpPrebuilt.Lib.History

/-!
# Every write goes to an open channel

The endpoint keeps raw pointers to two channels, and its embedder's threads write
through them.  What makes that sound is the order of things over a whole run: an
instance is open from its OnOpen to its OnClose or the end of the plugin, and the
endpoint forgets it by then.  A channel that replaced another may be closed after
it or before it; the close of one that is not stored leaves the stored one alone.

Whether an instance is open is read off the history (`IsOpen`), not off the
endpoint.  `writes_to_open_channels` is the promise.
-/

namespace FreerdpPrebuilt
namespace Camera

open Labelled

/-! ## Which instances are open -/

/-- What an action says on whether a channel is open. -/
def Act.turns (enumerator : Bool) (channel : Ptr) : Act → Option Bool
  | .opened kind fresh _ => if kind = enumerator ∧ fresh = channel then some true else none
  | .closed kind gone => if kind = enumerator ∧ gone = channel then some false else none
  | .terminated => some false
  | .plug _ _ | .unplug _ | .sample _ _ _ | .received _ _ _ _ | .deliver _ => none

/-- The channel has been opened, and neither closed nor terminated since. -/
def IsOpen (h : List (Move System Act Obs)) (enumerator : Bool) (channel : Ptr) : Prop :=
  latest (fun m => m.act.turns enumerator channel) h = some true

variable {deviceName : String} {h : List (Move System Act Obs)} {s t : System} {a : Act}
  {o : List Obs} {enumerator : Bool} {channel : Ptr}

theorem isOpen_snoc {m : Move System Act Obs} : IsOpen (h ++ [m]) enumerator channel ↔
    m.act.turns enumerator channel = some true ∨
      m.act.turns enumerator channel = none ∧ IsOpen h enumerator channel := by
  rw [IsOpen, latest_snoc, IsOpen]
  cases m.act.turns enumerator channel <;> simp

/-- An action that says nothing on a channel leaves it open. -/
theorem IsOpen.snoc {m : Move System Act Obs} (hopen : IsOpen h enumerator channel)
    (hm : m.act.turns enumerator channel = none) : IsOpen (h ++ [m]) enumerator channel :=
  isOpen_snoc.2 (.inr ⟨hm, hopen⟩)

/-! ## What the session keeps is open -/

/-- The open channels of a kind, after an action. -/
def Act.opensOf (enumerator : Bool) (channels : List Ptr) (a : Act) : List Ptr :=
  if enumerator then a.opensEnumerators channels else a.opens channels

/-- The stored channel of a kind. -/
def CamState.stored (st : CamState) (enumerator : Bool) : Option Ptr :=
  if enumerator then st.enumerator else st.device

theorem channels_step (hs : step deviceName s a = some (t, o)) (enumerator : Bool) :
    t.channels enumerator = a.opensOf enumerator (s.channels enumerator) := by
  cases enumerator with
  | true => exact (stored_of_step hs).enumerators
  | false => exact (framed_of_step hs).devices

/-- The channels of a kind that are open: each is, by the history, and none is
listed twice. -/
structure Listed (h : List (Move System Act Obs)) (s : System) (enumerator : Bool) : Prop where
  nodup : (s.channels enumerator).Nodup
  isOpen : ∀ channel ∈ s.channels enumerator, IsOpen h enumerator channel

/-- What is listed after an action that neither opens nor closes a channel of the
kind. -/
theorem Listed.keep (hI : Listed h s enumerator)
    (hs : step deviceName s a = some (t, o))
    (hkeep : a.opensOf enumerator (s.channels enumerator) = s.channels enumerator)
    (hturns : ∀ channel, a.turns enumerator channel = none) :
    Listed (h ++ [⟨s, a, o, t⟩]) t enumerator := by
  have hsame : t.channels enumerator = s.channels enumerator := by
    rw [channels_step hs, hkeep]
  refine ⟨?_, ?_⟩
  · rw [hsame]
    exact hI.nodup
  · intro channel hmem
    rw [hsame] at hmem
    exact (hI.isOpen channel hmem).snoc (hturns channel)

theorem fresh_not_mem (hfresh : s.isFresh channel = true) (enumerator : Bool) :
    channel ∉ s.channels enumerator := by
  simp only [System.isFresh, Bool.and_eq_true, decide_eq_true_eq] at hfresh
  cases enumerator with
  | true => exact hfresh.1.2
  | false => exact hfresh.2

theorem Listed.step (hI : Listed h s enumerator) (hs : step deviceName s a = some (t, o)) :
    Listed (h ++ [⟨s, a, o, t⟩]) t enumerator := by
  cases a with
  | opened kind fresh answers =>
    by_cases hkind : kind = enumerator
    · subst hkind
      have hopens : t.channels kind = fresh :: s.channels kind := by
        rw [channels_step hs]
        cases kind <;> rfl
      refine ⟨?_, ?_⟩
      · rw [hopens]
        exact List.nodup_cons.2 ⟨fresh_not_mem (step_opened hs).1 kind, hI.nodup⟩
      · intro channel hmem
        rw [hopens] at hmem
        by_cases hsame : fresh = channel
        · exact isOpen_snoc.2 (.inl (by simp [Act.turns, hsame]))
        · have hold : channel ∈ s.channels kind :=
            (List.mem_cons.1 hmem).resolve_left fun heq => hsame heq.symm
          exact (hI.isOpen channel hold).snoc (by simp [Act.turns, hsame])
    · refine hI.keep hs ?_ fun channel => by simp [Act.turns, hkind]
      cases kind <;> cases enumerator <;> first | rfl | exact absurd rfl hkind
  | closed kind gone =>
    by_cases hkind : kind = enumerator
    · subst hkind
      have hopens : t.channels kind = (s.channels kind).erase gone := by
        rw [channels_step hs]
        cases kind <;> rfl
      refine ⟨?_, ?_⟩
      · rw [hopens]
        exact hI.nodup.erase gone
      · intro channel hmem
        rw [hopens] at hmem
        obtain ⟨hne, hold⟩ := hI.nodup.mem_erase_iff.1 hmem
        exact (hI.isOpen channel hold).snoc (by simp [Act.turns, Ne.symm hne])
    · refine hI.keep hs ?_ fun channel => by simp [Act.turns, hkind]
      cases kind <;> cases enumerator <;> first | rfl | exact absurd rfl hkind
  | terminated =>
    have hnone : t.channels enumerator = [] := by
      rw [channels_step hs]
      cases enumerator <;> rfl
    refine ⟨?_, ?_⟩
    · rw [hnone]
      exact List.nodup_nil
    · intro channel hmem
      rw [hnone] at hmem
      exact absurd hmem List.not_mem_nil
  | _ => refine hI.keep hs ?_ fun _ => rfl; cases enumerator <;> rfl

/-- What is stored is listed, of either kind. -/
def StoredListed (s : System) : Prop :=
  ∀ enumerator, ∀ channel ∈ s.cam.stored enumerator, channel ∈ s.channels enumerator

/-- The stored enumeration channel is open. -/
theorem enumerator_step (hI : ∀ channel ∈ s.cam.enumerator, channel ∈ s.enumerators)
    (hs : step deviceName s a = some (t, o)) :
    ∀ channel ∈ t.cam.enumerator, channel ∈ t.enumerators := by
  intro channel hmem
  rw [(stored_of_step hs).enumerator] at hmem
  rw [(stored_of_step hs).enumerators]
  cases a with
  | opened kind fresh answers =>
    cases kind with
    | true =>
      obtain rfl : fresh = channel := Option.some.inj hmem
      exact List.mem_cons_self
    | false => exact hI channel hmem
  | closed kind gone =>
    cases kind with
    | true =>
      simp only [Act.storesEnumerator] at hmem
      split_ifs at hmem with hstored
      · exact absurd hmem (Option.not_mem_none _)
      · have hne : channel ≠ gone := by
          rintro rfl
          exact hstored hmem
        exact (List.mem_erase_of_ne hne).2 (hI channel hmem)
    | false => exact hI channel hmem
  | terminated => exact absurd hmem (Option.not_mem_none _)
  | _ => exact hI channel hmem

theorem StoredListed.step (hI : StoredListed s) (hs : step deviceName s a = some (t, o)) :
    StoredListed t := by
  intro enumerator
  cases enumerator with
  | true => exact enumerator_step (hI true) hs
  | false => exact storedOpen_step (hI false) (framed_of_step hs)

/-- **What the endpoint has stored is open**, after every run. -/
theorem stored_isOpen (hr : (machine deviceName).Run h s) :
    StoredListed s ∧ ∀ enumerator, Listed h s enumerator := by
  induction hr with
  | nil =>
    refine ⟨?_, ?_⟩
    · intro enumerator channel hmem
      cases enumerator <;> exact absurd hmem (Option.not_mem_none _)
    · intro enumerator
      cases enumerator <;> exact ⟨List.nodup_nil, fun _ hmem => absurd hmem List.not_mem_nil⟩
  | snoc _ hs ih => exact ⟨ih.1.step hs, fun enumerator => (ih.2 enumerator).step hs⟩

/-! ## Where the writes go -/

/-- A write goes to a channel that is open when it is made. -/
theorem writes_open (hI : StoredListed s) (hlisted : ∀ enumerator, Listed h s enumerator)
    (hs : step deviceName s a = some (t, o)) {w : Write} (hw : .write w ∈ o) :
    ∃ enumerator, IsOpen (h ++ [⟨s, a, o, t⟩]) enumerator w.channel := by
  have hto := (stored_of_step hs).writes w hw
  have hkeep : ∀ enumerator, w.channel ∈ s.channels enumerator →
      a.turns enumerator w.channel = none →
      ∃ enumerator, IsOpen (h ++ [⟨s, a, o, t⟩]) enumerator w.channel := by
    intro enumerator hmem hturns
    exact ⟨enumerator, ((hlisted enumerator).isOpen w.channel hmem).snoc hturns⟩
  cases a with
  | plug format answers => exact hkeep true (hI true w.channel hto) rfl
  | unplug answers => exact hkeep true (hI true w.channel hto) rfl
  | sample data keyframe answers => exact hkeep false (hI false w.channel hto) rfl
  | opened kind fresh answers =>
    cases kind with
    | true =>
      obtain rfl : fresh = w.channel := Option.some.inj hto
      exact ⟨true, isOpen_snoc.2 (.inl (by simp [Act.turns]))⟩
    | false => exact absurd hto (by simp [System.writesTo])
  | received kind asker bytes answers =>
    obtain rfl : asker = w.channel := Option.some.inj hto
    exact hkeep kind (step_received hs).1 rfl
  | _ => exact absurd hto (by simp [System.writesTo])

/-- **No write to a closed camera channel.**  In every run, in every state reached,
each stored channel is an instance that has been opened and neither closed nor
terminated since; and every write goes to one that is open when it is made. -/
theorem writes_to_open_channels (hr : (machine deviceName).Run h s) :
    (∀ channel ∈ s.cam.enumerator, IsOpen h true channel) ∧
    (∀ channel ∈ s.cam.device, IsOpen h false channel) ∧
    ∀ before m after, h = before ++ m :: after → ∀ w, .write w ∈ m.out →
      ∃ enumerator, IsOpen (before ++ [m]) enumerator w.channel := by
  obtain ⟨hstored, hlisted⟩ := stored_isOpen hr
  refine ⟨?_, ?_, ?_⟩
  · intro channel hmem
    exact (hlisted true).isOpen channel (hstored true channel hmem)
  · intro channel hmem
    exact (hlisted false).isOpen channel (hstored false channel hmem)
  · rintro before m after rfl w hw
    obtain ⟨hbefore, hs⟩ := hr.cut
    obtain ⟨hstored, hlisted⟩ := stored_isOpen hbefore
    exact writes_open hstored hlisted hs hw

/-- Two enumeration channels overlap; the older one closes first, and the device
is withdrawn on the newer one. -/
def overlapping : List Act :=
  [.opened true 1 fun _ => true, .opened true 2 fun _ => true,
    .received true 2 [2, SELECT_VERSION_RESPONSE] fun _ => true,
    .plug ⟨640, 480, 30, 1⟩ fun _ => true, .closed true 1, .unplug fun _ => true, .closed true 2]

theorem writes_to_open_channels_overlapping : ∃ h s, (machine "Cam").Run h s ∧
    (Machine.trace h).length = 4 ∧ ∀ before m after, h = before ++ m :: after →
      ∀ w, .write w ∈ m.out → ∃ enumerator, IsOpen (before ++ [m]) enumerator w.channel := by
  have hrun := (machine "Cam").run_get overlapping (by decide)
  exact ⟨_, _, hrun, by decide, (writes_to_open_channels hrun).2.2⟩

end Camera
end FreerdpPrebuilt
