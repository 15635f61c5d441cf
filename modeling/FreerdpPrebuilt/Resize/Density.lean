import FreerdpPrebuilt.Resize.Places

/-!
# A request is discarded only when it changes nothing

`resize` compares a request with the copy of the desktop in settings.  The size
in it follows the server; the scale is written by this crate alone, and
`reconnect_resize` writes it.  A monitor layout carries a scale to the server
too, and nothing writes that one back (`density_change_discarded`).  So the copy
is right as long as every layout the server applies carries the scale the copy
already has, and `discard_is_no_change` says that this is exactly when.
-/

namespace FreerdpPrebuilt
namespace Resize

open Labelled

/-- The desktop the server shows, in the form of a request's arguments. -/
def Server.args (server : Server) : ℕ × ℕ × ℕ := (server.width, server.height, server.scale)

/-- In a session still running, the copy in settings is the server's desktop. -/
def Agrees (s : State) : Prop :=
  s.finished = false → s.server.args =
    (s.settings.desktopWidth, s.settings.desktopHeight, s.settings.desktopScaleFactor)

/-- In a session still running, every request `resize` would discard is for the
desktop the server shows, at the density it applies. -/
def DiscardsRightly (s : State) : Prop :=
  s.finished = false → ∀ request, s.settings.same request = true → request.args = s.server.args

/-- If the move is the early return of `resize`, the request changes nothing. -/
def discardIsNoChange (m : Move State Act Obs) : Bool :=
  match m.src.label m.act with
  | .executed request => !m.src.settings.same request || request.args == m.src.server.args
  | _ => true

/-- If the server applies a layout in a session still running, the layout
carries the scale that settings hold. -/
def appliesCurrentScale (m : Move State Act Obs) : Bool :=
  match m.act, m.src.server.inFlight with
  | .serverApply, layout :: _ =>
    m.src.finished || layout.desktopScaleFactor == m.src.settings.desktopScaleFactor
  | _, _ => true

/-- The copy is compared with, and nothing else. -/
theorem same_eq_true {settings : Settings} {request : ResizeRequest} :
    settings.same request = true ↔ request.args =
      (settings.desktopWidth, settings.desktopHeight, settings.desktopScaleFactor) := by
  simp [Settings.same, ResizeRequest.args, and_assoc]

/-- What is discarded is no change exactly when the copy is right. -/
theorem discardsRightly_iff {s : State} : DiscardsRightly s ↔ Agrees s := by
  constructor
  · intro hright hfinished
    have hcopy := hright hfinished ⟨s.settings.desktopWidth, s.settings.desktopHeight,
      s.settings.desktopScaleFactor, 0⟩ (same_eq_true.2 rfl)
    exact hcopy.symm
  · intro hI hfinished request hsame
    rw [same_eq_true.1 hsame, hI hfinished]

theorem Agrees.execute {s : State} (hI : Agrees s) (command : Command) (accepted : Bool) :
    Agrees (execute s command accepted).1 := by
  cases command with
  | resize request =>
    have hspec := resize_spec s request accepted
    simp only [Resize.execute]
    generalize resize s request accepted = r at hspec ⊢
    obtain ⟨t, o⟩ := r
    cases hspec <;> exact hI
  | _ => exact hI

/-- A reconnect that brings the session back leaves the copy right: the server
comes up with what settings hold. -/
theorem reconnectResize_agrees (s : State) (request : ResizeRequest) (answers : ReconnectAnswers)
    (hok : (reconnectResize s request answers).2 = true) :
    (reconnectResize s request answers).1.server.args =
      ((reconnectResize s request answers).1.settings.desktopWidth,
        (reconnectResize s request answers).1.settings.desktopHeight,
        (reconnectResize s request answers).1.settings.desktopScaleFactor) := by
  unfold reconnectResize at hok ⊢
  split at hok
  · rename_i hdown
    rw [if_pos hdown]
    simp only at hok ⊢
    split at hok
    · rename_i htaken
      rw [if_pos htaken]
      split at hok
      · exact absurd hok (by simp)
      · rfl
    · exact absurd hok (by simp)
  · exact absurd hok (by simp)

theorem Agrees.due {s : State} (hI : Agrees s) (answers : ReconnectAnswers) :
    Agrees (s.due answers).1 := by
  unfold State.due
  split
  · exact hI
  · intro hfinished
    exact reconnectResize_agrees _ _ _ (by simpa using hfinished)

/-- **The copy stays right** through every move that does not apply a layout of
another scale. -/
theorem Agrees.step {s t : State} {a : Act} {o : List Obs} (hI : Agrees s)
    (hs : step s a = some (t, o)) (hg : appliesCurrentScale ⟨s, a, o, t⟩ = true) : Agrees t := by
  cases a with
  | execute accepted =>
    obtain ⟨-, command, batch, -, ⟨-, rfl, -⟩ | ⟨-, hexec⟩⟩ := step_execute hs
    · exact fun hfinished => absurd hfinished (by simp)
    · have hkept := Agrees.execute (s := { s with batch := some batch }) hI command accepted
      rw [hexec] at hkept
      exact hkept
  | due answers =>
    obtain ⟨-, -, hdue⟩ := step_due hs
    have hkept := hI.due answers
    rw [hdue] at hkept
    exact hkept
  | serverApply =>
    simp only [Resize.step] at hs
    unfold appliesCurrentScale at hg
    split at hs
    · exact absurd hs (by simp)
    · rename_i layout inFlight hin
      obtain ⟨rfl, rfl⟩ := Prod.mk.inj (Option.some.inj hs)
      intro hfinished
      have hcopy := hI hfinished
      simp only [hin, show s.finished = false from hfinished, Bool.false_or, beq_iff_eq] at hg
      simp only [Server.args, hg]
  | serverResize width height =>
    obtain ⟨rfl, rfl⟩ := Prod.mk.inj (Option.some.inj hs)
    intro hfinished
    have hscale : s.server.scale = s.settings.desktopScaleFactor :=
      congrArg (·.2.2) (hI hfinished)
    simp only [Server.args, hscale]
  | push command =>
    simp only [Resize.step] at hs
    split at hs
    · obtain ⟨rfl, rfl⟩ := Prod.mk.inj (Option.some.inj hs)
      exact hI
    · exact absurd hs (by simp)
  | drain =>
    simp only [Resize.step] at hs
    split at hs
    · exact absurd hs (by simp)
    · split at hs
      · exact absurd hs (by simp)
      · obtain ⟨rfl, rfl⟩ := Prod.mk.inj (Option.some.inj hs)
        exact hI
  | ended =>
    simp only [Resize.step] at hs
    split at hs
    · obtain ⟨rfl, rfl⟩ := Prod.mk.inj (Option.some.inj hs)
      exact fun hfinished => absurd hfinished (by simp)
    · exact absurd hs (by simp)
  | displayControlCaps disp maxMonitors areaFactorA areaFactorB =>
    simp only [Resize.step, displayControlCaps, Option.some.injEq] at hs
    split at hs
    · obtain ⟨rfl, rfl⟩ := Prod.mk.inj hs
      exact hI
    · split at hs <;> (obtain ⟨rfl, rfl⟩ := Prod.mk.inj hs; exact hI)
  | channelConnected pInterface =>
    cases pInterface <;> (obtain ⟨rfl, rfl⟩ := Prod.mk.inj (Option.some.inj hs); exact hI)
  | _ =>
    obtain ⟨rfl, rfl⟩ := Prod.mk.inj (Option.some.inj hs)
    exact hI

/-- A layout of another scale leaves the copy wrong. -/
theorem appliesCurrentScale_of_agrees {s t : State} {a : Act} {o : List Obs}
    (hs : step s a = some (t, o)) (ht : Agrees t) : appliesCurrentScale ⟨s, a, o, t⟩ = true := by
  unfold appliesCurrentScale
  split
  · rename_i layout inFlight hact hin
    simp only at hact hin ⊢
    rw [hact] at hs
    simp only [step, hin] at hs
    obtain ⟨rfl, rfl⟩ := Prod.mk.inj (Option.some.inj hs)
    cases hfinished : s.finished with
    | true => rfl
    | false =>
      have hscale : layout.desktopScaleFactor = s.settings.desktopScaleFactor :=
        congrArg (·.2.2) (ht hfinished)
      simp [hscale]
  · rfl

/-- While the copy is right, what is discarded changes nothing. -/
theorem Agrees.discardIsNoChange {s t : State} {a : Act} {o : List Obs} (hI : Agrees s)
    (hs : Resize.step s a = some (t, o)) : discardIsNoChange ⟨s, a, o, t⟩ = true := by
  unfold Resize.discardIsNoChange
  simp only
  split
  · rename_i request hlabel
    cases a with
    | execute accepted =>
      obtain ⟨hfinished, -⟩ := step_execute hs
      cases hsame : s.settings.same request with
      | false => rfl
      | true => simpa using discardsRightly_iff.2 hI hfinished request hsame
    | displayControlCaps disp maxMonitors areaFactorA areaFactorB =>
      simp only [State.label] at hlabel
      split at hlabel
      · exact absurd hlabel (by simp)
      · split at hlabel <;> exact absurd hlabel (by simp)
    | _ => exact absurd hlabel (by simp [State.label])
  · rfl

/-- **A resize is discarded only when it is no change, unless the server applies
a layout of a scale settings do not hold.**  In a run without such a layout
every request discarded asks for the desktop the server shows, at the density it
applies; and in every state reached the requests `resize` would discard are of
that kind exactly when there is no such layout. -/
theorem discard_is_no_change {settings : Settings} {h : List (Move State Act Obs)} {s : State}
    (hr : (machine settings).Run h s) :
    ((∀ m ∈ h, appliesCurrentScale m = true) → ∀ m ∈ h, discardIsNoChange m = true) ∧
      ((∀ m ∈ h, DiscardsRightly m.dst) ↔ ∀ m ∈ h, appliesCurrentScale m = true) := by
  have hkept := hr.guarded (I := Agrees) (g := fun m => appliesCurrentScale m = true)
    (fun _ => rfl) fun _ _ _ _ hI hs hg => hI.step hs hg
  refine ⟨fun hall m hm => ?_, fun hall m hm => ?_, fun hall m hm => ?_⟩
  · exact ((hkept hall).2 m hm).1.discardIsNoChange (hr.step_of_mem m hm)
  · exact appliesCurrentScale_of_agrees (hr.step_of_mem m hm) (discardsRightly_iff.1 (hall m hm))
  · exact discardsRightly_iff.2 ((hkept hall).2 m hm).2

/-- A session whose channel is up, a request, and the server's answer. -/
def applyActs (width height scalePercent : ℕ) : List Act :=
  [.inputResize width height scalePercent, .drain, .execute true,
    .due ⟨false, fun _ => false, none, false⟩, .serverApply]

/-- The channel comes up. -/
def channelActs : List Act := [.channelConnected (some ⟨true⟩), .displayControlCaps 1 1 8192 8192]

/-- A desktop of 1024 by 768 at 100 %. -/
def plainDesktop : Settings := ⟨1024, 768, 100, 100, true⟩

/-- The law kept: the same size asked for twice is discarded the second time,
and rightly. -/
theorem discard_is_no_change_repeated : ∃ h s, (machine plainDesktop).Run h s ∧
    (∃ m ∈ h, m.src.label m.act = .executed ⟨800, 600, 100, 1⟩ ∧
      m.src.settings.same ⟨800, 600, 100, 1⟩ = true) ∧
    ∀ m ∈ h, discardIsNoChange m = true := by
  have hrun := (machine plainDesktop).run_get
    (channelActs ++ applyActs 800 600 100 ++ [.inputResize 800 600 100, .drain, .execute true])
    (by decide)
  exact ⟨_, _, hrun, by decide, (discard_is_no_change hrun).1 (by decide)⟩

/-- **A change of density is dropped.**  The desktop is at 200 %, the caller asks
for 100 %, and the request is discarded: settings still hold the 100 % the
session connected with. -/
theorem density_change_discarded : ∃ h s, (machine plainDesktop).Run h s ∧
    ∃ m ∈ h, m.src.label m.act = .executed ⟨1024, 768, 100, 1⟩ ∧
      m.src.settings.same ⟨1024, 768, 100, 1⟩ = true ∧ m.src.server.args = (1024, 768, 200) := by
  have hrun := (machine plainDesktop).run_get
    (channelActs ++ applyActs 1024 768 200 ++ [.inputResize 1024 768 100, .drain, .execute true])
    (by decide)
  exact ⟨_, _, hrun, by decide⟩

end Resize
end FreerdpPrebuilt
