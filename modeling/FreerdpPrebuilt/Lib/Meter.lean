import Mathlib.Data.List.Basic
import Mathlib.Data.List.Chain
import Mathlib.Tactic.Common

/-!
# Metered queues

A sender that may ship only what the receiver has asked for keeps **credits**,
one for each request not yet answered, and a bounded queue of items that wait
for one.  A queue that overflows is dropped whole, and nothing is taken any more
until an item that can be understood without the ones before it: a **restart**.

* `Step` — the things that happen to such a queue.
* `Queue.Sound` — its invariant, and `Step.sound`: every step keeps it.
* `Ledger` — what was offered, shipped and granted since the queue was started.
  `Step.balanced`: what is shipped is what was offered, in that order, and never
  more than what was granted.
* `Conserved` — what arrived and the credits left make up what was granted.
  `Step.conserved_iff`: it stays so, unless an item paid out does not arrive.
* `Unbroken` — a sequence in which every item is a restart or the successor of
  the one before.  `Step.gapless`: as long as nothing is lost on the way, what
  arrives is unbroken.
-/

namespace Metered

variable {α : Type*}

/-- What a metered queue remembers. -/
structure Queue (α : Type*) where
  running : Bool
  /-- Requests not yet answered. -/
  credits : ℕ
  /-- Items waiting for a credit, oldest first. -/
  pending : List α
  /-- Whether everything but a restart is refused. -/
  awaiting : Bool

/-- A queue that has been stopped. -/
def Queue.idle : Queue α := ⟨false, 0, [], false⟩

/-- A queue that has just been started. -/
def Queue.fresh : Queue α := ⟨true, 0, [], true⟩

/-- What is done to a queue. -/
inductive Op (α : Type*)
  | quiet
  | stop
  | start
  /-- The receiver asks for one more item. -/
  | grant
  /-- The sender has an item. -/
  | offer (item : α)

section

variable (cap : ℕ) (restart : α → Bool)

/-- What can become of an item offered to a running queue.  An item shipped is
listed with whether it arrived. -/
inductive Offered (q : Queue α) (item : α) : Queue α → List (α × Bool) → Prop
  /-- A restart is awaited, and this is none. -/
  | refused : q.awaiting = true → restart item = false → Offered q item q []
  | shipped : (q.awaiting = true → restart item = true) → 0 < q.credits → q.pending = [] →
      Offered q item { q with credits := q.credits - 1, awaiting := false } [(item, true)]
  /-- It was to be shipped and did not arrive, or could not be tried. -/
  | lost {out : List (α × Bool)} : (q.awaiting = true → restart item = true) → 0 < q.credits →
      q.pending = [] → (out = [] ∨ out = [(item, false)]) →
      Offered q item { q with awaiting := false } out
  | queued : (q.awaiting = true → restart item = true) → (0 < q.credits → q.pending ≠ []) →
      q.pending.length < cap →
      Offered q item { q with pending := q.pending ++ [item], awaiting := false } []
  | overflow : (q.awaiting = true → restart item = true) → (0 < q.credits → q.pending ≠ []) →
      cap ≤ q.pending.length → Offered q item { q with pending := [], awaiting := true } []

/-- One step of a queue, with what it ships. -/
inductive Step (q : Queue α) : Op α → Queue α → List (α × Bool) → Prop
  | quiet : Step q .quiet q []
  | stop : Step q .stop .idle []
  | start : Step q .start .fresh []
  /-- A credit comes in and the queue is paid out, oldest first, until one of
  the two is used up.  Credits may be counted short, but the new one counts. -/
  | grant {credits : ℕ} {pending : List α} {out : List (α × Bool)} : q.running = true →
      0 < out.length + credits → out.length + credits ≤ q.credits + 1 →
      q.pending = out.map Prod.fst ++ pending → (credits = 0 ∨ pending = []) →
      Step q .grant { q with credits, pending } out
  | offer {item : α} {q' : Queue α} {out : List (α × Bool)} : q.running = true →
      Offered cap restart q item q' out → Step q (.offer item) q' out

end

/-! ## The invariant -/

/-- Whether a queue runs after a step. -/
def Op.runs (running : Bool) : Op α → Bool
  | .start => true
  | .stop => false
  | _ => running

/-- **What holds of a metered queue**: nothing waits while there is credit, the
queue is bounded, nothing waits while a restart is awaited, and a queue that is
not running holds nothing at all. -/
structure Queue.Sound (cap : ℕ) (q : Queue α) : Prop where
  credits : 0 < q.credits → q.pending = []
  bounded : q.pending.length ≤ cap
  awaiting : q.awaiting = true → q.pending = []
  idle : q.running = false → q.credits = 0 ∧ q.pending = [] ∧ q.awaiting = false

variable {cap : ℕ} {restart : α → Bool} {q q' : Queue α} {op : Op α} {out : List (α × Bool)}

theorem Queue.sound_idle : (Queue.idle : Queue α).Sound cap where
  credits := fun h => absurd h (by simp [Queue.idle])
  bounded := Nat.zero_le _
  awaiting := fun _ => rfl
  idle := fun _ => ⟨rfl, rfl, rfl⟩

theorem Queue.sound_fresh : (Queue.fresh : Queue α).Sound cap where
  credits := fun _ => rfl
  bounded := Nat.zero_le _
  awaiting := fun _ => rfl
  idle := fun h => absurd h (by simp [Queue.fresh])

theorem Offered.sound {item : α} (hI : q.Sound cap) (hrun : q.running = true)
    (h : Offered cap restart q item q' out) : q'.Sound cap := by
  have hnot : q.running ≠ false := by rw [hrun]; simp
  cases h with
  | refused _ _ => exact hI
  | shipped _ _ hp =>
    refine ⟨fun _ => hp, ?_, fun _ => hp, fun h => absurd h hnot⟩
    rw [hp]
    exact Nat.zero_le _
  | lost _ _ hp _ =>
    refine ⟨fun _ => hp, hI.bounded, fun _ => hp, fun h => absurd h hnot⟩
  | queued _ hfull hlt =>
    refine ⟨fun hc => ?_, ?_, fun h => absurd h (by simp), fun h => absurd h hnot⟩
    · exact absurd (hI.credits hc) (hfull hc)
    · rw [List.length_append, List.length_singleton]
      omega
  | overflow _ _ _ =>
    exact ⟨fun _ => rfl, Nat.zero_le _, fun _ => rfl, fun h => absurd h hnot⟩

/-- **Every step keeps the invariant.** -/
theorem Step.sound (hI : q.Sound cap) (h : Step cap restart q op q' out) : q'.Sound cap := by
  cases h with
  | quiet => exact hI
  | stop => exact Queue.sound_idle
  | start => exact Queue.sound_fresh
  | @grant credits pending out hrun _ _ hp hdone =>
    have hle : pending.length ≤ q.pending.length := by
      rw [hp, List.length_append]
      omega
    refine ⟨fun hc => ?_, hle.trans hI.bounded, fun ha => ?_, fun h => ?_⟩
    · rcases hdone with hdone | hdone
      · simp only at hc
        omega
      · exact hdone
    · have hnil := hI.awaiting ha
      rw [hp] at hnil
      exact (List.append_eq_nil_iff.1 hnil).2
    · rw [hrun] at h
      exact absurd h (by simp)
  | offer hrun hoff => exact hoff.sound hI hrun

theorem Offered.running {item : α} (h : Offered cap restart q item q' out) :
    q'.running = q.running := by
  cases h <;> rfl

/-- Only a start and a stop change whether a queue runs. -/
theorem Step.running (h : Step cap restart q op q' out) : q'.running = op.runs q.running := by
  cases h with
  | offer _ hoff => exact hoff.running
  | _ => rfl

/-! ## The ledger -/

/-- What happened to a queue since it was started. -/
structure Ledger (α : Type*) where
  /-- The items offered while it ran. -/
  offered : List α
  /-- The items shipped, and whether they arrived. -/
  shipped : List (α × Bool)
  /-- How many items the receiver asked for. -/
  granted : ℕ
  /-- How many shipments of an item just offered did not arrive. -/
  lost : ℕ

def Ledger.empty : Ledger α := ⟨[], [], 0, 0⟩

/-- Record one step. -/
def Ledger.record (l : Ledger α) : Op α → List (α × Bool) → Ledger α
  | .quiet, _ | .stop, _ => l
  | .start, _ => .empty
  | .grant, out => { l with shipped := l.shipped ++ out, granted := l.granted + 1 }
  | .offer item, out =>
    { l with
      offered := l.offered ++ [item]
      shipped := l.shipped ++ out
      lost := l.lost + (out.filter fun s => !s.2).length }

/-- The items shipped, arrived or not. -/
def Ledger.submitted (l : Ledger α) : List α := l.shipped.map Prod.fst

/-- The items that arrived. -/
def arrived (out : List (α × Bool)) : List α := (out.filter Prod.snd).map Prod.fst

/-- **The ledger agrees with the queue**: what is shipped and what waits are,
together, in the order of the offers; and every shipment and every credit left
goes back to a grant, or to a shipment that did not arrive and left its credit. -/
structure Balanced (q : Queue α) (l : Ledger α) : Prop where
  order : (l.submitted ++ q.pending).Sublist l.offered
  count : l.shipped.length + q.credits ≤ l.granted + l.lost

theorem balanced_empty {q : Queue α} (hp : q.pending = []) (hc : q.credits = 0) :
    Balanced q .empty := by
  refine ⟨?_, ?_⟩
  · rw [hp]
    exact List.Sublist.refl _
  · rw [hc]
    exact Nat.zero_le _

theorem Offered.balanced {item : α} {l : Ledger α} (hb : Balanced q l)
    (h : Offered cap restart q item q' out) : Balanced q' (l.record (.offer item) out) := by
  have hcount := hb.count
  have horder := hb.order
  have hkept : l.submitted.Sublist l.offered :=
    (List.sublist_append_left _ _).trans horder
  cases h with
  | refused _ _ =>
    refine ⟨?_, ?_⟩
    · simp only [Ledger.record, Ledger.submitted, List.append_nil]
      exact horder.trans (List.sublist_append_left _ _)
    · simpa [Ledger.record] using hcount
  | shipped _ hc hp =>
    refine ⟨?_, ?_⟩
    · simp only [Ledger.record, Ledger.submitted, List.map_append, List.map_cons, List.map_nil, hp,
        List.append_nil]
      exact hkept.append_right [item]
    · have hlost : ([(item, true)].filter fun s => !s.2).length = 0 := rfl
      simp only [Ledger.record, List.length_append, List.length_singleton, hlost]
      omega
  | lost _ hc hp hout =>
    rcases hout with rfl | rfl
    · refine ⟨?_, ?_⟩
      · simp only [Ledger.record, Ledger.submitted, List.append_nil]
        exact horder.trans (List.sublist_append_left _ _)
      · simpa [Ledger.record] using hcount
    · refine ⟨?_, ?_⟩
      · simp only [Ledger.record, Ledger.submitted, List.map_append, List.map_cons, List.map_nil,
          hp, List.append_nil]
        exact hkept.append_right [item]
      · have hlost : ([(item, false)].filter fun s => !s.2).length = 1 := rfl
        simp only [Ledger.record, List.length_append, List.length_singleton, hlost]
        omega
  | queued _ _ _ =>
    refine ⟨?_, ?_⟩
    · simp only [Ledger.record, Ledger.submitted, List.append_nil]
      rw [← List.append_assoc]
      exact horder.append_right [item]
    · simpa [Ledger.record] using hcount
  | overflow _ _ _ =>
    refine ⟨?_, ?_⟩
    · simp only [Ledger.record, Ledger.submitted, List.append_nil]
      exact hkept.trans (List.sublist_append_left _ _)
    · simpa [Ledger.record] using hcount

/-- **Every step keeps the ledger in agreement with the queue.** -/
theorem Step.balanced {l : Ledger α} (hb : Balanced q l) (h : Step cap restart q op q' out) :
    Balanced q' (l.record op out) := by
  have hcount := hb.count
  have horder := hb.order
  cases h with
  | quiet => exact hb
  | stop =>
    refine ⟨?_, ?_⟩
    · simp only [Ledger.record, Queue.idle, List.append_nil]
      exact (List.sublist_append_left _ _).trans horder
    · simp only [Ledger.record, Queue.idle]
      omega
  | start => exact balanced_empty rfl rfl
  | grant _ _ hcredits hp _ =>
    refine ⟨?_, ?_⟩
    · simp only [Ledger.record, Ledger.submitted, List.map_append, List.append_assoc]
      rw [hp] at horder
      exact horder
    · simp only [Ledger.record, List.length_append]
      omega
  | offer _ hoff => exact hoff.balanced hb

/-- **Every credit goes to an item that arrived**: what arrived since the queue
was started and the credits left are, together, what was asked for. -/
def Conserved (q : Queue α) (l : Ledger α) : Prop :=
  q.running = true → q.credits + (arrived l.shipped).length = l.granted

theorem arrived_append (a b : List (α × Bool)) : arrived (a ++ b) = arrived a ++ arrived b := by
  simp [arrived]

theorem Offered.conserved {item : α} {l : Ledger α} (hc : Conserved q l)
    (hrun : q.running = true) (h : Offered cap restart q item q' out) :
    Conserved q' (l.record (.offer item) out) := by
  have hold := hc hrun
  intro _
  simp only [Ledger.record, arrived_append, List.length_append]
  cases h with
  | shipped _ hpos _ =>
    have hone : (arrived [(item, true)]).length = 1 := rfl
    rw [hone]
    show q.credits - 1 + ((arrived l.shipped).length + 1) = l.granted
    omega
  | lost _ _ _ hout => rcases hout with rfl | rfl <;> exact hold
  | _ => exact hold

/-- **A step that does not lose a credit.**  If a new credit counts in full, the
only credits lost are those of items that were paid out and did not arrive. -/
theorem Step.conserved_iff {l : Ledger α} (hc : Conserved q l) (h : Step cap restart q op q' out)
    (hfull : op = .grant → out.length + q'.credits = q.credits + 1) :
    Conserved q' (l.record op out) ↔ (op = .grant → ∀ x ∈ out, x.2 = true) := by
  cases h with
  | quiet => exact ⟨fun _ heq => (by cases heq), fun _ => hc⟩
  | stop => exact ⟨fun _ heq => (by cases heq), fun _ hrun => (by cases hrun)⟩
  | start => exact ⟨fun _ heq => (by cases heq), fun _ _ => rfl⟩
  | offer hrun hoff => exact ⟨fun _ heq => (by cases heq), fun _ => hoff.conserved hc hrun⟩
  | @grant credits pending out hrun _ _ _ _ =>
    have hold := hc hrun
    have hnew : out.length + credits = q.credits + 1 := hfull rfl
    have hall : (arrived out).length = out.length ↔ ∀ x ∈ out, x.2 = true := by
      rw [arrived, List.length_map, List.length_filter_eq_length_iff]
    constructor
    · intro hlater _
      have hlater : credits + (arrived (l.shipped ++ out)).length = l.granted + 1 := hlater hrun
      rw [arrived_append, List.length_append] at hlater
      rw [← hall]
      omega
    · intro hpaid _
      show credits + (arrived (l.shipped ++ out)).length = l.granted + 1
      rw [arrived_append, List.length_append, hall.2 (hpaid rfl)]
      omega

/-! ## Sequences without a gap -/

/-- The sequence starts at a restart, and every other item is a restart or the
successor of the item before it. -/
def Unbroken (restart : α → Bool) (succ : α → α → Prop) (l : List α) : Prop :=
  (∀ x ∈ l.head?, restart x = true) ∧ l.IsChain fun a b => restart b = true ∨ succ a b

variable {succ : α → α → Prop}

theorem unbroken_nil : Unbroken restart succ [] :=
  ⟨fun _ h => absurd h (by simp), List.isChain_nil⟩

/-- What comes first of an unbroken sequence is unbroken. -/
theorem Unbroken.left {l m : List α} (h : Unbroken restart succ (l ++ m)) :
    Unbroken restart succ l := by
  refine ⟨fun x hx => h.1 x ?_, (List.isChain_append.1 h.2).1⟩
  cases l with
  | nil => exact absurd hx (by simp)
  | cons y l => exact hx

/-- An unbroken sequence goes on with a restart, or with its last item's
successor. -/
theorem Unbroken.snoc {l : List α} {x : α} (h : Unbroken restart succ l)
    (hx : restart x = true ∨ ∃ last ∈ l.getLast?, succ last x) :
    Unbroken restart succ (l ++ [x]) := by
  refine ⟨fun y hy => ?_, List.isChain_append.2 ⟨h.2, List.isChain_singleton _, ?_⟩⟩
  · cases l with
    | cons z l => exact h.1 y hy
    | nil =>
      obtain rfl : x = y := by simpa using hy
      rcases hx with hx | ⟨last, hlast, -⟩
      · exact hx
      · exact absurd hlast (by simp)
  · intro a ha b hb
    obtain rfl : x = b := by simpa using hb
    rcases hx with hx | ⟨last, hlast, hsucc⟩
    · exact .inl hx
    · rw [Option.mem_unique ha hlast]
      exact .inr hsucc

/-- What arrived, and behind it what waits. -/
def onItsWay (q : Queue α) (l : Ledger α) : List α := arrived l.shipped ++ q.pending

/-- **Nothing is missing**: what arrived and what waits is unbroken, and unless
a restart is awaited it ends with the item offered last. -/
structure Gapless (restart : α → Bool) (succ : α → α → Prop) (q : Queue α) (l : Ledger α) :
    Prop where
  unbroken : Unbroken restart succ (onItsWay q l)
  poised : q.running = true → q.awaiting = false →
    ∃ last, last ∈ (onItsWay q l).getLast? ∧ last ∈ l.offered.getLast?

/-- Whether the step loses an item: a shipment does not arrive, or an item that
was to be shipped is not. -/
def loses (restart : α → Bool) (q : Queue α) (op : Op α) (out : List (α × Bool)) : Bool :=
  (out.any fun s => !s.2) ||
    match op with
    | .offer item => (!q.awaiting || restart item) && decide (0 < q.credits) &&
        q.pending.isEmpty && out.isEmpty
    | _ => false

/-- Shipments that all arrive. -/
theorem arrived_eq_map {out : List (α × Bool)} (h : (out.any fun s => !s.2) = false) :
    arrived out = out.map Prod.fst := by
  unfold arrived
  rw [List.filter_eq_self.2]
  intro s hs
  simpa using List.any_eq_false.1 h s hs

theorem gapless_empty {q : Queue α} (hp : q.pending = [])
    (hq : q.running = true → q.awaiting = true) : Gapless restart succ q .empty := by
  refine ⟨?_, fun hrun ha => ?_⟩
  · simp only [onItsWay, Ledger.empty, hp]
    exact unbroken_nil
  · rw [hq hrun] at ha
    exact absurd ha (by simp)

theorem Offered.gapless {item : α} {l : Ledger α} (hg : Gapless restart succ q l)
    (hrun : q.running = true) (hsucc : ∀ last ∈ l.offered.getLast?, succ last item)
    (h : Offered cap restart q item q' out) (hkeep : loses restart q (.offer item) out = false) :
    Gapless restart succ q' (l.record (.offer item) out) := by
  -- an item let past the awaited restart continues what is on its way
  have hnext : (q.awaiting = true → restart item = true) →
      restart item = true ∨ ∃ last ∈ (onItsWay q l).getLast?, succ last item := by
    intro hpass
    cases ha : q.awaiting with
    | true => exact .inl (hpass ha)
    | false =>
      obtain ⟨last, hway, hoff⟩ := hg.poised hrun ha
      exact .inr ⟨last, hway, hsucc last hoff⟩
  have hlast : ∀ m : List α, item ∈ (m ++ [item]).getLast? := fun m => by simp
  cases h with
  | refused ha _ =>
    refine ⟨?_, fun _ hn => absurd (ha.symm.trans hn) (by simp)⟩
    simpa [onItsWay, Ledger.record] using hg.unbroken
  | shipped hpass hc hp =>
    have hway : onItsWay { q with credits := q.credits - 1, awaiting := false }
        (l.record (.offer item) [(item, true)]) = onItsWay q l ++ [item] := by
      simp [onItsWay, Ledger.record, arrived, hp]
    refine ⟨?_, fun _ _ => ⟨item, ?_, hlast _⟩⟩
    · rw [hway]
      exact hg.unbroken.snoc (hnext hpass)
    · rw [hway]
      exact hlast _
  | lost hpass hc hp hout =>
    have hpass' : (!q.awaiting || restart item) = true := by
      cases ha : q.awaiting with
      | true => simp [hpass ha]
      | false => rfl
    rcases hout with rfl | rfl <;> simp [loses, hpass', hc, hp] at hkeep
  | queued hpass _ _ =>
    have hway : onItsWay { q with pending := q.pending ++ [item], awaiting := false }
        (l.record (.offer item) []) = onItsWay q l ++ [item] := by
      simp [onItsWay, Ledger.record]
    refine ⟨?_, fun _ _ => ⟨item, ?_, hlast _⟩⟩
    · rw [hway]
      exact hg.unbroken.snoc (hnext hpass)
    · rw [hway]
      exact hlast _
  | overflow _ _ _ =>
    refine ⟨?_, fun _ hn => absurd hn (by simp)⟩
    simpa [onItsWay, Ledger.record] using hg.unbroken.left

/-- **Every step that loses nothing leaves nothing missing**, when each item
offered is the successor of the one offered before. -/
theorem Step.gapless {l : Ledger α} (hg : Gapless restart succ q l)
    (h : Step cap restart q op q' out)
    (hsucc : ∀ item, op = .offer item → ∀ last ∈ l.offered.getLast?, succ last item)
    (hkeep : loses restart q op out = false) : Gapless restart succ q' (l.record op out) := by
  cases h with
  | quiet => exact hg
  | stop =>
    refine ⟨?_, fun hrun => absurd hrun (by simp [Queue.idle])⟩
    simpa [onItsWay, Ledger.record, Queue.idle] using hg.unbroken.left
  | start => exact gapless_empty rfl fun _ => rfl
  | @grant credits pending out hrun _ _ hp _ =>
    have hall : (out.any fun s => !s.2) = false := (Bool.or_eq_false_iff.1 hkeep).1
    have hway : onItsWay { q with credits, pending } (l.record .grant out) = onItsWay q l := by
      simp [onItsWay, Ledger.record, arrived_append, arrived_eq_map hall, hp]
    refine ⟨?_, fun hr ha => ?_⟩
    · rw [hway]
      exact hg.unbroken
    · rw [hway]
      exact hg.poised hr ha
  | offer hrun hoff => exact hoff.gapless hg hrun (hsucc _ rfl) hkeep

end Metered
