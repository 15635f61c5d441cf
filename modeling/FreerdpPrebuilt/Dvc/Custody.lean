import FreerdpPrebuilt.Dvc.Plugin
import Mathlib.Algebra.BigOperators.Group.List.Basic
import Mathlib.Tactic.Abel

/-!
# A plugin's boxes are each freed once

Every box a plugin leaves in C comes back to code that dereferences it, and every box
has one place that frees it.  What makes this safe is the order inside
each function: a listener is stored on the plugin before the next is created, so
that `Terminated` finds it after a failure half way; `DestroyListener` comes
before the callbacks go; the shared state is read before the count on it is given
up.

`State.refs` says who owns what between two calls, and each call takes it to the
references of the state after (`keeps_accounts`).  `boxes_freed_once` is what the
rules of `FreerdpPrebuilt.Lib.Ownership` make of that over whole runs.  It is about the
crate's own blocks, and says nothing of the pointers to drdynvc's channels that it keeps.
-/

namespace FreerdpPrebuilt
namespace Dvc

open Labelled Ownership

/-! ## Who owns what -/

/-- The references `n` owners of the shared state come to: their own, and the
state's to the events object. -/
def shares (n : ℕ) : Multiset ℕ :=
  Multiset.replicate n shared + if n = 0 then 0 else {events}

/-- The blocks a plugin owns: itself, and its listeners' callbacks. -/
def Plugin.blocks (p : Plugin) : Multiset ℕ :=
  p.block ::ₘ (p.listeners.map Listener.callback : List ℕ)

/-- The blocks of the open channels. -/
def callbacks (channels : List Channel) : Multiset ℕ := (channels.map Channel.callback : List ℕ)

/-- Every reference there is between two calls. -/
def State.refs (s : State) : Multiset ℕ :=
  shares s.owners + (s.plugins.map Plugin.blocks).sum + callbacks s.channels

theorem shares_succ (n : ℕ) :
    shares (n + 1) = shared ::ₘ (events ::ₘ Multiset.replicate n shared) := by
  rw [shares, Multiset.replicate_succ, if_neg (Nat.succ_ne_zero n), Multiset.cons_add, add_comm,
    Multiset.singleton_add]

theorem shared_mem_shares {n : ℕ} (hn : 0 < n) : shared ∈ shares n := by
  obtain ⟨n, rfl⟩ := Nat.exists_eq_add_of_lt hn
  rw [zero_add, shares_succ]
  exact Multiset.mem_cons_self _ _

theorem events_mem_shares {n : ℕ} (hn : 0 < n) : events ∈ shares n := by
  obtain ⟨n, rfl⟩ := Nat.exists_eq_add_of_lt hn
  rw [zero_add, shares_succ]
  exact Multiset.mem_cons_of_mem (Multiset.mem_cons_self _ _)

@[simp] theorem callbacks_cons (c : Channel) (cs : List Channel) :
    callbacks (c :: cs) = c.callback ::ₘ callbacks cs := rfl

/-! ## The shared state and its owners -/

variable {n next : ℕ} {r : Multiset ℕ}

/-- One owner more. -/
theorem triple_retain (hn : 0 < n) (r : Multiset ℕ) (next : ℕ) :
    Triple (shares n + r) next [.retain shared] (shares (n + 1) + r) next := by
  refine (Triple.retain (Multiset.mem_add.2 (.inl (shared_mem_shares hn)))).congr rfl ?_
  obtain ⟨n, rfl⟩ := Nat.exists_eq_add_of_lt hn
  rw [zero_add, shares_succ, shares_succ, Multiset.replicate_succ]
  simp only [Multiset.cons_add]
  rw [Multiset.cons_swap shared events]

/-- One owner less, and with the last the events object. -/
theorem triple_dropShared (n : ℕ) (r : Multiset ℕ) (next : ℕ) :
    Triple (shares (n + 1) + r) next (dropShared (n + 1)) (shares n + r) next := by
  cases n with
  | zero =>
    refine ((Triple.release shared (events ::ₘ r) next).cons
      (Triple.release events r next)).congr ?_ ?_
    · rw [shares_succ]
      simp
    · simp [shares]
  | succ n =>
    rw [dropShared, if_neg (by omega)]
    refine (Triple.release shared (shares (n + 1) + r) next).congr ?_ rfl
    rw [shares_succ, shares_succ, Multiset.replicate_succ]
    simp only [Multiset.cons_add]
    rw [Multiset.cons_swap events shared]

/-- The embedder is told while there is an owner. -/
theorem triple_tell (hn : 0 < n) (told : Bool) (r : Multiset ℕ) (next : ℕ) :
    Triple (shares n + r) next (tell told) (shares n + r) next := by
  cases told with
  | false => exact .skip _ _
  | true =>
    exact (Triple.access (Multiset.mem_add.2 (.inl (shared_mem_shares hn)))).cons
      (.access (Multiset.mem_add.2 (.inl (events_mem_shares hn))))

/-! ## Bags kept as lists -/

/-- The plugins' blocks, with one plugin set apart. -/
theorem sum_blocks {l rest : List Plugin} {p : Plugin} (h : l.Perm (p :: rest)) :
    (l.map Plugin.blocks).sum = p.blocks + (rest.map Plugin.blocks).sum := by
  rw [(h.map Plugin.blocks).sum_eq, List.map_cons, List.sum_cons]

theorem callbacks_perm {l rest : List Channel} {c : Channel} (h : l.Perm (c :: rest)) :
    callbacks l = c.callback ::ₘ callbacks rest :=
  Multiset.coe_eq_coe.2 (h.map Channel.callback)

/-! ## What holds between two calls -/

/-- A bridge stands behind every callback, the manager calls only listeners of a
plugin that is still there, and a plugin with listeners can destroy them. -/
structure Wired (s : State) : Prop where
  bridged : s.plugins ≠ [] ∨ s.channels ≠ [] → s.bridge = true
  known : ∀ l ∈ s.listeners, ∃ p ∈ s.plugins, l ∈ p.listeners
  destroys : ∀ p ∈ s.plugins, p.listeners ≠ [] → p.destroys = true
  untouched : ∀ p ∈ s.plugins, p.initialized = false → p.listeners = []

theorem wired_start : Wired .start := by
  constructor <;> simp [State.start]

theorem State.owners_pos_of_handles {s : State} (h : 0 < s.handles) : 0 < s.owners := by
  rw [State.owners]
  omega

theorem State.owners_pos_of_bridge {s : State} (h : s.bridge = true) : 0 < s.owners := by
  rw [State.owners, h, Bool.toNat_true]
  omega

theorem Wired.owners_pos_of_channel {s : State} (hw : Wired s) {c : Channel}
    (hc : c ∈ s.channels) : 0 < s.owners :=
  State.owners_pos_of_bridge (hw.bridged (.inr (List.ne_nil_of_mem hc)))

/-- What `createListeners` leaves: a block for each listener stored, and listeners
only from a manager that has the function. -/
theorem createListeners_spec (mgr : Manager) (create : String → ℕ) (specs : List ListenerSpec) :
    ∀ next r, Triple r next (createListeners mgr create next specs).2.1
      (((createListeners mgr create next specs).1.map Listener.callback : List ℕ) + r)
      (createListeners mgr create next specs).2.2.1 ∧
    ((createListeners mgr create next specs).1 ≠ [] → mgr.createListener = true) := by
  induction specs with
  | nil => exact fun next r => ⟨(Triple.skip r next).congr rfl (by simp [createListeners]),
      fun h => absurd rfl h⟩
  | cons spec specs ih =>
    intro next r
    rw [createListeners]
    by_cases hrc : (if mgr.createListener = true then create spec.channel
        else CHANNEL_RC_INITIALIZATION_ERROR) = CHANNEL_RC_OK
    · obtain ⟨htriple, -⟩ := ih (next + 1) (next ::ₘ r)
      simp only [if_pos hrc]
      refine ⟨((Triple.alloc r next).cons htriple).congr rfl ?_, fun _ => ?_⟩
      · rw [List.map_cons, ← Multiset.cons_coe, Multiset.add_cons, Multiset.cons_add]
      · by_contra hset
        rw [if_neg hset] at hrc
        exact absurd hrc (by decide)
    · simp only [if_neg hrc]
      refine ⟨((Triple.alloc r next).cons (.release next r (next + 1))).congr rfl (by simp), ?_⟩
      exact fun h => absurd rfl h

/-! ## The calls keep the accounts -/

variable {s : State} {p : Plugin} {rest : List Plugin}

/-- The rest of the references, besides those of the shared state. -/
def State.boxes (s : State) : Multiset ℕ :=
  (s.plugins.map Plugin.blocks).sum + callbacks s.channels

theorem State.refs_eq (s : State) : s.refs = shares s.owners + s.boxes := by
  rw [State.refs, State.boxes, add_assoc]

theorem accounts_pluginEntry (hbridge : s.bridge = true) (entryPoints : Option EntryPoints) :
    Triple s.refs s.next (pluginEntry s entryPoints).2.1 (pluginEntry s entryPoints).1.refs
      (pluginEntry s entryPoints).1.next := by
  have hpos := State.owners_pos_of_bridge hbridge
  unfold pluginEntry
  split
  · exact .skip _ _
  · dsimp only
    split_ifs
    · exact .skip _ _
    · exact .skip _ _
    -- both ways: the clone for the call, the count for the plugin, the box
    all_goals
      have hmade : Triple s.refs s.next [.retain shared, .retain shared, .alloc s.next]
          (s.next ::ₘ (shares (s.owners + 2) + s.boxes)) (s.next + 1) := by
        rw [State.refs_eq]
        exact (triple_retain hpos s.boxes s.next).cons
          ((triple_retain (Nat.succ_pos _) s.boxes s.next).cons (.alloc _ _))
    · have hdrop := triple_dropShared (s.owners + 1) (s.next ::ₘ s.boxes) (s.next + 1)
      rw [dropShared, if_neg (by omega)] at hdrop
      refine (hmade.append (hdrop.congr (by rw [Multiset.add_cons]) rfl)).congr rfl ?_
      rw [State.refs_eq]
      refine congrArg (shares (s.owners + 1) + ·) ?_
      rw [State.boxes, State.boxes, List.map_cons, List.sum_cons]
      simp [Plugin.blocks]
    · have hdrop := triple_dropShared (s.owners + 1) (s.next ::ₘ s.boxes) (s.next + 1)
      have hdrop' := triple_dropShared s.owners s.boxes (s.next + 1)
      rw [dropShared, if_neg (by omega)] at hdrop hdrop'
      have hbox : Triple (shares (s.owners + 1) + s.next ::ₘ s.boxes) (s.next + 1)
          [.release s.next] (shares (s.owners + 1) + s.boxes) (s.next + 1) :=
        (Triple.release s.next _ _).congr (by rw [Multiset.add_cons]) rfl
      refine (hmade.append ((hdrop.cons (hbox.cons hdrop')).congr
        (by rw [Multiset.add_cons]) rfl)).congr rfl ?_
      rw [State.refs_eq]
      rfl

theorem accounts_pluginInitialize (specs : List ListenerSpec) (hs : s.plugins.Perm (p :: rest))
    (hempty : p.listeners = []) (create : String → ℕ) (mgr : Option Manager) :
    Triple s.refs s.next (pluginInitialize specs s p rest create mgr).2.1
      (pluginInitialize specs s p rest create mgr).1.refs
      (pluginInitialize specs s p rest create mgr).1.next := by
  have hlen : s.plugins.length = rest.length + 1 := hs.length_eq
  have hrefs : s.refs = p.blocks +
      (shares s.owners + ((rest.map Plugin.blocks).sum + callbacks s.channels)) := by
    rw [State.refs_eq, State.boxes, sum_blocks hs]
    abel
  have hblocks : p.blocks = {p.block} := by rw [Plugin.blocks, hempty]; rfl
  cases mgr with
  | none =>
    refine (Triple.skip _ _).congr rfl ?_
    rw [hrefs, State.refs_eq]
    simp only [pluginInitialize, State.owners, State.boxes, hlen, List.length_cons, List.map_cons,
      List.sum_cons, Plugin.blocks]
    abel
  | some mgr =>
    have hown : p.block ∈ s.refs := by
      rw [hrefs, hblocks]
      exact Multiset.mem_add.2 (.inl (Multiset.mem_singleton_self _))
    refine ((Triple.access hown).cons
      (createListeners_spec mgr create specs s.next s.refs).1).congr rfl ?_
    rw [hrefs, State.refs_eq, hblocks]
    simp only [pluginInitialize, State.owners, State.boxes, hlen, List.length_cons, List.map_cons,
      List.sum_cons, Plugin.blocks]
    rw [← Multiset.singleton_add]
    abel

theorem accounts_pluginTerminated (hs : s.plugins.Perm (p :: rest)) (stopped : Bool) :
    Triple s.refs s.next (pluginTerminated s p rest stopped).2
      (pluginTerminated s p rest stopped).1.refs (pluginTerminated s p rest stopped).1.next := by
  obtain ⟨n, hn⟩ : ∃ n, s.owners = n + 1 :=
    ⟨s.handles + s.bridge.toNat + rest.length, by rw [State.owners, hs.length_eq]; rfl⟩
  have hafter : (pluginTerminated s p rest stopped).1.owners = n := by
    have hlen := hs.length_eq
    rw [State.owners, hlen, List.length_cons] at hn
    simp only [pluginTerminated, State.owners]
    omega
  generalize hr : (rest.map Plugin.blocks).sum + callbacks s.channels = r
  have hrefs : s.refs = p.blocks + (shares (n + 1) + r) := by
    rw [State.refs_eq, State.boxes, sum_blocks hs, hn, ← hr]
    abel
  have hrefs' : (pluginTerminated s p rest stopped).1.refs = shares n + r := by
    rw [State.refs_eq, hafter, ← hr]
    rfl
  rw [hrefs, hrefs']
  have hheld : Triple (shares (n + 1) + p.block ::ₘ r) s.next [.access shared, .retain events]
      (shares (n + 1) + (events ::ₘ p.block ::ₘ r)) s.next := by
    refine (Triple.access (Multiset.mem_add.2 (.inl (shared_mem_shares n.succ_pos)))).cons
      ((Triple.retain (Multiset.mem_add.2 (.inl (events_mem_shares n.succ_pos)))).congr rfl ?_)
    rw [Multiset.add_cons, Multiset.add_cons, Multiset.add_cons]
  have htold : Triple (events ::ₘ (shares n + r)) s.next
      (if stopped then [Event.access events] else []) (events ::ₘ (shares n + r)) s.next := by
    cases stopped with
    | false => exact .skip _ _
    | true => exact .access (Multiset.mem_cons_self _ _)
  have hfirst : Triple (p.blocks + (shares (n + 1) + r)) s.next [.access p.block]
      (p.blocks + (shares (n + 1) + r)) s.next :=
    .access (Multiset.mem_add.2 (.inl (Multiset.mem_cons_self _ _)))
  have hlisteners := Triple.releases (p.listeners.map Listener.callback)
    (shares (n + 1) + p.block ::ₘ r) s.next
  have hdrop : Triple (shares (n + 1) + events ::ₘ p.block ::ₘ r) s.next (dropShared s.owners)
      (shares n + events ::ₘ p.block ::ₘ r) s.next := by
    rw [hn]
    exact triple_dropShared _ _ _
  have hbox := Triple.release p.block (events ::ₘ (shares n + r)) s.next
  have hlast := Triple.release events (shares n + r) s.next
  refine (((((hfirst.append (hlisteners.congr ?_ rfl)).append hheld).append
    hdrop).append (hbox.congr ?_ rfl)).append htold).append hlast
  · rw [Plugin.blocks, ← Multiset.singleton_add, ← Multiset.singleton_add]
    abel
  · rw [Multiset.add_cons, Multiset.add_cons, Multiset.cons_swap]

theorem accounts_onNewChannelConnection {l : Listener} (hl : l.callback ∈ s.refs)
    (pointers : Bool) :
    Triple s.refs s.next (onNewChannelConnection s l pointers).2.1
      (onNewChannelConnection s l pointers).1.refs
      (onNewChannelConnection s l pointers).1.next := by
  cases pointers with
  | false => exact .skip _ _
  | true =>
    refine ((Triple.access hl).cons (.alloc _ _)).congr rfl ?_
    rw [State.refs_eq, State.refs_eq]
    simp only [onNewChannelConnection, if_true, State.owners, State.boxes, callbacks_cons]
    rw [Multiset.add_cons, Multiset.add_cons]

/-- A callback of an open channel reads its own box, then the shared state, and
tells the embedder or not. -/
theorem accounts_callback {c : Channel} (hc : c ∈ s.channels) (hpos : 0 < s.owners)
    (told : Bool) :
    Triple s.refs s.next ([.access c.callback, .access shared] ++ tell told) s.refs s.next := by
  have hbox : c.callback ∈ s.refs :=
    Multiset.mem_add.2 (.inr (Multiset.mem_coe.2 (List.mem_map_of_mem hc)))
  have hshared : shared ∈ s.refs := by
    rw [State.refs_eq]
    exact Multiset.mem_add.2 (.inl (shared_mem_shares hpos))
  refine ((Triple.access hbox).cons (.access hshared)).append ?_
  rw [State.refs_eq]
  exact triple_tell hpos told _ _

theorem accounts_onClose {c : Channel} {channels : List Channel}
    (hs : s.channels.Perm (c :: channels)) (hpos : 0 < s.owners) (stopped : Bool) :
    Triple s.refs s.next (onClose c stopped) { s with channels := channels }.refs s.next := by
  have hc : c ∈ s.channels := hs.mem_iff.2 List.mem_cons_self
  refine (accounts_callback hc hpos stopped).append
    ((Triple.release c.callback { s with channels := channels }.refs s.next).congr ?_ rfl)
  rw [State.refs_eq, State.refs_eq]
  simp only [State.owners, State.boxes, callbacks_perm hs]
  rw [Multiset.add_cons, Multiset.add_cons]

/-! ## The calls keep the wiring -/

theorem wired_pluginEntry (hw : Wired s) (hbridge : s.bridge = true)
    (entryPoints : Option EntryPoints) : Wired (pluginEntry s entryPoints).1 := by
  unfold pluginEntry
  split
  · exact hw
  · dsimp only
    split_ifs
    · exact hw
    · exact hw
    · refine ⟨fun _ => hbridge, fun l hl => ?_, fun q hq hne => ?_, fun q hq huninit => ?_⟩
      · obtain ⟨q, hq, hmem⟩ := hw.known l hl
        exact ⟨q, List.mem_cons_of_mem _ hq, hmem⟩
      · rcases List.mem_cons.1 hq with rfl | hq
        · exact absurd rfl hne
        · exact hw.destroys q hq hne
      · rcases List.mem_cons.1 hq with rfl | hq
        · rfl
        · exact hw.untouched q hq huninit
    · exact ⟨hw.bridged, hw.known, hw.destroys, hw.untouched⟩

theorem wired_pluginInitialize (specs : List ListenerSpec) (hw : Wired s)
    (hs : s.plugins.Perm (p :: rest)) (hempty : p.listeners = []) (create : String → ℕ)
    (mgr : Option Manager) : Wired (pluginInitialize specs s p rest create mgr).1 := by
  have hmem : ∀ q ∈ rest, q ∈ s.plugins := fun q hq => hs.mem_iff.2 (List.mem_cons_of_mem p hq)
  have hbridge : s.bridge = true :=
    hw.bridged (.inl (List.ne_nil_of_mem (hs.mem_iff.2 List.mem_cons_self)))
  -- a listener of before is not the plugin's: it had none
  have hknown : ∀ l ∈ s.listeners, ∃ q ∈ rest, l ∈ q.listeners := by
    intro l hl
    obtain ⟨q, hq, hlq⟩ := hw.known l hl
    rcases List.mem_cons.1 (hs.mem_iff.1 hq) with rfl | hq
    · rw [hempty] at hlq
      exact absurd hlq List.not_mem_nil
    · exact ⟨q, hq, hlq⟩
  cases mgr with
  | none =>
    refine ⟨fun _ => hbridge, fun l hl => ?_, fun q hq hne => ?_, fun q hq huninit => ?_⟩
    · obtain ⟨q, hq, hlq⟩ := hknown l hl
      exact ⟨q, List.mem_cons_of_mem _ hq, hlq⟩
    · rcases List.mem_cons.1 hq with rfl | hq
      · exact absurd hempty hne
      · exact hw.destroys q (hmem q hq) hne
    · rcases List.mem_cons.1 hq with rfl | hq
      · exact hempty
      · exact hw.untouched q (hmem q hq) huninit
  | some mgr =>
    refine ⟨fun _ => hbridge, fun l hl => ?_, fun q hq hne => ?_, fun q hq huninit => ?_⟩
    · rcases List.mem_append.1 hl with hl | hl
      · exact ⟨_, List.mem_cons_self, hl⟩
      · obtain ⟨q, hq, hlq⟩ := hknown l hl
        exact ⟨q, List.mem_cons_of_mem _ hq, hlq⟩
    · rcases List.mem_cons.1 hq with rfl | hq
      · exact mgr.paired ((createListeners_spec mgr create specs s.next 0).2 hne)
      · exact hw.destroys q (hmem q hq) hne
    · rcases List.mem_cons.1 hq with rfl | hq
      · cases huninit
      · exact hw.untouched q (hmem q hq) huninit

/-- `DestroyListener` leaves the manager no listener of the plugin that goes. -/
theorem wired_pluginTerminated (hw : Wired s) (hs : s.plugins.Perm (p :: rest)) (stopped : Bool) :
    Wired (pluginTerminated s p rest stopped).1 := by
  have hp : p ∈ s.plugins := hs.mem_iff.2 List.mem_cons_self
  have hmem : ∀ q ∈ rest, q ∈ s.plugins := fun q hq => hs.mem_iff.2 (List.mem_cons_of_mem p hq)
  refine ⟨fun _ => hw.bridged (.inl (List.ne_nil_of_mem hp)), fun l hl => ?_,
    fun q hq => hw.destroys q (hmem q hq), fun q hq => hw.untouched q (hmem q hq)⟩
  have hleft : l ∈ s.listeners ∧ l ∉ p.listeners := by
    by_cases hd : p.destroys = true
    · simp only [pluginTerminated, if_pos hd] at hl
      simpa using hl
    · simp only [pluginTerminated, if_neg hd] at hl
      have hnone : p.listeners = [] := by
        by_contra hne
        exact hd (hw.destroys p hp hne)
      exact ⟨hl, by rw [hnone]; exact List.not_mem_nil⟩
  obtain ⟨q, hq, hlq⟩ := hw.known l hleft.1
  rcases List.mem_cons.1 (hs.mem_iff.1 hq) with rfl | hq
  · exact absurd hlq hleft.2
  · exact ⟨q, hq, hlq⟩

/-- What the manager can still call is a box somebody owns. -/
theorem Wired.callback_mem (hw : Wired s) {l : Listener} (hl : l ∈ s.listeners) :
    l.callback ∈ s.refs ∧ s.bridge = true := by
  obtain ⟨q, hq, hlq⟩ := hw.known l hl
  refine ⟨?_, hw.bridged (.inl (List.ne_nil_of_mem hq))⟩
  have hblock : l.callback ∈ q.blocks :=
    Multiset.mem_cons_of_mem (Multiset.mem_coe.2 (List.mem_map_of_mem hlq))
  obtain ⟨before, after, hsplit⟩ := List.append_of_mem hq
  have hs : s.plugins.Perm (q :: (before ++ after)) := by
    rw [hsplit]
    exact List.perm_middle
  rw [State.refs, sum_blocks hs]
  simp [hblock]

/-! ## One step -/

/-- A step keeps the wiring and the accounts. -/
def Kept (s t : State) (o : List Seen) : Prop :=
  Wired t ∧ Triple s.refs s.next (o.filterMap Seen.event) t.refs t.next

theorem filterMap_memory (es : List Event) : (es.map Seen.memory).filterMap Seen.event = es := by
  induction es with
  | nil => rfl
  | cons e es ih =>
    rw [List.map_cons, List.filterMap_cons_some (show Seen.event (.memory e) = some e from rfl), ih]

theorem Kept.quiet {s t : State} {es : List Event} (hw : Wired t)
    (ht : Triple s.refs s.next es t.refs t.next) : Kept s t (es.map .memory) :=
  ⟨hw, by rw [filterMap_memory]; exact ht⟩

theorem Kept.answer {s t : State} {es : List Event} {rc : ℕ} (hw : Wired t)
    (ht : Triple s.refs s.next es t.refs t.next) :
    Kept s t (es.map .memory ++ [.returned rc]) := by
  refine ⟨hw, ?_⟩
  rw [List.filterMap_append, filterMap_memory]
  exact (List.append_nil es).symm ▸ ht

/-- The embedder's own calls, and those of `run`. -/
theorem kept_handle {specs : List ListenerSpec} {s t : State} {a : Act} {o : List Seen}
    (hw : Wired s) (hs : step specs s a = some (t, o))
    (ha : a = .clone ∨ a = .drop ∨ (∃ told, a = .call told) ∨ a = .bridgeMade ∨
      a = .bridgeReclaimed) : Kept s t o := by
  rcases ha with rfl | rfl | ⟨told, rfl⟩ | rfl | rfl <;> simp only [step] at hs <;>
    split_ifs at hs with hpos <;> cases hs
  · refine .quiet ⟨hw.bridged, hw.known, hw.destroys, hw.untouched⟩ ?_
    rw [State.refs_eq, State.refs_eq]
    refine (triple_retain (State.owners_pos_of_handles hpos) s.boxes s.next).congr rfl ?_
    rw [State.owners, State.owners, show s.handles + 1 + s.bridge.toNat + s.plugins.length =
      s.handles + s.bridge.toNat + s.plugins.length + 1 by omega]
    rfl
  · refine .quiet ⟨hw.bridged, hw.known, hw.destroys, hw.untouched⟩ ?_
    obtain ⟨n, hn⟩ : ∃ n, s.owners = n + 1 :=
      Nat.exists_eq_add_one.2 (State.owners_pos_of_handles hpos)
    rw [State.refs_eq, State.refs_eq, hn]
    refine (triple_dropShared n s.boxes s.next).congr rfl ?_
    rw [State.owners] at hn
    rw [State.owners, show s.handles - 1 + s.bridge.toNat + s.plugins.length = n by omega]
    rfl
  · have hown := State.owners_pos_of_handles hpos
    refine .quiet hw ?_
    rw [State.refs_eq]
    exact (Triple.access (Multiset.mem_add.2 (.inl (shared_mem_shares hown)))).cons
      (triple_tell hown told _ _)
  · refine .quiet ⟨fun _ => rfl, hw.known, hw.destroys, hw.untouched⟩ ?_
    rw [State.refs_eq, State.refs_eq]
    refine (triple_retain (State.owners_pos_of_handles hpos.1) s.boxes s.next).congr rfl ?_
    rw [State.owners, State.owners, hpos.2, Bool.toNat_true, Bool.toNat_false,
      show s.handles + 1 + s.plugins.length = s.handles + 0 + s.plugins.length + 1 by omega]
    rfl
  · have hplugins : s.plugins = [] := List.isEmpty_iff.1 hpos.2.1
    have hchannels : s.channels = [] := List.isEmpty_iff.1 hpos.2.2
    refine .quiet ⟨fun h => by simp [hplugins, hchannels] at h, hw.known, hw.destroys,
      hw.untouched⟩ ?_
    have hn : s.owners = s.handles + s.plugins.length + 1 := by
      rw [State.owners, hpos.1, Bool.toNat_true]
      omega
    rw [State.refs_eq, State.refs_eq, hn]
    refine (triple_dropShared _ s.boxes s.next).congr rfl ?_
    rw [State.owners, Bool.toNat_false, Nat.add_zero]
    rfl

/-- **Every step keeps the wiring and the accounts.** -/
theorem keeps_accounts {specs : List ListenerSpec} {s t : State} {a : Act} {o : List Seen}
    (hw : Wired s) (hs : step specs s a = some (t, o)) : Kept s t o := by
  cases a with
  | clone => exact kept_handle hw hs (.inl rfl)
  | drop => exact kept_handle hw hs (.inr (.inl rfl))
  | call told => exact kept_handle hw hs (.inr (.inr (.inl ⟨told, rfl⟩)))
  | bridgeMade => exact kept_handle hw hs (.inr (.inr (.inr (.inl rfl))))
  | bridgeReclaimed => exact kept_handle hw hs (.inr (.inr (.inr (.inr rfl))))
  | pluginEntry entryPoints =>
    simp only [step] at hs
    split_ifs at hs with hbridge
    cases hs
    exact .answer (wired_pluginEntry hw hbridge _) (accounts_pluginEntry hbridge _)
  | pluginInitialize block mgr create =>
    simp only [step] at hs
    split at hs
    · cases hs
    · next p hp =>
      cases hs
      have hperm := perm_of_find? hp
      have hempty : p.listeners = [] := by
        have huninit := List.find?_some hp
        simp only [Bool.and_eq_true, Bool.not_eq_true'] at huninit
        exact hw.untouched p (List.mem_of_find?_eq_some hp) huninit.2
      exact .answer (wired_pluginInitialize specs hw hperm hempty create mgr)
        (accounts_pluginInitialize specs hperm hempty create mgr)
  | pluginTerminated block stopped =>
    simp only [step] at hs
    split at hs
    · cases hs
    · next p hp =>
      cases hs
      exact .answer (wired_pluginTerminated hw (perm_of_find? hp) stopped)
        (accounts_pluginTerminated (perm_of_find? hp) stopped)
  | newChannel callback pointers =>
    simp only [step] at hs
    split at hs
    · cases hs
    · next l hl =>
      cases hs
      obtain ⟨hmem, hbridge⟩ := hw.callback_mem (List.mem_of_find?_eq_some hl)
      refine .answer ?_ (accounts_onNewChannelConnection hmem pointers)
      cases pointers
      · exact hw
      · exact ⟨fun _ => hbridge, hw.known, hw.destroys, hw.untouched⟩
  | onOpen callback =>
    simp only [step] at hs
    split at hs
    · cases hs
    · next c hc =>
      cases hs
      have hmem := List.mem_of_find?_eq_some hc
      exact .answer hw (accounts_callback hmem (hw.owners_pos_of_channel hmem) _)
  | onDataReceived callback told =>
    simp only [step] at hs
    split at hs
    · cases hs
    · next c hc =>
      cases hs
      have hmem := List.mem_of_find?_eq_some hc
      exact .answer hw (accounts_callback hmem (hw.owners_pos_of_channel hmem) told)
  | onClose callback stopped =>
    simp only [step] at hs
    split at hs
    · cases hs
    · next c hc =>
      cases hs
      have hperm := perm_of_find? hc
      have hmem := List.mem_of_find?_eq_some hc
      have hbridge := hw.bridged (.inr (List.ne_nil_of_mem hmem))
      exact .answer ⟨fun _ => hbridge, hw.known, hw.destroys, hw.untouched⟩
        (accounts_onClose hperm (hw.owners_pos_of_channel hmem) stopped)

/-! ## Which blocks are counted -/

theorem createListeners_retain (mgr : Manager) (create : String → ℕ) (specs : List ListenerSpec)
    (next b : ℕ) : Event.retain b ∉ (createListeners mgr create next specs).2.1 := by
  induction specs generalizing next with
  | nil => exact List.not_mem_nil
  | cons spec specs ih =>
    rw [createListeners]
    by_cases hrc : (if mgr.createListener = true then create spec.channel
        else CHANNEL_RC_INITIALIZATION_ERROR) = CHANNEL_RC_OK
    · simp [if_pos hrc, ih]
    · simp [if_neg hrc]

@[simp] theorem dropShared_retain (n b : ℕ) : Event.retain b ∉ dropShared n := by
  rw [dropShared]
  split <;> simp

@[simp] theorem tell_retain (told : Bool) (b : ℕ) : Event.retain b ∉ tell told := by
  cases told <;> simp [tell]

/-- Counted references are made to the shared state and to the events object, and
to no box. -/
theorem counted_of_step {specs : List ListenerSpec} {s t : State} {a : Act} {o : List Seen}
    (hs : step specs s a = some (t, o)) {b : ℕ}
    (hb : Seen.memory (.retain b) ∈ o) : b = shared ∨ b = events := by
  cases a with
  | clone | drop | call | bridgeMade | bridgeReclaimed =>
    simp only [step] at hs
    split_ifs at hs
    cases hs
    simp at hb
    try exact .inl hb
  | pluginEntry entryPoints =>
    simp only [step] at hs
    split_ifs at hs
    cases hs
    unfold pluginEntry at hb
    split at hb
    · simp at hb
    · dsimp only at hb
      split_ifs at hb <;> simp at hb
      all_goals exact .inl hb
  | pluginInitialize block mgr create =>
    simp only [step] at hs
    split at hs
    · cases hs
    · cases hs
      cases mgr with
      | none => simp [pluginInitialize] at hb
      | some mgr => simp [pluginInitialize, createListeners_retain] at hb
  | pluginTerminated block stopped =>
    simp only [step] at hs
    split at hs
    · cases hs
    · cases hs
      cases stopped <;> simp [pluginTerminated] at hb <;> exact .inr hb
  | newChannel callback pointers =>
    simp only [step] at hs
    split at hs
    · cases hs
    · cases hs
      cases pointers <;> simp [onNewChannelConnection] at hb
  | onOpen | onDataReceived | onClose =>
    simp only [step] at hs
    split at hs
    · cases hs
    · cases hs
      simp [Dvc.onOpen, Dvc.onDataReceived, Dvc.onClose] at hb

/-! ## Whole runs -/

variable {endpoint : Endpoint} {h : List (Move State Act Seen)}

/-- The heap an endpoint is handed over in. -/
def startHeap : Heap := fun b => if b = shared ∨ b = events then .held 0 else .fresh

theorem accounts_start : Accounts State.start.refs State.start.next startHeap := by
  refine ⟨fun b => ?_, fun b hb => if_neg ?_⟩
  · by_cases h₀ : b = 0
    · subst h₀
      decide
    · by_cases h₁ : b = 1
      · subst h₁
        decide
      · have hrefs : State.start.refs = {0, 1} := by decide
        rw [hrefs, startHeap, if_neg (by simp [shared, events, h₀, h₁])]
        simp [Cell.owners, h₀, h₁]
  · have hge : 2 ≤ b := hb
    simp only [shared, events]
    omega

/-- The wiring holds in every state reached. -/
theorem wired_of_run (hr : (machine endpoint).Run h s) : Wired s :=
  hr.invariant wired_start fun _ _ _ _ hw hs => (keeps_accounts hw hs).1

/-- **Each box is freed once, and none too early.**  Whatever the embedder, the
session and drdynvc do, and in whatever order, no step of a plugin uses or frees one of
the crate's blocks when it is not alive; the owners of every block are those the state
names, one and no more for a box; when the plugins and the channels are gone so are all
their boxes, and when the handles and the bridge have gone too no block is left. -/
theorem boxes_freed_once (hr : (machine endpoint).Run h s) :
    ∃ hp, startHeap.run ((Machine.trace h).filterMap Seen.event) = some hp ∧
      (∀ b, (hp b).owners = s.refs.count b) ∧
      (∀ b, b ≠ shared → b ≠ events → (hp b).owners ≤ 1) ∧
      (s.plugins = [] → s.channels = [] → ∀ b others, hp b = .held others →
        b = shared ∨ b = events) ∧
      (s.owners = 0 → ∀ b others, hp b ≠ .held others) := by
  obtain ⟨hp, hrun, ha⟩ := run_of_triples accounts_start (fun _ _ hr => wired_of_run hr)
    (fun _ _ _ _ hw hs => (keeps_accounts hw hs).2) hr
  have hbare : s.plugins = [] → s.channels = [] → s.refs = shares s.owners := by
    intro hplugins hchannels
    simp [State.refs, hplugins, hchannels, callbacks]
  refine ⟨hp, hrun, ha.owners, fun b hshared hevents => ?_,
    fun hplugins hchannels b others hb => ?_, fun hnone b others hb => ?_⟩
  · refine Heap.owners_le_one (fun hmem => ?_) (by simp [startHeap, hshared, hevents, Cell.owners])
      hrun
    obtain ⟨seen, hseen, hevent⟩ := List.mem_filterMap.1 hmem
    obtain ⟨m, hm, hout⟩ := List.mem_flatMap.1 hseen
    cases seen with
    | returned rc => cases hevent
    | memory e =>
      cases hevent
      rcases counted_of_step (hr.step_of_mem m hm) hout with hb | hb
      · exact hshared hb
      · exact hevents hb
  · have hmem := ha.mem_of_held hb
    rw [hbare hplugins hchannels, shares] at hmem
    rcases Multiset.mem_add.1 hmem with hmem | hmem
    · exact .inl (Multiset.eq_of_mem_replicate hmem)
    · split at hmem
      · exact absurd hmem (Multiset.notMem_zero b)
      · exact .inr (Multiset.mem_singleton.1 hmem)
  · have hw := wired_of_run hr
    rw [State.owners] at hnone
    have hplugins : s.plugins = [] := List.eq_nil_of_length_eq_zero (by omega)
    have hchannels : s.channels = [] := by
      by_contra hne
      rw [hw.bridged (.inr hne), Bool.toNat_true] at hnone
      omega
    have hmem := ha.mem_of_held hb
    rw [hbare hplugins hchannels, State.owners, hnone] at hmem
    exact absurd hmem (Multiset.notMem_zero b)

/-- A whole session of a camera whose second listener is refused. -/
def refusedListener : List Act :=
  [.bridgeMade, .pluginEntry (some ⟨some false, true, some CHANNEL_RC_OK⟩),
    .pluginInitialize 2 (some ⟨true, true, fun _ => rfl⟩)
      (fun channel => if channel = "RustCam_0" then 1 else CHANNEL_RC_OK),
    .newChannel 3 true, .onOpen 5, .pluginTerminated 2 true, .onClose 5 false, .drop,
    .bridgeReclaimed]

theorem boxes_freed_once_refused :
    ∃ h s hp, (machine .rdpecam).Run h s ∧
      startHeap.run ((Machine.trace h).filterMap Seen.event) = some hp ∧ s.owners = 0 ∧
      ∀ b others, hp b ≠ .held others := by
  have hrun := (machine .rdpecam).run_get refusedListener (by decide)
  obtain ⟨hp, hheap, -, -, -, hnone⟩ := boxes_freed_once hrun
  have hzero : (((machine .rdpecam).exec refusedListener).get (by decide)).2.owners = 0 := by
    decide
  exact ⟨_, _, hp, hrun, hheap, hzero, hnone hzero⟩

end Dvc
end FreerdpPrebuilt
