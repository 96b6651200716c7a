import IgnoreRules.Watch
import IgnoreRules.Proofs.Notify
import Mathlib.Data.Set.Basic

/-!
# Deferring changes loses none of them

A change handler (watchdog_monitor.py:53–132) either applies each change of an event at once or
defers it: a deferred change moves to the end of the pending changes, so that each distinct
change waits once, in the place of its last occurrence, until its timer expires or the handler is
flushed. For the same events, and whichever timers expire among them, flushing a deferring
handler ends with the same rule sets registered as applying every change at once, versions aside
(`flush_after_expiries_agrees_with_immediate`; with no timer expiring, `flush_agrees_with_immediate`
also says that the manager is untouched until the flush).

Notifications are local and idempotent (`notifyFileChanged_updates`, `settled_settled`), so a run
that starts from `m₀` is described by the set of ids it has notified: each of them holds what
notifying settles on, every other id what it held in `m₀` (`Tracks`). A change adds the ids it
notifies. For a directory these depend on what is registered below it; but an id whose entry
differs from the one in `m₀` has been notified already, so a change adds the same ids to the set,
whenever it comes (`Tracks.union_dirIds`). The set at the end of a run is then the union, over
its changes, of the ids each notifies from `m₀` (`Manager.touchedAll`): neither the order of the
changes nor their repetitions matter. A deferring handler keeps the ids notified so far together
with those of its pending changes equal to those of the changes that came (`DeferredRun`): an
event adds its changes to both sides, and an expiry moves a change from the pending ones to the
notified ones. The flush then applies each change still pending.
-/

namespace IgnoreRules

namespace Manager

variable {m₀ m m' : Manager} {N : Set String}

/-- The ids named by a list of paths. -/
def idsOf (m : Manager) (paths : List String) : Set String :=
  {q | ∃ p ∈ paths, (m.absolute p).toString = q}

/-- The ids a change notifies when applied to `m`. -/
def touched (m : Manager) : Change → Set String
  | (path, false) => {(m.absolute path).toString}
  | (dir, true) => m.idsOf (m.dirIds dir)

/-- The ids a list of changes notifies from `m`, each change applied to `m`. -/
def touchedAll (m : Manager) (cs : List Change) : Set String := {q | ∃ c ∈ cs, q ∈ m.touched c}

@[simp] theorem idsOf_nil (m : Manager) : m.idsOf [] = ∅ := by
  simp [idsOf]

theorem idsOf_cons (m : Manager) (p : String) (paths : List String) :
    m.idsOf (p :: paths) = insert (m.absolute p).toString (m.idsOf paths) := by
  ext q
  simp [idsOf, eq_comm]

@[simp] theorem touchedAll_nil (m : Manager) : m.touchedAll [] = ∅ := by
  simp [touchedAll]

theorem touchedAll_cons (m : Manager) (c : Change) (cs : List Change) :
    m.touchedAll (c :: cs) = m.touched c ∪ m.touchedAll cs := by
  ext q
  simp [touchedAll]

theorem touchedAll_append (m : Manager) (cs cs' : List Change) :
    m.touchedAll (cs ++ cs') = m.touchedAll cs ∪ m.touchedAll cs' := by
  ext q
  simp only [touchedAll, List.mem_append, Set.mem_ofPred_eq, Set.mem_union]
  constructor
  · rintro ⟨c, hc | hc, hq⟩
    exacts [Or.inl ⟨c, hc, hq⟩, Or.inr ⟨c, hc, hq⟩]
  · rintro (⟨c, hc, hq⟩ | ⟨c, hc, hq⟩)
    exacts [⟨c, Or.inl hc, hq⟩, ⟨c, Or.inr hc, hq⟩]

/-- Only which changes come matters, not their order or repetitions. -/
theorem touchedAll_congr (m : Manager) {cs cs' : List Change} (h : ∀ c, c ∈ cs ↔ c ∈ cs') :
    m.touchedAll cs = m.touchedAll cs' := by
  ext q
  simp only [touchedAll, Set.mem_ofPred_eq, h]

/-- `m` is `m₀` with exactly the ids of `N` notified: each of them holds what notifying settles
on, every other id what it held in `m₀`. -/
structure Tracks (m₀ : Manager) (N : Set String) (m : Manager) : Prop where
  setup : SameSetup m₀ m
  ids : ∀ q ∈ N, (m₀.absolute q).toString = q
  entry_mem : ∀ q ∈ N, m.registry.entry q = m₀.settled q (m₀.registry.entry q)
  entry_not_mem : ∀ q ∉ N, m.registry.entry q = m₀.registry.entry q

theorem Tracks.start (m₀ : Manager) : Tracks m₀ ∅ m₀ :=
  ⟨.refl m₀, fun _ h => absurd h (Set.notMem_empty _), fun _ h => absurd h (Set.notMem_empty _),
    fun _ _ => rfl⟩

theorem Tracks.congr {N' : Set String} (ht : Tracks m₀ N m) (hN : N = N') : Tracks m₀ N' m :=
  hN ▸ ht

/-- Two runs from one manager that notified the same ids hold the same rule sets. -/
theorem Tracks.entry_eq (h₁ : Tracks m₀ N m) (h₂ : Tracks m₀ N m') (q : String) :
    m.registry.entry q = m'.registry.entry q := by
  by_cases hq : q ∈ N
  · rw [h₁.entry_mem q hq, h₂.entry_mem q hq]
  · rw [h₁.entry_not_mem q hq, h₂.entry_not_mem q hq]

section Runs

variable (h : m₀.WellRooted)
include h

/-- One notification adds its id to the notified ones. -/
theorem Tracks.notify (ht : Tracks m₀ N m) (path : String) :
    Tracks m₀ (insert (m₀.absolute path).toString N) ((notifyFileChanged path).run m).2 := by
  have hu := notifyFileChanged_updates (h.of_sameSetup ht.setup) path
  rw [ht.setup.absolute, ht.setup.settled] at hu
  -- notifying an id again settles on what the first notification left
  have hself : ((notifyFileChanged path).run m).2.registry.entry (m₀.absolute path).toString =
      m₀.settled (m₀.absolute path).toString (m₀.registry.entry (m₀.absolute path).toString) := by
    rw [hu.entry_self]
    by_cases hN : (m₀.absolute path).toString ∈ N
    · rw [ht.entry_mem _ hN, settled_settled]
    · rw [ht.entry_not_mem _ hN]
  refine ⟨ht.setup.trans hu.setup, ?_, ?_, ?_⟩
  · rintro q (rfl | hq)
    · exact h.absolute_id path
    · exact ht.ids q hq
  · rintro q (rfl | hq)
    · exact hself
    · by_cases hq' : q = (m₀.absolute path).toString
      · exact hq' ▸ hself
      · rw [hu.entry_other q hq', ht.entry_mem q hq]
  · intro q hq
    rw [hu.entry_other q (fun he => hq (he ▸ Set.mem_insert _ _)),
      ht.entry_not_mem q (fun hm => hq (Set.mem_insert_of_mem _ hm))]

/-- Notifying paths one by one adds their ids. -/
theorem Tracks.forM : ∀ (paths : List String) {N : Set String} {m : Manager}, Tracks m₀ N m →
    Tracks m₀ (N ∪ m₀.idsOf paths) ((paths.forM notifyFileChanged).run m).2
  | [], N, m, ht => ht.congr (by simp)
  | p :: paths, N, m, ht => by
    have hrest := Tracks.forM paths (ht.notify h p)
    refine hrest.congr ?_
    rw [idsOf_cons, Set.union_insert, Set.insert_union]

end Runs

/-- Between a tracked state and the start, only notified ids can differ in whether a directory
notification checks them. -/
theorem Tracks.mem_dirIds_iff (ht : Tracks m₀ N m) (dir : String) {q : String} (hq : q ∉ N) :
    q ∈ m.dirIds dir ↔ q ∈ m₀.dirIds dir := by
  simp only [dirIds, List.mem_eraseDups, List.mem_append, mem_loadedBelow,
    ht.setup.absolute, ht.setup.presentBelow, ht.entry_not_mem q hq]

/-- Adding to the notified ids those of a list of paths, only the paths outside them count. -/
theorem union_idsOf_subset {A B : List String} (hids : ∀ q ∈ N, (m₀.absolute q).toString = q)
    (hAB : ∀ q ∉ N, q ∈ A → q ∈ B) : N ∪ m₀.idsOf A ⊆ N ∪ m₀.idsOf B := by
  rintro q (hq | ⟨p, hp, rfl⟩)
  · exact Or.inl hq
  · by_cases hpN : p ∈ N
    · exact Or.inl ((hids p hpN).symm ▸ hpN)
    · exact Or.inr ⟨p, hAB p hpN hp, rfl⟩

/-- A directory notification adds the same ids whenever it comes. -/
theorem Tracks.union_dirIds (ht : Tracks m₀ N m) (dir : String) :
    N ∪ m₀.idsOf (m.dirIds dir) = N ∪ m₀.idsOf (m₀.dirIds dir) :=
  Set.Subset.antisymm
    (union_idsOf_subset ht.ids fun _ hq => (ht.mem_dirIds_iff dir hq).mp)
    (union_idsOf_subset ht.ids fun _ hq => (ht.mem_dirIds_iff dir hq).mpr)

theorem SameSetup.changesOf (hs : SameSetup m m') : ChangeHandler.changesOf m' = ChangeHandler.changesOf m := by
  funext e
  simp only [ChangeHandler.changesOf, hs.isRuleFile]

end Manager

namespace ChangeHandler

/-- Handles events in order, as a watcher delivers them. -/
def dispatchAll (hd : ChangeHandler) : List FsEvent → StateM Manager (List String × ChangeHandler)
  | [] => pure ([], hd)
  | e :: rest => do
    let (checked, hd) ← hd.dispatch e
    let (more, hd) ← dispatchAll hd rest
    pure (checked ++ more, hd)

/-- What reaches a handler: an event from the watcher, or the expiry of a change's timer. -/
inductive Input where
  | event (e : FsEvent)
  | expiry (c : Change)

/-- The event an input carries, if any. -/
def Input.event? : Input → Option FsEvent
  | .event e => some e
  | .expiry _ => none

@[simp] theorem Input.filterMap_event?_map_event (events : List FsEvent) :
    (events.map Input.event).filterMap Input.event? = events := by
  induction events with
  | nil => rfl
  | cons e events ih => simp [Input.event?, ih]

/-- Handles one input. -/
def step (hd : ChangeHandler) : Input → StateM Manager (List String × ChangeHandler)
  | .event e => hd.dispatch e
  | .expiry c => hd.expire c

/-- Handles inputs in order, as the watcher and the timers deliver them. -/
def runAll (hd : ChangeHandler) : List Input → StateM Manager (List String × ChangeHandler)
  | [] => pure ([], hd)
  | i :: rest => do
    let (checked, hd) ← hd.step i
    let (more, hd) ← runAll hd rest
    pure (checked ++ more, hd)

/-- Events alone, with no timer expiring among them, are dispatched one by one. -/
theorem runAll_map_event : ∀ (hd : ChangeHandler) (events : List FsEvent),
    hd.runAll (events.map Input.event) = hd.dispatchAll events
  | _, [] => rfl
  | hd, e :: events => by
    simp only [List.map_cons, runAll, dispatchAll, step, runAll_map_event _ events]

/-- Where a deferred change goes: to the end of the pending changes, out of its earlier place. -/
def defer (pending : List Change) (c : Change) : List Change := pending.filter (· != c) ++ [c]

theorem mem_defer {pending : List Change} {c x : Change} :
    x ∈ defer pending c ↔ x ∈ pending ∨ x = c := by
  simp only [defer, List.mem_append, List.mem_filter, List.mem_singleton, bne_iff_ne, ne_eq]
  by_cases hx : x = c <;> simp [hx]

theorem nodup_defer {pending : List Change} (h : pending.Nodup) (c : Change) :
    (defer pending c).Nodup := by
  refine List.nodup_append.mpr ⟨h.filter _, List.nodup_singleton c, ?_⟩
  intro x hx y hy hxy
  rw [List.mem_singleton] at hy
  subst hy hxy
  simp at hx

/-- The pending changes after deferring some are those pending before and those deferred. -/
theorem mem_foldl_defer {x : Change} :
    ∀ {cs pending : List Change}, x ∈ cs.foldl defer pending ↔ x ∈ pending ∨ x ∈ cs
  | [], _ => by simp
  | c :: cs, pending => by
    rw [List.foldl_cons, mem_foldl_defer, mem_defer, List.mem_cons]
    tauto

/-- Deferring never makes a change wait twice. -/
theorem nodup_foldl_defer : ∀ {cs pending : List Change}, pending.Nodup →
    (cs.foldl defer pending).Nodup
  | [], _, h => h
  | c :: cs, pending, h => @nodup_foldl_defer cs (defer pending c) (nodup_defer h c)

theorem run_scheduleAll_cons (hd : ChangeHandler) (c : Change) (cs : List Change) (m : Manager) :
    ((hd.scheduleAll (c :: cs)).run m).2 =
        ((((hd.schedule c).run m).1.2.scheduleAll cs).run ((hd.schedule c).run m).2).2 ∧
      ((hd.scheduleAll (c :: cs)).run m).1.2 =
        ((((hd.schedule c).run m).1.2.scheduleAll cs).run ((hd.schedule c).run m).2).1.2 :=
  ⟨rfl, rfl⟩

theorem run_dispatchAll_cons (hd : ChangeHandler) (e : FsEvent) (events : List FsEvent)
    (m : Manager) :
    ((hd.dispatchAll (e :: events)).run m).2 =
        ((((hd.dispatch e).run m).1.2.dispatchAll events).run ((hd.dispatch e).run m).2).2 ∧
      ((hd.dispatchAll (e :: events)).run m).1.2 =
        ((((hd.dispatch e).run m).1.2.dispatchAll events).run ((hd.dispatch e).run m).2).1.2 :=
  ⟨rfl, rfl⟩

theorem run_dispatch (hd : ChangeHandler) (e : FsEvent) (m : Manager) :
    (hd.dispatch e).run m = (hd.scheduleAll (changesOf m e)).run m := rfl

theorem run_runAll_cons (hd : ChangeHandler) (i : Input) (inputs : List Input) (m : Manager) :
    ((hd.runAll (i :: inputs)).run m).2 =
        ((((hd.step i).run m).1.2.runAll inputs).run ((hd.step i).run m).2).2 ∧
      ((hd.runAll (i :: inputs)).run m).1.2 =
        ((((hd.step i).run m).1.2.runAll inputs).run ((hd.step i).run m).2).1.2 :=
  ⟨rfl, rfl⟩

/-- An expiring pending change is applied and leaves the pending ones. -/
theorem run_expire_of_mem {hd : ChangeHandler} {c : Change} (hc : c ∈ hd.pending) (m : Manager) :
    ((hd.expire c).run m).2 = ((apply c).run m).2 ∧
      ((hd.expire c).run m).1.2 = { hd with pending := hd.pending.erase c } := by
  simp only [expire, if_pos hc]
  exact ⟨rfl, rfl⟩

/-- A change that is not pending has no timer: its expiry changes nothing. -/
theorem run_expire_of_not_mem {hd : ChangeHandler} {c : Change} (hc : c ∉ hd.pending)
    (m : Manager) : (hd.expire c).run m = (([], hd), m) := by
  simp only [expire, if_neg hc]
  rfl

theorem run_mapM_apply_cons (c : Change) (cs : List Change) (m : Manager) :
    (((c :: cs).mapM apply).run m).2 = ((cs.mapM apply).run ((apply c).run m).2).2 := by
  simp only [List.mapM_cons, StateT.run_bind, bind_pure_comp, StateT.run_map]
  rfl

theorem run_schedule_immediate {hd : ChangeHandler} (hdef : hd.deferred = false) (c : Change)
    (m : Manager) : ((hd.schedule c).run m).2 = ((apply c).run m).2 ∧ ((hd.schedule c).run m).1.2 = hd := by
  simp only [schedule, hdef, Bool.false_eq_true, if_false]
  exact ⟨rfl, rfl⟩

/-- A deferring handler changes nothing but its pending changes. -/
theorem run_scheduleAll_deferred : ∀ (cs : List Change) (hd : ChangeHandler),
    hd.deferred = true → ∀ m : Manager,
      ((hd.scheduleAll cs).run m).2 = m ∧
      ((hd.scheduleAll cs).run m).1.2 = { hd with pending := cs.foldl defer hd.pending }
  | [], _, _, _ => ⟨rfl, rfl⟩
  | c :: cs, hd, hdef, m => by
    have hs : ((hd.schedule c).run m).2 = m ∧
        ((hd.schedule c).run m).1.2 = { hd with pending := defer hd.pending c } := by
      simp only [schedule, hdef, if_true]
      exact ⟨rfl, rfl⟩
    rw [(run_scheduleAll_cons hd c cs m).1, (run_scheduleAll_cons hd c cs m).2, hs.1, hs.2]
    exact run_scheduleAll_deferred cs { hd with pending := defer hd.pending c } hdef m

theorem run_dispatchAll_deferred : ∀ (events : List FsEvent) (hd : ChangeHandler),
    hd.deferred = true → ∀ m : Manager,
      ((hd.dispatchAll events).run m).2 = m ∧
      ((hd.dispatchAll events).run m).1.2 =
        { hd with pending := (events.flatMap (changesOf m)).foldl defer hd.pending }
  | [], _, _, _ => ⟨rfl, rfl⟩
  | e :: events, hd, hdef, m => by
    obtain ⟨hstate, hhandler⟩ := run_scheduleAll_deferred (changesOf m e) hd hdef m
    rw [(run_dispatchAll_cons hd e events m).1, (run_dispatchAll_cons hd e events m).2,
      run_dispatch, hstate, hhandler, List.flatMap_cons, List.foldl_append]
    exact run_dispatchAll_deferred events
      { hd with pending := (changesOf m e).foldl defer hd.pending } hdef m

end ChangeHandler

namespace Manager

open ChangeHandler

variable {m₀ m : Manager} {N : Set String}

/-- A deferring handler part way through a run from `m₀`, given the changes `cs` of the events
so far: its pending changes are distinct changes of `cs`, and the ids notified so far together
with those its pending changes notify are the ids the changes of `cs` notify. -/
structure DeferredRun (m₀ : Manager) (cs : List Change) (hd : ChangeHandler) (m : Manager) :
    Prop where
  deferred : hd.deferred = true
  nodup : hd.pending.Nodup
  pending_sub : ∀ c ∈ hd.pending, c ∈ cs
  tracks : ∃ N, Tracks m₀ N m ∧ N ∪ m₀.touchedAll hd.pending = m₀.touchedAll cs

theorem DeferredRun.start (m₀ : Manager) : DeferredRun m₀ [] ⟨true, []⟩ m₀ :=
  ⟨rfl, List.nodup_nil, fun _ hc => hc, ∅, Tracks.start m₀, by simp⟩

/-- An event defers its changes: the manager stays as it is. -/
theorem DeferredRun.dispatch {cs : List Change} {hd : ChangeHandler}
    (hr : DeferredRun m₀ cs hd m) (e : FsEvent) :
    DeferredRun m₀ (cs ++ changesOf m₀ e) ((hd.dispatch e).run m).1.2 ((hd.dispatch e).run m).2 := by
  obtain ⟨N, ht, hN⟩ := hr.tracks
  obtain ⟨hstate, hhandler⟩ := run_scheduleAll_deferred (changesOf m₀ e) hd hr.deferred m
  rw [run_dispatch, ht.setup.changesOf, hstate, hhandler]
  refine ⟨hr.deferred, nodup_foldl_defer hr.nodup, fun c hc => ?_, N, ht, ?_⟩
  · rcases mem_foldl_defer.mp hc with hc | hc
    · exact List.mem_append_left _ (hr.pending_sub c hc)
    · exact List.mem_append_right _ hc
  · rw [touchedAll_congr m₀ fun _ => mem_foldl_defer.trans List.mem_append.symm,
      touchedAll_append, touchedAll_append, ← Set.union_assoc, hN]

section Runs

variable (h : m₀.WellRooted)
include h

/-- A change applied to a tracked state adds the ids it notifies from the start. -/
theorem Tracks.apply (ht : Tracks m₀ N m) :
    ∀ c : Change, Tracks m₀ (N ∪ m₀.touched c) ((ChangeHandler.apply c).run m).2
  | (path, false) => by
    rw [touched, Set.union_singleton]
    exact ht.notify h path
  | (dir, true) => by
    show Tracks m₀ _ (((m.dirIds dir).forM notifyFileChanged).run m).2
    rw [touched, ← ht.union_dirIds dir]
    exact ht.forM h _

/-- Applying changes one by one adds the ids each notifies from the start. -/
theorem Tracks.mapM_apply : ∀ (cs : List Change) {N : Set String} {m : Manager},
    Tracks m₀ N m → Tracks m₀ (N ∪ m₀.touchedAll cs) ((cs.mapM ChangeHandler.apply).run m).2
  | [], _, _, ht => ht.congr (by simp)
  | c :: cs, _, m, ht => by
    rw [run_mapM_apply_cons]
    exact (Tracks.mapM_apply cs (ht.apply h c)).congr (by rw [touchedAll_cons, Set.union_assoc])

/-- A handler that applies at once applies the changes as they come. -/
theorem Tracks.scheduleAll {hd : ChangeHandler} (hdef : hd.deferred = false) :
    ∀ (cs : List Change) {N : Set String} {m : Manager}, Tracks m₀ N m →
      ((hd.scheduleAll cs).run m).1.2 = hd ∧
      Tracks m₀ (N ∪ m₀.touchedAll cs) ((hd.scheduleAll cs).run m).2
  | [], _, _, ht => ⟨rfl, ht.congr (by simp)⟩
  | c :: cs, _, m, ht => by
    obtain ⟨hstate, hhandler⟩ := run_schedule_immediate hdef c m
    have hc : Tracks m₀ (_ ∪ m₀.touched c) ((hd.schedule c).run m).2 := hstate ▸ ht.apply h c
    rw [(run_scheduleAll_cons hd c cs m).1, (run_scheduleAll_cons hd c cs m).2, hhandler]
    obtain ⟨hrest, ht'⟩ := Tracks.scheduleAll hdef cs hc
    exact ⟨hrest, ht'.congr (by rw [touchedAll_cons, Set.union_assoc])⟩

/-- A handler that applies at once, given events, applies the changes of each as they come. -/
theorem Tracks.dispatchAll {hd : ChangeHandler} (hdef : hd.deferred = false) :
    ∀ (events : List FsEvent) {N : Set String} {m : Manager}, Tracks m₀ N m →
      ((hd.dispatchAll events).run m).1.2 = hd ∧
      Tracks m₀ (N ∪ m₀.touchedAll (events.flatMap (changesOf m₀)))
        ((hd.dispatchAll events).run m).2
  | [], _, _, ht => ⟨rfl, ht.congr (by simp)⟩
  | e :: events, _, m, ht => by
    -- the changes of an event depend on the setup alone
    have hdisp : (hd.dispatch e).run m = (hd.scheduleAll (changesOf m₀ e)).run m := by
      rw [run_dispatch, ht.setup.changesOf]
    obtain ⟨hh, ht₁⟩ := Tracks.scheduleAll h hdef (changesOf m₀ e) ht
    rw [(run_dispatchAll_cons hd e events m).1, (run_dispatchAll_cons hd e events m).2, hdisp, hh]
    obtain ⟨hh₂, ht₂⟩ := Tracks.dispatchAll hdef events ht₁
    exact ⟨hh₂, ht₂.congr (by rw [List.flatMap_cons, touchedAll_append, Set.union_assoc])⟩


/-- An expiring change moves from the pending changes to the notified ids. -/
theorem DeferredRun.expire {cs : List Change} {hd : ChangeHandler}
    (hr : DeferredRun m₀ cs hd m) (c : Change) :
    DeferredRun m₀ cs ((hd.expire c).run m).1.2 ((hd.expire c).run m).2 := by
  by_cases hc : c ∈ hd.pending
  · obtain ⟨hstate, hhandler⟩ := run_expire_of_mem hc m
    obtain ⟨N, ht, hN⟩ := hr.tracks
    rw [hstate, hhandler]
    refine ⟨hr.deferred, hr.nodup.erase c, fun x hx => hr.pending_sub x (List.mem_of_mem_erase hx),
      N ∪ m₀.touched c, ht.apply h c, ?_⟩
    rw [← hN, Set.union_assoc, ← touchedAll_cons,
      touchedAll_congr m₀ fun _ => (List.perm_cons_erase hc).mem_iff.symm]
  · rw [run_expire_of_not_mem hc m]
    exact hr

/-- One input adds the changes of the event it carries, if any. -/
theorem DeferredRun.step {cs : List Change} {hd : ChangeHandler} (hr : DeferredRun m₀ cs hd m) :
    ∀ i : Input, DeferredRun m₀ (cs ++ i.event?.toList.flatMap (changesOf m₀))
      ((hd.step i).run m).1.2 ((hd.step i).run m).2
  | .event e => by
    rw [show (Input.event e).event?.toList.flatMap (changesOf m₀) = changesOf m₀ e by
      simp [Input.event?]]
    exact hr.dispatch e
  | .expiry c => by
    rw [show (Input.expiry c).event?.toList.flatMap (changesOf m₀) = [] from rfl, List.append_nil]
    exact hr.expire h c

/-- A run adds the changes of the events it carries. -/
theorem DeferredRun.runAll : ∀ (inputs : List Input) {cs : List Change} {hd : ChangeHandler}
    {m : Manager}, DeferredRun m₀ cs hd m →
      DeferredRun m₀ (cs ++ (inputs.filterMap Input.event?).flatMap (changesOf m₀))
        ((hd.runAll inputs).run m).1.2 ((hd.runAll inputs).run m).2
  | [], _, _, _, hr => by
    rw [List.filterMap_nil, List.flatMap_nil, List.append_nil]
    exact hr
  | i :: inputs, cs, hd, m, hr => by
    have hcs : cs ++ ((i :: inputs).filterMap Input.event?).flatMap (changesOf m₀) =
        (cs ++ i.event?.toList.flatMap (changesOf m₀)) ++
          (inputs.filterMap Input.event?).flatMap (changesOf m₀) := by
      cases i <;> simp [Input.event?, List.filterMap_cons]
    rw [(run_runAll_cons hd i inputs m).1, (run_runAll_cons hd i inputs m).2, hcs]
    exact DeferredRun.runAll inputs (hr.step h i)

end Runs

end Manager

open Manager ChangeHandler in
/-- For any events delivered to a manager whose root is canonical and absolute, and any timers
expiring among them, a deferring handler holds each pending change once, each a change of the
events; the flush leaves nothing pending, and the rule sets registered afterwards are those a
handler applying every change at once leaves, for every id, versions aside. -/
theorem flush_after_expiries_agrees_with_immediate (m : Manager) (hroot : m.WellRooted)
    (inputs : List Input) :
    let events := inputs.filterMap Input.event?
    let immediate := ((ChangeHandler.mk false []).dispatchAll events).run m
    let deferred := ((ChangeHandler.mk true []).runAll inputs).run m
    let flushed := deferred.1.2.flush.run deferred.2
    deferred.1.2.pending.Nodup ∧
    (∀ c ∈ deferred.1.2.pending, c ∈ events.flatMap (changesOf m)) ∧
    flushed.1.2.pending = [] ∧
    ∀ id, flushed.2.registry.entry id = immediate.2.registry.entry id := by
  intro events immediate deferred flushed
  have hrun := DeferredRun.runAll hroot inputs (DeferredRun.start m)
  rw [List.nil_append] at hrun
  obtain ⟨N, ht, hN⟩ := hrun.tracks
  -- the flush applies the pending changes, which completes the notified ids
  have hflushed : Tracks m (N ∪ m.touchedAll deferred.1.2.pending) flushed.2 :=
    Tracks.mapM_apply hroot deferred.1.2.pending ht
  have himmediate := (Tracks.dispatchAll hroot
    (rfl : (ChangeHandler.mk false []).deferred = false) events (Tracks.start m)).2
  refine ⟨hrun.nodup, hrun.pending_sub, rfl, fun id => hflushed.entry_eq (himmediate.congr ?_) id⟩
  rw [Set.empty_union, hN]

open Manager ChangeHandler in
/-- For any events delivered to a manager whose root is canonical and absolute, a deferring
handler leaves the manager alone until flushed and then holds each distinct change of the events
pending exactly once; the flush applies them all and leaves nothing pending; and the rule sets
registered afterwards are those a handler applying every change at once leaves, for every id,
versions aside. -/
theorem flush_agrees_with_immediate (m : Manager) (hroot : m.WellRooted)
    (events : List FsEvent) :
    let immediate := ((ChangeHandler.mk false []).dispatchAll events).run m
    let deferred := ((ChangeHandler.mk true []).dispatchAll events).run m
    let flushed := deferred.1.2.flush.run deferred.2
    deferred.2 = m ∧
    deferred.1.2.pending.Nodup ∧
    (∀ c, c ∈ deferred.1.2.pending ↔ c ∈ events.flatMap (changesOf m)) ∧
    flushed.1.2.pending = [] ∧
    ∀ id, flushed.2.registry.entry id = immediate.2.registry.entry id := by
  intro immediate deferred flushed
  obtain ⟨hstate, hpending⟩ := run_dispatchAll_deferred events ⟨true, []⟩ rfl m
  have hmem : ∀ c, c ∈ deferred.1.2.pending ↔ c ∈ events.flatMap (changesOf m) := by
    intro c
    rw [hpending, mem_foldl_defer]
    simp
  -- with no timer expiring before the flush, the run is that of the events alone
  obtain ⟨hnodup, -, hflushed, hentries⟩ :=
    flush_after_expiries_agrees_with_immediate m hroot (events.map Input.event)
  simp only [Input.filterMap_event?_map_event, runAll_map_event] at hnodup hflushed hentries
  exact ⟨hstate, hnodup, hmem, hflushed, hentries⟩

open Manager ChangeHandler in
/-- A rule file reported modified twice around a created directory, in a workspace at `/repo`. -/
theorem flush_agrees_with_immediate_repo :
    let m := Manager.create ⟨"/", ["repo"]⟩ Config.standard
      ⟨[".gitignore"], .memory [("/repo/.gitignore", "*.log\n")] []⟩ FileTree.empty false 0
    let events : List FsEvent :=
      [⟨.modified, "/repo/.gitignore", "", false⟩, ⟨.created, "/repo/sub", "", true⟩,
        ⟨.modified, "/repo/.gitignore", "", false⟩]
    let immediate := ((ChangeHandler.mk false []).dispatchAll events).run m
    let deferred := ((ChangeHandler.mk true []).dispatchAll events).run m
    let flushed := deferred.1.2.flush.run deferred.2
    m.WellRooted ∧ deferred.2 = m ∧ deferred.1.2.pending.Nodup ∧
      (∀ c, c ∈ deferred.1.2.pending ↔ c ∈ events.flatMap (changesOf m)) ∧
      flushed.1.2.pending = [] ∧
      ∀ id, flushed.2.registry.entry id = immediate.2.registry.entry id :=
  have hcanonical : PosixPath.Canonical ⟨"/", ["repo"]⟩ :=
    ⟨Or.inr (Or.inl rfl), by simp, by simp, by simp⟩
  have hroot : (Manager.create ⟨"/", ["repo"]⟩ Config.standard
      ⟨[".gitignore"], .memory [("/repo/.gitignore", "*.log\n")] []⟩ FileTree.empty false 0).WellRooted :=
    ⟨hcanonical, rfl⟩
  ⟨hroot, flush_agrees_with_immediate _ hroot _⟩

end IgnoreRules
