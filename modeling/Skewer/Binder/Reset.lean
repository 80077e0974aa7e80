import Skewer.Binder.Resources

/-!
# What `reset` and `closeconn` close

`reset` closes the command goroutine's listeners and sends the handler the
empty UID, whose two branches close every connection and every packet socket,
each with the file duplicated from it. While the command goroutine runs, every
file in `connfiles` is kept under the UID of a connection or a packet socket the
handler still holds (`FilesOwned`): `closeconn` deletes a file with what it
was duplicated from, and so does each pass of a loop over a table. So `reset`
closes exactly what the binder's tables hold, and leaves every table empty;
`closeconn` closes what the handler holds under its UID, and, with no UID,
everything the handler holds.
-/

namespace Skewer.Binder

open Skewer.Go

namespace BinderOne

/--
While the command goroutine runs, each file in `connfiles` is under the UID of
a connection or a packet socket the handler holds.
-/
def FilesOwned (s : BinderOne) : Prop :=
  s.command ≠ .done →
    ∀ key ∈ s.connfiles.keys, key ∈ s.connections.keys ∨ key ∈ s.packetconnections.keys

variable {s t : BinderOne}

theorem FilesOwned.of_eq (owned : s.FilesOwned) (files : t.connfiles = s.connfiles)
    (conns : t.connections = s.connections) (packets : t.packetconnections = s.packetconnections)
    (running : t.command ≠ .done → s.command ≠ .done) : t.FilesOwned := by
  intro live
  rw [files, conns, packets]
  exact owned (running live)

theorem FilesOwned.record (owned : s.FilesOwned) (packet : Bool) (uid addr : Bytes) (id : Nat)
    (duplicated : Bool) : (s.record packet uid addr id duplicated).FilesOwned := by
  cases duplicated
  · exact owned
  intro live key mem
  cases packet
  all_goals rcases HashMap.mem_keys_set.1 mem with rfl | old
  · exact .inl (HashMap.mem_keys_set.2 (.inl rfl))
  · exact (owned live key old).imp_left fun conn => HashMap.mem_keys_set.2 (.inr conn)
  · exact .inr (HashMap.mem_keys_set.2 (.inl rfl))
  · exact (owned live key old).imp_right fun socket => HashMap.mem_keys_set.2 (.inr socket)

theorem closeUid_command (s : BinderOne) (packet : Bool) (uid : Bytes) :
    (s.closeUid packet uid).command = s.command := by
  cases hf : s.connfiles.get? uid <;> simp only [BinderOne.closeUid, hf] <;> split <;>
    (try split) <;> rfl

theorem FilesOwned.closeUid (owned : s.FilesOwned) (packet : Bool) (uid : Bytes) :
    (s.closeUid packet uid).FilesOwned := by
  intro live key mem
  rw [closeUid_connfiles, HashMap.mem_keys_del] at mem
  rw [closeUid_connections, closeUid_packetconnections]
  have held := owned (closeUid_command s packet uid ▸ live) key mem.1
  cases packet <;> simpa [HashMap.mem_keys_del, mem.2] using held

theorem FilesOwned.closeEvery (owned : s.FilesOwned) (packet : Bool) :
    (s.closeEvery packet).FilesOwned := by
  obtain ⟨s', loop, closeEvery⟩ := closesEntries_closeEvery s packet
  rw [closeEvery]
  intro live key mem
  cases packet
  all_goals
    obtain ⟨e, kept, rfl⟩ := List.mem_map.1 mem
    have dropped := loop.dropped e kept
    have held := owned (by simpa [loop.command] using live) _
      ((loop.files.map Prod.fst).subset (List.mem_map_of_mem Prod.fst kept))
    simp only [Bool.false_eq_true, if_false, if_true] at dropped
  · exact .inr (by simpa [loop.packets, dropped] using held)
  · exact .inl (by simpa [loop.connections, dropped] using held)

theorem FilesOwned.handleClose (owned : s.FilesOwned) (packet : Bool) (uid : Bytes) :
    (s.handleClose packet uid).FilesOwned := by
  unfold BinderOne.handleClose
  split_ifs
  exacts [owned.closeEvery packet, owned.closeUid packet uid]

theorem FilesOwned.reset (owned : s.FilesOwned) : s.reset.FilesOwned := by
  simp only [BinderOne.reset, foldl_closeRes, handleClose_nil]
  apply FilesOwned.closeEvery
  apply FilesOwned.closeEvery
  exact owned.of_eq rfl rfl rfl id

theorem FilesOwned.stopListen (owned : s.FilesOwned) (addr : Bytes) :
    (s.stopListen addr).FilesOwned := by
  unfold BinderOne.stopListen
  split
  · exact owned.of_eq rfl rfl rfl id
  · exact owned.of_eq rfl rfl rfl id

theorem FilesOwned.dispatch (owned : s.FilesOwned) (running : s.command ≠ .done)
    (command args : Bytes) : (s.dispatch command args).FilesOwned := by
  unfold BinderOne.dispatch
  split_ifs
  · exact owned.of_eq rfl rfl rfl fun _ => running
  · exact (owned.handleClose false args).handleClose true args
  · exact owned.stopListen args
  · exact owned.reset
  · exact fun live => absurd rfl live
  · exact owned

theorem FilesOwned.listenOne (owned : s.FilesOwned) {addr : Bytes} {bound confirmed duplicated : Bool}
    (h : s.listenOne addr bound confirmed duplicated = .ok t) : t.FilesOwned := by
  rcases listenOne_cases h with rfl | ⟨type, rfl⟩ | ⟨type, rfl⟩ | rfl
  · exact owned.of_eq rfl rfl rfl id
  · exact owned.of_eq rfl rfl rfl id
  · exact owned.of_eq rfl rfl rfl id
  · apply FilesOwned.record
    exact owned.of_eq rfl rfl rfl id

theorem filesOwned_initial (lines : List Bytes) : (BinderOne.initial lines).FilesOwned :=
  fun _ key mem => absurd mem (List.not_mem_nil key)

/-! ## The `reset` loops, exactly -/

/--
What the handler's `reset` loop has closed once through the entries `L`: the
resource of each entry and each file under one of their keys. The other files
stay in `connfiles`.
-/
structure ClosesHeld (L : HashMap Bytes Nat) (s t : BinderOne) : Prop where
  closed : ∀ e ∈ t.opened, (∀ p ∈ L, p.2 ≠ e.1) ∧ ∀ p ∈ s.connfiles, p.1 ∈ L.keys → p.2 ≠ e.1
  kept : ∀ p ∈ s.connfiles, p.1 ∉ L.keys → p ∈ t.connfiles

/-- One pass of the loop closes the entry's resource and the one file under its key. -/
theorem ClosesHeld.closeEntry (t : BinderOne) (entry : Bytes × Nat) (keys : t.connfiles.keys.Nodup) :
    ClosesHeld [entry] t
      (match (t.closeRes entry.2).connfiles.get? entry.1 with
        | some f => { (t.closeRes entry.2).closeRes f with
            connfiles := (t.closeRes entry.2).connfiles.del entry.1 }
        | none => t.closeRes entry.2) := by
  have under : ∀ p ∈ t.connfiles, p.1 ∈ HashMap.keys [entry] → t.connfiles.get? entry.1 = some p.2 := by
    rintro ⟨key, f⟩ mem same
    simp only [HashMap.keys, List.map_cons, List.map_nil, List.mem_singleton] at same
    exact HashMap.get?_of_mem keys (same ▸ mem)
  have entry_ne : ∀ e : Nat × Kind, e.1 ≠ entry.2 → ∀ p ∈ [entry], p.2 ≠ e.1 :=
    fun e ne p held => List.mem_singleton.1 held ▸ ne.symm
  split
  · rename_i f hf
    refine ⟨fun e mem => ?_, fun p mem out => HashMap.mem_del.2 ⟨mem, ?_⟩⟩
    · simp only [mem_closeRes] at mem
      refine ⟨entry_ne e mem.1.2, fun p held found => ?_⟩
      rw [Option.some.inj ((under p held found).symm.trans hf)]
      exact mem.2.symm
    · simpa [HashMap.keys] using out
  · rename_i hf
    refine ⟨fun e mem => ⟨entry_ne e (mem_closeRes.1 mem).2, fun p held found => ?_⟩,
      fun p mem _ => mem⟩
    exact Option.noConfusion ((under p held found).symm.trans hf)

/-- The loop, by induction over the table: `connfiles` keeps unique keys from one pass to the next. -/
theorem ClosesHeld.foldl {body : BinderOne → Bytes × Nat → BinderOne}
    (entries : ∀ s entry, ClosesEntries [entry] s (body s entry))
    (step : ∀ s entry, s.connfiles.keys.Nodup → ClosesHeld [entry] s (body s entry)) :
    ∀ (L : HashMap Bytes Nat) (s : BinderOne), s.connfiles.keys.Nodup →
      ClosesHeld L s (L.foldl body s)
  | [], _, _ => ⟨fun _ _ => ⟨fun _ => nofun, fun _ _ => nofun⟩, fun _ mem _ => mem⟩
  | entry :: L, s, keys =>
      let first := step s entry keys
      let rest := ClosesHeld.foldl entries step L (body s entry)
        (keys.sublist ((entries s entry).files.map Prod.fst))
      let sub := (ClosesEntries.foldl entries L (body s entry)).sublist
      { closed := fun e mem => by
          have before := first.closed e (sub.subset mem)
          have after := rest.closed e mem
          refine ⟨fun p held => ?_, fun p held found => ?_⟩
          · rcases List.mem_cons.1 held with rfl | held
            · exact before.1 p (List.mem_singleton_self _)
            · exact after.1 p held
          · by_cases here : p.1 = entry.1
            · exact before.2 p held (by simp [HashMap.keys, here])
            · exact after.2 p (first.kept p held (by simp [HashMap.keys, here]))
                (by simpa [HashMap.keys, here] using found)
        kept := fun p mem out => by
          simp only [HashMap.keys, List.map_cons, List.mem_cons, not_or] at out
          exact rest.kept p (first.kept p mem (by simpa [HashMap.keys] using out.1)) out.2 }

/-- The handler's `reset` loop over one table, described by both structures. -/
theorem closesHeld_closeEvery (s : BinderOne) (packet : Bool) (keys : s.connfiles.keys.Nodup) :
    ∃ s', ClosesEntries (if packet then s.packetconnections else s.connections) s s' ∧
      ClosesHeld (if packet then s.packetconnections else s.connections) s s' ∧
      s.closeEvery packet =
        if packet then { s' with packetconnections := [] } else { s' with connections := [] } :=
  ⟨_, ClosesEntries.foldl ClosesEntries.closeEntry _ s,
    ClosesHeld.foldl ClosesEntries.closeEntry ClosesHeld.closeEntry _ s keys, rfl⟩

theorem closeEvery_listeners (s : BinderOne) (packet : Bool) :
    (s.closeEvery packet).listeners = s.listeners := by
  obtain ⟨s', loop, closeEvery⟩ := closesEntries_closeEvery s packet
  rw [closeEvery]
  cases packet <;> exact loop.listeners

theorem closeEvery_connections (s : BinderOne) (packet : Bool) :
    (s.closeEvery packet).connections = if packet then s.connections else [] := by
  obtain ⟨s', loop, closeEvery⟩ := closesEntries_closeEvery s packet
  rw [closeEvery]
  cases packet
  · rfl
  · exact loop.connections

theorem closeEvery_packetconnections (s : BinderOne) (packet : Bool) :
    (s.closeEvery packet).packetconnections = if packet then [] else s.packetconnections := by
  obtain ⟨s', loop, closeEvery⟩ := closesEntries_closeEvery s packet
  rw [closeEvery]
  cases packet
  · exact loop.packets
  · rfl

theorem closeEvery_keys (keys : s.connfiles.keys.Nodup) (packet : Bool) :
    (s.closeEvery packet).connfiles.keys.Nodup := by
  obtain ⟨s', loop, closeEvery⟩ := closesEntries_closeEvery s packet
  rw [closeEvery]
  cases packet <;> exact keys.sublist (loop.files.map Prod.fst)

/--
The handler's `reset` branch closes the resource of every entry of its table and
every file under one of their keys, and nothing else.
-/
theorem mem_closeEvery_opened (keys : s.connfiles.keys.Nodup) (packet : Bool) {e : Nat × Kind} :
    e ∈ (s.closeEvery packet).opened ↔ e ∈ s.opened ∧
      (∀ p ∈ (if packet then s.packetconnections else s.connections), p.2 ≠ e.1) ∧
      ∀ p ∈ s.connfiles,
        p.1 ∈ (if packet then s.packetconnections else s.connections).keys → p.2 ≠ e.1 := by
  obtain ⟨s', loop, held, closeEvery⟩ := closesHeld_closeEvery s packet keys
  have opened : (s.closeEvery packet).opened = s'.opened := by rw [closeEvery]; cases packet <;> rfl
  rw [opened]
  refine ⟨fun mem => ⟨loop.sublist.subset mem, held.closed e mem⟩, fun ⟨mem, entries, files⟩ => ?_⟩
  by_contra gone
  rcases loop.closed e mem gone with ⟨key, found⟩ | ⟨key, found, file⟩
  · exact entries _ found rfl
  · exact files _ file found rfl

/-- It drops from `connfiles` exactly the files under the table's keys. -/
theorem mem_closeEvery_connfiles (keys : s.connfiles.keys.Nodup) (packet : Bool)
    {p : Bytes × Nat} : p ∈ (s.closeEvery packet).connfiles ↔
      p ∈ s.connfiles ∧ p.1 ∉ (if packet then s.packetconnections else s.connections).keys := by
  obtain ⟨s', loop, held, closeEvery⟩ := closesHeld_closeEvery s packet keys
  have files : (s.closeEvery packet).connfiles = s'.connfiles := by rw [closeEvery]; cases packet <;> rfl
  rw [files]
  exact ⟨fun mem => ⟨loop.files.subset mem, loop.dropped p mem⟩, fun ⟨mem, out⟩ => held.kept p mem out⟩

/-- The handler's two `reset` branches, one after the other. -/
theorem mem_closeEvery_both (keys : s.connfiles.keys.Nodup) {e : Nat × Kind} :
    e ∈ ((s.closeEvery false).closeEvery true).opened ↔ e ∈ s.opened ∧
      (∀ p ∈ s.connections, p.2 ≠ e.1) ∧ (∀ p ∈ s.packetconnections, p.2 ≠ e.1) ∧
      ∀ p ∈ s.connfiles, p.1 ∈ s.connections.keys ∨ p.1 ∈ s.packetconnections.keys → p.2 ≠ e.1 := by
  rw [mem_closeEvery_opened (closeEvery_keys keys false), mem_closeEvery_opened keys,
    closeEvery_packetconnections]
  simp only [if_true, if_false, Bool.false_eq_true, mem_closeEvery_connfiles keys, and_imp]
  constructor
  · rintro ⟨⟨mem, conns, connFiles⟩, packets, packetFiles⟩
    refine ⟨mem, conns, packets, fun p file under => ?_⟩
    by_cases conn : p.1 ∈ s.connections.keys
    · exact connFiles p file conn
    · exact packetFiles p file conn (under.resolve_left conn)
  · rintro ⟨mem, conns, packets, files⟩
    exact ⟨⟨mem, conns, fun p file conn => files p file (.inl conn)⟩, packets,
      fun p file _ packet => files p file (.inr packet)⟩

theorem mem_closeEvery_both_connfiles (keys : s.connfiles.keys.Nodup) {p : Bytes × Nat} :
    p ∈ ((s.closeEvery false).closeEvery true).connfiles ↔
      p ∈ s.connfiles ∧ p.1 ∉ s.connections.keys ∧ p.1 ∉ s.packetconnections.keys := by
  rw [mem_closeEvery_connfiles (closeEvery_keys keys false), mem_closeEvery_connfiles keys,
    closeEvery_packetconnections]
  simp only [if_true, if_false, Bool.false_eq_true, and_assoc]

/--
`reset` closes every listener, every connection and packet socket, and every
file under the UID of one of them, and nothing else.
-/
theorem mem_reset_opened (keys : s.connfiles.keys.Nodup) {e : Nat × Kind} :
    e ∈ s.reset.opened ↔ e ∈ s.opened ∧ (∀ p ∈ s.listeners, p.2 ≠ e.1) ∧
      (∀ p ∈ s.connections, p.2 ≠ e.1) ∧ (∀ p ∈ s.packetconnections, p.2 ≠ e.1) ∧
      ∀ p ∈ s.connfiles, p.1 ∈ s.connections.keys ∨ p.1 ∈ s.packetconnections.keys → p.2 ≠ e.1 := by
  simp only [BinderOne.reset, foldl_closeRes, handleClose_nil]
  rw [mem_closeEvery_both]
  · simp only [List.mem_filter, decide_eq_true_eq, List.mem_map, not_exists, not_and, ne_eq,
      and_assoc]
  · exact keys

/-- While the command goroutine runs, `reset` leaves every table empty. -/
theorem reset_table (keys : s.connfiles.keys.Nodup) (owned : s.FilesOwned)
    (running : s.command ≠ .done) (x : Table) : s.reset.table x = [] := by
  simp only [BinderOne.reset, foldl_closeRes, handleClose_nil]
  cases x
  case listeners => simp [table, closeEvery_listeners]
  case connections => simp [table, closeEvery_connections]
  case packets => simp [table, closeEvery_packetconnections]
  case files =>
    refine List.eq_nil_iff_forall_not_mem.2 fun p mem => ?_
    simp only [table] at mem
    rw [mem_closeEvery_both_connfiles] at mem
    · obtain ⟨file, conn, packet⟩ := mem
      exact (owned running p.1 (List.mem_map_of_mem _ file)).elim conn packet
    · exact keys

/-- While the command goroutine runs, no table holds `id` when none of the four maps has it. -/
theorem not_holds_iff (running : s.command ≠ .done) {id : Nat} :
    ¬ s.Holds id ↔ (∀ p ∈ s.listeners, p.2 ≠ id) ∧ (∀ p ∈ s.connections, p.2 ≠ id) ∧
      (∀ p ∈ s.packetconnections, p.2 ≠ id) ∧ ∀ p ∈ s.connfiles, p.2 ≠ id := by
  have listeners : s.table .listeners = s.listeners := if_neg running
  simp only [Holds, not_exists, not_and]
  constructor
  · intro free
    exact ⟨listeners ▸ free .listeners, free .connections, free .packets, free .files⟩
  · rintro ⟨held, conns, packets, files⟩ x
    cases x
    exacts [listeners ▸ held, conns, packets, files]

theorem dispatch_reset (s : BinderOne) (args : Bytes) :
    s.dispatch (ascii "reset") args = s.reset := by
  rw [dispatch, if_neg (by decide), if_neg (by decide), if_neg (by decide), if_pos rfl]

end BinderOne

open BinderOne

theorem BinderStep.filesOwned {s t : BinderOne} (owned : s.FilesOwned) (step : BinderStep s t) :
    t.FilesOwned := by
  cases step with
  | line line rest _ scanning =>
      split
      · apply FilesOwned.dispatch
        · exact owned.of_eq rfl rfl rfl id
        · simp [scanning]
      · exact owned.of_eq rfl rfl rfl id
  | endOfStream => exact fun live => absurd rfl live
  | listenOne addr rest _ listening =>
      split
      · apply FilesOwned.listenOne _ ‹_›
        exact owned.of_eq rfl rfl rfl fun _ => by simp [listening]
      · exact owned.of_eq rfl rfl rfl id
  | listenDone _ listening => exact owned.of_eq rfl rfl rfl fun _ => by simp [listening]
  | accept =>
      split
      · apply FilesOwned.record
        exact owned.of_eq rfl rfl rfl id
      · exact owned.of_eq rfl rfl rfl id
  | handlerEnd _ done =>
      rw [foldl_closeRes]
      exact fun live => absurd done live
  | acceptError | listenerEnd => exact owned.of_eq rfl rfl rfl id

theorem BinderReachable.filesOwned {lines : List Bytes} {s : BinderOne}
    (reach : BinderReachable lines s) : s.FilesOwned := by
  induction reach with
  | refl => exact filesOwned_initial lines
  | tail _ step owned => exact step.filesOwned owned

/--
`reset` closes exactly what the binder's tables hold, and empties them: every
listener, every connection and packet socket, and every file duplicated from
one. Every other resource stays open.
-/
theorem binder_reset_closes_exactly_held {lines : List Bytes} {s : BinderOne}
    (reach : BinderReachable lines s) (running : s.command ≠ .done) (args : Bytes) :
    (∀ x, (s.dispatch (ascii "reset") args).table x = []) ∧
      ∀ e ∈ s.opened, e ∉ (s.dispatch (ascii "reset") args).opened ↔ s.Holds e.1 := by
  have keys := reach.tracked.keys .files
  have owned := reach.filesOwned
  rw [dispatch_reset]
  refine ⟨reset_table keys owned running, fun e mem => ?_⟩
  have files : (∀ p ∈ s.connfiles,
      p.1 ∈ s.connections.keys ∨ p.1 ∈ s.packetconnections.keys → p.2 ≠ e.1) ↔
      ∀ p ∈ s.connfiles, p.2 ≠ e.1 :=
    ⟨fun free p file => free p file (owned running p.1 (List.mem_map_of_mem _ file)),
      fun free p file _ => free p file⟩
  rw [not_iff_comm, not_holds_iff running, mem_reset_opened keys, files]
  exact (and_iff_right mem).symm

/-- After a `listen` and an accepted connection, `reset` closes the listener, the connection and its file. -/
theorem binder_reset_closes_exactly_held_accepted :
    ∃ s, BinderReachable [ascii "listen tcp:127.0.0.1:0"] s ∧ s.command ≠ .done ∧
      (∀ x, (s.dispatch (ascii "reset") []).table x = []) ∧
        ∀ e ∈ s.opened, e ∉ (s.dispatch (ascii "reset") []).opened ↔ s.Holds e.1 :=
  let run : BinderReachable [ascii "listen tcp:127.0.0.1:0"] _ :=
    .tail (.tail (.tail (.tail .refl (.line _ _ [] rfl rfl rfl))
      (.listenOne _ (ascii "tcp:127.0.0.1:0") [] rfl (by decide) true true true))
      (.listenDone _ rfl rfl))
      (.accept _ 0 (ascii "tcp:127.0.0.1:0") .tcpListener rfl rfl (by decide) true)
  ⟨_, run, by decide, binder_reset_closes_exactly_held run (by decide) []⟩

/-- No table holds `id` under any key when its entries name other resources. -/
theorem forall_ne_iff {L : HashMap Bytes Nat} {id : Nat} :
    (∀ p ∈ L, p.2 ≠ id) ↔ ∀ key, (key, id) ∉ L :=
  ⟨fun free _ held => free _ held rfl, fun free p held same => free p.1 (same ▸ held)⟩

/--
`closeconn uid` closes exactly what the handler holds under `uid`: the
connection and the packet socket kept under it, and the file duplicated from
it. With no argument, `uid` is empty, and the handler's branches for the
empty UID close everything it holds under any UID. Every other resource stays
open.
-/
theorem binder_closeconn_closes_exactly {lines : List Bytes} {s : BinderOne}
    (reach : BinderReachable lines s) (running : s.command ≠ .done) (uid : Bytes)
    {e : Nat × Kind} (mem : e ∈ s.opened) :
    e ∉ (s.dispatch (ascii "closeconn") uid).opened ↔
      ∃ key, (uid = [] ∨ key = uid) ∧
        ((key, e.1) ∈ s.connections ∨ (key, e.1) ∈ s.packetconnections ∨
          (key, e.1) ∈ s.connfiles) := by
  have tr := reach.tracked
  rw [dispatch_closeconn]
  by_cases empty : uid = []
  · have owned := reach.filesOwned
    have files : (∀ p ∈ s.connfiles,
        p.1 ∈ s.connections.keys ∨ p.1 ∈ s.packetconnections.keys → p.2 ≠ e.1) ↔
        ∀ p ∈ s.connfiles, p.2 ≠ e.1 :=
      ⟨fun free p file => free p file (owned running p.1 (List.mem_map_of_mem _ file)),
        fun free p file _ => free p file⟩
    rw [empty, handleClose_nil, handleClose_nil, mem_closeEvery_both (tr.keys .files), files,
      forall_ne_iff, forall_ne_iff, forall_ne_iff]
    simp only [mem, true_or, true_and, not_and_or, not_forall, not_not, exists_or]
  · rw [handleClose, if_neg empty, handleClose, if_neg empty,
      closeUid_opened (Keeps.closeUid tr false uid).tracked, closeUid_opened tr,
      closeUid_packetconnections, closeUid_connfiles]
    simp [mem, HashMap.mem_del, empty]
    tauto

/-- With no argument, `closeconn` closes the accepted connection and its file, but not the listener. -/
theorem binder_closeconn_closes_exactly_empty :
    ∃ s e, BinderReachable [ascii "listen tcp:127.0.0.1:0"] s ∧ s.command ≠ .done ∧
      e ∈ s.opened ∧
      (e ∉ (s.dispatch (ascii "closeconn") []).opened ↔
        ∃ key, ([] = ([] : Bytes) ∨ key = []) ∧
          ((key, e.1) ∈ s.connections ∨ (key, e.1) ∈ s.packetconnections ∨
            (key, e.1) ∈ s.connfiles)) :=
  let run : BinderReachable [ascii "listen tcp:127.0.0.1:0"] _ :=
    .tail (.tail (.tail (.tail .refl (.line _ _ [] rfl rfl rfl))
      (.listenOne _ (ascii "tcp:127.0.0.1:0") [] rfl (by decide) true true true))
      (.listenDone _ rfl rfl))
      (.accept _ 0 (ascii "tcp:127.0.0.1:0") .tcpListener rfl rfl (by decide) true)
  ⟨_, (1, .conn (ascii "tcp:127.0.0.1:0")), run, by decide, by decide,
    binder_closeconn_closes_exactly run (by decide) [] (by decide)⟩

end Skewer.Binder
