import Mathlib.Data.List.Nodup
import Skewer.Binder.Server

/-!
# What the binder keeps open

The handler's `connections`, `packetconnections` and `connfiles` hold
resources that are open and of the table's kind, each under the key its table
keeps it under; the command goroutine's `listeners` holds listeners under their
addresses, which an `Accept` error may have closed (`Tracked`). Every step
keeps this, closes only what a table holds or a listener, and puts in a table
only what one held already or what it has just opened (`Keeps`).

Two facts about whole runs follow. No step of the binder closes a connection or
packet socket that no table holds, as when `conn.File()` fails. Once the
command goroutine has returned, no step closes a connection or a file: only the
packet sockets and the listeners are closed.
-/

namespace Skewer.Binder

open Skewer.Go

/-- The binder's tables: `listeners`, `connections`, `packetconnections` and `connfiles`. -/
inductive Table where
  | listeners
  | connections
  | packets
  | files
  deriving DecidableEq, Repr

namespace Table

/-- Whether a table holds resources of a kind. -/
def holds : Table → Kind → Bool
  | listeners, .listener _ _ | connections, .conn _ | packets, .packet _ | files, .file => true
  | _, _ => false

/--
The key a table keeps the resource `id` of kind `k` under: a listener's
address, the UID of a connection or packet socket, and for a file the UID of
the resource it was duplicated from, numbered just before it.
-/
def keyOf : Table → Nat → Kind → Bytes
  | listeners, _, .listener addr _ => addr
  | files, id, _ => itoa (id - 1)
  | _, id, _ => itoa id

theorem eq_of_holds {x y : Table} {k : Kind} (hx : x.holds k) (hy : y.holds k) : x = y := by
  cases k <;> cases x <;> cases hx <;> cases y <;> cases hy <;> rfl

end Table

namespace BinderOne

/-- The tables as the binder has them: the command goroutine's `listeners` go with it. -/
def table (s : BinderOne) : Table → HashMap Bytes Nat
  | .listeners => if s.command = .done then [] else s.listeners
  | .connections => s.connections
  | .packets => s.packetconnections
  | .files => s.connfiles

/-- Some table holds the resource `id`. -/
def Holds (s : BinderOne) (id : Nat) : Prop := ∃ x, ∃ e ∈ s.table x, e.2 = id

variable {s t u : BinderOne}

@[simp] theorem table_write (s : BinderOne) (reply : Reply) : (s.write reply).table = s.table := rfl

@[simp] theorem table_openRes (s : BinderOne) (kind : Kind) : (s.openRes kind).table = s.table :=
  rfl

@[simp] theorem table_closeRes (s : BinderOne) (id : Nat) : (s.closeRes id).table = s.table := rfl

@[simp] theorem mem_openRes {kind : Kind} {e : Nat × Kind} :
    e ∈ (s.openRes kind).opened ↔ e ∈ s.opened ∨ e = (s.next, kind) := by
  simp [openRes]

/-- What `openRes` opens is numbered from `s.next` on. -/
theorem openRes_added {kind : Kind} {e : Nat × Kind} (mem : e ∈ (s.openRes kind).opened) :
    e ∈ s.opened ∨ s.next ≤ e.1 :=
  (mem_openRes.1 mem).imp_right fun new => Nat.le_of_eq (congrArg Prod.fst new).symm

@[simp] theorem mem_closeRes {id : Nat} {e : Nat × Kind} :
    e ∈ (s.closeRes id).opened ↔ e ∈ s.opened ∧ e.1 ≠ id := by
  simp [closeRes]

@[simp] theorem record_false (packet : Bool) (uid addr : Bytes) (id : Nat) :
    s.record packet uid addr id false = s := rfl

@[simp] theorem command_record (packet : Bool) (uid addr : Bytes) (id : Nat) :
    (s.record packet uid addr id true).command = s.command := by
  cases packet <;> rfl

@[simp] theorem next_record (packet : Bool) (uid addr : Bytes) (id : Nat) :
    (s.record packet uid addr id true).next = s.next + 1 := by
  cases packet <;> rfl

@[simp] theorem mem_record {packet : Bool} {uid addr : Bytes} {id : Nat} {e : Nat × Kind} :
    e ∈ (s.record packet uid addr id true).opened ↔ e ∈ s.opened ∨ e = (s.next, .file) := by
  cases packet <;> exact mem_openRes

/-- `record` keeps the file under `uid`, and the connection or packet socket `id`. -/
theorem table_record (packet : Bool) (uid addr : Bytes) (id : Nat) (x : Table) :
    (s.record packet uid addr id true).table x =
      if x = .files then (s.table x).set uid s.next
      else if x = (if packet then .packets else .connections) then (s.table x).set uid id
      else s.table x := by
  cases x <;> cases packet <;> rfl

/-! ## Numbering -/

/-- The open resources are numbered apart, below `next`. -/
structure Numbered (s : BinderOne) : Prop where
  below : ∀ e ∈ s.opened, e.1 < s.next
  apart : (s.opened.map Prod.fst).Nodup

theorem Numbered.kind_eq (n : s.Numbered) {id : Nat} {k k' : Kind} (mem : (id, k) ∈ s.opened)
    (mem' : (id, k') ∈ s.opened) : k = k' :=
  congrArg Prod.snd (List.inj_on_of_nodup_map n.apart mem mem' rfl)

theorem Numbered.sublist (n : s.Numbered) (sub : t.opened.Sublist s.opened)
    (next : s.next ≤ t.next) : t.Numbered :=
  ⟨fun e mem => Nat.lt_of_lt_of_le (n.below e (sub.subset mem)) next,
    (sub.map Prod.fst).nodup n.apart⟩

theorem Numbered.openRes (n : s.Numbered) (kind : Kind) : (s.openRes kind).Numbered := by
  refine ⟨fun e mem => ?_, ?_⟩
  · rcases mem_openRes.1 mem with old | rfl
    · exact Nat.lt_succ_of_lt (n.below e old)
    · exact Nat.lt_succ_self _
  · simp only [BinderOne.openRes, List.map_append, List.map_cons, List.map_nil]
    refine n.apart.append (List.nodup_singleton _) (List.disjoint_singleton.2 fun mem => ?_)
    obtain ⟨e, mem, fresh⟩ := List.mem_map.1 mem
    exact Nat.ne_of_lt (n.below e mem) fresh

theorem Numbered.record (n : s.Numbered) (packet : Bool) (uid addr : Bytes) (id : Nat) :
    (s.record packet uid addr id true).Numbered := by
  cases packet <;> exact ⟨(n.openRes .file).below, (n.openRes .file).apart⟩

/-! ## The tables -/

/--
Each table has each key once. Each entry names a resource numbered before
`next` which, while it is open, is of the table's kind under the table's key,
and each entry of the handler's tables names an open resource. An entry of
`listeners` may name a listener that an `Accept` error has closed.
-/
structure Tracked (s : BinderOne) extends Numbered s : Prop where
  keys : ∀ x, (s.table x).keys.Nodup
  named : ∀ x, ∀ e ∈ s.table x, e.2 < s.next ∧
    ∀ k, (e.2, k) ∈ s.opened → x.holds k ∧ e.1 = x.keyOf e.2 k
  live : ∀ x, x ≠ .listeners → ∀ e ∈ s.table x, ∃ k, (e.2, k) ∈ s.opened

theorem Tracked.kind (tr : s.Tracked) {x : Table} {e : Bytes × Nat} (mem : e ∈ s.table x)
    {k : Kind} (opened : (e.2, k) ∈ s.opened) : x.holds k ∧ e.1 = x.keyOf e.2 k :=
  (tr.named x e mem).2 k opened

/-- An entry of the handler's tables names an open resource of the table's kind, under its key. -/
theorem Tracked.held (tr : s.Tracked) {x : Table} (handler : x ≠ .listeners) {e : Bytes × Nat}
    (mem : e ∈ s.table x) : ∃ k, (e.2, k) ∈ s.opened ∧ x.holds k ∧ e.1 = x.keyOf e.2 k :=
  let ⟨k, opened⟩ := tr.live x handler e mem
  ⟨k, opened, tr.kind mem opened⟩

/-- An open resource is held by one table, under one key. -/
theorem Tracked.table_inj (tr : s.Tracked) {x y : Table} {e e' : Bytes × Nat}
    (mem : e ∈ s.table x) (mem' : e' ∈ s.table y) (same : e.2 = e'.2) {k : Kind}
    (opened : (e.2, k) ∈ s.opened) : x = y ∧ e.1 = e'.1 := by
  obtain ⟨holds, key⟩ := tr.kind mem opened
  obtain ⟨holds', key'⟩ := tr.kind mem' (by rw [← same]; exact opened)
  obtain rfl := Table.eq_of_holds holds holds'
  rw [same] at key
  exact ⟨rfl, key.trans key'.symm⟩

/-! ## What a step does -/

/--
What a step does to the resources, from a state where `Tracked` holds: it keeps
`Tracked`, closes only what a table holds or a listener, and puts in a table
only what one held already or what is numbered from `s.next` on.
-/
structure Keeps (s t : BinderOne) : Prop where
  tracked : t.Tracked
  next_le : s.next ≤ t.next
  closes : ∀ e ∈ s.opened, e ∉ t.opened → s.Holds e.1 ∨ ∃ addr type, e.2 = .listener addr type
  fresh : ∀ x, ∀ e ∈ t.table x, e ∈ s.table x ∨ s.next ≤ e.2

theorem Keeps.trans (tr : s.Tracked) (first : Keeps s t) (second : t.Tracked → Keeps t u) :
    Keeps s u :=
  let second := second first.tracked
  { tracked := second.tracked
    next_le := first.next_le.trans second.next_le
    closes := fun e mem gone => by
      by_cases kept : e ∈ t.opened
      · rcases second.closes e kept gone with ⟨x, e', held, same⟩ | listener
        · rcases first.fresh x e' held with old | new
          · exact .inl ⟨x, e', old, same⟩
          · exact absurd (tr.below e mem) (Nat.not_lt.2 (same ▸ new))
        · exact .inr listener
      · exact first.closes e mem kept
    fresh := fun x e mem => (second.fresh x e mem).elim (first.fresh x e)
      fun new => .inr (first.next_le.trans new) }

/-- A step that drops entries, and closes only resources held by an entry it drops. -/
theorem Keeps.shrink (tr : s.Tracked) (sub : t.opened.Sublist s.opened) (next : s.next ≤ t.next)
    (tables : ∀ x, (t.table x).Sublist (s.table x))
    (closed : ∀ e ∈ s.opened, e ∉ t.opened →
      ∃ x key, (key, e.1) ∈ s.table x ∧ ∀ e' ∈ t.table x, e'.1 ≠ key) :
    Keeps s t where
  tracked := by
    refine ⟨tr.sublist sub next, fun x => ((tables x).map Prod.fst).nodup (tr.keys x),
      fun x e mem => ?_, fun x handler e mem => ?_⟩
    · have named := tr.named x e ((tables x).subset mem)
      exact ⟨Nat.lt_of_lt_of_le named.1 next, fun k opened => named.2 k (sub.subset opened)⟩
    have old := (tables x).subset mem
    obtain ⟨k, opened, -⟩ := tr.held handler old
    refine ⟨k, ?_⟩
    by_contra gone
    obtain ⟨y, key', held, dropped⟩ := closed _ opened gone
    obtain ⟨rfl, same⟩ := tr.table_inj old held rfl opened
    exact dropped e mem same
  next_le := next
  closes e mem gone :=
    let ⟨x, _, held, _⟩ := closed e mem gone
    .inl ⟨x, _, held, rfl⟩
  fresh x e mem := .inl ((tables x).subset mem)

/-- A step that leaves the resources alone, and may drop a table. -/
theorem Keeps.same (tr : s.Tracked) (opened : t.opened = s.opened) (next : t.next = s.next)
    (tables : ∀ x, (t.table x).Sublist (s.table x)) : Keeps s t :=
  Keeps.shrink tr (opened ▸ List.Sublist.refl _) (next ▸ Nat.le_refl _) tables
    fun _ mem gone => absurd (opened ▸ mem) gone

/-- A step that opens resources, numbered from `s.next` on, and puts only them in tables. -/
theorem Keeps.grow (tr : s.Tracked) (numbered : t.Numbered) (next : s.next ≤ t.next)
    (opened : ∀ e ∈ s.opened, e ∈ t.opened) (added : ∀ e ∈ t.opened, e ∈ s.opened ∨ s.next ≤ e.1)
    (keys : ∀ x, (t.table x).keys.Nodup)
    (tables : ∀ x, ∀ e ∈ t.table x, e ∈ s.table x ∨
      s.next ≤ e.2 ∧ ∃ k, (e.2, k) ∈ t.opened ∧ x.holds k ∧ e.1 = x.keyOf e.2 k) :
    Keeps s t where
  tracked := by
    refine ⟨numbered, keys, fun x e mem => ?_, fun x handler e mem => ?_⟩
    · rcases tables x e mem with old | ⟨-, k, o, holds, key⟩
      · have named := tr.named x e old
        refine ⟨Nat.lt_of_lt_of_le named.1 next, fun k o => named.2 k ?_⟩
        exact (added _ o).resolve_right (Nat.not_le.2 named.1)
      · refine ⟨numbered.below _ o, fun k' o' => ?_⟩
        obtain rfl := numbered.kind_eq o' o
        exact ⟨holds, key⟩
    · rcases tables x e mem with old | ⟨-, k, o, -⟩
      · obtain ⟨k, o, -⟩ := tr.held handler old
        exact ⟨k, opened _ o⟩
      · exact ⟨k, o⟩
  next_le := next
  closes e mem gone := absurd (opened e mem) gone
  fresh x e mem := (tables x e mem).imp_right And.left

/-- Closing the resource `id` that the entry `(key, id)` of table `x` holds, and dropping the entry. -/
theorem Keeps.delete (tr : s.Tracked) (x : Table) {key : Bytes} {id : Nat}
    (held : (key, id) ∈ s.table x) (opened : t.opened = (s.closeRes id).opened)
    (next : t.next = s.next)
    (tables : ∀ y, t.table y = if y = x then (s.table x).del key else s.table y) : Keeps s t := by
  refine Keeps.shrink tr (opened ▸ List.filter_sublist _) (next ▸ Nat.le_refl _)
    (fun y => ?_) fun e mem gone => ?_
  · rw [tables y]
    split_ifs with same
    · exact same ▸ HashMap.del_sublist _ key
    · exact List.Sublist.refl _
  · have closed : e.1 = id := by
      by_contra other
      exact gone (opened ▸ mem_closeRes.2 ⟨mem, other⟩)
    refine ⟨x, key, closed ▸ held, fun e' mem' => ?_⟩
    rw [tables x, if_pos rfl] at mem'
    exact (HashMap.mem_del.1 mem').2

/-- Closing every resource table `x` holds, and emptying the table. -/
theorem Keeps.empty (tr : s.Tracked) (x : Table)
    (opened : t.opened = s.opened.filter fun e => e.1 ∉ (s.table x).map Prod.snd)
    (next : t.next = s.next) (tables : ∀ y, t.table y = if y = x then [] else s.table y) :
    Keeps s t := by
  refine Keeps.shrink tr (opened ▸ List.filter_sublist _) (next ▸ Nat.le_refl _)
    (fun y => ?_) fun e mem gone => ?_
  · rw [tables y]
    split_ifs
    · exact List.nil_sublist _
    · exact List.Sublist.refl _
  · have : e.1 ∈ (s.table x).map Prod.snd := by simpa [opened, mem] using gone
    obtain ⟨⟨key, id⟩, held, same⟩ := List.mem_map.1 this
    refine ⟨x, key, same ▸ held, fun _ mem' => ?_⟩
    rw [tables x, if_pos rfl] at mem'
    exact absurd mem' (List.not_mem_nil _)

theorem Keeps.refl (tr : s.Tracked) : Keeps s s := Keeps.same tr rfl rfl fun _ => .refl _

theorem Keeps.write (tr : s.Tracked) (reply : Reply) : Keeps s (s.write reply) :=
  Keeps.same tr rfl rfl fun _ => .refl _

/-- Each branch of a conditional keeps the tables. -/
theorem Keeps.ite {c : Prop} [Decidable c] {a b : BinderOne} (pos : Keeps s a) (neg : Keeps s b) :
    Keeps s (if c then a else b) := by
  split <;> assumption

theorem Keeps.crash (tr : s.Tracked) : Keeps s s.crash := Keeps.same tr rfl rfl fun _ => .refl _

/-- A move of the command goroutine, which takes its `listeners` with it when it returns. -/
theorem Keeps.command (tr : s.Tracked) (command : CommandPc)
    (running : s.command = .done → command = .done) : Keeps s { s with command := command } :=
  Keeps.same tr rfl rfl fun x => by
    cases x
    case listeners =>
      by_cases done : command = .done
      · simp [table, done]
      · simp [table, done, mt running done]
    all_goals exact .refl _

/-- The handler's `closeconn` branch: the file under `uid`, then the connection or socket. -/
theorem Keeps.closeUid (tr : s.Tracked) (packet : Bool) (uid : Bytes) :
    Keeps s (s.closeUid packet uid) := by
  cases hf : s.connfiles.get? uid
  all_goals simp only [BinderOne.closeUid, hf]
  on_goal 2 =>
    rename_i f
    refine Keeps.trans (t := { s.closeRes f with connfiles := s.connfiles.del uid }) tr
      (Keeps.delete tr .files (HashMap.mem_of_get? hf) rfl rfl
        fun y => by cases y <;> simp [table, closeRes]) fun tr => ?_
  all_goals
    split
    · rename_i c hc
      cases packet
      · exact Keeps.delete tr .connections (HashMap.mem_of_get? hc) rfl rfl
          fun y => by cases y <;> simp [table, closeRes]
      · exact Keeps.delete tr .packets (HashMap.mem_of_get? hc) rfl rfl
          fun y => by cases y <;> simp [table, closeRes]
    · exact Keeps.refl tr

/-- What the handler's `reset` loop has done once through the entries `L` of a table. -/
structure ClosesEntries (L : HashMap Bytes Nat) (s t : BinderOne) : Prop where
  next : t.next = s.next
  command : t.command = s.command
  listeners : t.listeners = s.listeners
  connections : t.connections = s.connections
  packets : t.packetconnections = s.packetconnections
  sublist : t.opened.Sublist s.opened
  closed : ∀ e ∈ s.opened, e ∉ t.opened →
    (∃ key, (key, e.1) ∈ L) ∨ ∃ key ∈ L.keys, (key, e.1) ∈ s.connfiles
  files : t.connfiles.Sublist s.connfiles
  dropped : ∀ e ∈ t.connfiles, e.1 ∉ L.keys

theorem ClosesEntries.foldl {body : BinderOne → Bytes × Nat → BinderOne}
    (step : ∀ s entry, ClosesEntries [entry] s (body s entry)) :
    ∀ (L : HashMap Bytes Nat) (s : BinderOne), ClosesEntries L s (L.foldl body s)
  | [], _ => ⟨rfl, rfl, rfl, rfl, rfl, .refl _, fun _ mem gone => absurd mem gone, .refl _,
      fun _ _ => List.not_mem_nil _⟩
  | entry :: L, s =>
      let first := step s entry
      let rest := ClosesEntries.foldl step L (body s entry)
      { next := rest.next.trans first.next
        command := rest.command.trans first.command
        listeners := rest.listeners.trans first.listeners
        connections := rest.connections.trans first.connections
        packets := rest.packets.trans first.packets
        sublist := rest.sublist.trans first.sublist
        closed := fun e mem gone => by
          by_cases kept : e ∈ (body s entry).opened
          · rcases rest.closed e kept gone with ⟨key, held⟩ | ⟨key, found, held⟩
            · exact .inl ⟨key, List.mem_cons_of_mem _ held⟩
            · exact .inr ⟨key, by simp [HashMap.keys] at found ⊢; exact .inr found,
                first.files.subset held⟩
          · rcases first.closed e mem kept with ⟨key, held⟩ | ⟨key, found, held⟩
            · exact .inl ⟨key, List.mem_cons.2 (.inl (List.mem_singleton.1 held))⟩
            · exact .inr ⟨key, by simp [HashMap.keys] at found ⊢; exact .inl found, held⟩
        files := rest.files.trans first.files
        dropped := fun e mem => by
          have other := first.dropped e (rest.files.subset mem)
          have later := rest.dropped e mem
          simp [HashMap.keys] at other later ⊢
          exact ⟨other, later⟩ }

/-- One pass of the handler's `reset` loop: the entry's resource, then the file under its key. -/
theorem ClosesEntries.closeEntry (t : BinderOne) (entry : Bytes × Nat) :
    ClosesEntries [entry] t
      (match (t.closeRes entry.2).connfiles.get? entry.1 with
        | some f => { (t.closeRes entry.2).closeRes f with
            connfiles := (t.closeRes entry.2).connfiles.del entry.1 }
        | none => t.closeRes entry.2) := by
  split
  · rename_i f hf
    refine ⟨rfl, rfl, rfl, rfl, rfl, (List.filter_sublist _).trans (List.filter_sublist _),
      fun e mem gone => ?_, HashMap.del_sublist _ _, fun e mem => ?_⟩
    · by_cases closed : e.1 = entry.2
      · exact .inl ⟨entry.1, by rw [closed]; exact List.mem_singleton_self _⟩
      · have : e.1 = f := by
          by_contra other
          exact gone (mem_closeRes.2 ⟨mem_closeRes.2 ⟨mem, closed⟩, other⟩)
        exact .inr ⟨entry.1, by simp [HashMap.keys], this ▸ HashMap.mem_of_get? hf⟩
    · simpa [HashMap.keys] using (HashMap.mem_del.1 mem).2
  · rename_i hf
    refine ⟨rfl, rfl, rfl, rfl, rfl, List.filter_sublist _, fun e mem gone => ?_, .refl _,
      fun e mem => ?_⟩
    · by_cases closed : e.1 = entry.2
      · exact .inl ⟨entry.1, by rw [closed]; exact List.mem_singleton_self _⟩
      · exact absurd (mem_closeRes.2 ⟨mem, closed⟩) gone
    · simp only [HashMap.keys, List.map_cons, List.map_nil, List.mem_singleton]
      intro same
      exact HashMap.get?_eq_none_iff.1 hf (same ▸ List.mem_map_of_mem _ mem)

/-- The handler's `reset` loop over the entries of one table, then the table emptied. -/
theorem closesEntries_closeEvery (s : BinderOne) (packet : Bool) :
    ∃ s', ClosesEntries (if packet then s.packetconnections else s.connections) s s' ∧
      s.closeEvery packet =
        if packet then { s' with packetconnections := [] } else { s' with connections := [] } :=
  ⟨_, ClosesEntries.foldl ClosesEntries.closeEntry _ s, rfl⟩

/-- The handler's `reset` branch, for the connections or for the packet sockets. -/
theorem Keeps.closeEvery (tr : s.Tracked) (packet : Bool) : Keeps s (s.closeEvery packet) := by
  obtain ⟨s', loop, closeEvery⟩ := closesEntries_closeEvery s packet
  rw [closeEvery]
  have listeners : (s'.table .listeners).Sublist (s.table .listeners) := by
    simp only [table, loop.command, loop.listeners]
    exact .refl _
  have files : ∀ key ∈ (if packet then s.packetconnections else s.connections).keys,
      ∀ e ∈ s'.connfiles, e.1 ≠ key := fun _ found e mem same => loop.dropped e mem (same ▸ found)
  cases packet
  · refine Keeps.shrink tr loop.sublist (loop.next ▸ Nat.le_refl _) (fun x => ?_)
      fun e mem gone => ?_
    · cases x
      case connections => exact List.nil_sublist _
      case packets => exact show s'.packetconnections.Sublist s.packetconnections from
        loop.packets ▸ .refl _
      case listeners => exact listeners
      case files => exact loop.files
    · rcases loop.closed e mem gone with ⟨key, held⟩ | ⟨key, found, held⟩
      · exact ⟨.connections, key, held, fun _ mem => absurd mem (List.not_mem_nil _)⟩
      · exact ⟨.files, key, held, files key found⟩
  · refine Keeps.shrink tr loop.sublist (loop.next ▸ Nat.le_refl _) (fun x => ?_)
      fun e mem gone => ?_
    · cases x
      case packets => exact List.nil_sublist _
      case connections => exact show s'.connections.Sublist s.connections from
        loop.connections ▸ .refl _
      case listeners => exact listeners
      case files => exact loop.files
    · rcases loop.closed e mem gone with ⟨key, held⟩ | ⟨key, found, held⟩
      · exact ⟨.packets, key, held, fun _ mem => absurd mem (List.not_mem_nil _)⟩
      · exact ⟨.files, key, held, files key found⟩

@[simp] theorem handleClose_nil (s : BinderOne) (packet : Bool) :
    s.handleClose packet [] = s.closeEvery packet :=
  if_pos rfl

/-- The handler's branch for a message with no connection. -/
theorem Keeps.handleClose (tr : s.Tracked) (packet : Bool) (uid : Bytes) :
    Keeps s (s.handleClose packet uid) :=
  .ite (Keeps.closeEvery tr packet) (Keeps.closeUid tr packet uid)

/-- Closing the resource of every entry of a table, one after the other. -/
theorem foldl_closeRes (L : HashMap Bytes Nat) (s : BinderOne) :
    L.foldl (fun s entry => s.closeRes entry.2) s =
      { s with opened := s.opened.filter fun e => e.1 ∉ L.map Prod.snd } := by
  induction L generalizing s with
  | nil => simp
  | cons entry L ih =>
      rw [List.foldl_cons, ih]
      congr 1
      simp only [closeRes, List.filter_filter]
      congr 1
      funext e
      rw [Bool.eq_iff_iff]
      simp [and_comm]

/-- `stoplisten addr`: the listener under `addr`, then the reply. -/
theorem Keeps.stopListen (tr : s.Tracked) (running : s.command ≠ .done) (addr : Bytes) :
    Keeps s (s.stopListen addr) := by
  simp only [BinderOne.stopListen]
  split
  · rename_i l hl
    refine Keeps.trans (t := { s.closeRes l with listeners := s.listeners.del addr }) tr
      (Keeps.delete tr .listeners (by simpa [table, running] using HashMap.mem_of_get? hl) rfl rfl
        fun y => by cases y <;> simp [table, closeRes, running]) fun tr => Keeps.write tr _
  · exact Keeps.write tr _

/-- `reset`: every listener, then every connection and every packet socket with its file. -/
theorem Keeps.reset (tr : s.Tracked) (running : s.command ≠ .done) : Keeps s s.reset := by
  simp only [BinderOne.reset, foldl_closeRes, handleClose_nil]
  exact Keeps.trans (t := { s with
      opened := s.opened.filter (fun e => e.1 ∉ s.listeners.map Prod.snd)
      listeners := [] }) tr
    (Keeps.empty tr .listeners (by rw [show s.table .listeners = s.listeners from if_neg running]) rfl
      fun y => by cases y <;> simp [table])
    fun tr => Keeps.trans tr (Keeps.closeEvery tr false) fun tr => Keeps.closeEvery tr true

/-- What the command goroutine does with a line it parsed. -/
theorem Keeps.dispatch (tr : s.Tracked) (scanning : s.command = .scanning) (command args : Bytes) :
    Keeps s (s.dispatch command args) := by
  have running : s.command ≠ .done := by simp [scanning]
  unfold BinderOne.dispatch
  exact .ite (Keeps.command tr _ fun done => absurd done running) <| .ite
    (Keeps.trans tr (Keeps.handleClose tr false args) fun tr => Keeps.handleClose tr true args) <| .ite
    (Keeps.stopListen tr running args) <| .ite (Keeps.reset tr running) <| .ite
    (Keeps.command tr .done fun _ => rfl) (Keeps.refl tr)

/-- The handler keeps what it is handed, and the file it duplicates, when `conn.File()` succeeds. -/
theorem Keeps.record (tr : s.Tracked) (packet : Bool) (addr : Bytes) (duplicated : Bool) :
    Keeps s ((s.openRes (if packet then .packet addr else .conn addr)).record packet (itoa s.next)
      addr s.next duplicated) := by
  have numbered := tr.openRes (if packet then .packet addr else .conn addr)
  cases duplicated
  · exact Keeps.grow tr numbered (Nat.le_succ _) (fun e mem => mem_openRes.2 (.inl mem))
      (fun _ => openRes_added) tr.keys fun _ _ mem => .inl mem
  refine Keeps.grow tr (numbered.record packet _ addr _) (by simp [openRes]; omega)
    (fun e mem => by simp [mem]) (fun e mem => ?_) (fun x => ?_) fun x e mem => ?_
  · rcases mem_record.1 mem with old | rfl
    · exact openRes_added old
    · exact .inr (Nat.le_succ _)
  · rw [table_record, table_openRes]
    split_ifs
    all_goals first | exact HashMap.keys_set_nodup (tr.keys x) _ _ | exact tr.keys x
  rw [table_record, table_openRes] at mem
  by_cases files : x = .files
  · rw [if_pos files] at mem
    rcases HashMap.mem_set mem with rfl | old
    · exact .inr ⟨by simp [openRes], .file, by simp [openRes], files ▸ rfl, by simp [files, Table.keyOf, openRes]⟩
    · exact .inl old
  by_cases entry : x = if packet then .packets else .connections
  · rw [if_neg files, if_pos entry] at mem
    rcases HashMap.mem_set mem with rfl | old
    · refine .inr ⟨Nat.le_refl _, if packet then .packet addr else .conn addr, by simp, ?_, ?_⟩ <;>
        cases packet <;> subst entry <;> rfl
    · exact .inl old
  · rw [if_neg files, if_neg entry] at mem
    exact .inl mem

/-- Closing a listener, which no table but `listeners` can hold. -/
theorem Keeps.closeListener (tr : s.Tracked) {id : Nat} {addr : Bytes} {type : NetType}
    (mem : (id, Kind.listener addr type) ∈ s.opened) : Keeps s (s.closeRes id) where
  tracked := by
    refine ⟨tr.sublist (List.filter_sublist _) (Nat.le_refl _), tr.keys, fun x e held =>
      ⟨(tr.named x e held).1, fun k opened => tr.kind held (mem_closeRes.1 opened).1⟩,
      fun x handler e held => ?_⟩
    obtain ⟨k, opened, holds, -⟩ := tr.held handler held
    refine ⟨k, mem_closeRes.2 ⟨opened, fun (same : e.2 = id) => handler ?_⟩⟩
    obtain rfl := tr.kind_eq (same ▸ opened) mem
    exact Table.eq_of_holds holds (rfl : Table.listeners.holds (.listener addr type) = true)
  next_le := Nat.le_refl _
  closes e old gone := by
    have closed : e.1 = id := by
      by_contra other
      exact gone (mem_closeRes.2 ⟨old, other⟩)
    exact .inr ⟨addr, type, tr.kind_eq (closed ▸ show (e.1, e.2) ∈ s.opened from old) mem⟩
  fresh _ _ held := .inl held

theorem listenOne_cases {addr : Bytes} {bound confirmed duplicated : Bool}
    (h : s.listenOne addr bound confirmed duplicated = .ok t) :
    t = s.write (.error addr) ∨
      (∃ type, t = { (s.openRes (.listener addr type)).write (.confirmListen addr) with
        listeners := s.listeners.set addr s.next }) ∨
      (∃ type, t = ((s.openRes (.listener addr type)).write (.confirmListen addr)).closeRes s.next) ∨
      t = (s.openRes (.packet addr)).record true (itoa s.next) addr s.next duplicated := by
  unfold BinderOne.listenOne at h
  cases hn : networkOf addr with
  | error => simp [hn, bind, Except.bind] at h
  | ok lnet =>
    simp only [hn, bind, Except.bind] at h
    split at h
    · cases hl : binderListen addr bound with
      | error => simp [hl] at h
      | ok l =>
        simp only [hl] at h
        split at h
        · exact .inl (Except.ok.inj h).symm
        · rename_i type
          split at h
          · exact .inr (.inl ⟨type, (Except.ok.inj h).symm⟩)
          · exact .inr (.inr (.inl ⟨type, (Except.ok.inj h).symm⟩))
    · cases hp : binderPacket addr bound with
      | error => simp [hp] at h
      | ok c =>
        simp only [hp] at h
        split at h
        · exact .inl (Except.ok.inj h).symm
        · rename_i conn
          cases ha : assertPacket addr conn with
          | error => simp [ha] at h
          | ok => simp only [ha] at h; exact .inr (.inr (.inr (Except.ok.inj h).symm))

/-- One address of a `listen`. -/
theorem Keeps.listenOne (tr : s.Tracked) (running : s.command ≠ .done) {addr : Bytes}
    {bound confirmed duplicated : Bool} (h : s.listenOne addr bound confirmed duplicated = .ok t) :
    Keeps s t := by
  rcases listenOne_cases h with rfl | ⟨type, rfl⟩ | ⟨type, rfl⟩ | rfl
  · exact Keeps.write tr _
  · have numbered := tr.openRes (.listener addr type)
    refine Keeps.grow tr ⟨numbered.below, numbered.apart⟩ (Nat.le_succ _)
      (fun e mem => mem_openRes.2 (.inl mem)) (fun _ => openRes_added) (fun x => ?_)
      fun x e mem => ?_
    · cases x
      case listeners =>
        have keys := tr.keys .listeners
        simp only [table, BinderOne.write, BinderOne.openRes, running, if_false] at keys ⊢
        exact HashMap.keys_set_nodup keys _ _
      case connections => exact tr.keys .connections
      case packets => exact tr.keys .packets
      case files => exact tr.keys .files
    cases x
    case listeners =>
      simp only [table, BinderOne.write, BinderOne.openRes, running, if_false] at mem
      rcases HashMap.mem_set mem with rfl | old
      · exact .inr ⟨Nat.le_refl _, .listener addr type, by simp [BinderOne.write], rfl, rfl⟩
      · exact .inl (by simpa [table, running] using old)
    all_goals exact .inl mem
  · exact Keeps.trans tr (Keeps.grow tr (tr.openRes (.listener addr type)) (Nat.le_succ _)
      (fun e mem => mem_openRes.2 (.inl mem)) (fun _ => openRes_added) tr.keys
      fun _ _ mem => .inl mem) fun tr' =>
        Keeps.trans tr' (Keeps.write tr' _) fun tr' => Keeps.closeListener tr'
          (by simp [BinderOne.write, BinderOne.openRes] : (s.next, Kind.listener addr type) ∈
            ((s.openRes (.listener addr type)).write (.confirmListen addr)).opened)
  · exact Keeps.record tr true addr duplicated

/-- The address and type of an open listener. -/
theorem listenerOf_mem {id : Nat} {addr : Bytes} {type : NetType}
    (found : s.listenerOf id = some (addr, type)) : (id, Kind.listener addr type) ∈ s.opened := by
  unfold listenerOf at found
  split at found
  · rename_i found'
    cases found
    have := List.find?_some found'
    simp only [decide_eq_true_eq] at this
    exact this ▸ List.mem_of_find?_eq_some found'
  · cases found

/-- `ctx.Done()` in the handler: every packet socket it holds. -/
theorem Keeps.handlerEnd (tr : s.Tracked) :
    Keeps s { s.packetconnections.foldl (fun s entry => s.closeRes entry.2) s with
      packetconnections := [], handlerDone := true } := by
  rw [foldl_closeRes]
  exact Keeps.empty tr .packets rfl rfl fun y => by cases y <;> simp [table]

theorem tracked_initial (lines : List Bytes) : (BinderOne.initial lines).Tracked :=
  ⟨⟨fun _ mem => absurd mem (List.not_mem_nil _), List.nodup_nil⟩,
    fun x => by cases x <;> simp [table, BinderOne.initial, HashMap.keys],
    fun x e mem => by cases x <;> simp [table, BinderOne.initial] at mem,
    fun x _ e mem => by cases x <;> simp [table, BinderOne.initial] at mem⟩

end BinderOne

open BinderOne

/-- Every step of the binder does to its resources what `Keeps` says. -/
theorem BinderStep.keeps {s t : BinderOne} (tr : s.Tracked) (step : BinderStep s t) : Keeps s t := by
  cases step with
  | line line rest live scanning next =>
      split
      · rename_i command args _
        exact Keeps.trans (t := { s with lines := rest }) tr
          (Keeps.same tr rfl rfl fun _ => .refl _) fun tr => Keeps.dispatch tr scanning command args
      · exact Keeps.crash tr
  | endOfStream => exact Keeps.command tr .done fun _ => rfl
  | listenOne addr rest live listening =>
      split
      · rename_i h
        exact Keeps.trans (t := { s with command := .listening rest }) tr
          (Keeps.command tr _ fun done => by simp [listening] at done)
          fun tr => Keeps.listenOne tr (by simp) h
      · exact Keeps.crash tr
  | listenDone live listening =>
      exact Keeps.command tr .scanning fun done => by simp [listening] at done
  | accept id addr type live handling listener duplicated =>
      split
      · exact Keeps.record tr false addr duplicated
      · exact Keeps.crash tr
  | handlerEnd => exact Keeps.handlerEnd tr
  | acceptError id listener live found
  | listenerEnd id listener live _ found => exact Keeps.closeListener tr (listenerOf_mem found)

theorem BinderReachable.tracked {lines : List Bytes} {s : BinderOne}
    (reach : BinderReachable lines s) : s.Tracked := by
  induction reach with
  | refl => exact tracked_initial lines
  | tail _ step tracked => exact (step.keeps tracked).tracked

/-- A resource that is no listener and that no table holds stays open, and unheld. -/
theorem stays_open {s t : BinderOne} (tr : s.Tracked) (run : Relation.ReflTransGen BinderStep s t)
    {e : Nat × Kind} (mem : e ∈ s.opened) (free : ¬ s.Holds e.1)
    (kind : ∀ addr type, e.2 ≠ .listener addr type) : t.Tracked ∧ e ∈ t.opened ∧ ¬ t.Holds e.1 := by
  induction run with
  | refl => exact ⟨tr, mem, free⟩
  | tail _ step ih =>
      obtain ⟨tr, mem, free⟩ := ih
      have keeps := step.keeps tr
      refine ⟨keeps.tracked, ?_, fun ⟨x, e', held, same⟩ => ?_⟩
      · by_contra gone
        rcases keeps.closes e mem gone with held | ⟨addr, type, listener⟩
        · exact free held
        · exact kind addr type listener
      · rcases keeps.fresh x e' held with old | new
        · exact free ⟨x, e', old, same⟩
        · exact absurd (tr.below e mem) (Nat.not_lt.2 (same ▸ new))

/--
No step of the binder closes a connection or packet socket that neither of the
handler's tables holds, as one whose `conn.File()` failed: no `closeconn`,
`reset`, `Accept` error or end of the binder closes it. (Only a finalizer of
the Go runtime, which the model leaves out, may close it once it is unreachable.)
-/
theorem binder_never_closes_dropped {lines : List Bytes} {s t : BinderOne}
    (reach : BinderReachable lines s) (run : Relation.ReflTransGen BinderStep s t)
    {e : Nat × Kind} (mem : e ∈ s.opened) (kind : ∃ addr, e.2 = .conn addr ∨ e.2 = .packet addr)
    (dropped : ∀ key, (key, e.1) ∉ s.connections ∧ (key, e.1) ∉ s.packetconnections) :
    e ∈ t.opened := by
  have tr := reach.tracked
  obtain ⟨addr, conn | packet⟩ := kind
  all_goals
    refine (stays_open tr run mem (fun ⟨x, e', held, same⟩ => ?_) fun _ _ => by simp_all).2.1
    obtain ⟨holds, -⟩ := tr.kind held (show (e'.2, e.2) ∈ s.opened by rw [same]; exact mem)
  · obtain rfl := Table.eq_of_holds holds (by rw [conn]; rfl : Table.connections.holds e.2)
    exact (dropped e'.1).1 (same ▸ held)
  · obtain rfl := Table.eq_of_holds holds (by rw [packet]; rfl : Table.packets.holds e.2)
    exact (dropped e'.1).2 (same ▸ held)

/-- A packet socket whose `conn.File()` fails stays open through a later `reset`. -/
theorem binder_never_closes_dropped_reset :
    ∃ s t, BinderReachable [ascii "listen udp:127.0.0.1:0", ascii "reset"] s ∧
      Relation.ReflTransGen BinderStep s t ∧ t.lines = [] ∧ t.command = .scanning ∧
      (0, Kind.packet (ascii "udp:127.0.0.1:0")) ∈ t.opened :=
  let reach : BinderReachable [ascii "listen udp:127.0.0.1:0", ascii "reset"] _ :=
    .tail (.tail .refl (.line _ (ascii "listen udp:127.0.0.1:0") [ascii "reset"] rfl rfl rfl))
      (.listenOne _ (ascii "udp:127.0.0.1:0") [] rfl (by decide) true true false)
  let run : Relation.ReflTransGen BinderStep _ _ :=
    .tail (.tail .refl (.listenDone _ rfl rfl)) (.line _ (ascii "reset") [] rfl rfl rfl)
  ⟨_, _, reach, run, rfl, rfl, binder_never_closes_dropped reach run (by decide) ⟨_, .inr rfl⟩
    fun _ => ⟨List.not_mem_nil _, List.not_mem_nil _⟩⟩

namespace BinderOne

variable {s : BinderOne}

/-- A table has one entry for a key, so it holds `id` under `key` exactly when it finds it there. -/
theorem Tracked.mem_iff_get? (tr : s.Tracked) (x : Table) {key : Bytes} {id : Nat} :
    (key, id) ∈ s.table x ↔ (s.table x).get? key = some id :=
  ⟨HashMap.get?_of_mem (tr.keys x), HashMap.mem_of_get?⟩

/-- What `closeconn uid` closes of one table: the file under `uid`, and the entry under it. -/
theorem closeUid_opened (tr : s.Tracked) (packet : Bool) (uid : Bytes) {e : Nat × Kind} :
    e ∈ (s.closeUid packet uid).opened ↔ e ∈ s.opened ∧ (uid, e.1) ∉ s.connfiles ∧
      (uid, e.1) ∉ (if packet then s.packetconnections else s.connections) := by
  have files : (uid, e.1) ∈ s.connfiles ↔ s.connfiles.get? uid = some e.1 := tr.mem_iff_get? .files
  have conns : (uid, e.1) ∈ (if packet then s.packetconnections else s.connections) ↔
      (if packet then s.packetconnections else s.connections).get? uid = some e.1 := by
    cases packet
    · exact tr.mem_iff_get? .connections
    · exact tr.mem_iff_get? .packets
  rw [files, conns]
  cases packet
  · cases hf : s.connfiles.get? uid <;> cases hc : s.connections.get? uid <;>
      simp [BinderOne.closeUid, BinderOne.closeRes, hf, hc, eq_comm (b := e.1), and_comm]
  · cases hf : s.connfiles.get? uid <;> cases hc : s.packetconnections.get? uid <;>
      simp [BinderOne.closeUid, BinderOne.closeRes, hf, hc, eq_comm (b := e.1), and_comm]

/-- `closeUid` deletes the connection, or the packet socket, under `uid`, if there is one. -/
theorem closeUid_connections (s : BinderOne) (packet : Bool) (uid : Bytes) :
    (s.closeUid packet uid).connections = if packet then s.connections else s.connections.del uid := by
  cases packet <;> cases hf : s.connfiles.get? uid <;> simp only [BinderOne.closeUid, hf] <;>
    split <;> simp_all [BinderOne.closeRes, HashMap.del_of_get?_eq_none]

theorem closeUid_packetconnections (s : BinderOne) (packet : Bool) (uid : Bytes) :
    (s.closeUid packet uid).packetconnections =
      if packet then s.packetconnections.del uid else s.packetconnections := by
  cases packet <;> cases hf : s.connfiles.get? uid <;> simp only [BinderOne.closeUid, hf] <;>
    split <;> simp_all [BinderOne.closeRes, HashMap.del_of_get?_eq_none]

/-- `closeUid` deletes the file under `uid`, if there is one. -/
theorem closeUid_connfiles (s : BinderOne) (packet : Bool) (uid : Bytes) :
    (s.closeUid packet uid).connfiles = s.connfiles.del uid := by
  cases hf : s.connfiles.get? uid
  all_goals
    simp only [BinderOne.closeUid, hf]
    split <;> (try split) <;> simp [BinderOne.closeRes, HashMap.del_of_get?_eq_none, hf]

theorem dispatch_closeconn (s : BinderOne) (args : Bytes) :
    s.dispatch (ascii "closeconn") args = (s.handleClose false args).handleClose true args := by
  rw [dispatch, if_neg (by decide), if_pos rfl]

end BinderOne

end Skewer.Binder
