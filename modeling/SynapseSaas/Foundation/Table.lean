import Mathlib.Data.List.Pairwise
import Mathlib.Order.Basic

/-! Tables of rows with a primary key and partial unique indexes.

A row states which index entries it occupies; an index is partial when a row
may occupy none. Every write goes through `commitRows`, which is where a
database checks its constraints, so a table value always satisfies them.
-/

set_option autoImplicit false

/-- A row type with its primary key and the unique index entries a row occupies. -/
class Keyed (Row : Type) where
  Key : Type
  decEq : DecidableEq Key
  id : Row → Nat
  keys : Row → List Key

instance {Row : Type} [Keyed Row] : DecidableEq (Keyed.Key Row) := Keyed.decEq

namespace Table

variable {Row : Type} [Keyed Row]

/-- Two rows may stand in one table. -/
def Compatible (first second : Row) : Prop :=
  Keyed.id first ≠ Keyed.id second ∧ ∀ key ∈ Keyed.keys first, key ∉ Keyed.keys second

instance (first second : Row) : Decidable (Compatible first second) :=
  inferInstanceAs (Decidable (_ ∧ ∀ key ∈ Keyed.keys first, key ∉ Keyed.keys second))

theorem Compatible.symm {first second : Row} (compatible : Compatible first second) :
    Compatible second first :=
  ⟨compatible.1.symm, fun key member other => compatible.2 key other member⟩

/-- The constraints of a table: ids below the next one to be drawn, and no two
rows with a common id or index entry. -/
def Consistent (rows : List Row) (next : Nat) : Prop :=
  (∀ row ∈ rows, Keyed.id row < next) ∧ rows.Pairwise Compatible

instance (rows : List Row) (next : Nat) : Decidable (Consistent rows next) :=
  inferInstanceAs (Decidable (_ ∧ rows.Pairwise Compatible))

end Table

structure Table (Row : Type) [Keyed Row] where
  rows : List Row
  next : Nat
  consistent : Table.Consistent rows next

namespace Table

variable {Row : Type} [Keyed Row]

def empty : Table Row := ⟨[], 0, by simp [Consistent]⟩

@[ext] theorem ext {first second : Table Row} (rows : first.rows = second.rows)
    (next : first.next = second.next) : first = second := by
  cases first
  cases second
  cases rows
  cases next
  rfl

/-- Accept new contents iff the constraints hold. -/
def commitRows (rows : List Row) (next : Nat) : Option (Table Row) :=
  if consistent : Consistent rows next then some ⟨rows, next, consistent⟩ else none

theorem commitRows_eq_some {rows : List Row} {next : Nat} {table : Table Row} :
    commitRows rows next = some table ↔ table.rows = rows ∧ table.next = next := by
  unfold commitRows
  constructor
  · intro accepted
    split at accepted
    · cases accepted
      exact ⟨rfl, rfl⟩
    · cases accepted
  · rintro ⟨rfl, rfl⟩
    rw [dif_pos table.consistent]

/-- Insert the row that `make` builds from the next id. -/
def insert (table : Table Row) (make : Nat → Row) : Option (Table Row) :=
  commitRows (table.rows ++ [make table.next]) (table.next + 1)

/-- Overwrite the row with this row's id, if there is one. -/
def put (table : Table Row) (row : Row) : Option (Table Row) :=
  commitRows (table.rows.map fun old => if Keyed.id old = Keyed.id row then row else old) table.next

/-- Insert a row that brings its own id. -/
def add (table : Table Row) (row : Row) : Option (Table Row) :=
  commitRows (table.rows ++ [row]) (max table.next (Keyed.id row + 1))

/-- Delete the row with this id, if there is one. -/
def remove (table : Table Row) (id : Nat) : Table Row where
  rows := table.rows.filter fun row => Keyed.id row ≠ id
  next := table.next
  consistent :=
    ⟨fun row member => table.consistent.1 row ((List.mem_filter.mp member).1),
      table.consistent.2.sublist List.filter_sublist⟩

def get (table : Table Row) (id : Nat) : Option Row :=
  table.rows.find? fun row => Keyed.id row = id

/-- Change every row in columns that neither identify it nor are indexed. -/
def revise (table : Table Row) (change : Row → Row)
    (kept : ∀ row, Keyed.id (change row) = Keyed.id row ∧
      Keyed.keys (change row) = Keyed.keys row) : Table Row where
  rows := table.rows.map change
  next := table.next
  consistent := by
    obtain ⟨bounded, pairwise⟩ := table.consistent
    constructor
    · intro row member
      obtain ⟨old, here, rfl⟩ := List.mem_map.mp member
      rw [(kept old).1]
      exact bounded old here
    · rw [List.pairwise_map]
      refine pairwise.imp fun {first second} compatible => ?_
      unfold Compatible
      rw [(kept first).1, (kept second).1, (kept first).2, (kept second).2]
      exact compatible

theorem id_lt_next (table : Table Row) {row : Row} (member : row ∈ table.rows) :
    Keyed.id row < table.next :=
  table.consistent.1 row member

theorem pairwise (table : Table Row) : table.rows.Pairwise Compatible := table.consistent.2

theorem nodup (table : Table Row) : table.rows.Nodup :=
  table.pairwise.imp fun compatible same => compatible.1 (congrArg Keyed.id same)

/-- Rows of a table that are all the same are one at most. -/
theorem length_filter_le_one (table : Table Row) {wanted : Row → Bool}
    (same : ∀ first ∈ table.rows, ∀ second ∈ table.rows, wanted first → wanted second →
      first = second) : (table.rows.filter wanted).length ≤ 1 := by
  have distinct : (table.rows.filter wanted).Nodup := table.nodup.filter _
  cases found : table.rows.filter wanted with
  | nil => exact Nat.zero_le _
  | cons first rest =>
      cases rest with
      | nil => exact Nat.le_refl _
      | cons second rest =>
          have left := List.mem_filter.mp (found ▸ List.mem_cons_self : first ∈ table.rows.filter wanted)
          have right := List.mem_filter.mp
            (found ▸ List.mem_cons_of_mem _ List.mem_cons_self : second ∈ table.rows.filter wanted)
          rw [found, same first left.1 second right.1 left.2 right.2] at distinct
          exact absurd List.mem_cons_self (List.nodup_cons.mp distinct).1

theorem compatible_of_ne (table : Table Row) {first second : Row} (left : first ∈ table.rows)
    (right : second ∈ table.rows) (distinct : first ≠ second) : Compatible first second :=
  haveI : Std.Symm (@Compatible Row _) := ⟨fun _ _ => Compatible.symm⟩
  table.pairwise.forall left right distinct

theorem eq_of_id (table : Table Row) {first second : Row} (left : first ∈ table.rows)
    (right : second ∈ table.rows) (same : Keyed.id first = Keyed.id second) : first = second := by
  by_contra distinct
  exact (table.compatible_of_ne left right distinct).1 same

/-- A unique index entry determines its row. -/
theorem eq_of_key (table : Table Row) {first second : Row} (left : first ∈ table.rows)
    (right : second ∈ table.rows) {key : Keyed.Key Row} (mine : key ∈ Keyed.keys first)
    (yours : key ∈ Keyed.keys second) : first = second := by
  by_contra distinct
  exact (table.compatible_of_ne left right distinct).2 key mine yours

theorem get_eq_some {table : Table Row} {id : Nat} {row : Row} :
    table.get id = some row ↔ row ∈ table.rows ∧ Keyed.id row = id := by
  constructor
  · intro found
    exact ⟨List.mem_of_find?_eq_some found, by simpa using List.find?_some found⟩
  · rintro ⟨member, same⟩
    cases found : table.get id with
    | none => exact absurd same (by simpa using List.find?_eq_none.mp found row member)
    | some other =>
        have here := List.mem_of_find?_eq_some found
        have there : Keyed.id other = id := by simpa using List.find?_some found
        rw [table.eq_of_id member here (same.trans there.symm)]

/-- Rows around a member: overwriting it changes nothing before or after it. -/
theorem split (table : Table Row) {row : Row} (member : row ∈ table.rows) :
    ∃ before after, table.rows = before ++ row :: after ∧ ∀ new : Row, Keyed.id new = Keyed.id row →
      (table.rows.map fun old => if Keyed.id old = Keyed.id new then new else old) =
        before ++ new :: after := by
  obtain ⟨before, after, partition⟩ := List.append_of_mem member
  refine ⟨before, after, partition, fun new same => ?_⟩
  have pairwise := table.pairwise
  rw [partition, List.pairwise_append, List.pairwise_cons] at pairwise
  obtain ⟨-, ⟨later, -⟩, earlier⟩ := pairwise
  have keep (rows : List Row) (other : ∀ old ∈ rows, Keyed.id old ≠ Keyed.id row) :
      (rows.map fun old => if Keyed.id old = Keyed.id new then new else old) = rows := by
    rw [List.map_congr_left fun old member => if_neg (same ▸ other old member), List.map_id'']
    exact fun _ => rfl
  rw [partition, List.map_append, List.map_cons, if_pos same.symm,
    keep before fun old member => (earlier old member row (by simp)).1,
    keep after fun old member => (later old member).1.symm]

theorem put_rows {table next : Table Row} {row : Row} (accepted : table.put row = some next) :
    next.rows = table.rows.map fun old => if Keyed.id old = Keyed.id row then row else old :=
  (commitRows_eq_some.mp accepted).1

theorem put_next {table next : Table Row} {row : Row} (accepted : table.put row = some next) :
    next.next = table.next :=
  (commitRows_eq_some.mp accepted).2

theorem insert_rows {table next : Table Row} {make : Nat → Row}
    (accepted : table.insert make = some next) : next.rows = table.rows ++ [make table.next] :=
  (commitRows_eq_some.mp accepted).1

theorem insert_next {table next : Table Row} {make : Nat → Row}
    (accepted : table.insert make = some next) : next.next = table.next + 1 :=
  (commitRows_eq_some.mp accepted).2

theorem add_rows {table next : Table Row} {row : Row} (accepted : table.add row = some next) :
    next.rows = table.rows ++ [row] :=
  (commitRows_eq_some.mp accepted).1

/-- An accepted row brings an id of its own. -/
theorem add_fresh {table next : Table Row} {row : Row} (accepted : table.add row = some next) :
    ∀ old ∈ table.rows, Keyed.id old ≠ Keyed.id row := by
  intro old member
  have pairwise := next.pairwise
  rw [add_rows accepted, List.pairwise_append] at pairwise
  exact (pairwise.2.2 old member row (List.mem_singleton_self row)).1

theorem mem_remove {table : Table Row} {id : Nat} {row : Row} :
    row ∈ (table.remove id).rows ↔ row ∈ table.rows ∧ Keyed.id row ≠ id := by
  simp [remove, List.mem_filter]

theorem put_split {table next : Table Row} {old row : Row} (member : old ∈ table.rows)
    (same : Keyed.id row = Keyed.id old) (accepted : table.put row = some next) :
    ∃ before after, table.rows = before ++ old :: after ∧ next.rows = before ++ row :: after := by
  obtain ⟨before, after, partition, overwrite⟩ := table.split member
  exact ⟨before, after, partition, (put_rows accepted).trans (overwrite row same)⟩

/-- Overwriting a row exchanges it for the new one among the same others. -/
theorem put_perm {table next : Table Row} {old row : Row} (member : old ∈ table.rows)
    (same : Keyed.id row = Keyed.id old) (accepted : table.put row = some next) :
    ∃ others, table.rows.Perm (old :: others) ∧ next.rows.Perm (row :: others) := by
  obtain ⟨before, after, partition, written⟩ := put_split member same accepted
  exact ⟨before ++ after, partition ▸ List.perm_middle, written ▸ List.perm_middle⟩

theorem mem_put {table next : Table Row} {old row : Row} (member : old ∈ table.rows)
    (same : Keyed.id row = Keyed.id old) (accepted : table.put row = some next) (other : Row) :
    other ∈ next.rows ↔ other = row ∨ other ∈ table.rows ∧ other ≠ old := by
  rw [put_rows accepted, List.mem_map]
  constructor
  · rintro ⟨source, here, rfl⟩
    by_cases hit : Keyed.id source = Keyed.id row
    · exact .inl (if_pos hit)
    · rw [if_neg hit]
      exact .inr ⟨here, fun eq => hit (eq ▸ same.symm)⟩
  · rintro (rfl | ⟨here, distinct⟩)
    · exact ⟨old, member, if_pos same.symm⟩
    · refine ⟨other, here, if_neg fun eq => distinct ?_⟩
      exact table.eq_of_id here member (eq.trans same)

/-- A write that keeps the id and claims no index entry of another row is accepted. -/
theorem put_free (table : Table Row) {old row : Row} (member : old ∈ table.rows)
    (same : Keyed.id row = Keyed.id old)
    (free : ∀ other ∈ table.rows, Keyed.id other ≠ Keyed.id old →
      ∀ key ∈ Keyed.keys row, key ∉ Keyed.keys other) :
    ∃ next, table.put row = some next := by
  obtain ⟨before, after, partition, overwrite⟩ := table.split member
  have consistent := table.consistent
  rw [Consistent, partition, List.pairwise_append, List.pairwise_cons] at consistent
  obtain ⟨bounded, left, ⟨later, right⟩, earlier⟩ := consistent
  have ok : Consistent (table.rows.map fun old => if Keyed.id old = Keyed.id row then row else old)
      table.next := by
    rw [overwrite row same, Consistent, List.pairwise_append, List.pairwise_cons]
    refine ⟨?_, left, ⟨fun other here => ?_, right⟩, fun other here found hit => ?_⟩
    · intro other here
      rcases List.mem_append.mp here with here | here
      · exact bounded other (List.mem_append_left _ here)
      · rcases List.mem_cons.mp here with rfl | here
        · exact same ▸ bounded old (by simp)
        · exact bounded other (by simp [here])
    · have apart := (later other here).1
      exact ⟨same ▸ apart, free other (by simp [partition, here]) fun eq => apart eq.symm⟩
    · rcases List.mem_cons.mp hit with rfl | hit
      · have apart := (earlier other here old (by simp)).1
        exact ⟨same ▸ apart, fun key mine yours =>
          free other (by simp [partition, here]) apart key yours mine⟩
      · exact earlier other here found (List.mem_cons_of_mem _ hit)
  exact ⟨⟨_, _, ok⟩, commitRows_eq_some.mpr ⟨rfl, rfl⟩⟩

/-- In particular one that claims no new index entry. -/
theorem put_accepted (table : Table Row) {old row : Row} (member : old ∈ table.rows)
    (same : Keyed.id row = Keyed.id old) (keys : ∀ key ∈ Keyed.keys row, key ∈ Keyed.keys old) :
    ∃ next, table.put row = some next := by
  refine table.put_free member same fun other here apart key mine yours => apart ?_
  rw [table.eq_of_key here member yours (keys key mine)]

/-- A fresh row whose index entries are free is accepted. -/
theorem insert_accepted (table : Table Row) (make : Nat → Row)
    (id : Keyed.id (make table.next) = table.next)
    (free : ∀ row ∈ table.rows, ∀ key ∈ Keyed.keys row, key ∉ Keyed.keys (make table.next)) :
    ∃ next, table.insert make = some next := by
  have ok : Consistent (table.rows ++ [make table.next]) (table.next + 1) := by
    refine ⟨fun row member => ?_, ?_⟩
    · rcases List.mem_append.mp member with member | member
      · exact Nat.lt_succ_of_lt (table.id_lt_next member)
      · rw [List.mem_singleton.mp member, id]
        exact Nat.lt_succ_self _
    · rw [List.pairwise_append]
      refine ⟨table.pairwise, List.pairwise_singleton _ _, fun row member other last => ?_⟩
      rw [List.mem_singleton.mp last]
      exact ⟨by rw [id]; exact Nat.ne_of_lt (table.id_lt_next member), free row member⟩
  exact ⟨⟨_, _, ok⟩, commitRows_eq_some.mpr ⟨rfl, rfl⟩⟩

end Table
