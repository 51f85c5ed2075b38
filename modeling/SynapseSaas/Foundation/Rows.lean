import Mathlib.Data.List.Nodup
import Mathlib.Data.List.Perm.Basic

/-! Rows under a natural key that no two of them share: tables keyed by what they are about, and
dicts. -/

set_option autoImplicit false

@[ext] structure Rows {Row Key : Type} (key : Row → Key) where
  list : List Row
  distinct : (list.map key).Nodup

namespace Rows

variable {Row Key : Type} {key : Row → Key}

instance [DecidableEq Row] : DecidableEq (Rows key) :=
  fun first second => decidable_of_iff (first.list = second.list) Rows.ext_iff.symm

instance [Repr Row] : Repr (Rows key) := ⟨fun rows => reprPrec rows.list⟩

def empty : Rows key := ⟨[], List.nodup_nil⟩

/-- The rows that are kept; the others are deleted. -/
def keep (rows : Rows key) (wanted : Row → Bool) : Rows key :=
  ⟨rows.list.filter wanted, rows.distinct.sublist (List.filter_sublist.map key)⟩

/-- Change rows in what does not identify them. -/
def revise (rows : Rows key) (change : Row → Row) (kept : ∀ row, key (change row) = key row) :
    Rows key :=
  ⟨rows.list.map change, by
    have same : key ∘ change = key := funext kept
    rw [List.map_map, same]
    exact rows.distinct⟩

theorem eq_of_key (rows : Rows key) {first second : Row} (left : first ∈ rows.list)
    (right : second ∈ rows.list) (same : key first = key second) : first = second :=
  List.inj_on_of_nodup_map rows.distinct left right same

theorem keep_eq_self {rows : Rows key} {wanted : Row → Bool}
    (all : ∀ row ∈ rows.list, wanted row) : rows.keep wanted = rows := by
  ext1
  exact List.filter_eq_self.mpr all

theorem revise_eq_self {rows : Rows key} {change : Row → Row}
    {kept : ∀ row, key (change row) = key row} (same : ∀ row ∈ rows.list, change row = row) :
    rows.revise change kept = rows := by
  ext1
  exact (List.map_congr_left same).trans (List.map_id' _)

variable [DecidableEq Key]

def find (rows : Rows key) (wanted : Key) : Option Row :=
  rows.list.find? fun row => key row = wanted

def has (rows : Rows key) (wanted : Key) : Bool := (rows.find wanted).isSome

/-- INSERT; refused where the key is taken. -/
def insert (rows : Rows key) (row : Row) : Option (Rows key) :=
  if fresh : key row ∉ rows.list.map key then
    some ⟨rows.list ++ [row], by
      rw [List.map_append, List.map_singleton, ← List.concat_eq_append]
      exact rows.distinct.concat fresh⟩
  else none

/-- Every one of the rows, one after the other. -/
def insertAll (rows : Rows key) : List Row → Option (Rows key)
  | [] => some rows
  | row :: rest => (rows.insert row).bind fun next => next.insertAll rest

/-- The row in the place of the one under its key, or after the others. -/
def put (rows : Rows key) (row : Row) : Rows key :=
  (rows.insert row).getD <|
    rows.revise (fun old => if key old = key row then row else old) fun old => by
      split
      · next same => exact same.symm
      · rfl

def putAll (rows : Rows key) (news : List Row) : Rows key := news.foldl put rows

/-- First the rows under keys that are there, then the others. -/
def merge (rows : Rows key) (news : List Row) : Rows key :=
  (rows.putAll (news.filter fun row => rows.has (key row))).putAll
    (news.filter fun row => !rows.has (key row))

/-! Look-ups. -/

theorem find_eq_some {rows : Rows key} {wanted : Key} {row : Row} :
    rows.find wanted = some row ↔ row ∈ rows.list ∧ key row = wanted := by
  constructor
  · intro found
    exact ⟨List.mem_of_find?_eq_some found, by simpa using List.find?_some found⟩
  · rintro ⟨here, rfl⟩
    cases found : rows.find (key row) with
    | none =>
        have missed := List.find?_eq_none.mp found row here
        simp at missed
    | some other =>
        have there := List.mem_of_find?_eq_some found
        have same : key other = key row := by simpa using List.find?_some found
        rw [rows.eq_of_key there here same]

theorem find_eq_none {rows : Rows key} {wanted : Key} :
    rows.find wanted = none ↔ wanted ∉ rows.list.map key := by
  rw [find, List.find?_eq_none]
  simp

theorem has_iff {rows : Rows key} {wanted : Key} :
    rows.has wanted ↔ wanted ∈ rows.list.map key := by
  rw [has, ← not_iff_not, Option.not_isSome_iff_eq_none, find_eq_none]

theorem find_keep (rows : Rows key) (wanted : Row → Bool) (other : Key) :
    (rows.keep wanted).find other = (rows.find other).filter wanted := by
  apply Option.ext
  intro row
  rw [find_eq_some, Option.filter_eq_some_iff, find_eq_some, keep, List.mem_filter]
  tauto

theorem find_revise (rows : Rows key) {change : Row → Row}
    (kept : ∀ row, key (change row) = key row) (wanted : Key) :
    (rows.revise change kept).find wanted = (rows.find wanted).map change := by
  rw [find, find, revise, List.find?_map]
  congr 2
  funext row
  simp [kept]

/-! Insertions. -/

theorem insert_eq_some {rows next : Rows key} {row : Row} :
    rows.insert row = some next ↔ rows.has (key row) = false ∧ next = rows.put row := by
  rw [← Bool.not_eq_true, has_iff, put, insert]
  by_cases taken : key row ∈ rows.list.map key
  · simp [taken]
  · simp [taken, eq_comm]

theorem find_put (rows : Rows key) (row : Row) (wanted : Key) :
    (rows.put row).find wanted = if wanted = key row then some row else rows.find wanted := by
  by_cases taken : key row ∈ rows.list.map key
  · rw [put, insert, dif_neg (not_not.mpr taken), Option.getD_none, find_revise]
    split
    · next same =>
        obtain ⟨old, here, own⟩ := List.mem_map.mp taken
        rw [same, find_eq_some.mpr ⟨here, own⟩, Option.map_some, if_pos own]
    · next other =>
        cases found : rows.find wanted with
        | none => rfl
        | some old =>
            rw [Option.map_some, if_neg]
            rw [(find_eq_some.mp found).2]
            exact other
  · rw [put, insert, dif_pos taken, Option.getD_some, find, List.find?_append]
    split
    · next same =>
        rw [same, show rows.list.find? _ = none from find_eq_none.mpr taken]
        simp
    · next other =>
        rw [List.find?_singleton, if_neg (by simpa using Ne.symm other), Option.or_none]
        rfl

theorem find_put_self (rows : Rows key) (row : Row) : (rows.put row).find (key row) = some row := by
  rw [find_put, if_pos rfl]

theorem has_put (rows : Rows key) (row : Row) (wanted : Key) :
    (rows.put row).has wanted = (wanted = key row || rows.has wanted) := by
  rw [has, find_put, has]
  split <;> simp_all

/-- To write a row as it is there changes nothing. -/
theorem put_eq_self {rows : Rows key} {row : Row} (there : rows.find (key row) = some row) :
    rows.put row = rows := by
  have here := (find_eq_some.mp there).1
  rw [put, insert, dif_neg (not_not.mpr (List.mem_map_of_mem here)), Option.getD_none]
  apply revise_eq_self
  intro old member
  split
  · next same => exact rows.eq_of_key here member same.symm
  · rfl

/-- Of two writes under one key the later stands. -/
theorem put_put (rows : Rows key) {first second : Row} (same : key first = key second) :
    (rows.put first).put second = rows.put second := by
  have taken : key second ∈ (rows.put first).list.map key := by
    rw [← has_iff, has_put, same]
    simp
  rw [put, insert, dif_neg (not_not.mpr taken), Option.getD_none]
  ext1
  by_cases old : key second ∈ rows.list.map key
  · rw [put, put, insert, insert, dif_neg (not_not.mpr (same ▸ old)), dif_neg (not_not.mpr old)]
    simp only [Option.getD_none, revise, List.map_map]
    apply List.map_congr_left
    intro row _
    simp only [Function.comp_apply, same]
    split
    · rfl
    · rfl
  · have keeps : ∀ row ∈ rows.list, (if key row = key second then second else row) = row := by
      intro row here
      apply if_neg
      intro own
      rw [← own] at old
      exact old (List.mem_map_of_mem here)
    rw [put, put, insert, insert, dif_pos (same ▸ old), dif_pos old]
    simp only [Option.getD_some, revise, List.map_append, List.map_singleton, if_pos same]
    rw [List.map_congr_left keeps, List.map_id']

@[simp] theorem putAll_nil (rows : Rows key) : rows.putAll [] = rows := rfl

@[simp] theorem putAll_cons (rows : Rows key) (row : Row) (rest : List Row) :
    rows.putAll (row :: rest) = (rows.put row).putAll rest := rfl

theorem putAll_append (rows : Rows key) (first second : List Row) :
    rows.putAll (first ++ second) = (rows.putAll first).putAll second := List.foldl_append

theorem find_putAll_of_not_mem {rows : Rows key} {news : List Row} {wanted : Key}
    (other : wanted ∉ news.map key) : (rows.putAll news).find wanted = rows.find wanted := by
  induction news generalizing rows with
  | nil => rfl
  | cons row rest ih =>
      rw [List.map_cons, List.mem_cons, not_or] at other
      obtain ⟨head, tail⟩ := other
      rw [putAll_cons, ih tail, find_put, if_neg head]

/-- What was written under keys of its own is found. -/
theorem find_putAll_of_mem {rows : Rows key} {news : List Row} (distinct : (news.map key).Nodup)
    {row : Row} (here : row ∈ news) : (rows.putAll news).find (key row) = some row := by
  induction news generalizing rows with
  | nil => cases here
  | cons head rest ih =>
      obtain ⟨fresh, distinct⟩ := List.nodup_cons.mp distinct
      rw [putAll_cons]
      rcases List.mem_cons.mp here with rfl | here
      · rw [find_putAll_of_not_mem fresh, find_put_self]
      · exact ih distinct here

theorem putAll_eq_self {rows : Rows key} {news : List Row}
    (there : ∀ row ∈ news, rows.find (key row) = some row) : rows.putAll news = rows := by
  induction news with
  | nil => rfl
  | cons row rest ih =>
      obtain ⟨head, tail⟩ := List.forall_mem_cons.mp there
      rw [putAll_cons, put_eq_self head, ih tail]

theorem has_putAll (rows : Rows key) (news : List Row) (wanted : Key) :
    (rows.putAll news).has wanted = (wanted ∈ news.map key || rows.has wanted) := by
  induction news generalizing rows with
  | nil => simp
  | cons row rest ih =>
      rw [putAll_cons, ih, has_put, List.map_cons]
      by_cases head : wanted = key row <;> simp [head]

/-- What is merged is what is there, and first what is there already, in another order. -/
theorem merge_eq (rows : Rows key) (news : List Row) : ∃ others : List Row, others.Perm news ∧
    rows.merge news = rows.putAll others :=
  ⟨_, List.filter_append_perm _ news, (putAll_append rows _ _).symm⟩

theorem find_merge_of_mem {rows : Rows key} {news : List Row} (distinct : (news.map key).Nodup)
    {row : Row} (here : row ∈ news) : (rows.merge news).find (key row) = some row := by
  obtain ⟨others, perm, same⟩ := rows.merge_eq news
  rw [same]
  exact find_putAll_of_mem ((perm.map key).nodup_iff.mpr distinct) (perm.mem_iff.mpr here)

theorem merge_eq_self {rows : Rows key} {news : List Row}
    (there : ∀ row ∈ news, rows.find (key row) = some row) : rows.merge news = rows := by
  obtain ⟨others, perm, same⟩ := rows.merge_eq news
  rw [same]
  exact putAll_eq_self fun row here => there row (perm.mem_iff.mp here)

theorem has_merge (rows : Rows key) (news : List Row) (wanted : Key) :
    (rows.merge news).has wanted = (wanted ∈ news.map key || rows.has wanted) := by
  obtain ⟨others, perm, same⟩ := rows.merge_eq news
  rw [same, has_putAll]
  congr 1
  exact decide_eq_decide.mpr (perm.map key).mem_iff

/-- Rows can be inserted exactly under distinct keys that none has yet. -/
theorem insertAll_eq_some {rows next : Rows key} {news : List Row} :
    rows.insertAll news = some next ↔
      (news.map key).Nodup ∧ (∀ row ∈ news, rows.has (key row) = false) ∧ next = rows.putAll news := by
  induction news generalizing rows with
  | nil =>
      simp only [insertAll, Option.some.injEq, List.map_nil, List.nodup_nil, List.not_mem_nil,
        false_implies, implies_true, true_and, putAll_nil]
      exact eq_comm
  | cons row rest ih =>
      rw [insertAll, Option.bind_eq_some_iff, List.map_cons, List.nodup_cons, List.forall_mem_cons,
        putAll_cons]
      -- The rest must be free of the keys there were and of this row's.
      have rest_free : (∀ other ∈ rest, (rows.put row).has (key other) = false) ↔
          key row ∉ rest.map key ∧ ∀ other ∈ rest, rows.has (key other) = false := by
        simp only [has_put, Bool.or_eq_false_iff, decide_eq_false_iff_not, List.mem_map, not_exists,
          not_and]
        constructor
        · intro all
          exact ⟨fun other here => (all other here).1, fun other here => (all other here).2⟩
        · rintro ⟨apart, free⟩ other here
          exact ⟨apart other here, free other here⟩
      constructor
      · rintro ⟨middle, inserted, later⟩
        obtain ⟨free, rfl⟩ := insert_eq_some.mp inserted
        obtain ⟨distinct, others, rfl⟩ := ih.mp later
        obtain ⟨apart, others⟩ := rest_free.mp others
        exact ⟨⟨apart, distinct⟩, ⟨free, others⟩, rfl⟩
      · rintro ⟨⟨apart, distinct⟩, ⟨free, others⟩, rfl⟩
        exact ⟨_, insert_eq_some.mpr ⟨free, rfl⟩, ih.mpr ⟨distinct, rest_free.mpr ⟨apart, others⟩, rfl⟩⟩

end Rows
