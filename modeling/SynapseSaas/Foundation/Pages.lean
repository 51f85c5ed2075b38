import Mathlib.Data.List.Sort
import Mathlib.Data.List.Nodup
import Mathlib.Data.List.Pairwise
import Mathlib.Data.List.Perm.Basic

/-! Reading a sorted collection page by page, where every request sorts anew and may leave
rows that tie in any order. -/

set_option autoImplicit false

namespace Pages

variable {Row : Type}

/-- An answer to `SELECT ... ORDER BY key`: ties come in any order. -/
def Answers (key : Row → Int) (wanted answer : List Row) : Prop :=
  answer.Perm wanted ∧ answer.Pairwise fun first second => key first ≤ key second

/-- `LIMIT limit OFFSET offset`. -/
def page (rows : List Row) (limit offset : Nat) : List Row := (rows.drop offset).take limit

/-- The requests at 0, limit, 2 * limit, ... until the total is covered, by their number. -/
def requests (total limit : Nat) : List Nat := List.range (max 1 ((total + limit - 1) / limit))

def collect (answers : Nat → List Row) (total limit : Nat) : List Row :=
  (requests total limit).flatMap fun request => page (answers request) limit (request * limit)

/-- The sort keys of the collection, in order. -/
def keys (key : Row → Int) (wanted : List Row) : List Int := (wanted.map key).insertionSort (· ≤ ·)

/-- No two rows that tie stand on either side of the end of a page. -/
def Separated (key : Row → Int) (wanted : List Row) (limit : Nat) : Prop :=
  ∀ count, 0 < count → count * limit < wanted.length →
    (keys key wanted)[count * limit - 1]? ≠ (keys key wanted)[count * limit]?

section Answers

variable {key : Row → Int} {wanted answer other : List Row}

theorem Answers.keys_eq (answers : Answers key wanted answer) : answer.map key = keys key wanted := by
  have sorted : (answer.map key).Pairwise (· ≤ ·) := List.pairwise_map.mpr answers.2
  have total : Std.Total fun first second : Int => first ≤ second := ⟨Int.le_total⟩
  have transitive : IsTrans Int fun first second => first ≤ second := ⟨fun _ _ _ => Int.le_trans⟩
  have perm : (answer.map key).Perm (keys key wanted) :=
    (answers.1.map key).trans (List.perm_insertionSort _ _).symm
  exact perm.eq_of_pairwise (fun _ _ _ _ le ge => Int.le_antisymm le ge) sorted
    (List.pairwise_insertionSort _ _)

theorem answers_of_keys (perm : other.Perm wanted) (answers : Answers key wanted answer)
    (same : other.map key = answer.map key) : Answers key wanted other := by
  refine ⟨perm, List.pairwise_map.mp ?_⟩
  rw [same]
  exact List.pairwise_map.mpr answers.2

/-- There always is an answer. -/
theorem exists_answer (key : Row → Int) (wanted : List Row) : ∃ answer, Answers key wanted answer := by
  have total : Std.Total fun first second : Row => key first ≤ key second :=
    ⟨fun first second => Int.le_total (key first) (key second)⟩
  have transitive : IsTrans Row fun first second => key first ≤ key second :=
    ⟨fun _ _ _ => Int.le_trans⟩
  exact ⟨wanted.insertionSort fun first second => key first ≤ key second,
    List.perm_insertionSort .., List.pairwise_insertionSort ..⟩

/-- What comes before a place where the keys rise is all that is below the key there. -/
theorem take_eq_filter (answers : Answers key wanted answer) {count : Nat} {last next : Int}
    (before : (answer.map key)[count - 1]? = some last) (there : (answer.map key)[count]? = some next)
    (rises : last < next) (positive : 0 < count) :
    answer.take count = answer.filter fun row => key row < next := by
  have sorted : (answer.map key).Pairwise (· ≤ ·) := List.pairwise_map.mpr answers.2
  have ordered {i j : Nat} {first second : Int} (le : i ≤ j)
      (here : (answer.map key)[i]? = some first) (later : (answer.map key)[j]? = some second) :
      first ≤ second := by
    obtain ⟨short, rfl⟩ := List.getElem?_eq_some_iff.mp here
    obtain ⟨long, rfl⟩ := List.getElem?_eq_some_iff.mp later
    obtain rfl | less := Nat.eq_or_lt_of_le le
    · exact Int.le_refl _
    · exact List.pairwise_iff_getElem.mp sorted i j short long less
  have low : ∀ row ∈ answer.take count, key row < next := by
    intro row here
    obtain ⟨i, found⟩ := List.mem_iff_getElem?.mp here
    rw [List.getElem?_take] at found
    split at found
    · next less =>
      have mapped : (answer.map key)[i]? = some (key row) := by rw [List.getElem?_map, found]; rfl
      exact (ordered (by omega) mapped before).trans_lt rises
    · cases found
  have high : ∀ row ∈ answer.drop count, ¬key row < next := by
    intro row here
    obtain ⟨i, found⟩ := List.mem_iff_getElem?.mp here
    rw [List.getElem?_drop] at found
    have mapped : (answer.map key)[count + i]? = some (key row) := by
      rw [List.getElem?_map, found]
      rfl
    exact not_lt.mpr (ordered (Nat.le_add_right ..) there mapped)
  conv_rhs => rw [← List.take_append_drop count answer]
  rw [List.filter_append, List.filter_eq_self.mpr fun row here => decide_eq_true (low row here),
    List.filter_eq_nil_iff.mpr fun row here => by simpa using high row here, List.append_nil]

/-- At a separated place every answer has the same rows before it. -/
theorem take_perm (first : Answers key wanted answer) (second : Answers key wanted other)
    {count : Nat} (separated : 0 < count → count < wanted.length →
      (keys key wanted)[count - 1]? ≠ (keys key wanted)[count]?) :
    (answer.take count).Perm (other.take count) := by
  have length : (keys key wanted).length = wanted.length := by
    rw [keys, List.length_insertionSort, List.length_map]
  by_cases positive : 0 < count
  · by_cases within : count < wanted.length
    · -- The key rises here.
      obtain ⟨last, before⟩ : ∃ last, (keys key wanted)[count - 1]? = some last :=
        ⟨_, List.getElem?_eq_getElem (by omega)⟩
      obtain ⟨next, there⟩ : ∃ next, (keys key wanted)[count]? = some next :=
        ⟨_, List.getElem?_eq_getElem (by omega)⟩
      have different := separated positive within
      rw [before, there] at different
      have rises : last < next := by
        have sorted := List.pairwise_map.mpr first.2
        rw [first.keys_eq] at sorted
        obtain ⟨short, rfl⟩ := List.getElem?_eq_some_iff.mp before
        obtain ⟨long, rfl⟩ := List.getElem?_eq_some_iff.mp there
        have le := List.pairwise_iff_getElem.mp sorted (count - 1) count short long (by omega)
        exact lt_of_le_of_ne le fun same => different (congrArg some same)
      rw [take_eq_filter first (first.keys_eq ▸ before) (first.keys_eq ▸ there) rises positive,
        take_eq_filter second (second.keys_eq ▸ before) (second.keys_eq ▸ there) rises positive]
      exact (first.1.trans second.1.symm).filter _
    · rw [List.take_of_length_le (by rw [first.1.length_eq]; omega),
        List.take_of_length_le (by rw [second.1.length_eq]; omega)]
      exact first.1.trans second.1.symm
  · rw [Nat.eq_zero_of_not_pos positive]
    exact List.Perm.refl _

end Answers

section Collect

variable {key : Row → Int} {wanted answer : List Row} {limit : Nat}

theorem flatMap_page (answer : List Row) (limit count : Nat) :
    (List.range count).flatMap (fun request => page answer limit (request * limit)) =
      answer.take (count * limit) := by
  induction count with
  | zero => simp
  | succ count ih =>
      rw [List.range_succ, List.flatMap_append, ih, List.flatMap_singleton, page, Nat.succ_mul,
        List.take_add]

/-- The requests cover the total. -/
theorem total_le_requests (total : Nat) (positive : 0 < limit) :
    total ≤ max 1 ((total + limit - 1) / limit) * limit := by
  have ceiling : total ≤ (total + limit - 1) / limit * limit := by
    have whole := Nat.div_add_mod (total + limit - 1) limit
    have rest := Nat.mod_lt (total + limit - 1) positive
    rw [Nat.mul_comm] at whole
    omega
  exact ceiling.trans (Nat.mul_le_mul_right _ (Nat.le_max_right ..))

/-- A number of requests within the total is among those made. -/
theorem mem_requests {total count : Nat} (positive : 0 < limit) (within : count * limit < total) :
    count ∈ requests total limit := by
  have below : count < (total + limit - 1) / limit := by
    rw [Nat.lt_iff_add_one_le, Nat.le_div_iff_mul_le positive, Nat.succ_mul]
    omega
  exact List.mem_range.mpr (below.trans_le (Nat.le_max_right ..))

/-- From one and the same answer the pages make up the whole. -/
theorem collect_same (answer : List Row) (positive : 0 < limit) :
    collect (fun _ => answer) answer.length limit = answer := by
  rw [collect, requests, flatMap_page, List.take_of_length_le (total_le_requests _ positive)]

theorem page_perm (answers : Answers key wanted answer) {other : List Row}
    (others : Answers key wanted other) (separated : Separated key wanted limit) (request : Nat) :
    (page other limit (request * limit)).Perm (page answer limit (request * limit)) := by
  have cut (count : Nat) : (other.take (count * limit)).Perm (answer.take (count * limit)) := by
    apply take_perm others answers
    intro positive
    exact separated count (Nat.pos_of_ne_zero fun zero => by simp [zero] at positive)
  have whole := cut (request + 1)
  rw [Nat.succ_mul, List.take_add, List.take_add] at whole
  exact (List.perm_append_left_iff _).mp (whole.trans ((cut request).symm.append_right _))

theorem separated_collects (positive : 0 < limit) (separated : Separated key wanted limit)
    {answers : Nat → List Row} (sorted : ∀ request, Answers key wanted (answers request)) :
    (collect answers wanted.length limit).Perm wanted := by
  have same := collect_same (answers 0) positive
  rw [(sorted 0).1.length_eq] at same
  have perm : (collect answers wanted.length limit).Perm
      (collect (fun _ => answers 0) wanted.length limit) :=
    List.Perm.flatMap_left _ fun request _ => page_perm (sorted 0) (sorted request) separated request
  rw [same] at perm
  exact perm.trans (sorted 0).1

/-- Where no row comes twice, a row comes from one request. -/
theorem request_unique {pages : Nat → List Row} {made : List Nat}
    (distinct : (made.flatMap pages).Nodup) {first second : Nat} (left : first ∈ made)
    (right : second ∈ made) {row : Row} (here : row ∈ pages first) (there : row ∈ pages second) :
    first = second := by
  by_contra different
  rw [List.nodup_flatMap] at distinct
  have symmetric : Std.Symm (Function.onFun List.Disjoint pages) :=
    ⟨fun _ _ disjoint _ here there => disjoint there here⟩
  exact distinct.2.forall left right different here there

/-- Where rows that tie stand on either side of the end of a page, two requests may both
give one of them. -/
theorem collects_twice (distinct : wanted.Nodup) (positive : 0 < limit)
    (tied : ¬Separated key wanted limit) :
    ∃ answers : Nat → List Row, (∀ request, Answers key wanted (answers request)) ∧
      ¬(collect answers wanted.length limit).Perm wanted := by
  unfold Separated at tied
  push Not at tied
  obtain ⟨count, some, within, same⟩ := tied
  obtain ⟨answer, sorted⟩ := exists_answer key wanted
  have length := sorted.1.length_eq
  have enough : 1 ≤ count * limit := Nat.mul_pos some positive
  -- The answer around the end of the page.
  obtain ⟨front, left, right, back, front_length, rfl⟩ : ∃ front left right back,
      front.length = count * limit - 1 ∧ answer = front ++ left :: right :: back := by
    have last : count * limit - 1 < answer.length := by omega
    have next : count * limit < answer.length := by omega
    refine ⟨answer.take (count * limit - 1), answer[count * limit - 1], answer[count * limit],
      answer.drop (count * limit + 1), List.length_take_of_le (by omega), ?_⟩
    have first := List.drop_eq_getElem_cons (l := answer) (i := count * limit - 1) last
    have second := List.drop_eq_getElem_cons (l := answer) (i := count * limit) next
    rw [Nat.sub_add_cancel enough, second] at first
    rw [← first, List.take_append_drop]
  have tie : key left = key right := by
    rw [← sorted.keys_eq, List.map_append, List.map_cons, List.map_cons] at same
    have place : (front.map key).length = count * limit - 1 := by rw [List.length_map, front_length]
    rw [List.getElem?_append_right (by omega), List.getElem?_append_right (by omega), place,
      Nat.sub_self, show count * limit - (count * limit - 1) = 1 by omega] at same
    simpa using same
  have swapped : Answers key wanted (front ++ right :: left :: back) := by
    refine answers_of_keys (((List.Perm.swap left right back).append_left front).trans sorted.1) sorted ?_
    simp [tie]
  let answers (request : Nat) : List Row :=
    if request = count then front ++ right :: left :: back else front ++ left :: right :: back
  have other : answers (count - 1) = front ++ left :: right :: back := if_neg (by omega)
  have own : answers count = front ++ right :: left :: back := if_pos rfl
  refine ⟨answers, fun request => ?_, fun perm => ?_⟩
  · unfold answers
    split
    · exact swapped
    · exact sorted
  · -- The row on the left is the last of one page and the first of the next.
    have unique := perm.nodup_iff.mpr distinct
    have here := mem_requests positive within
    have before : count - 1 ∈ requests wanted.length limit := by
      refine mem_requests positive (lt_of_le_of_lt (Nat.mul_le_mul_right _ (Nat.sub_le ..)) within)
    have step : (count - 1) * limit + limit = count * limit := by
      rw [← Nat.succ_mul, Nat.succ_eq_add_one, Nat.sub_add_cancel some]
    have last : left ∈ page (answers (count - 1)) limit ((count - 1) * limit) := by
      refine List.mem_iff_getElem?.mpr ⟨limit - 1, ?_⟩
      rw [other, page, List.getElem?_take_of_lt (by omega), List.getElem?_drop,
        List.getElem?_append_right (by omega), front_length,
        show (count - 1) * limit + (limit - 1) - (count * limit - 1) = 0 by omega]
      rfl
    have first : left ∈ page (answers count) limit (count * limit) := by
      rw [own, page, List.drop_append, front_length,
        show count * limit - (count * limit - 1) = 1 by omega,
        List.drop_of_length_le (by omega), List.nil_append, List.drop_succ_cons, List.drop_zero]
      obtain ⟨less, rfl⟩ := Nat.exists_eq_add_of_lt positive
      simp
    have one := request_unique unique before here last first
    omega

/-- Whatever order ties come in, the pages make up the whole exactly where no two rows that tie
stand on either side of the end of a page. -/
theorem collects_iff (distinct : wanted.Nodup) (positive : 0 < limit) :
    (∀ answers : Nat → List Row, (∀ request, Answers key wanted (answers request)) →
      (collect answers wanted.length limit).Perm wanted) ↔ Separated key wanted limit := by
  constructor
  · intro collects
    by_contra tied
    obtain ⟨answers, sorted, missed⟩ := collects_twice distinct positive tied
    exact missed (collects answers sorted)
  · exact fun separated _ sorted => separated_collects positive separated sorted

end Collect

end Pages
