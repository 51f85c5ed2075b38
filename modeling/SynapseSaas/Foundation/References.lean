import Mathlib.Data.List.DropRight

/-! References as browsers read them, by the URL Standard, on a page whose address has a
special scheme such as `https`. -/

set_option autoImplicit false

namespace References

/-- A control character or a space, which is not read at the ends of a text. -/
def edge (char : Char) : Bool := char.toNat ≤ 32

/-- A tab or a newline, which is not read anywhere. -/
def unread (char : Char) : Bool := char = '\t' ∨ char = '\n' ∨ char = '\r'

/-- Under a special scheme a backslash is read as a slash. -/
def slash (char : Char) : Bool := char = '/' ∨ char = '\\'

/-- What is read of a text. -/
def significant (text : List Char) : List Char :=
  ((text.dropWhile edge).rdropWhile edge).filter fun char => !unread char

/-- A reference names an authority of its own, or a path on the page's, or begins with
something else than slashes. -/
inductive Reference where
  | authority (rest : List Char)
  | path (text : List Char)
  | other (text : List Char)
  deriving DecidableEq, Repr

def reference (text : List Char) : Reference :=
  match significant text with
  | [] => .other []
  | first :: rest =>
      if slash first then
        match rest with
        | [] => .path [first]
        | second :: more =>
            if slash second then .authority more else .path (first :: second :: more)
      else .other (first :: rest)

/-- The query of an address, without its question mark. -/
def query (text : List Char) : List Char :=
  (((significant text).takeWhile (· ≠ '#')).dropWhile (· ≠ '?')).tail

/-- Nothing is read before a slash. -/
def BeginsSlash (text : List Char) : Prop :=
  ∃ gap mark rest, text = gap ++ mark :: rest ∧ (∀ char ∈ gap, unread char) ∧ slash mark

/-- All characters of a text are read. -/
def Plain (text : List Char) : Prop := ∀ char ∈ text, ¬ edge char

section Reading

variable {text rest : List Char} {char : Char}

theorem rdropWhile_cons (char : Char) (rest : List Char) :
    (char :: rest).rdropWhile edge =
      if rest.rdropWhile edge = [] ∧ edge char then [] else char :: rest.rdropWhile edge := by
  simp only [List.rdropWhile, List.reverse_cons, List.dropWhile_append, List.reverse_eq_nil_iff,
    List.isEmpty_iff]
  by_cases all : List.dropWhile edge rest.reverse = []
  · by_cases blank : edge char <;> simp [all, blank]
  · simp [all]

theorem unread_edge (missing : unread char) : edge char := by
  simp only [unread, decide_eq_true_eq] at missing
  rcases missing with rfl | rfl | rfl <;> decide

theorem not_edge_of_slash (mark : slash char) : ¬ edge char := by
  simp only [slash, decide_eq_true_eq] at mark
  rcases mark with rfl | rfl <;> decide

theorem not_unread_of_slash (mark : slash char) : ¬ unread char := fun missing =>
  not_edge_of_slash mark (unread_edge missing)

/-- What is read after the first character of a reference that is not blank. -/
theorem significant_cons (here : ¬ edge char) :
    significant (char :: rest) =
      char :: (rest.rdropWhile edge).filter fun char => !unread char := by
  have seen : ¬ unread char := fun missing => here (unread_edge missing)
  rw [significant, List.dropWhile_cons_of_neg here, rdropWhile_cons, if_neg fun gone => here gone.2,
    List.filter_cons, if_pos (by simpa using seen)]

/-- The first character that is read is a slash exactly if nothing is read before one. -/
theorem beginsSlash_iff (text : List Char) :
    (∃ mark ∈ ((text.rdropWhile edge).filter fun char => !unread char).head?, slash mark) ↔
      BeginsSlash text := by
  induction text with
  | nil => simp [BeginsSlash]
  | cons char rest ih =>
      by_cases missing : unread char
      · -- A tab or a newline is not read, and not counted before a slash.
        have same : (((char :: rest).rdropWhile edge).filter fun char => !unread char) =
            (rest.rdropWhile edge).filter fun char => !unread char := by
          rw [rdropWhile_cons]
          split
          · next gone => rw [gone.1]
          · rw [List.filter_cons, if_neg (by simp [missing])]
        rw [same, ih]
        constructor
        · rintro ⟨gap, mark, more, rfl, all, marked⟩
          exact ⟨char :: gap, mark, more, rfl, List.forall_mem_cons.mpr ⟨missing, all⟩, marked⟩
        · rintro ⟨gap, mark, more, whole, all, marked⟩
          cases gap with
          | nil =>
              cases whole
              exact absurd missing (not_unread_of_slash marked)
          | cons first gap =>
              cases whole
              exact ⟨gap, mark, more, rfl, (List.forall_mem_cons.mp all).2, marked⟩
      · have begins : BeginsSlash (char :: rest) ↔ slash char := by
          constructor
          · rintro ⟨gap, mark, more, whole, all, marked⟩
            cases gap with
            | nil =>
                cases whole
                exact marked
            | cons first gap =>
                cases whole
                exact absurd (all char List.mem_cons_self) missing
          · exact fun marked => ⟨[], char, rest, rfl, by simp, marked⟩
        rw [begins, rdropWhile_cons]
        split
        · next gone => exact iff_of_false (by simp) fun marked => not_edge_of_slash marked gone.2
        · rw [List.filter_cons, if_pos (by simp [missing])]
          simp

/-- A reference that begins with a slash stays on the page's authority exactly if no other
slash is read right after it. -/
theorem path_iff (rest : List Char) :
    (∃ path, reference ('/' :: rest) = .path path) ↔ ¬ BeginsSlash rest := by
  rw [← beginsSlash_iff, reference, significant_cons (by decide)]
  cases read : (rest.rdropWhile edge).filter fun char => !unread char with
  | nil => simp [slash]
  | cons second more =>
      have first : slash '/' := by decide
      cases mark : slash second <;> simp [first, mark]

/-- The end of a text is read as it is where all its characters are read. -/
theorem significant_append (front : List Char) {char : Char} {back : List Char}
    (plain : Plain (char :: back)) :
    ∃ read ⊆ front, significant (front ++ char :: back) = read ++ char :: back := by
  obtain ⟨here, later⟩ := List.forall_mem_cons.mp plain
  have start : (front ++ char :: back).dropWhile edge = front.dropWhile edge ++ char :: back := by
    rw [List.dropWhile_append]
    split
    · next empty =>
        rw [List.dropWhile_cons_of_neg here, List.isEmpty_iff.mp empty, List.nil_append]
    · rfl
  have finish : (front.dropWhile edge ++ char :: back).rdropWhile edge =
      front.dropWhile edge ++ char :: back := by
    rw [List.rdropWhile_eq_self_iff]
    intro nonempty
    rw [List.getLast_append_of_ne_nil _ (List.cons_ne_nil char back)]
    exact plain _ (List.getLast_mem _)
  have kept : (char :: back).filter (fun char => !unread char) = char :: back := by
    rw [List.filter_eq_self]
    intro other member
    have seen : ¬ unread other := fun missing => plain other member (unread_edge missing)
    simpa using seen
  refine ⟨(front.dropWhile edge).filter fun char => !unread char, ?_, ?_⟩
  · exact fun other member => List.dropWhile_sublist _ |>.subset (List.mem_of_mem_filter member)
  · rw [significant, start, finish, List.filter_append, kept]

/-- The query is what stands after the first question mark, before a fragment. -/
theorem query_eq {front back : List Char} (unasked : '?' ∉ front) (whole : '#' ∉ front)
    (plain : Plain back) (unmarked : '#' ∉ back) : query (front ++ '?' :: back) = back := by
  obtain ⟨read, among, same⟩ := significant_append front
    (List.forall_mem_cons.mpr ⟨(by decide : ¬ edge '?'), plain⟩)
  have without : ∀ char ∈ read ++ '?' :: back, decide (char ≠ '#') = true := by
    intro char member
    apply decide_eq_true
    rcases List.mem_append.mp member with earlier | later
    · exact ne_of_mem_of_not_mem (among earlier) whole
    · rcases List.mem_cons.mp later with rfl | later
      · decide
      · exact ne_of_mem_of_not_mem later unmarked
  have before : ∀ char ∈ read, decide (char ≠ '?') = true := fun char member =>
    decide_eq_true (ne_of_mem_of_not_mem (among member) unasked)
  rw [query, same, List.takeWhile_eq_self_iff.mpr without, List.dropWhile_append_of_pos before]
  rfl

end Reading

end References
