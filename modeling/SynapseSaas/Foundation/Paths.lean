import Mathlib.Data.List.Basic

/-! Absolute POSIX paths without symbolic links: the names from the root down. -/

set_option autoImplicit false

namespace Paths

abbrev Part := List Char

/-- A part that stands for an entry of a directory. -/
def Names (part : Part) : Prop := part ≠ [] ∧ part ≠ ['.'] ∧ part ≠ ['.', '.']

instance : DecidablePred Names := fun _ => inferInstanceAs (Decidable (_ ∧ _))

/-- A path with nothing left to resolve. -/
structure Resolved where
  parts : List Part
  names : ∀ part ∈ parts, Names part

/-- One part further: `.` stays, `..` goes up, where there is an up. -/
def enter (path : List Part) (part : Part) : List Part :=
  if part = [] ∨ part = ['.'] then path
  else if part = ['.', '.'] then path.dropLast
  else path ++ [part]

def resolve (parts : List Part) : List Part := parts.foldl enter []

/-- The path as a text. -/
def text (path : List Part) : List Char :=
  if path.isEmpty then ['/'] else path.flatMap ('/' :: ·)

/-- Something in the directory, at any depth. -/
def Below (directory path : List Part) : Prop := ∃ rest, rest ≠ [] ∧ path = directory ++ rest

theorem enter_of_names (path : List Part) {part : Part} (names : Names part) :
    enter path part = path ++ [part] := by
  obtain ⟨nonempty, here, up⟩ := names
  rw [enter, if_neg (by simp [nonempty, here]), if_neg up]

/-- Without a way up, resolving drops what names nothing. -/
theorem foldl_enter {parts : List Part} (down : ['.', '.'] ∉ parts) (start : List Part) :
    parts.foldl enter start = start ++ parts.filter Names := by
  induction parts generalizing start with
  | nil => exact (List.append_nil _).symm
  | cons part rest ih =>
      obtain ⟨up, down⟩ := not_or.mp (mt List.mem_cons.mpr down)
      rw [List.foldl_cons, ih down]
      by_cases names : Names part
      · rw [enter_of_names start names, List.filter_cons_of_pos (by simpa using names),
          List.append_assoc, List.singleton_append]
      · have stays : part = [] ∨ part = ['.'] := by
          by_contra moves
          obtain ⟨nonempty, here⟩ := not_or.mp moves
          exact names ⟨nonempty, here, Ne.symm up⟩
        rw [enter, if_pos stays, List.filter_cons_of_neg (by simpa using names)]

theorem Resolved.resolve_append (root : Resolved) (parts : List Part) :
    resolve (root.parts ++ parts) = parts.foldl enter root.parts := by
  have down : ['.', '.'] ∉ root.parts := fun listed => (root.names _ listed).2.2 rfl
  have kept : root.parts.filter Names = root.parts := by
    rw [List.filter_eq_self]
    intro part listed
    simpa using root.names part listed
  rw [resolve, List.foldl_append, foldl_enter down, kept, List.nil_append]

theorem text_prefix (path rest : List Part) : text path <+: text (path ++ rest) := by
  cases path with
  | nil =>
      cases rest with
      | nil => exact List.prefix_rfl
      | cons part rest => exact ⟨part ++ rest.flatMap ('/' :: ·), rfl⟩
  | cons part path =>
      refine ⟨rest.flatMap ('/' :: ·), ?_⟩
      rw [text, text, if_neg nofun, if_neg nofun, List.cons_append, List.flatMap_cons,
        List.flatMap_cons, List.flatMap_append, List.append_assoc]

end Paths
