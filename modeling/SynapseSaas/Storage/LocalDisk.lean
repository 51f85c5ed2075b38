import SynapseSaas.Foundation.Paths
import SynapseSaas.Storage.Files

/-! Where the local backend keeps the object of a key. The key of an object is made of the
organization and a name of the caller's. -/

set_option autoImplicit false

namespace SynapseSaas.Storage

open Paths

/-- `LocalDiskStorage._path` under the resolved root. -/
def localPath (root : Resolved) (key : String) : Result (List Part) := do
  validateKey key none
  -- A key begins with a letter or a digit: joining it does not leave the root.
  let path := resolve (root.parts ++ key.toList.splitOn '/')
  if ¬ (text root.parts).isPrefixOf (text path) then raise .storage "Invalid storage key"
  else return path

/-- `str(organization_id)`; the ids have 128 bits. -/
abbrev OrganizationId := Fin (2 ^ 128)

/-- `name.lstrip("/")` by its components. -/
def nameParts (name : String) : List Part := (name.toList.dropWhile (· = '/')).splitOn '/'

/-- The name has a component that can be the name of a file. -/
def NamesFile (name : String) : Prop := ∃ part ∈ nameParts name, Names part

/-- The name is `..`, but for slashes before it. -/
def NamesParent (name : String) : Prop := nameParts name = [['.', '.']]

instance (name : String) : Decidable (NamesFile name) :=
  inferInstanceAs (Decidable (∃ part ∈ nameParts name, Names part))

instance (name : String) : Decidable (NamesParent name) := inferInstanceAs (Decidable (_ = _))

/-- `root/org`. -/
def directory (root : Resolved) (organization : OrganizationId) : List Part :=
  root.parts ++ [(uuidText organization).toList]

/-! The texts of organization ids. -/

theorem hex_succ (width value : Nat) :
    hex (width + 1) value = Nat.digitChar (value / 16 ^ width % 16) :: hex width value := by
  rw [hex, List.range_succ_eq_map, List.map_cons, List.map_map, hex]
  congr 1
  apply List.map_congr_left
  intro index _
  have place : width + 1 - 1 - (index + 1) = width - 1 - index := by omega
  rw [Function.comp_apply, Nat.succ_eq_add_one, place]

@[simp] theorem hex_length (width value : Nat) : (hex width value).length = width := by
  simp [hex]

/-- The digits determine the number as far as they go. -/
theorem hex_injective {width first second : Nat} (same : hex width first = hex width second) :
    first % 16 ^ width = second % 16 ^ width := by
  induction width with
  | zero => rw [Nat.pow_zero, Nat.mod_one, Nat.mod_one]
  | succ width ih =>
      rw [hex_succ, hex_succ] at same
      obtain ⟨digit, rest⟩ := List.cons_eq_cons.mp same
      have digits : ∀ a < 16, ∀ b < 16, Nat.digitChar a = Nat.digitChar b → a = b := by decide
      have top := digits _ (Nat.mod_lt _ (by decide)) _ (Nat.mod_lt _ (by decide)) digit
      rw [Nat.mod_pow_succ, Nat.mod_pow_succ, top, ih rest]

theorem hex_slash (width value : Nat) : '/' ∉ hex width value := by
  have digits : ∀ value < 16, Nat.digitChar value ≠ '/' := by decide
  intro member
  obtain ⟨index, -, same⟩ := List.mem_map.mp member
  exact digits _ (Nat.mod_lt _ (by decide)) same

theorem uuidText_slash (id : Nat) : '/' ∉ (uuidText id).toList := by
  simp [uuidText, hex_slash]

theorem uuidText_names (id : Nat) : Names (uuidText id).toList := by
  have length : (uuidText id).toList.length = 36 := by simp [uuidText]
  refine ⟨?_, ?_, ?_⟩
  all_goals
    intro same
    rw [same] at length
    cases length

theorem uuidText_injective {first second : OrganizationId}
    (same : (uuidText first).toList = (uuidText second).toList) : first = second := by
  rw [uuidText, uuidText, String.toList_ofList, String.toList_ofList] at same
  obtain ⟨a, same⟩ := List.append_inj same (by simp)
  obtain ⟨b, same⟩ := List.append_inj (List.cons_eq_cons.mp same).2 (by simp)
  obtain ⟨c, same⟩ := List.append_inj (List.cons_eq_cons.mp same).2 (by simp)
  obtain ⟨d, same⟩ := List.append_inj (List.cons_eq_cons.mp same).2 (by simp)
  have a := hex_injective a
  have b := hex_injective b
  have c := hex_injective c
  have d := hex_injective d
  have e := hex_injective (List.cons_eq_cons.mp same).2
  have bound := first.isLt
  have bound' := second.isLt
  apply Fin.ext
  omega

/-! Accepted names. -/

section

variable {root : Resolved} {organization other : OrganizationId} {name name' key key' : String}

/-- What a name has to meet to be accepted, and its key. -/
theorem scopedKey_ok (accepted : scopedKey organization name = .ok key) :
    (['.', '.'] ∉ nameParts name ∨ NamesParent name) ∧
      key.toList = (uuidText organization).toList ++ '/' :: name.toList.dropWhile (· = '/') ∧
      keyMatches key.toList = true := by
  unfold scopedKey at accepted
  dsimp only at accepted
  split at accepted
  · cases accepted
  · next passed =>
      obtain ⟨_, valid, same⟩ := Result.bind_eq_ok.mp accepted
      cases same
      refine ⟨?_, by simp, ?_⟩
      · by_cases up : ['.', '.'] ∈ nameParts name
        · right
          have flat : '/' ∉ name.toList.dropWhile (· = '/') := fun nested => passed ⟨nested, up⟩
          rw [nameParts, List.splitOn_eq_singleton flat, List.mem_singleton] at up
          rw [NamesParent, nameParts, List.splitOn_eq_singleton flat, ← up]
        · exact .inl up
      · by_contra malformed
        rw [validateKey, if_pos malformed] at valid
        cases valid

/-- The path of an accepted name. -/
def pathOf (root : Resolved) (organization : OrganizationId) (name : String) : List Part :=
  if NamesParent name then root.parts
  else directory root organization ++ (nameParts name).filter Names

theorem pathOf_extends : root.parts <+: pathOf root organization name := by
  unfold pathOf
  split
  · exact List.prefix_rfl
  · rw [directory, List.append_assoc]
    exact List.prefix_append _ _

theorem localPath_scopedKey (accepted : scopedKey organization name = .ok key) :
    localPath root key = .ok (pathOf root organization name) := by
  obtain ⟨shape, spelled, valid⟩ := scopedKey_ok accepted
  have resolved : resolve (root.parts ++ key.toList.splitOn '/') = pathOf root organization name := by
    rw [root.resolve_append, spelled,
      List.splitOn_append_cons_self_of_not_mem (uuidText_slash organization), List.foldl_cons,
      enter_of_names _ (uuidText_names organization), ← nameParts, pathOf]
    by_cases parent : NamesParent name
    · rw [if_pos parent, parent, List.foldl_cons, List.foldl_nil, enter, if_neg (by decide),
        if_pos rfl, List.dropLast_concat]
    · rw [if_neg parent, foldl_enter (shape.resolve_right parent), directory]
  obtain ⟨rest, extends_root⟩ := @pathOf_extends root organization name
  have inside : (text root.parts).isPrefixOf (text (pathOf root organization name)) = true := by
    rw [List.isPrefixOf_iff_prefix, ← extends_root]
    exact text_prefix _ _
  rw [localPath, validateKey, if_neg (not_not_intro valid)]
  dsimp only
  rw [Result.ok_bind, resolved, if_neg (not_not_intro inside)]
  rfl

/-- A path of the organization's own is in its directory, one that goes up is the root. -/
theorem pathOf_below_iff :
    Below (directory root organization) (pathOf root organization name) ↔ NamesFile name := by
  by_cases parent : NamesParent name
  · rw [pathOf, if_pos parent]
    refine iff_of_false ?_ ?_
    · rintro ⟨rest, -, same⟩
      have lengths := congrArg List.length same
      simp [directory] at lengths
    · rintro ⟨part, listed, names⟩
      rw [parent, List.mem_singleton] at listed
      exact names.2.2 listed
  · rw [pathOf, if_neg parent]
    constructor
    · rintro ⟨rest, nonempty, same⟩
      have kept : (nameParts name).filter Names ≠ [] := by
        rwa [List.append_cancel_left same]
      obtain ⟨part, listed⟩ := List.exists_mem_of_ne_nil _ kept
      obtain ⟨listed, names⟩ := List.mem_filter.mp listed
      exact ⟨part, listed, by simpa using names⟩
    · rintro ⟨part, listed, names⟩
      refine ⟨_, ?_, rfl⟩
      exact List.ne_nil_of_mem (List.mem_filter.mpr ⟨listed, by simpa using names⟩)

/-- Two organizations meet at the root and nowhere else. -/
theorem pathOf_eq_iff (apart : organization ≠ other) :
    pathOf root organization name = pathOf root other name' ↔
      NamesParent name ∧ NamesParent name' := by
  have strict (organization : OrganizationId) (rest : List Part) :
      root.parts ≠ directory root organization ++ rest := by
    intro same
    have lengths := congrArg List.length same
    simp [directory] at lengths
  unfold pathOf
  by_cases parent : NamesParent name <;> by_cases parent' : NamesParent name'
  · rw [if_pos parent, if_pos parent']
    exact iff_of_true rfl ⟨parent, parent'⟩
  · rw [if_pos parent, if_neg parent']
    exact iff_of_false (strict _ _) (fun both => parent' both.2)
  · rw [if_neg parent, if_pos parent']
    exact iff_of_false (strict _ _).symm (fun both => parent both.1)
  · rw [if_neg parent, if_neg parent']
    refine iff_of_false ?_ (fun both => parent both.1)
    intro same
    rw [directory, directory, List.append_assoc, List.append_assoc] at same
    have heads := (List.cons_eq_cons.mp (List.append_cancel_left same)).1
    exact apart (uuidText_injective heads)

end

/-- The path of an accepted name is below the organization's directory exactly if the name
has a component that names a file, and two organizations reach one path only by `..`. -/
theorem stays_in_directory_iff (root : Resolved) (organization other : OrganizationId)
    (name name' key key' : String) (accepted : scopedKey organization name = .ok key)
    (accepted' : scopedKey other name' = .ok key') (apart : organization ≠ other) :
    ∃ path path', localPath root key = .ok path ∧ localPath root key' = .ok path' ∧
      (Below (directory root organization) path ↔ NamesFile name) ∧
      (path ≠ path' ↔ ¬ (NamesParent name ∧ NamesParent name')) :=
  ⟨_, _, localPath_scopedKey accepted, localPath_scopedKey accepted',
    pathOf_below_iff, not_congr (pathOf_eq_iff apart)⟩

theorem stays_in_directory_iff_logo :
    ∃ path path',
      localPath ⟨[['d', 'a', 't', 'a']], by decide⟩ (uuidText 1 ++ "/logos/a.png") = .ok path ∧
      localPath ⟨[['d', 'a', 't', 'a']], by decide⟩ (uuidText 2 ++ "/a.png") = .ok path' ∧
      (Below (directory ⟨[['d', 'a', 't', 'a']], by decide⟩ 1) path ↔ NamesFile "logos/a.png") ∧
      (path ≠ path' ↔ ¬ (NamesParent "logos/a.png" ∧ NamesParent "a.png")) :=
  stays_in_directory_iff ⟨[['d', 'a', 't', 'a']], by decide⟩ 1 2 "logos/a.png" "a.png" _ _
    (by decide +kernel) (by decide +kernel) (by decide)

/-- The name `..` is accepted for every organization and leads to the root. -/
theorem parent_reaches_root :
    ∃ path, scopedKey 1 ".." = .ok (uuidText 1 ++ "/..") ∧
      scopedKey 2 ".." = .ok (uuidText 2 ++ "/..") ∧
      localPath ⟨[['d', 'a', 't', 'a']], by decide⟩ (uuidText 1 ++ "/..") = .ok path ∧
      localPath ⟨[['d', 'a', 't', 'a']], by decide⟩ (uuidText 2 ++ "/..") = .ok path ∧
      ¬ Below (directory ⟨[['d', 'a', 't', 'a']], by decide⟩ 1) path := by
  have first : scopedKey (1 : OrganizationId) ".." = .ok (uuidText 1 ++ "/..") := by decide +kernel
  have second : scopedKey (2 : OrganizationId) ".." = .ok (uuidText 2 ++ "/..") := by
    decide +kernel
  have nothing : ¬ NamesFile ".." := by decide +kernel
  refine ⟨[['d', 'a', 't', 'a']], first, second, localPath_scopedKey first,
    localPath_scopedKey second, ?_⟩
  exact mt (@pathOf_below_iff ⟨[['d', 'a', 't', 'a']], by decide⟩ 1 "..").mp nothing

end SynapseSaas.Storage
