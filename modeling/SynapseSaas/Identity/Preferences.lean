import SynapseSaas.Core.Errors
import SynapseSaas.Core.JsonText
import SynapseSaas.Foundation.Worklists
import Mathlib.Data.String.Basic

/-! The UI preferences of a user: what is checked of a patch when its request is parsed,
and of the merged object before it is stored.

Texts are Unicode texts: one with a lone surrogate cannot be encoded, and is refused as an
infinite number is. -/

set_option autoImplicit false

namespace SynapseSaas.Preferences

def preferenceKeyPattern : String := "[a-z][a-z0-9_-]\x7b0,63\x7d"

def maxPatchKeys : Nat := 32
def maxPatchBytes : Nat := 16384
def maxStoredKeys : Nat := 64
def maxStoredBytes : Nat := 32768
def maxDepth : Nat := 8

/-- `PREFERENCE_KEY_RE.fullmatch(key)`. -/
def preferenceKey (key : String) : Bool :=
  match key.toList with
  | [] => false
  | first :: rest => first.isLower && rest.length ≤ 63 &&
      rest.all fun char => char.isLower || char.isDigit || char.toNat = 95 || char.toNat = 45

/-- A character in the repr of a text in these quotes; what is not ASCII is taken to be
printable. -/
def reprChar (quote char : Char) : String :=
  if char = quote then "\\" ++ String.singleton char
  else match char.toNat with
    | 92 => "\\\\"
    | 9 => "\\t"
    | 10 => "\\n"
    | 13 => "\\r"
    | code => if code < 32 ∨ code = 127 then "\\x" ++ Json.hexDigits code else String.singleton char

/-- `repr(text)`: in double quotes only where it has single ones and no double ones. -/
def reprText (text : String) : String :=
  let single := Char.ofNat 39
  let double := Char.ofNat 34
  let quote := if single ∈ text.toList ∧ double ∉ text.toList then double else single
  String.singleton quote ++ String.join (text.toList.map (reprChar quote)) ++ String.singleton quote

def preferencesSize (value : Json) : Except String Nat :=
  if value.finite then .ok value.compact.utf8ByteSize
  else .error "preferences may only contain finite numbers"

/-- A turn of the loop in `_check_shape`, with the node taken off the stack. -/
def visitNode (limit : Nat) : Json × Nat → Except String (List (Json × Nat))
  | (.dict members, depth) =>
      if limit < depth then
        .error ("preferences nest deeper than " ++ toString limit ++ " levels")
      else if members.any fun member => Json.hasNul member.1 then
        .error "preferences may not contain NUL characters"
      else .ok (members.map fun member => (member.2, depth + 1))
  | (.list items, depth) =>
      if limit < depth then
        .error ("preferences nest deeper than " ++ toString limit ++ " levels")
      else .ok (items.map fun item => (item, depth + 1))
  | (.str text, _) =>
      if Json.hasNul text then .error "preferences may not contain NUL characters" else .ok []
  | _ => .ok []

/-- The loop visits each value in the object at most once. -/
def _checkShape (value : Json) (limit : Nat) : Except String Unit :=
  (Worklists.walk (visitNode limit) value.nodes [(value, 1)]).getD (.ok ())

def validatePreferencesPatch : Json → Except String (Mapping Json)
  | .dict value =>
      match ((value.map Prod.fst).filter fun key => !preferenceKey key).min? with
      | some bad =>
          .error ("preference key " ++ reprText bad ++ " must match " ++ preferenceKeyPattern)
      | none =>
          if maxPatchKeys < value.length then
            .error ("at most " ++ toString maxPatchKeys ++ " preference keys per request")
          else do
            _checkShape (.dict value) maxDepth
            let size ← preferencesSize (.dict value)
            if maxPatchBytes < size then
              .error ("preferences patch exceeds " ++ toString maxPatchBytes ++ " bytes")
            else .ok (Mapping.ofPairs value)
  | _ => .error "preferences must be an object"

def checkStoredPreferences (merged : Mapping Json) : Result Unit :=
  if maxStoredKeys < merged.entries.length then
    raise .validationFailed
      ("at most " ++ toString maxStoredKeys ++ " preference keys may be stored")
  else
    match preferencesSize (.dict merged.entries) with
    | .error text => raise .validationFailed text
    | .ok size =>
        if maxStoredBytes < size then
          raise .validationFailed
            ("stored preferences may not exceed " ++ toString maxStoredBytes ++ " bytes")
        else return ()

/-- What `update_preferences` assigns, of the row it has locked. -/
def merged (stored patch : Mapping Json) : Result (Mapping Json) := do
  checkStoredPreferences (stored.merge patch)
  return stored.merge patch

section Shape

variable {limit : Nat}

/-- What a node may still hold, at its depth. -/
def Shaped (limit : Nat) (node : Json × Nat) : Prop :=
  node.1.depth ≤ limit + 1 - node.2 ∧ node.1.clean = true

theorem shaped_iff (node : Json × Nat) :
    Shaped limit node ↔
      ∃ pushed, visitNode limit node = .ok pushed ∧ ∀ child ∈ pushed, Shaped limit child := by
  obtain ⟨value, depth⟩ := node
  -- one level further down, one level fewer is left
  have deeper : limit + 1 - (depth + 1) = limit + 1 - depth - 1 := by omega
  cases value with
  | dict members =>
      rw [Shaped, Json.depth_dict_le, Json.clean_dict, visitNode]
      by_cases deep : limit < depth
      · rw [if_pos deep]
        refine iff_of_false (fun shaped => ?_) (by simp)
        have room := shaped.1.1
        omega
      · have room : 0 < limit + 1 - depth := by omega
        rw [if_neg deep]
        by_cases nul : (members.any fun member => Json.hasNul member.1) = true
        · rw [if_pos nul]
          refine iff_of_false (fun shaped => ?_) (by simp)
          obtain ⟨member, here, has⟩ := List.any_eq_true.mp nul
          exact absurd has (by simp [(shaped.2 member here).1])
        · rw [if_neg nul]
          have keys (member : String × Json) (here : member ∈ members) :
              Json.hasNul member.1 = false := by
            by_contra has
            exact nul (List.any_eq_true.mpr ⟨member, here, by simpa using has⟩)
          constructor
          · rintro ⟨⟨_, shallow⟩, clean⟩
            refine ⟨_, rfl, List.forall_mem_map.mpr fun member here => ?_⟩
            exact ⟨deeper ▸ shallow member here, (clean member here).2⟩
          · rintro ⟨pushed, visited, children⟩
            cases visited
            rw [List.forall_mem_map] at children
            exact ⟨⟨room, fun member here => deeper ▸ (children member here).1⟩,
              fun member here => ⟨keys member here, (children member here).2⟩⟩
  | list items =>
      rw [Shaped, Json.depth_list_le, Json.clean_list, visitNode]
      by_cases deep : limit < depth
      · rw [if_pos deep]
        refine iff_of_false (fun shaped => ?_) (by simp)
        have room := shaped.1.1
        omega
      · have room : 0 < limit + 1 - depth := by omega
        rw [if_neg deep]
        constructor
        · rintro ⟨⟨_, shallow⟩, clean⟩
          refine ⟨_, rfl, List.forall_mem_map.mpr fun item here => ?_⟩
          exact ⟨deeper ▸ shallow item here, clean item here⟩
        · rintro ⟨pushed, visited, children⟩
          cases visited
          rw [List.forall_mem_map] at children
          exact ⟨⟨room, fun item here => deeper ▸ (children item here).1⟩,
            fun item here => (children item here).2⟩
  | str text =>
      have scalar : Shaped limit (.str text, depth) ↔ Json.hasNul text = false := by
        simp [Shaped, Json.depth, Json.clean, Json.fold]
      rw [scalar, visitNode]
      cases Json.hasNul text with
      | false => exact iff_of_true rfl ⟨[], rfl, by simp⟩
      | true => exact iff_of_false (by simp) (by simp)
  | null | bool | int | float =>
      exact iff_of_true ⟨Nat.zero_le _, rfl⟩ ⟨[], rfl, by simp⟩

theorem visitNode_shrinks {node : Json × Nat} {pushed : List (Json × Nat)}
    (visited : visitNode limit node = .ok pushed) :
    (pushed.map fun node => node.1.nodes).sum < node.1.nodes := by
  obtain ⟨value, depth⟩ := node
  cases value with
  | dict members =>
      rw [visitNode] at visited
      split at visited
      · cases visited
      · split at visited
        · cases visited
        · cases visited
          rw [List.map_map, Json.nodes_dict]
          exact Nat.lt_one_add_iff.mpr le_rfl
  | list items =>
      rw [visitNode] at visited
      split at visited
      · cases visited
      · cases visited
        rw [List.map_map, Json.nodes_list]
        exact Nat.lt_one_add_iff.mpr le_rfl
  | str text =>
      rw [visitNode] at visited
      split at visited
      · cases visited
      · cases visited
        exact Json.nodes_pos _
  | null | bool | int | float =>
      cases visited
      exact Json.nodes_pos _

/-- The loop ends, and accepts what nests within the limit and holds no NUL. -/
theorem _checkShape_ok {value : Json} :
    _checkShape value limit = .ok () ↔ value.depth ≤ limit ∧ value.clean = true := by
  obtain ⟨result, ended, accepts⟩ :=
    @Worklists.walk_ends _ _ _ (fun node => node.1.nodes) (Shaped limit)
      (fun node => node.1.nodes_pos) (fun _ _ => visitNode_shrinks) shaped_iff value.nodes
      [(value, 1)] (by simp)
  rw [_checkShape, ended, Option.getD_some, accepts]
  simp [Shaped]

end Shape

section Accepted

variable {stored patch result : Mapping Json}

/-- What a patch is checked for that its merge into another object keeps. -/
structure Wellformed (preferences : Mapping Json) : Prop where
  matching : ∀ entry ∈ preferences.entries, preferenceKey entry.1 = true
  depth : (Json.dict preferences.entries).depth ≤ maxDepth
  clean : (Json.dict preferences.entries).clean = true

/-- The caps on what is stored. -/
structure WithinCaps (preferences : Mapping Json) : Prop extends Wellformed preferences where
  keys : preferences.entries.length ≤ maxStoredKeys
  finite : (Json.dict preferences.entries).finite = true
  size : (Json.dict preferences.entries).compact.utf8ByteSize ≤ maxStoredBytes

/-- Objects made of the entries of well-formed ones are well-formed. -/
theorem Wellformed.of_entries (listed : ∀ entry ∈ result.entries,
      preferenceKey entry.1 = true ∧ entry.2.depth ≤ maxDepth - 1 ∧
        Json.hasNul entry.1 = false ∧ entry.2.clean = true) : Wellformed result where
  matching entry here := (listed entry here).1
  depth := Json.depth_dict_le.mpr ⟨by decide, fun entry here => (listed entry here).2.1⟩
  clean := Json.clean_dict.mpr fun entry here => (listed entry here).2.2

theorem Wellformed.entry (wellformed : Wellformed patch) {entry : String × Json}
    (here : entry ∈ patch.entries) :
    preferenceKey entry.1 = true ∧ entry.2.depth ≤ maxDepth - 1 ∧
      Json.hasNul entry.1 = false ∧ entry.2.clean = true :=
  ⟨wellformed.matching entry here, (Json.depth_dict_le.mp wellformed.depth).2 entry here,
    Json.clean_dict.mp wellformed.clean entry here⟩

theorem Wellformed.merge (base : Wellformed stored) (wellformed : Wellformed patch) :
    Wellformed (stored.merge patch) :=
  .of_entries fun _ here => (Mapping.mem_merge here).elim wellformed.entry base.entry

theorem validatePreferencesPatch_ok {value : Json}
    (accepted : validatePreferencesPatch value = .ok patch) : Wellformed patch := by
  cases value with
  | dict value =>
      rw [validatePreferencesPatch] at accepted
      split at accepted
      · cases accepted
      · next none_bad =>
          have matching (entry : String × Json) (here : entry ∈ value) :
              preferenceKey entry.1 = true := by
            rw [List.min?_eq_none_iff, List.filter_eq_nil_iff] at none_bad
            simpa using none_bad entry.1 (List.mem_map_of_mem here)
          split at accepted
          · cases accepted
          · cases shape : _checkShape (.dict value) maxDepth with
            | error text =>
                rw [shape] at accepted
                cases accepted
            | ok _ =>
                obtain ⟨depth, clean⟩ := _checkShape_ok.mp shape
                have listed (entry : String × Json) (here : entry ∈ value) :
                    preferenceKey entry.1 = true ∧ entry.2.depth ≤ maxDepth - 1 ∧
                      Json.hasNul entry.1 = false ∧ entry.2.clean = true :=
                  ⟨matching entry here, (Json.depth_dict_le.mp depth).2 entry here,
                    Json.clean_dict.mp clean entry here⟩
                -- the size decides whether there is a copy, and the copy has these entries
                rw [shape] at accepted
                cases sized : preferencesSize (.dict value) with
                | error text =>
                    rw [sized] at accepted
                    cases accepted
                | ok size =>
                    rw [sized] at accepted
                    change (if maxPatchBytes < size then _ else _) = _ at accepted
                    split at accepted
                    · cases accepted
                    · cases accepted
                      exact .of_entries fun entry here => listed entry (Mapping.mem_ofPairs here)
  | null | bool | int | float | str | list => cases accepted

theorem checkStoredPreferences_ok :
    checkStoredPreferences result = .ok () ↔ result.entries.length ≤ maxStoredKeys ∧
      (Json.dict result.entries).finite = true ∧
      (Json.dict result.entries).compact.utf8ByteSize ≤ maxStoredBytes := by
  unfold checkStoredPreferences preferencesSize
  by_cases keys : maxStoredKeys < result.entries.length
  · rw [if_pos keys]
    exact iff_of_false nofun fun caps => absurd caps.1 (by omega)
  · rw [if_neg keys]
    by_cases finite : (Json.dict result.entries).finite = true
    · rw [if_pos finite]
      dsimp only
      by_cases size : maxStoredBytes < (Json.dict result.entries).compact.utf8ByteSize
      · rw [if_pos size]
        exact iff_of_false nofun fun caps => absurd caps.2.2 (by omega)
      · rw [if_neg size]
        exact iff_of_true rfl ⟨by omega, finite, by omega⟩
    · rw [if_neg finite]
      exact iff_of_false nofun fun caps => finite caps.2.1

/-- A merge that is refused is answered 422. -/
theorem merged_error {failure : Failure} (refused : merged stored patch = .error failure) :
    ∃ error, failure = .domain error ∧ error.cls.status = 422 := by
  unfold merged checkStoredPreferences at refused
  split at refused
  · cases refused
    exact ⟨_, rfl, rfl⟩
  · split at refused
    · cases refused
      exact ⟨_, rfl, rfl⟩
    · split at refused
      · cases refused
        exact ⟨_, rfl, rfl⟩
      · cases refused

/-- What is assigned is the merge, within the caps. -/
theorem merged_ok (base : Wellformed stored) (wellformed : Wellformed patch)
    (checked : merged stored patch = .ok result) :
    result = stored.merge patch ∧ WithinCaps result := by
  obtain ⟨⟨⟩, passed, same⟩ := Result.bind_eq_ok.mp checked
  cases same
  obtain ⟨keys, finite, size⟩ := checkStoredPreferences_ok.mp passed
  exact ⟨rfl, base.merge wellformed, keys, finite, size⟩

end Accepted

end SynapseSaas.Preferences
