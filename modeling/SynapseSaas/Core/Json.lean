import Mathlib.Data.List.Nodup

/-! JSON values as Python holds them: what `json.loads` makes of a text and what
`json.dumps` writes. -/

set_option autoImplicit false

namespace SynapseSaas

/-- A float is given by its repr, which tells finite floats apart and names the others;
the keys of a dict are distinct. -/
inductive Json where
  | null
  | bool (value : Bool)
  | int (value : Int)
  | float (text : String)
  | str (text : String)
  | list (items : List Json)
  | dict (members : List (String × Json))
  deriving Repr

/-- A dict with text keys, in the order of their insertion. -/
structure Mapping (α : Type) where
  entries : List (String × α)
  distinct : (entries.map Prod.fst).Nodup

def Mapping.keys {α : Type} (mapping : Mapping α) : List String := mapping.entries.map Prod.fst

/-- `mapping[key] = value`: a key that comes again keeps its place. -/
def Mapping.set {α : Type} (mapping : Mapping α) (key : String) (value : α) : Mapping α :=
  if held : key ∈ mapping.entries.map Prod.fst then
    { entries := mapping.entries.map fun entry => if entry.1 = key then (key, value) else entry
      distinct := by
        have same : (mapping.entries.map fun entry =>
            if entry.1 = key then (key, value) else entry).map Prod.fst =
              mapping.entries.map Prod.fst := by
          rw [List.map_map]
          apply List.map_congr_left
          intro entry _
          dsimp only [Function.comp_apply]
          split
          · next found => exact found.symm
          · rfl
        rw [same]
        exact mapping.distinct }
  else
    { entries := mapping.entries ++ [(key, value)]
      distinct := by
        rw [List.map_append, List.nodup_append]
        refine ⟨mapping.distinct, List.nodup_singleton _, ?_⟩
        intro other listed single here
        rw [List.map_singleton, List.mem_singleton] at here
        rintro rfl
        rw [here] at listed
        exact held listed }

/-- `{key: value for key, value in pairs}`. -/
def Mapping.ofPairs {α : Type} (pairs : List (String × α)) : Mapping α :=
  pairs.foldl (fun mapping pair => mapping.set pair.1 pair.2) ⟨[], List.nodup_nil⟩

theorem Mapping.set_entries {α : Type} {mapping : Mapping α} {key : String} (value : α)
    (fresh : key ∉ mapping.entries.map Prod.fst) :
    (mapping.set key value).entries = mapping.entries ++ [(key, value)] := by
  rw [Mapping.set, dif_neg fresh]

/-- Pairs with distinct keys are the entries of the dict they make. -/
theorem Mapping.ofPairs_entries {α : Type} (mapping : Mapping α) :
    Mapping.ofPairs mapping.entries = mapping := by
  have grown (pairs : List (String × α)) (start : Mapping α)
      (distinct : ((start.entries ++ pairs).map Prod.fst).Nodup) :
      (pairs.foldl (fun mapping pair => mapping.set pair.1 pair.2) start).entries =
        start.entries ++ pairs := by
    induction pairs generalizing start with
    | nil => exact (List.append_nil _).symm
    | cons pair rest ih =>
        have fresh : pair.1 ∉ start.entries.map Prod.fst := by
          rw [List.map_append, List.map_cons] at distinct
          intro held
          exact (List.nodup_append.mp distinct).2.2 pair.1 held pair.1 List.mem_cons_self rfl
        have listed := Mapping.set_entries pair.2 fresh
        rw [List.foldl_cons, ih, listed, List.append_assoc, List.singleton_append]
        rw [listed, List.append_assoc, List.singleton_append]
        exact distinct
  have whole := grown mapping.entries ⟨[], List.nodup_nil⟩ mapping.distinct
  obtain ⟨entries, distinct⟩ := mapping
  unfold Mapping.ofPairs
  generalize List.foldl _ _ _ = made at whole ⊢
  obtain ⟨others, apart⟩ := made
  cases whole
  rfl

/-- `{**mapping, **patch}`. -/
def Mapping.merge {α : Type} (mapping patch : Mapping α) : Mapping α :=
  patch.entries.foldl (fun merged entry => merged.set entry.1 entry.2) mapping

section Merging

variable {α : Type} {mapping patch : Mapping α} {key other : String} {value : α}
  {entry : String × α} {pairs : List (String × α)}

theorem Mapping.mem_set (listed : entry ∈ (mapping.set key value).entries) :
    entry = (key, value) ∨ entry ∈ mapping.entries := by
  unfold Mapping.set at listed
  split at listed
  · obtain ⟨found, here, replaced⟩ := List.mem_map.mp listed
    split at replaced
    · exact .inl replaced.symm
    · rw [← replaced]
      exact .inr here
  · rw [List.mem_append, List.mem_singleton] at listed
    exact listed.symm

theorem Mapping.mem_setAll (listed : entry ∈ (pairs.foldl
      (fun merged entry => merged.set entry.1 entry.2) mapping).entries) :
    entry ∈ pairs ∨ entry ∈ mapping.entries := by
  induction pairs generalizing mapping with
  | nil => exact .inr listed
  | cons pair rest ih =>
      rw [List.foldl_cons] at listed
      rcases ih listed with later | here
      · exact .inl (List.mem_cons_of_mem _ later)
      · rcases Mapping.mem_set here with rfl | here
        · exact .inl List.mem_cons_self
        · exact .inr here

/-- A merge holds entries of its two sides only. -/
theorem Mapping.mem_merge (listed : entry ∈ (mapping.merge patch).entries) :
    entry ∈ patch.entries ∨ entry ∈ mapping.entries :=
  Mapping.mem_setAll listed

theorem Mapping.mem_ofPairs (listed : entry ∈ (Mapping.ofPairs pairs).entries) : entry ∈ pairs :=
  (Mapping.mem_setAll listed).elim id fun here => absurd here List.not_mem_nil

theorem Mapping.set_lookup : (mapping.set key value).entries.lookup other =
    if other = key then some value else mapping.entries.lookup other := by
  have replaced (entries : List (String × α)) (held : other = key → key ∈ entries.map Prod.fst) :
      (entries.map fun entry => if entry.1 = key then (key, value) else entry).lookup other =
        if other = key then some value else entries.lookup other := by
    induction entries with
    | nil =>
        have apart : other ≠ key := fun same => List.not_mem_nil (held same)
        rw [if_neg apart, List.map_nil]
    | cons entry rest ih => grind
  unfold Mapping.set
  split
  · next held => exact replaced mapping.entries fun _ => held
  · next fresh =>
      rw [List.lookup_append]
      by_cases same : other = key
      · have unset : mapping.entries.lookup key = none := by
          rw [List.lookup_eq_none_iff]
          intro entry here
          have apart : key ≠ entry.1 := fun same => fresh (same ▸ List.mem_map_of_mem here)
          simp [apart]
        simp [same, unset]
      · rw [if_neg same, List.lookup_cons, beq_false_of_ne same, List.lookup_nil, Option.or_none]

/-- The patch decides what is under its keys, and no other key is lost. -/
theorem Mapping.merge_lookup : (mapping.merge patch).entries.lookup key =
    (patch.entries.lookup key).or (mapping.entries.lookup key) := by
  have merged (pairs : List (String × α)) (distinct : (pairs.map Prod.fst).Nodup)
      (start : Mapping α) :
      (pairs.foldl (fun merged entry => merged.set entry.1 entry.2) start).entries.lookup key =
        (pairs.lookup key).or (start.entries.lookup key) := by
    induction pairs generalizing start with
    | nil => rfl
    | cons pair rest ih =>
        rw [List.map_cons, List.nodup_cons] at distinct
        rw [List.foldl_cons, ih distinct.2, Mapping.set_lookup, List.lookup_cons]
        by_cases same : key = pair.1
        · have unset : rest.lookup key = none := by
            rw [List.lookup_eq_none_iff]
            intro entry here
            have apart : key ≠ entry.1 := fun listed =>
              distinct.1 (same ▸ listed ▸ List.mem_map_of_mem here)
            simp [apart]
          rw [unset, if_pos same, beq_iff_eq.mpr same, Option.none_or, Option.some_or]
        · rw [if_neg same, beq_false_of_ne same]
  exact merged patch.entries patch.distinct mapping

theorem Mapping.mem_keys_iff : key ∈ mapping.keys ↔ (mapping.entries.lookup key).isSome := by
  rw [Mapping.keys, List.mem_map, List.lookup_isSome_iff]
  simp only [beq_iff_eq, @eq_comm _ key]

theorem Mapping.mem_keys_merge :
    key ∈ (mapping.merge patch).keys ↔ key ∈ mapping.keys ∨ key ∈ patch.keys := by
  rw [Mapping.mem_keys_iff, Mapping.merge_lookup, Option.isSome_or, Bool.or_eq_true,
    ← Mapping.mem_keys_iff, ← Mapping.mem_keys_iff, or_comm]

end Merging

/-- A list of what was written is read back item by item. -/
theorem mapM_map_of_inverse {Item Text : Type} {write : Item → Text} {read : Text → Option Item}
    (inverse : ∀ item, read (write item) = some item) (items : List Item) :
    (items.map write).mapM read = some items := by
  induction items with
  | nil => rfl
  | cons item rest ih => simp [inverse, ih]

inductive Number where
  | int (value : Int)
  | float (text : String)
  deriving DecidableEq, Repr

def Number.json : Number → Json
  | .int value => .int value
  | .float text => .float text

namespace Json

/-- The value where there is one, else null. -/
def ofOption {α : Type} (json : α → Json) : Option α → Json
  | none => .null
  | some value => json value

def optional? {α : Type} (read : Json → Option α) : Json → Option (Option α)
  | .null => some none
  | value => (read value).map some

def int? : Json → Option Int
  | .int value => some value
  | _ => none

def number? : Json → Option Number
  | .int value => some (.int value)
  | .float text => some (.float text)
  | _ => none

def str? : Json → Option String
  | .str text => some text
  | _ => none

def list? : Json → Option (List Json)
  | .list items => some items
  | _ => none

def dict? : Json → Option (List (String × Json))
  | .dict members => some members
  | _ => none

/-- `int(value)` of the numbers JSON has without a fraction; a bool is one of them. -/
def toInt? : Json → Option Int
  | .int value => some value
  | .bool value => some value.toNat
  | _ => none

/-- Whether Python takes the value for true. -/
def truthy : Json → Bool
  | .null => false
  | .bool value => value
  | .int value => value ≠ 0
  | .float text => text ≠ "0.0" ∧ text ≠ "-0.0"
  | .str text => text ≠ ""
  | .list items => !items.isEmpty
  | .dict members => !members.isEmpty

variable {α : Type} {json : α → Json} {read : Json → Option α}

/-- An optional value is read back where null is not one of the values. -/
theorem optional_ofOption (inverse : ∀ value, read (json value) = some value)
    (apart : ∀ value, json value ≠ .null) (value : Option α) :
    (ofOption json value).optional? read = some value := by
  cases value with
  | none => rfl
  | some value =>
      have unread {other : Json} (valued : other ≠ .null) :
          other.optional? read = (read other).map some := by
        cases other with
        | null => exact absurd rfl valued
        | bool | int | float | str | list | dict => rfl
      rw [ofOption, unread (apart value), inverse value, Option.map_some]

theorem number_json (number : Number) : number.json.number? = some number := by
  cases number <;> rfl

end Json

end SynapseSaas
