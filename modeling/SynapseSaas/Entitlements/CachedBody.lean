import SynapseSaas.Authorization.Permissions
import SynapseSaas.Core.Json

/-! The body under which an organization's entitlements are cached: written by one function,
read back by another. The dataclasses hold whatever their fields may, of which the entitlements
that are resolved are some. -/

set_option autoImplicit false

namespace SynapseSaas.CachedBody

/-- A `uuid.UUID` by its 128 bits, four to a digit. -/
structure UUID where
  digits : List (Fin 16)
  length_eq : digits.length = 32
  deriving DecidableEq

def hexChar (digit : Fin 16) : Char := "0123456789abcdef".toList.get digit

def hexDigit (char : Char) : Option (Fin 16) :=
  (List.finRange 16).find? fun digit => hexChar digit = char.toLower

/-- `str(value)`. -/
def UUID.str (value : UUID) : String :=
  let hex := value.digits.map hexChar
  String.ofList (hex.take 8 ++ '-' :: (hex.drop 8).take 4 ++ '-' :: (hex.drop 12).take 4 ++
    '-' :: (hex.drop 16).take 4 ++ '-' :: hex.drop 20)

/-- `text.replace(pattern, '')`, with so many characters of an occurrence still to drop. -/
def without (pattern : List Char) : Nat → List Char → List Char
  | _, [] => []
  | dropped + 1, _ :: rest => without pattern dropped rest
  | 0, char :: rest =>
      if pattern.isPrefixOf (char :: rest) then without pattern (pattern.length - 1) rest
      else char :: without pattern 0 rest

/-- `text.strip('{}')`. -/
def stripBraces (text : List Char) : List Char :=
  let brace (char : Char) : Bool := char = '{' ∨ char = '}'
  ((text.dropWhile brace).reverse.dropWhile brace).reverse

/-- `UUID(text)`. -/
def UUID.parse (text : String) : Option UUID := do
  let hex := without "uuid:".toList 0 (without "urn:".toList 0 text.toList)
  let hex := (stripBraces hex).filter (· ≠ '-')
  let digits ← hex.mapM hexDigit
  if length_eq : digits.length = 32 then some ⟨digits, length_eq⟩ else none

structure Overage where
  unit : Int
  priceCents : Int
  deriving DecidableEq, Repr

structure Limit where
  value : Option Int
  softLimitRatio : Option Number
  overage : Option Overage
  deriving DecidableEq, Repr

structure EffectiveEntitlements where
  organizationId : UUID
  planKey : Option String
  subscriptionStatus : Option String
  features : Finset String
  limits : Mapping Limit

def Overage.json (overage : Overage) : Json :=
  .dict [("unit", .int overage.unit), ("price_cents", .int overage.priceCents)]

def Limit.json (limit : Limit) : Json :=
  .dict [("value", .ofOption .int limit.value),
    ("soft_limit_ratio", .ofOption Number.json limit.softLimitRatio),
    ("overage", .ofOption Overage.json limit.overage)]

def _serialize (effective : EffectiveEntitlements) : Json :=
  .dict [("organization_id", .str effective.organizationId.str),
    ("plan_key", .ofOption .str effective.planKey),
    ("subscription_status", .ofOption .str effective.subscriptionStatus),
    ("features", .list ((sorted effective.features).map .str)),
    ("limits", .dict (effective.limits.entries.map fun entry => (entry.1, entry.2.json)))]

def Overage.read (body : Json) : Option Overage := do
  let members ← body.dict?
  let unit ← (← members.lookup "unit").toInt?
  let priceCents ← (← members.lookup "price_cents").toInt?
  return { unit, priceCents }

/-- An overage that is missing, null or empty is none. -/
def Overage.readFound (found : Json) : Option (Option Overage) :=
  if found.truthy then (Overage.read found).map some else some none

def Limit.read (body : Json) : Option Limit := do
  let members ← body.dict?
  let value ← (← members.lookup "value").optional? Json.int?
  let softLimitRatio ← ((members.lookup "soft_limit_ratio").getD .null).optional? Json.number?
  let overage ← Overage.readFound ((members.lookup "overage").getD .null)
  return { value, softLimitRatio, overage }

def _deserialize (raw : Json) : Option EffectiveEntitlements := do
  let data ← raw.dict?
  let organizationId ← UUID.parse (← (← data.lookup "organization_id").str?)
  let planKey ← (← data.lookup "plan_key").optional? Json.str?
  let subscriptionStatus ← (← data.lookup "subscription_status").optional? Json.str?
  let features ← (← (← data.lookup "features").list?).mapM Json.str?
  let limits ← (← (← data.lookup "limits").dict?).mapM fun entry => do
    return (entry.1, ← Limit.read entry.2)
  return { organizationId, planKey, subscriptionStatus
           features := features.toFinset
           limits := .ofPairs limits }

theorem hexDigit_hexChar (digit : Fin 16) : hexDigit (hexChar digit) = some digit := by
  revert digit
  decide

theorem hexChar_plain (digit : Fin 16) :
    hexChar digit ≠ '-' ∧ hexChar digit ≠ ':' ∧ hexChar digit ≠ '{' ∧ hexChar digit ≠ '}' := by
  revert digit
  decide

/-- A pattern does not occur in a text that lacks one of its characters. -/
theorem without_of_absent {pattern text : List Char} {char : Char} (inside : char ∈ pattern)
    (absent : char ∉ text) : without pattern 0 text = text := by
  induction text with
  | nil => rfl
  | cons first rest ih =>
      have apart : ¬ pattern.isPrefixOf (first :: rest) := by
        rw [List.isPrefixOf_iff_prefix]
        intro occurs
        exact absent (occurs.subset inside)
      rw [without, if_neg apart, ih fun here => absent (List.mem_cons_of_mem _ here)]

theorem stripBraces_of_absent {text : List Char}
    (absent : ∀ char ∈ text, char ≠ '{' ∧ char ≠ '}') : stripBraces text = text := by
  have kept {chars : List Char} (absent : ∀ char ∈ chars, char ≠ '{' ∧ char ≠ '}') :
      chars.dropWhile (fun char => char = '{' ∨ char = '}') = chars := by
    cases chars with
    | nil => rfl
    | cons first rest =>
        obtain ⟨opening, closing⟩ := absent first List.mem_cons_self
        simp [opening, closing]
  simp only [stripBraces]
  rw [kept absent, kept, List.reverse_reverse]
  intro char here
  exact absent char (List.mem_reverse.mp here)

theorem filter_hyphenated (text : List Char) :
    (text.take 8 ++ '-' :: (text.drop 8).take 4 ++ '-' :: (text.drop 12).take 4 ++
      '-' :: (text.drop 16).take 4 ++ '-' :: text.drop 20).filter (· ≠ '-') =
    text.filter (· ≠ '-') := by
  have next (count : Nat) :
      (text.drop count).take 4 ++ text.drop (count + 4) = text.drop count := by
    rw [← List.drop_drop, List.take_append_drop]
  have split : text = text.take 8 ++ ((text.drop 8).take 4 ++ ((text.drop 12).take 4 ++
      ((text.drop 16).take 4 ++ text.drop 20))) := by
    rw [next 16, next 12, next 8, List.take_append_drop]
  conv_rhs => rw [split]
  simp [List.filter_append]

theorem UUID.parse_str (value : UUID) : UUID.parse value.str = some value := by
  obtain ⟨digits, length_eq⟩ := value
  have hex (char : Char) (here : char ∈ digits.map hexChar) :
      char ≠ '-' ∧ char ≠ ':' ∧ char ≠ '{' ∧ char ≠ '}' := by
    obtain ⟨digit, -, rfl⟩ := List.mem_map.mp here
    exact hexChar_plain digit
  have chars (char : Char) (here : char ∈ (UUID.str ⟨digits, length_eq⟩).toList) :
      char = '-' ∨ char ∈ digits.map hexChar := by
    simp only [UUID.str, String.toList_ofList, List.mem_append, List.mem_cons] at here
    rcases here with (((first | same | second) | same | third) | same | fourth) | same | fifth
    · exact .inr (List.mem_of_mem_take first)
    · exact .inl same
    · exact .inr (List.mem_of_mem_drop (List.mem_of_mem_take second))
    · exact .inl same
    · exact .inr (List.mem_of_mem_drop (List.mem_of_mem_take third))
    · exact .inl same
    · exact .inr (List.mem_of_mem_drop (List.mem_of_mem_take fourth))
    · exact .inl same
    · exact .inr (List.mem_of_mem_drop fifth)
  have colon : ':' ∉ (UUID.str ⟨digits, length_eq⟩).toList := by
    intro here
    rcases chars _ here with same | inside
    · cases same
    · exact (hex _ inside).2.1 rfl
  have braces (char : Char) (here : char ∈ (UUID.str ⟨digits, length_eq⟩).toList) :
      char ≠ '{' ∧ char ≠ '}' := by
    rcases chars char here with rfl | inside
    · decide
    · exact (hex char inside).2.2
  have plain : (UUID.str ⟨digits, length_eq⟩).toList.filter (· ≠ '-') = digits.map hexChar := by
    rw [UUID.str, String.toList_ofList, filter_hyphenated, List.filter_eq_self]
    intro char here
    exact decide_eq_true (hex char here).1
  simp only [UUID.parse]
  rw [without_of_absent (show ':' ∈ "urn:".toList by decide) colon,
    without_of_absent (show ':' ∈ "uuid:".toList by decide) colon, stripBraces_of_absent braces,
    plain, mapM_map_of_inverse hexDigit_hexChar]
  simp [length_eq]

theorem Overage.read_json (overage : Overage) : Overage.read overage.json = some overage := rfl

theorem Limit.read_json (limit : Limit) : Limit.read limit.json = some limit := by
  have value : (Json.ofOption .int limit.value).optional? Json.int? = some limit.value := by
    apply Json.optional_ofOption
    · exact fun _ => rfl
    · exact fun _ => nofun
  have ratio : (Json.ofOption Number.json limit.softLimitRatio).optional? Json.number? =
      some limit.softLimitRatio := by
    apply Json.optional_ofOption Json.number_json
    intro number
    cases number <;> exact nofun
  have overage : Overage.readFound (Json.ofOption Overage.json limit.overage) =
      some limit.overage := by
    cases limit.overage with
    | none => rfl
    | some overage => rfl
  have fields : Limit.read limit.json = (do
      let value ← (Json.ofOption .int limit.value).optional? Json.int?
      let softLimitRatio ← (Json.ofOption Number.json limit.softLimitRatio).optional? Json.number?
      let overage ← Overage.readFound (Json.ofOption Overage.json limit.overage)
      return { value, softLimitRatio, overage }) := rfl
  rw [fields, value, ratio, overage]
  rfl

/-- A cached resolution is the one that was cached. -/
theorem deserialize_serialize (effective : EffectiveEntitlements) :
    _deserialize (_serialize effective) = some effective := by
  have text (value : Option String) :
      (Json.ofOption .str value).optional? Json.str? = some value := by
    apply Json.optional_ofOption
    · exact fun _ => rfl
    · exact fun _ => nofun
  have features : ((sorted effective.features).map Json.str).mapM Json.str? =
      some (sorted effective.features) := by
    apply mapM_map_of_inverse
    exact fun _ => rfl
  have limits : (effective.limits.entries.map fun entry => (entry.1, entry.2.json)).mapM
      (fun entry => (Limit.read entry.2).bind fun limit => pure (entry.1, limit)) =
        some effective.limits.entries := by
    apply mapM_map_of_inverse
    intro entry
    rw [Limit.read_json]
    rfl
  obtain ⟨members, written, organization, plan, status, listed, limited⟩ :
      ∃ members, _serialize effective = .dict members ∧
        members.lookup "organization_id" = some (.str effective.organizationId.str) ∧
        members.lookup "plan_key" = some (.ofOption .str effective.planKey) ∧
        members.lookup "subscription_status" = some (.ofOption .str effective.subscriptionStatus) ∧
        members.lookup "features" = some (.list ((sorted effective.features).map .str)) ∧
        members.lookup "limits" =
          some (.dict (effective.limits.entries.map fun entry => (entry.1, entry.2.json))) :=
    ⟨_, rfl, rfl, rfl, rfl, rfl, rfl⟩
  have next {First Second : Type} {first : Option First} {value : First}
      {rest : First → Option Second} (found : first = some value) :
      (first >>= rest) = rest value := by
    rw [found]
    rfl
  rw [written, _deserialize]
  -- the fields in the order in which they are read
  refine (next (rfl : (Json.dict members).dict? = some members)).trans ?_
  refine (next organization).trans ?_
  refine (next (rfl : (Json.str _).str? = some _)).trans ?_
  refine (next (UUID.parse_str _)).trans ?_
  refine (next plan).trans ?_
  refine (next (text _)).trans ?_
  refine (next status).trans ?_
  refine (next (text _)).trans ?_
  refine (next listed).trans ?_
  refine (next (rfl : (Json.list _).list? = some _)).trans ?_
  refine (next features).trans ?_
  refine (next limited).trans ?_
  refine (next (rfl : (Json.dict _).dict? = some _)).trans ?_
  refine (next limits).trans ?_
  rw [toFinset_sorted, Mapping.ofPairs_entries]
  rfl

end SynapseSaas.CachedBody
