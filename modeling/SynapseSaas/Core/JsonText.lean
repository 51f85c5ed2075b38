import SynapseSaas.Core.Json
import Mathlib.Algebra.BigOperators.Group.List.Basic
import Mathlib.Algebra.GroupWithZero.Nat

/-! How deep a JSON value nests, the texts in it, and the text `json.dumps` writes. -/

set_option autoImplicit false

namespace SynapseSaas

/-- What is made of a value, from what is made of its items or its members' values. -/
structure JsonFold (α : Type) where
  scalar : Json → α
  list : List α → α
  dict : List (String × α) → α

namespace Json

variable {α : Type}

mutual

def fold (algebra : JsonFold α) : Json → α
  | .list items => algebra.list (foldItems algebra items)
  | .dict members => algebra.dict (foldMembers algebra members)
  | .null => algebra.scalar .null
  | .bool value => algebra.scalar (.bool value)
  | .int value => algebra.scalar (.int value)
  | .float text => algebra.scalar (.float text)
  | .str text => algebra.scalar (.str text)

def foldItems (algebra : JsonFold α) : List Json → List α
  | [] => []
  | item :: rest => fold algebra item :: foldItems algebra rest

def foldMembers (algebra : JsonFold α) : List (String × Json) → List (String × α)
  | [] => []
  | (key, value) :: rest => (key, fold algebra value) :: foldMembers algebra rest

end

section Folds

variable (algebra : JsonFold α)

theorem foldItems_eq (items : List Json) : foldItems algebra items = items.map (fold algebra) := by
  induction items with
  | nil => rfl
  | cons item rest ih => rw [foldItems, ih, List.map_cons]

theorem foldMembers_eq (members : List (String × Json)) :
    foldMembers algebra members = members.map fun member => (member.1, fold algebra member.2) := by
  induction members with
  | nil => rfl
  | cons member rest ih => rw [foldMembers, ih, List.map_cons]

theorem fold_list (items : List Json) :
    fold algebra (.list items) = algebra.list (items.map (fold algebra)) := by
  rw [fold, foldItems_eq]

theorem fold_dict (members : List (String × Json)) :
    fold algebra (.dict members) =
      algebra.dict (members.map fun member => (member.1, fold algebra member.2)) := by
  rw [fold, foldMembers_eq]

end Folds

/-- The containers around the innermost one, itself counted; none around a scalar. -/
def depth : Json → Nat :=
  fold {
    scalar _ := 0
    list depths := 1 + depths.foldr max 0
    dict members := 1 + (members.map Prod.snd).foldr max 0 }

/-- The values in it, itself counted. -/
def nodes : Json → Nat :=
  fold {
    scalar _ := 1
    list counts := 1 + counts.sum
    dict members := 1 + (members.map Prod.snd).sum }

/-- `"\x00" in text`. -/
def hasNul (text : String) : Bool := text.toList.contains (Char.ofNat 0)

/-- No key and no text in it contains NUL. -/
def clean : Json → Bool :=
  fold {
    scalar value := match value with
      | .str text => !hasNul text
      | _ => true
    list items := items.all id
    dict members := members.all fun member => !hasNul member.1 && member.2 }

/-- No float in it is infinite or not a number. -/
def finite : Json → Bool :=
  fold {
    scalar value := match value with
      | .float text => text ∉ ["nan", "inf", "-inf"]
      | _ => true
    list items := items.all id
    dict members := members.all Prod.snd }

def hexDigits (number : Nat) : String :=
  String.ofList [Nat.digitChar (number / 16), Nat.digitChar (number % 16)]

/-- A character of a text, by `json.dumps` that leaves what is not ASCII as it is. -/
def escaped (char : Char) : String :=
  match char.toNat with
  | 34 => "\\\x22"
  | 92 => "\\\\"
  | 8 => "\\b"
  | 9 => "\\t"
  | 10 => "\\n"
  | 12 => "\\f"
  | 13 => "\\r"
  | code => if code < 32 then "\\u00" ++ hexDigits code else String.singleton char

def quotedText (text : String) : String :=
  "\x22" ++ String.join (text.toList.map escaped) ++ "\x22"

/-- `json.dumps(value, separators=(",", ":"), ensure_ascii=False)`. -/
def compact : Json → String :=
  fold {
    scalar value := match value with
      | .bool value => if value then "true" else "false"
      | .int value => toString value
      | .float text => text
      | .str text => quotedText text
      | _ => "null"
    list items := "[" ++ ",".intercalate items ++ "]"
    dict members := "\x7b" ++
      ",".intercalate (members.map fun member => quotedText member.1 ++ ":" ++ member.2) ++ "\x7d" }

example : compact (.dict [("a", .list [.int 1, .float "0.5", .null]), ("b", .bool true)]) =
    "\x7b\x22a\x22:[1,0.5,null],\x22b\x22:true\x7d" := by decide +kernel

section Shape

variable {limit : Nat} {items : List Json} {members : List (String × Json)}

private theorem foldr_max_le (depths : List Nat) :
    depths.foldr max 0 ≤ limit ↔ ∀ depth ∈ depths, depth ≤ limit := by
  induction depths with
  | nil => simp
  | cons depth rest ih => rw [List.foldr_cons, Nat.max_le, ih, List.forall_mem_cons]

theorem depth_list_le :
    (Json.list items).depth ≤ limit ↔ 0 < limit ∧ ∀ item ∈ items, item.depth ≤ limit - 1 := by
  have inner := @foldr_max_le (limit - 1) (items.map depth)
  rw [List.forall_mem_map] at inner
  have whole : (Json.list items).depth = 1 + (items.map depth).foldr max 0 := fold_list _ items
  rw [whole, ← inner]
  omega

theorem depth_dict_le :
    (Json.dict members).depth ≤ limit ↔
      0 < limit ∧ ∀ member ∈ members, member.2.depth ≤ limit - 1 := by
  have inner := @foldr_max_le (limit - 1) (members.map fun member => member.2.depth)
  rw [List.forall_mem_map] at inner
  have whole : (Json.dict members).depth =
      1 + (members.map fun member => member.2.depth).foldr max 0 := by
    have folded : (Json.dict members).depth =
        1 + ((members.map fun member => (member.1, member.2.depth)).map Prod.snd).foldr max 0 :=
      fold_dict _ members
    rw [folded, List.map_map]
    rfl
  rw [whole, ← inner]
  omega

theorem clean_list : (Json.list items).clean = true ↔ ∀ item ∈ items, item.clean = true := by
  have whole : (Json.list items).clean = (items.map clean).all id := fold_list _ items
  rw [whole, List.all_map, List.all_eq_true]
  rfl

theorem clean_dict :
    (Json.dict members).clean = true ↔
      ∀ member ∈ members, hasNul member.1 = false ∧ member.2.clean = true := by
  have whole : (Json.dict members).clean = (members.map fun member => (member.1, member.2.clean)).all
      fun member => !hasNul member.1 && member.2 := fold_dict _ members
  rw [whole, List.all_map, List.all_eq_true]
  simp

theorem nodes_list : (Json.list items).nodes = 1 + (items.map nodes).sum := fold_list _ items

theorem nodes_dict :
    (Json.dict members).nodes = 1 + (members.map fun member => member.2.nodes).sum := by
  have whole : (Json.dict members).nodes =
      1 + ((members.map fun member => (member.1, member.2.nodes)).map Prod.snd).sum :=
    fold_dict _ members
  rw [whole, List.map_map]
  rfl

theorem nodes_pos (value : Json) : 0 < value.nodes := by
  cases value with
  | list items => rw [nodes_list]; omega
  | dict members => rw [nodes_dict]; omega
  | null | bool | int | float | str => exact Nat.one_pos

end Shape

end Json

end SynapseSaas
