import Mathlib.Data.Finset.Sort
import Mathlib.Data.String.Basic

/-! The catalog of permissions and the system roles. A frozenset of permission keys
is a `Finset String`. -/

set_option autoImplicit false

namespace SynapseSaas

/-- Two sets with the same keys give the same list. -/
def sorted (keys : Finset String) : List String := keys.sort

@[simp] theorem toFinset_sorted (keys : Finset String) : (sorted keys).toFinset = keys :=
  Finset.sort_toFinset keys (· ≤ ·)

@[simp] theorem sorted_empty : sorted ∅ = [] := Finset.sort_empty (· ≤ ·)

theorem sorted_inj {first second : Finset String} : sorted first = sorted second ↔ first = second := by
  constructor
  · intro same
    rw [← toFinset_sorted first, same, toFinset_sorted]
  · rintro rfl
    rfl

/-- The keys of PERMISSIONS, in the order of the catalog. -/
def permissionCatalog : List String :=
  ["org:read", "org:update", "org:delete",
    "member:read", "member:invite", "member:update", "member:remove",
    "role:manage",
    "billing:read", "billing:manage",
    "usage:read", "audit:read",
    "webhook:manage",
    "entitlement:manage", "apikey:manage",
    "file:read", "file:write",
    "project:read", "project:manage",
    "agents:read", "agents:manage"]

def PERMISSION_KEYS : Finset String := permissionCatalog.toFinset

/-- Nobody holds the star that stands for every permission of a platform administrator. -/
theorem star_notMem_permissionKeys : "*" ∉ PERMISSION_KEYS := by decide

def SYSTEM_ROLE_OWNER : String := "owner"
def SYSTEM_ROLE_ADMIN : String := "admin"
def SYSTEM_ROLE_BILLING : String := "billing"
def SYSTEM_ROLE_DEVELOPER : String := "developer"
def SYSTEM_ROLE_MEMBER : String := "member"

/-- The permission to grant features is for operators. -/
def ownerPermissions : Finset String := PERMISSION_KEYS \ {"entitlement:manage"}

def adminPermissions : Finset String := ownerPermissions \ {"org:delete"}

def billingPermissions : Finset String := {"org:read", "billing:read", "billing:manage", "usage:read"}

def developerPermissions : Finset String :=
  {"org:read", "member:read", "project:read", "project:manage", "webhook:manage", "usage:read",
    "apikey:manage", "agents:read"}

def memberPermissions : Finset String := {"org:read", "member:read", "project:read"}

/-- The permissions of each system role; nothing depends on the order of the sorted lists. -/
def SYSTEM_ROLES : List (String × Finset String) :=
  [(SYSTEM_ROLE_OWNER, ownerPermissions),
    (SYSTEM_ROLE_ADMIN, adminPermissions),
    (SYSTEM_ROLE_BILLING, billingPermissions),
    (SYSTEM_ROLE_DEVELOPER, developerPermissions),
    (SYSTEM_ROLE_MEMBER, memberPermissions)]

/-- What SYSTEM_ROLES has for a key it knows. -/
def systemPermissions (role : String) : Finset String := (SYSTEM_ROLES.lookup role).getD ∅

end SynapseSaas
