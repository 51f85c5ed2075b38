import SynapseSaas.Core.Json

/-! The rate bucket of a login attempt. The middleware reads the target account from the
raw body, the handler from the address that validation makes of it. -/

set_option autoImplicit false

namespace SynapseSaas.Identity

/-- What the two parsers are built on: `str.lower`, by which addresses are compared too,
Python's text of a decoded value, and the addresses `EmailStr` accepts with what it makes
of them. -/
structure AddressRules where
  lower : String → String
  text : Json → String
  emailStr : String → Option String
  text_str : ∀ value, text (.str value) = value
  empty_rejected : emailStr "" = none

structure LoginUser where
  id : Nat
  email : String
  deriving DecidableEq, Repr

/-- `data.get(field)` of a decoded body; a body that is not an object has none. -/
def bodyField (field : String) : Json → Option Json
  | .dict members => members.lookup field
  | _ => none

namespace AddressRules

variable (rules : AddressRules)

/-- `_peek_identity`. -/
def peekIdentity (field : String) (body : Json) : Option String :=
  match bodyField field body with
  | none => none
  | some value => if value.truthy then some (rules.lower (rules.text value)) else none

/-- The bucket an attempt is counted in, where it has one. -/
def identityKey (body : Json) : Option String :=
  (rules.peekIdentity "email" body).map ("auth:id:" ++ ·)

/-- `LoginRequest`: the two fields are strings, and the email is one `EmailStr` accepts. -/
def loginRequest (body : Json) : Option (String × String) := do
  let email ← (← bodyField "email" body).str?
  let password ← (← bodyField "password" body).str?
  let address ← rules.emailStr email
  return (address, password)

/-- `select(User).where(User.email == email)`, where case does not matter. -/
def userByEmail (users : List LoginUser) (email : String) : Option LoginUser :=
  users.find? fun user => rules.lower user.email = rules.lower email

/-- The row the handler resolves a body to. -/
def resolves (users : List LoginUser) (body : Json) : Option LoginUser := do
  let (email, _) ← rules.loginRequest body
  rules.userByEmail users email

/-- The body names the address and nothing around it: validation changes its case at most. -/
def Plain (body : Json) : Prop :=
  ∀ raw address, bodyField "email" body = some (.str raw) → rules.emailStr raw = some address →
    rules.lower raw = rules.lower address

/-- The two bodies spell the email alike, up to case. -/
def SpelledAlike (first second : Json) : Prop :=
  ∀ raw other, bodyField "email" first = some (.str raw) →
    bodyField "email" second = some (.str other) → rules.lower raw = rules.lower other

variable {rules : AddressRules} {users : List LoginUser} {body first second : Json}
  {user : LoginUser}

/-- What a body that resolves to a row says. -/
theorem resolves_eq_some (resolved : rules.resolves users body = some user) :
    ∃ raw address, bodyField "email" body = some (.str raw) ∧
      rules.emailStr raw = some address ∧ rules.lower user.email = rules.lower address := by
  obtain ⟨⟨address, password⟩, read, found⟩ := Option.bind_eq_some_iff.mp resolved
  obtain ⟨value, field, read⟩ := Option.bind_eq_some_iff.mp read
  obtain ⟨raw, string, read⟩ := Option.bind_eq_some_iff.mp read
  obtain ⟨_, -, read⟩ := Option.bind_eq_some_iff.mp read
  obtain ⟨_, -, read⟩ := Option.bind_eq_some_iff.mp read
  obtain ⟨accepted, emailStr, same⟩ := Option.bind_eq_some_iff.mp read
  cases Option.some.inj same
  have compared := List.find?_some
    (show users.find? (fun user => rules.lower user.email = rules.lower address) = some user from
      found)
  refine ⟨raw, address, ?_, emailStr, of_decide_eq_true compared⟩
  unfold Json.str? at string
  split at string
  · cases string
    exact field
  · cases string

/-- The key of a body that resolves to a row is its email as it is spelled. -/
theorem identityKey_of_resolves {raw address : String}
    (field : bodyField "email" body = some (.str raw)) (accepted : rules.emailStr raw = some address) :
    rules.identityKey body = some ("auth:id:" ++ rules.lower raw) := by
  have nonempty : raw ≠ "" := by
    rintro rfl
    cases rules.empty_rejected.symm.trans accepted
  have truthy : (Json.str raw).truthy = true := by simpa [Json.truthy] using nonempty
  rw [identityKey, peekIdentity, field]
  dsimp only
  rw [if_pos truthy, rules.text_str]
  rfl

theorem key_injective {first second : String}
    (same : "auth:id:" ++ first = "auth:id:" ++ second) : first = second := by
  have lists := congrArg String.toList same
  rw [String.toList_append, String.toList_append] at lists
  exact String.toList_inj.mp (List.append_cancel_left lists)

/-- Two bodies that resolve to one row are counted in one bucket exactly if both name the
address plainly, or neither does and they spell it alike. -/
theorem one_bucket_iff (rules : AddressRules) (users : List LoginUser) (first second : Json)
    (user : LoginUser) (here : rules.resolves users first = some user)
    (there : rules.resolves users second = some user) :
    rules.identityKey first = rules.identityKey second ↔
      rules.Plain first ∧ rules.Plain second ∨
      ¬ rules.Plain first ∧ ¬ rules.Plain second ∧ rules.SpelledAlike first second := by
  obtain ⟨raw, address, field, accepted, own⟩ := resolves_eq_some here
  obtain ⟨other, target, field', accepted', theirs⟩ := resolves_eq_some there
  have account : rules.lower address = rules.lower target := own.symm.trans theirs
  have plain_first : rules.Plain first ↔ rules.lower raw = rules.lower address := by
    refine ⟨fun plain => plain raw address field accepted, ?_⟩
    intro same raw' address' field' accepted'
    cases field.symm.trans field'
    cases accepted.symm.trans accepted'
    exact same
  have plain_second : rules.Plain second ↔ rules.lower other = rules.lower target := by
    refine ⟨fun plain => plain other target field' accepted', ?_⟩
    intro same raw' address' field accepted
    cases field'.symm.trans field
    cases accepted'.symm.trans accepted
    exact same
  have alike : rules.SpelledAlike first second ↔ rules.lower raw = rules.lower other := by
    refine ⟨fun alike => alike raw other field field', ?_⟩
    intro same raw' other' here there
    cases field.symm.trans here
    cases field'.symm.trans there
    exact same
  have keys : rules.identityKey first = rules.identityKey second ↔
      rules.lower raw = rules.lower other := by
    rw [identityKey_of_resolves field accepted, identityKey_of_resolves field' accepted']
    exact ⟨fun same => key_injective (Option.some.inj same), fun same => by rw [same]⟩
  rw [keys, plain_first, plain_second, alike]
  constructor
  · intro same
    by_cases plain : rules.lower raw = rules.lower address
    · exact .inl ⟨plain, same.symm.trans (plain.trans account)⟩
    · refine .inr ⟨plain, fun other_plain => plain ?_, same⟩
      exact same.trans (other_plain.trans account.symm)
  · rintro (⟨plain, other_plain⟩ | ⟨-, -, same⟩)
    · exact plain.trans (account.trans other_plain.symm)
    · exact same

end AddressRules

/-! An address, and the same one with a blank before it and under a name. -/

/-- What comes after the last opening bracket, up to the closing one, or the text itself. -/
def addressPart (text : List Char) : List Char :=
  match text.dropWhile (· ≠ '<') with
  | [] => text
  | _ :: rest => rest.takeWhile (· ≠ '>')

/-- Blanks around the text are dropped, and a display name before the address. -/
def stripped (text : String) : Option String :=
  let address := addressPart
    ((text.toList.dropWhile (· = ' ')).reverse.dropWhile (· = ' ')).reverse
  if '@' ∈ address then some (String.ofList address) else none

def simpleRules : AddressRules where
  lower := fun text => String.ofList (text.toList.map Char.toLower)
  text := fun
    | .str value => value
    | _ => "None"
  emailStr := stripped
  text_str := fun _ => rfl
  empty_rejected := by decide

def attempt (email : String) : Json := .dict [("email", .str email), ("password", .str "guess")]

def accounts : List LoginUser := [⟨1, "bob@example.com"⟩, ⟨2, "Ann@example.com"⟩]

/-- Three spellings of one account, in three buckets. -/
theorem one_account_many_buckets :
    simpleRules.resolves accounts (attempt "ann@example.com") = some ⟨2, "Ann@example.com"⟩ ∧
    simpleRules.resolves accounts (attempt " ann@example.com") = some ⟨2, "Ann@example.com"⟩ ∧
    simpleRules.resolves accounts (attempt "x <ann@example.com>") = some ⟨2, "Ann@example.com"⟩ ∧
    simpleRules.identityKey (attempt "ann@example.com") ≠
      simpleRules.identityKey (attempt " ann@example.com") ∧
    simpleRules.identityKey (attempt "ann@example.com") ≠
      simpleRules.identityKey (attempt "x <ann@example.com>") := by
  refine ⟨by decide, by decide, by decide, by decide, by decide⟩

/-- Spelled plainly, case is all that may differ. -/
theorem one_bucket_iff_plain :
    simpleRules.identityKey (attempt "ann@example.com") =
      simpleRules.identityKey (attempt "ANN@example.com") := by
  refine (AddressRules.one_bucket_iff simpleRules accounts _ _ ⟨2, "Ann@example.com"⟩ (by decide)
    (by decide)).mpr (.inl ⟨?_, ?_⟩)
  · intro raw address field accepted
    cases field
    cases accepted
    decide
  · intro raw address field accepted
    cases field
    cases accepted
    decide

end SynapseSaas.Identity
