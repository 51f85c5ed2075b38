import SynapseSaas.Billing.Models
import SynapseSaas.Foundation.Pages
import SynapseSaas.Tenancy.Models

/-! The invoice list and the member list, page by page. What a query leaves open, the order
of rows created at one instant, is open here too, and anew for every request. -/

set_option autoImplicit false

namespace SynapseSaas.Listings

open Pages Tenancy

/-- A membership with the column it is listed by. -/
structure Member where
  membership : Membership
  createdAt : Int
  deriving DecidableEq, Repr

instance : Keyed Member where
  Key := MembershipIndex
  decEq := inferInstance
  id member := member.membership.id
  keys member := Keyed.keys member.membership

def maxPageLimit : Nat := 100

/-- A limit that the query parameter admits. -/
structure PageLimit where
  limit : Nat
  positive : 1 ≤ limit
  bounded : limit ≤ maxPageLimit

structure PageParams extends PageLimit where
  offset : Nat

def PageLimit.at (limit : PageLimit) (offset : Nat) : PageParams := ⟨limit, offset⟩

/-- A page and the total reported with it. -/
structure Listed (Row : Type) where
  data : List Row
  total : Nat

def paginateInMemory {Row : Type} (items : List Row) (params : PageParams) : Listed Row :=
  ⟨page items params.limit params.offset, items.length⟩

section Invoices

variable (invoices : Table Invoice) (organization : Nat)

def invoicesOf : List Invoice :=
  invoices.rows.filter fun invoice => invoice.organizationId = organization

/-- `ORDER BY created_at DESC`. -/
def newestFirst (invoice : Invoice) : Int := -invoice.createdAt

/-- `answer` is what the query gives without its limit. -/
def invoicesForOrg (answer : List Invoice) : List Invoice := answer.take 50

def listInvoices (answer : List Invoice) (params : PageParams) : Listed Invoice :=
  paginateInMemory (invoicesForOrg answer) params

end Invoices

section Members

variable (memberships : Table Member) (organization : Nat)

def membersOf : List Member :=
  memberships.rows.filter fun member => member.membership.organizationId = organization

def countMembers (status : MembershipStatus) : Nat :=
  (membersOf memberships organization).countP fun member => member.membership.status = status

def forOrganization (answer : List Member) (limit offset : Nat) : List Member :=
  page answer limit offset

def listMembers (answer : List Member) (params : PageParams) : Listed Member :=
  ⟨forOrganization answer params.limit params.offset,
    countMembers memberships organization .active + countMembers memberships organization .invited⟩

end Members

/-- Every request reports the number of rows, and the pages at 0, limit, 2 * limit, ... until the
reported total is covered give every row once. -/
def PagesCompletely {Row : Type} (key : Row → Int) (wanted : List Row)
    (list : List Row → PageParams → Listed Row) (limit : PageLimit) : Prop :=
  ∀ answers : Nat → List Row, (∀ request, Answers key wanted (answers request)) →
    (∀ request offset, (list (answers request) (limit.at offset)).total = wanted.length) ∧
    ((requests (list (answers 0) (limit.at 0)).total limit.limit).flatMap fun request =>
      (list (answers request) (limit.at (request * limit.limit))).data).Perm wanted

/-- A list whose total is right pages completely where the ends of its pages part no ties. -/
theorem pagesCompletely_iff {Row : Type} {key : Row → Int} {wanted : List Row}
    {list : List Row → PageParams → Listed Row} {limit : PageLimit} (distinct : wanted.Nodup)
    (total : ∀ answer params, Answers key wanted answer → (list answer params).total = wanted.length)
    (data : ∀ answer params, Answers key wanted answer →
      (list answer params).data = page answer params.limit params.offset) :
    PagesCompletely key wanted list limit ↔ Separated key wanted limit.limit := by
  rw [← collects_iff distinct limit.positive]
  constructor
  · intro completely answers sorted
    have perm := (completely answers sorted).2
    rw [total _ _ (sorted 0)] at perm
    simp only [data _ _ (sorted _)] at perm
    exact perm
  · intro collects answers sorted
    refine ⟨fun request offset => total _ _ (sorted request), ?_⟩
    rw [total _ _ (sorted 0)]
    simp only [data _ _ (sorted _)]
    exact collects answers sorted

/-- A list whose total is wrong does not page completely. -/
theorem total_of_pagesCompletely {Row : Type} {key : Row → Int} {wanted : List Row}
    {list : List Row → PageParams → Listed Row} {limit : PageLimit}
    (completely : PagesCompletely key wanted list limit) :
    ∃ answer, Answers key wanted answer ∧ (list answer (limit.at 0)).total = wanted.length := by
  obtain ⟨answer, sorted⟩ := exists_answer key wanted
  exact ⟨answer, sorted, (completely (fun _ => answer) fun _ => sorted).1 0 0⟩

/-- The invoice list is cut at fifty before it is paged. -/
theorem invoices_page_completely_iff (invoices : Table Invoice) (organization : Nat)
    (limit : PageLimit) :
    PagesCompletely newestFirst (invoicesOf invoices organization) listInvoices limit ↔
      (invoicesOf invoices organization).length ≤ 50 ∧
        Separated newestFirst (invoicesOf invoices organization) limit.limit := by
  have distinct : (invoicesOf invoices organization).Nodup := invoices.nodup.filter _
  have whole (short : (invoicesOf invoices organization).length ≤ 50) {answer : List Invoice}
      (sorted : Answers newestFirst (invoicesOf invoices organization) answer) :
      invoicesForOrg answer = answer :=
    List.take_of_length_le (by rw [sorted.1.length_eq]; exact short)
  have paged (short : (invoicesOf invoices organization).length ≤ 50) :
      PagesCompletely newestFirst (invoicesOf invoices organization) listInvoices limit ↔
        Separated newestFirst (invoicesOf invoices organization) limit.limit := by
    apply pagesCompletely_iff distinct
    · intro answer params sorted
      rw [listInvoices, paginateInMemory, whole short sorted, sorted.1.length_eq]
    · intro answer params sorted
      rw [listInvoices, paginateInMemory, whole short sorted]
  constructor
  · intro completely
    obtain ⟨answer, sorted, total⟩ := total_of_pagesCompletely completely
    have short : (invoicesOf invoices organization).length ≤ 50 := by
      rw [← total]
      exact List.length_take_le ..
    exact ⟨short, (paged short).mp completely⟩
  · rintro ⟨short, separated⟩
    exact (paged short).mpr separated

/-- The members of an organization by their statuses. -/
theorem countMembers_total (memberships : Table Member) (organization : Nat) :
    countMembers memberships organization .active + countMembers memberships organization .invited +
      countMembers memberships organization .suspended =
        (membersOf memberships organization).length := by
  unfold countMembers
  induction membersOf memberships organization with
  | nil => rfl
  | cons member rest ih =>
      simp only [List.countP_cons, List.length_cons, ← ih]
      cases member.membership.status <;> simp <;> omega

/-- The total of the member list counts active and invited members, the list has all. -/
theorem members_page_completely_iff (memberships : Table Member) (organization : Nat)
    (limit : PageLimit) :
    PagesCompletely Member.createdAt (membersOf memberships organization)
        (listMembers memberships organization) limit ↔
      (∀ member ∈ membersOf memberships organization, member.membership.status ≠ .suspended) ∧
        Separated Member.createdAt (membersOf memberships organization) limit.limit := by
  have distinct : (membersOf memberships organization).Nodup := memberships.nodup.filter _
  have counted := countMembers_total memberships organization
  have none_suspended : countMembers memberships organization .suspended = 0 ↔
      ∀ member ∈ membersOf memberships organization, member.membership.status ≠ .suspended := by
    rw [countMembers, List.countP_eq_zero]
    simp
  have paged (right : countMembers memberships organization .suspended = 0) :
      PagesCompletely Member.createdAt (membersOf memberships organization)
          (listMembers memberships organization) limit ↔
        Separated Member.createdAt (membersOf memberships organization) limit.limit := by
    apply pagesCompletely_iff distinct
    · intro answer params _
      change _ + _ = _
      omega
    · exact fun _ _ _ => rfl
  rw [← none_suspended]
  constructor
  · intro completely
    obtain ⟨answer, -, total⟩ := total_of_pagesCompletely completely
    have right : countMembers memberships organization .suspended = 0 := by
      change _ + _ = _ at total
      omega
    exact ⟨right, (paged right).mp completely⟩
  · rintro ⟨right, separated⟩
    exact (paged right).mpr separated

/-- When the two lists page completely. -/
theorem listings_page_completely_iff (invoices : Table Invoice) (memberships : Table Member)
    (organization : Nat) (limit : PageLimit) :
    PagesCompletely newestFirst (invoicesOf invoices organization) listInvoices limit ∧
      PagesCompletely Member.createdAt (membersOf memberships organization)
        (listMembers memberships organization) limit ↔
    ((invoicesOf invoices organization).length ≤ 50 ∧
        Separated newestFirst (invoicesOf invoices organization) limit.limit) ∧
      (∀ member ∈ membersOf memberships organization, member.membership.status ≠ .suspended) ∧
        Separated Member.createdAt (membersOf memberships organization) limit.limit :=
  and_congr (invoices_page_completely_iff ..) (members_page_completely_iff ..)

/-- An organization with one active and one suspended member. -/
def suspendedMember : Table Member :=
  ⟨[⟨⟨1, 7, some 3, none, none, .active, []⟩, 10⟩,
    ⟨⟨2, 7, some 4, none, none, .suspended, []⟩, 20⟩], 3, by decide⟩

/-- An organization with an invoice an hour. -/
def hourlyInvoices (count : Nat) : Table Invoice where
  rows := (List.range count).map fun i => { id := i, organizationId := 7, createdAt := 3600 * i }
  next := count
  consistent := by
    constructor
    · simp [Keyed.id]
    · rw [List.pairwise_map]
      refine List.nodup_range.imp fun {first second} different => ⟨different, ?_⟩
      simp [Keyed.keys, Invoice.providerKeys, Invoice.numberKeys]

/-- With fifty-one invoices fifty are reported, on pages of any size; with a suspended member
the total is one short, and on pages of one the suspended member is on none. -/
theorem listings_cut_short :
    (∀ limit, ¬PagesCompletely newestFirst (invoicesOf (hourlyInvoices 51) 7) listInvoices limit) ∧
      (∀ limit, ¬PagesCompletely Member.createdAt (membersOf suspendedMember 7)
        (listMembers suspendedMember 7) limit) ∧
      requests (listMembers suspendedMember 7 (membersOf suspendedMember 7)
        ⟨⟨1, by decide, by decide⟩, 0⟩).total 1 = [0] ∧
      (listMembers suspendedMember 7 (membersOf suspendedMember 7)
        ⟨⟨1, by decide, by decide⟩, 0⟩).data = [⟨⟨1, 7, some 3, none, none, .active, []⟩, 10⟩] := by
  refine ⟨fun limit completely => ?_, fun limit completely => ?_, by decide, by decide⟩
  · obtain ⟨answer, -, total⟩ := total_of_pagesCompletely completely
    have reported : (listInvoices answer (limit.at 0)).total ≤ 50 := List.length_take_le ..
    have length : (invoicesOf (hourlyInvoices 51) 7).length = 51 := by decide
    omega
  · obtain ⟨answer, -, total⟩ := total_of_pagesCompletely completely
    have reported : (listMembers suspendedMember 7 answer (limit.at 0)).total = 1 := by
      change countMembers suspendedMember 7 .active + countMembers suspendedMember 7 .invited = 1
      decide
    have length : (membersOf suspendedMember 7).length = 2 := by decide
    omega

end SynapseSaas.Listings
