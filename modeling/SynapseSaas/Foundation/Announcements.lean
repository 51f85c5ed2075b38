import SynapseSaas.Foundation.Procedures

/-! What a procedure that runs alone has told of when it ends, beside what it leaves. -/

set_option autoImplicit false

namespace Procedures

variable {Rows Write Effect Failure Answer First Second State Item : Type} [Writes Write Rows Failure]

namespace Proc

/-- The effects in their order, up to the end or to the failure. -/
def effects : Proc Rows Write Effect Failure Answer → Rows → List Effect
  | .done _, _ | .fail _, _ => []
  | .select next, rows => (next rows).effects rows
  | .mutate write next, rows =>
      match Writes.write write rows with
      | .ok after => next.effects after
      | .error _ => []
  | .perform effect next, rows => effect :: next.effects rows

/-- Where the procedure ends well, what it leaves and has told is as promised. -/
def Tells (promised : Answer → Rows → List Effect → Prop) :
    Proc Rows Write Effect Failure Answer → Rows → List Effect → Prop
  | .done answer, rows, told => promised answer rows told
  | .fail _, _, _ => True
  | .select next, rows, told => Tells promised (next rows) rows told
  | .mutate write next, rows, told =>
      ∀ after, Writes.write write rows = .ok after → Tells promised next after told
  | .perform effect next, rows, told => Tells promised next rows (told ++ [effect])

theorem Tells.alone {promised : Answer → Rows → List Effect → Prop}
    {proc : Proc Rows Write Effect Failure Answer} {rows after : Rows} {told : List Effect}
    {answer : Answer} (tells : proc.Tells promised rows told)
    (ended : proc.alone rows = .ok (answer, after)) :
    promised answer after (told ++ proc.effects rows) := by
  induction proc generalizing rows told with
  | done other =>
      cases ended
      rw [effects, List.append_nil]
      exact tells
  | fail failure => cases ended
  | select next ih => exact ih rows tells ended
  | mutate write next ih =>
      simp only [Proc.alone, effects] at ended ⊢
      cases changed : Writes.write write rows with
      | ok middle =>
          rw [changed] at ended
          exact ih (tells middle changed) ended
      | error failure =>
          rw [changed] at ended
          cases ended
  | perform effect next ih =>
      rw [effects, ← List.singleton_append, ← List.append_assoc]
      exact ih tells ended

theorem Tells.bind {halfway : First → Rows → List Effect → Prop}
    {promised : Second → Rows → List Effect → Prop}
    {proc : Proc Rows Write Effect Failure First}
    {rest : First → Proc Rows Write Effect Failure Second} {rows : Rows} {told : List Effect}
    (begun : proc.Tells halfway rows told)
    (continued : ∀ answer after told, halfway answer after told →
      (rest answer).Tells promised after told) :
    (proc >>= rest).Tells promised rows told := by
  change (proc.bind rest).Tells promised rows told
  induction proc generalizing rows told with
  | done answer => exact continued answer rows told begun
  | fail failure => trivial
  | select next ih => exact ih rows begun
  | perform effect next ih => exact ih begun
  | mutate write next ih => exact fun after changed => ih (begun after changed)

theorem Tells.weaken {promised weaker : Answer → Rows → List Effect → Prop}
    {proc : Proc Rows Write Effect Failure Answer} {rows : Rows} {told : List Effect}
    (tells : proc.Tells promised rows told)
    (implies : ∀ answer after told, promised answer after told → weaker answer after told) :
    proc.Tells weaker rows told := by
  induction proc generalizing rows told with
  | done answer => exact implies _ _ _ tells
  | fail failure => trivial
  | select next ih => exact ih rows tells
  | perform effect next ih => exact ih tells
  | mutate write next ih => exact fun after changed => ih (tells after changed)

end Proc

/-- The same of a method, whatever its local state. -/
def Method.Tells (rows : Rows) (told : List Effect) (promised : Answer → Rows → List Effect → Prop)
    (method : Method State Rows Write Effect Failure Answer) : Prop :=
  ∀ state, (method.run state).Tells (fun ended after told => promised ended.1 after told) rows told

namespace Method

variable {rows : Rows} {told : List Effect} {promised weaker : Answer → Rows → List Effect → Prop}

theorem Tells.bind {halfway : First → Rows → List Effect → Prop}
    {promised : Second → Rows → List Effect → Prop}
    {method : Method State Rows Write Effect Failure First}
    {rest : First → Method State Rows Write Effect Failure Second}
    (begun : Tells rows told halfway method)
    (continued : ∀ answer after told, halfway answer after told →
      Tells after told promised (rest answer)) :
    Tells rows told promised (method >>= rest) := fun state =>
  (begun state).bind fun ended after told kept => continued ended.1 after told kept ended.2

theorem tells_pure {answer : Answer} (kept : promised answer rows told) :
    Tells rows told promised (pure answer : Method State Rows Write Effect Failure Answer) :=
  fun _ => kept

theorem Tells.weaken {method : Method State Rows Write Effect Failure Answer}
    (tells : Tells rows told promised method)
    (implies : ∀ answer after told, promised answer after told → weaker answer after told) :
    Tells rows told weaker method := fun state =>
  (tells state).weaken fun ended after told kept => implies ended.1 after told kept

theorem tells_fail {failure : Failure} :
    Tells rows told promised (fail failure : Method State Rows Write Effect Failure Answer) :=
  fun _ => trivial

theorem tells_select {read : State → Rows → Answer × State}
    (kept : ∀ state, promised (read state rows).1 rows told) :
    Tells rows told promised (select read : Method State Rows Write Effect Failure Answer) :=
  fun state => kept state

theorem tells_mutate {promised : Unit → Rows → List Effect → Prop} {write : Write}
    (kept : ∀ after, Writes.write write rows = .ok after → promised () after told) :
    Tells rows told promised (mutate write : Method State Rows Write Effect Failure Unit) :=
  fun _ => kept

theorem tells_perform {promised : Unit → Rows → List Effect → Prop} {effect : Effect}
    (kept : promised () rows (told ++ [effect])) :
    Tells rows told promised (perform effect : Method State Rows Write Effect Failure Unit) :=
  fun _ => kept

/-- The rule for a loop, with an invariant of the rows and of what has been told. -/
theorem Tells.forM (invariant : Rows → List Effect → Prop)
    {body : Item → Method State Rows Write Effect Failure PUnit} {items : List Item}
    (one : ∀ item ∈ items, ∀ rows told, invariant rows told →
      Tells rows told (fun _ after told => invariant after told) (body item))
    (holds : invariant rows told) :
    Tells rows told (fun _ after told => invariant after told) (items.forM body) := by
  induction items generalizing rows told with
  | nil => exact fun _ => holds
  | cons item rest ih =>
      obtain ⟨here, others⟩ := List.forall_mem_cons.mp one
      exact (here rows told holds).bind fun _ _ _ kept => ih others kept

end Method

end Procedures
