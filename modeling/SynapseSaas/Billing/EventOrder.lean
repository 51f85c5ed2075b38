import SynapseSaas.Billing.StatusEvents
import SynapseSaas.Foundation.Orders

/-! When the order of a provider's status events does not matter.

A subscription moves among occupying statuses until an event ends it, and stays
where that event took it: what decides is which event comes first among those
that end it, and which comes last among the others. -/

set_option autoImplicit false

namespace SynapseSaas

/-- The moves that end the subscription agree on where to, and on the period end
they leave; and if one of them tells no period end, neither does any move that
may come before it tell another than the subscription has. -/
structure EndingsAgree (start : Standing) (ends : List Status) (moves : List Move) : Prop where
  agree : ∀ first ∈ moves, ∀ second ∈ moves, first.target ∈ ends → second.target ∈ ends →
    first.target = second.target ∧
      first.periodEnd.getD start.periodEnd = second.periodEnd.getD start.periodEnd
  silent : ∀ ending ∈ moves, ending.target ∈ ends → ending.periodEnd = none →
    ∀ passing ∈ moves, passing.target ∉ ends → canTransition start.status passing.target = true →
      passing.periodEnd.getD start.periodEnd = start.periodEnd

/-- The moves to these statuses agree on which, and on the period end they tell. -/
def PassingsAgree (targets : Status → Bool) (moves : List Move) : Prop :=
  ∀ first ∈ moves, ∀ second ∈ moves, targets first.target = true → targets second.target = true →
    first.target = second.target ∧
      ∀ one ∈ first.periodEnd, ∀ other ∈ second.periodEnd, one = other

/-- The statuses a trial does not come back from while it occupies. -/
def Status.mover (status : Status) : Bool := status = .active ∨ status = .pastDue

/-- With no ending: the moves out of a trial agree, and if none of them tells a
period end, no event of the trial tells another than the subscription has. -/
structure MoversAgree (start : Standing) (moves : List Move) : Prop where
  agree : PassingsAgree Status.mover moves
  silent : (∀ move ∈ moves, move.target.mover = true → move.periodEnd = none) →
    ∀ staying ∈ moves, staying.target = .trialing →
      staying.periodEnd.getD start.periodEnd = start.periodEnd

/-- What has to agree, given the statuses that end the subscription. -/
structure Agree (start : Standing) (ends : List Status) (moves : List Move) : Prop where
  ended : (∃ move ∈ moves, move.target ∈ ends) → EndingsAgree start ends moves
  unended : (∀ move ∈ moves, move.target ∉ ends) →
    PassingsAgree (canTransition start.status) moves

/-- In a trial, whether an event may end the subscription depends on the ones
before it, unless it is canceled or the trial lasts. -/
structure TrialAgrees (start : Standing) (moves : List Move) : Prop where
  lasting : (∀ move ∈ moves, move.target.mover = false) →
    Agree start [.canceled, .incomplete] moves
  left : (∃ move ∈ moves, move.target.mover = true) →
    (∀ move ∈ moves, move.target ≠ .incomplete ∧ move.target ≠ .unpaid) ∧
      ((∃ move ∈ moves, move.target = .canceled) → EndingsAgree start [.canceled] moves) ∧
      ((∀ move ∈ moves, move.target ≠ .canceled) → MoversAgree start moves)

/-- The moves asked for leave nothing to their order. -/
def OrderDetermined (start : Standing) (moves : List Move) : Prop :=
  match start.status with
  | .active | .pastDue => Agree start [.canceled, .unpaid] moves
  | .trialing => TrialAgrees start moves
  | .incomplete | .unpaid | .canceled => True

/-- The moves are among occupying statuses up to the endings. -/
structure Region (region : Status → Prop) (start : Standing) (ends : List Status)
    (moves : List Move) : Prop where
  starts : region start.status
  occupying : ∀ status, region status → status.occupying = true
  ending : ∀ move ∈ moves, move.target ∈ ends → move.target.occupying = false ∧
    ∀ status, region status → canTransition status move.target = true
  passing : ∀ move ∈ moves, move.target ∉ ends → ∀ status, region status →
    canTransition status move.target = true →
      region move.target ∧ canTransition start.status move.target = true

section Moves

variable {start standing : Standing} {move : Move} {moves : List Move} {ends : List Status}
  {region : Status → Prop}

theorem move_of_accepts (accepts : standing.accepts move = true) :
    standing.move move = ⟨move.target, move.periodEnd.getD standing.periodEnd⟩ := by
  rw [Standing.move, if_pos accepts]

theorem move_of_refuses (refuses : standing.accepts move = false) :
    standing.move move = standing := by
  rw [Standing.move, if_neg (by simp [refuses])]

theorem move_of_vacant (vacant : standing.status.occupying = false) (move : Move) :
    standing.move move = standing :=
  move_of_refuses (by simp [Standing.accepts, vacant])

namespace Region

variable (within : Region region start ends moves)
include within

theorem accepts_eq (inside : region standing.status) :
    standing.accepts move = canTransition standing.status move.target := by
  simp [Standing.accepts, within.occupying _ inside]

theorem ends_at (member : move ∈ moves) (inside : region standing.status)
    (ending : move.target ∈ ends) :
    standing.move move = ⟨move.target, move.periodEnd.getD standing.periodEnd⟩ :=
  move_of_accepts ((within.accepts_eq inside).trans
    ((within.ending move member ending).2 _ inside))

theorem absorbed (member : move ∈ moves) (inside : region standing.status)
    (ending : move.target ∈ ends) (rest : List Move) :
    Runs.run Standing.move standing (move :: rest) =
      ⟨move.target, move.periodEnd.getD standing.periodEnd⟩ := by
  rw [Runs.run_cons, within.ends_at member inside ending]
  exact Runs.run_absorbed _ (move_of_vacant (within.ending move member ending).1) rest

theorem keeps (member : move ∈ moves) (inside : region standing.status)
    (passing : move.target ∉ ends) : region (standing.move move).status := by
  cases accepts : standing.accepts move with
  | true =>
      rw [move_of_accepts accepts]
      rw [within.accepts_eq inside] at accepts
      exact (within.passing move member passing _ inside accepts).1
  | false => rwa [move_of_refuses accepts]

end Region

/-- With an ending among the moves, order does not matter exactly if the endings
agree. -/
theorem orderFree_iff_endingsAgree (within : Region region start ends moves)
    (ended : ∃ move ∈ moves, move.target ∈ ends) :
    Runs.OrderFree Standing.move start moves ↔ EndingsAgree start ends moves := by
  constructor
  · intro free
    refine ⟨fun first left second right firstEnds secondEnds => ?_,
      fun ending here ends silent passing there passes legal => ?_⟩
    -- Two endings, each in front of one order: the first to come is final.
    · obtain ⟨_, leftFirst⟩ := Orders.exists_perm_cons left
      obtain ⟨_, rightFirst⟩ := Orders.exists_perm_cons right
      have same := free _ _ leftFirst rightFirst
      rw [within.absorbed left within.starts firstEnds,
        within.absorbed right within.starts secondEnds] at same
      exact ⟨congrArg Standing.status same, congrArg Standing.periodEnd same⟩
    -- A passing that tells a period end, before a silent ending and after it.
    · obtain ⟨_, endingFirst⟩ := Orders.exists_perm_cons here
      obtain ⟨_, passingFirst⟩ := Orders.exists_perm_cons_cons there here
        (fun eq => passes (eq ▸ ends))
      have same := free _ _ passingFirst endingFirst
      rw [Runs.run_cons, within.absorbed here (within.keeps there within.starts passes) ends,
        within.absorbed here within.starts ends,
        move_of_accepts ((within.accepts_eq within.starts).trans legal), silent] at same
      exact congrArg Standing.periodEnd same
  · intro agree first second left right
    -- Up to the first ending the period end may move only if every ending tells one.
    have decided (order : List Move) (perm : order.Perm moves) :
        ∃ move ∈ moves, move.target ∈ ends ∧ Runs.run Standing.move start order =
          ⟨move.target, move.periodEnd.getD start.periodEnd⟩ := by
      obtain ⟨standing, ⟨inside, periodEnd⟩, move, member, ending, final⟩ := Runs.run_ends
        Standing.move
        (fun standing => region standing.status ∧
          ((∃ move ∈ moves, move.target ∈ ends ∧ move.periodEnd = none) →
            standing.periodEnd = start.periodEnd))
        (fun move => move.target ∈ ends)
        (fun standing move member ⟨inside, periodEnd⟩ passing => by
          have member := perm.mem_iff.mp member
          refine ⟨within.keeps member inside passing, fun silent => ?_⟩
          cases accepts : standing.accepts move with
          | false => rw [move_of_refuses accepts, periodEnd silent]
          | true =>
              obtain ⟨ending, here, ends, untold⟩ := silent
              rw [move_of_accepts accepts, periodEnd ⟨ending, here, ends, untold⟩]
              rw [within.accepts_eq inside] at accepts
              exact agree.silent ending here ends untold move member passing
                (within.passing move member passing _ inside accepts).2)
        (fun standing move member ⟨inside, _⟩ ending other => by
          have member := perm.mem_iff.mp member
          rw [within.ends_at member inside ending]
          exact move_of_vacant (within.ending move member ending).1 other)
        ⟨within.starts, fun _ => rfl⟩
        (by simpa only [perm.mem_iff] using ended)
      have member := perm.mem_iff.mp member
      refine ⟨move, member, ending, ?_⟩
      rw [final, within.ends_at member inside ending]
      cases told : move.periodEnd with
      | some periodEnd => rfl
      | none => rw [periodEnd ⟨move, member, ending, told⟩]
    obtain ⟨one, here, oneEnds, oneFinal⟩ := decided first left
    obtain ⟨other, there, otherEnds, otherFinal⟩ := decided second right
    obtain ⟨target, periodEnd⟩ := agree.agree one here other there oneEnds otherEnds
    rw [oneFinal, otherFinal, target, periodEnd]

/-- Without endings, where a move is made from every status or from none, order
does not matter exactly if the moves that are made agree. -/
theorem orderFree_iff_passingsAgree (within : Region region start ends moves)
    (unended : ∀ move ∈ moves, move.target ∉ ends)
    (uniform : ∀ move ∈ moves, ∀ status, region status →
      canTransition status move.target = canTransition start.status move.target) :
    Runs.OrderFree Standing.move start moves ↔
      PassingsAgree (canTransition start.status) moves := by
  -- No run leaves the region, so acceptance is the same all along it.
  have inside_of (order : List Move) (fewer : ∀ move ∈ order, move ∈ moves) :
      region (Runs.run Standing.move start order).status :=
    Runs.run_invariant_mem Standing.move (fun standing => region standing.status)
      (fun standing move member inside =>
        within.keeps (fewer move member) inside (unended move (fewer move member))) within.starts
  constructor
  · intro free first left second right firstLegal secondLegal
    -- Two orders that end with one of the moves each: the last one decides.
    obtain ⟨before, firstLast⟩ := Orders.exists_perm_append_singleton left
    obtain ⟨earlier, secondLast⟩ := Orders.exists_perm_append_singleton right
    have same := free _ _ firstLast secondLast
    have one := inside_of before fun move member => firstLast.mem_iff.mp (by simp [member])
    have other := inside_of earlier fun move member => secondLast.mem_iff.mp (by simp [member])
    rw [Runs.run_append, Runs.run_append, Runs.run_cons, Runs.run_cons, Runs.run_nil, Runs.run_nil,
      move_of_accepts ((within.accepts_eq one).trans ((uniform first left _ one).trans firstLegal)),
      move_of_accepts ((within.accepts_eq other).trans
        ((uniform second right _ other).trans secondLegal))] at same
    refine ⟨congrArg Standing.status same, fun told here retold there => ?_⟩
    have periodEnd := congrArg Standing.periodEnd same
    rw [Option.mem_def] at here there
    simpa [here, there] using periodEnd
  · intro agree first second left right
    -- Neighbours commute: at most one of them is accepted, or they agree.
    refine Runs.run_perm Standing.move (fun standing => region standing.status)
      (left.trans right.symm) (fun standing move member inside => ?_)
      (fun standing one here other there inside => ?_) within.starts
    · have member := left.mem_iff.mp member
      exact within.keeps member inside (unended move member)
    · have here := left.mem_iff.mp here
      have there := left.mem_iff.mp there
      have constant (standing : Standing) (inside : region standing.status) (move : Move)
          (member : move ∈ moves) :
          standing.accepts move = canTransition start.status move.target :=
        (within.accepts_eq inside).trans (uniform move member _ inside)
      have after (move : Move) (member : move ∈ moves) := within.keeps member inside
        (unended move member)
      have firstly := constant _ inside one here
      have secondly := constant _ inside other there
      have thirdly := constant _ (after other there) one here
      have lastly := constant _ (after one here) other there
      cases oneLegal : canTransition start.status one.target with
      | false =>
          rw [move_of_refuses (firstly.trans oneLegal), move_of_refuses (thirdly.trans oneLegal)]
      | true =>
          cases otherLegal : canTransition start.status other.target with
          | false =>
              rw [move_of_refuses (secondly.trans otherLegal),
                move_of_refuses (lastly.trans otherLegal)]
          | true =>
              obtain ⟨target, periodEnd⟩ := agree one here other there oneLegal otherLegal
              rw [move_of_accepts (lastly.trans otherLegal), move_of_accepts (firstly.trans oneLegal),
                move_of_accepts (thirdly.trans oneLegal),
                move_of_accepts (secondly.trans otherLegal), target]
              cases told : one.periodEnd with
              | none => rfl
              | some first =>
                  cases retold : other.periodEnd with
                  | none => rfl
                  | some second => rw [periodEnd first told second retold]

end Moves

section Trials

variable {start standing : Standing} {move : Move} {moves : List Move}

theorem occupying_of_mover {status : Status} (moved : status.mover = true) :
    status.occupying = true := by
  cases status <;> first | rfl | cases moved

/-- Once out of the trial, what would keep it in the trial is refused. -/
theorem canTransition_of_mover {status target : Status} (moved : status.mover = true)
    (unended : target ≠ .canceled ∧ target ≠ .unpaid) :
    canTransition status target = target.mover := by
  cases status <;> cases moved <;> cases target <;> first | rfl | simp at unended

theorem unended_of_mild {target : Status} (mild : target.mover = true ∨ target = .trialing) :
    target ≠ .canceled ∧ target ≠ .unpaid := by
  rcases mild with mover | rfl
  · constructor <;> rintro rfl <;> cases mover
  · simp

theorem accepts_of_moved (moved : standing.status.mover = true)
    (mild : move.target.mover = true ∨ move.target = .trialing) :
    standing.accepts move = move.target.mover := by
  rw [Standing.accepts, occupying_of_mover moved,
    canTransition_of_mover moved (unended_of_mild mild), Bool.true_and]

theorem move_of_moved (moved : standing.status.mover = true)
    (mild : move.target.mover = true ∨ move.target = .trialing) :
    standing.move move = if move.target.mover then
      ⟨move.target, move.periodEnd.getD standing.periodEnd⟩ else standing := by
  have accepts := accepts_of_moved moved mild
  cases moves : move.target.mover with
  | true => rw [move_of_accepts (accepts.trans moves), if_pos rfl]
  | false => rw [move_of_refuses (accepts.trans moves), if_neg (by simp)]

/-- A period end that is told later makes the one before it moot. -/
theorem run_forgets {target : Status} (moved : target.mover = true) (one other : Int)
    (mild : ∀ move ∈ moves, move.target.mover = true ∨ move.target = .trialing)
    (told : ∃ move ∈ moves, move.target.mover = true ∧ move.periodEnd ≠ none) :
    Runs.run Standing.move ⟨target, one⟩ moves = Runs.run Standing.move ⟨target, other⟩ moves := by
  induction moves generalizing target one other with
  | nil =>
      obtain ⟨move, member, -⟩ := told
      cases member
  | cons move rest ih =>
      have later : ∀ move ∈ rest, move.target.mover = true ∨ move.target = .trialing :=
        fun other member => mild other (List.mem_cons_of_mem _ member)
      rw [Runs.run_cons, Runs.run_cons, move_of_moved moved (mild move (by simp)),
        move_of_moved moved (mild move (by simp))]
      obtain ⟨teller, member, moves, tells⟩ := told
      rcases List.mem_cons.mp member with rfl | member
      · rw [if_pos moves, if_pos moves]
        cases periodEnd : teller.periodEnd with
        | none => exact absurd periodEnd tells
        | some periodEnd => rfl
      · split
        · next leaves => exact ih leaves _ _ later ⟨teller, member, moves, tells⟩
        · exact ih moved one other later ⟨teller, member, moves, tells⟩

/-- A trial ends as if it had been over from the start, if what it was told while
it lasted is told again or was nothing new. -/
theorem run_trial {target : Status} (moved : target.mover = true) (periodEnd : Int)
    (trial : standing.status = .trialing)
    (mild : ∀ move ∈ moves, move.target.mover = true ∨ move.target = .trialing)
    (leaves : ∃ move ∈ moves, move.target.mover = true)
    (agree : ∀ move ∈ moves, move.target.mover = true → move.target = target)
    (moot : (∃ move ∈ moves, move.target.mover = true ∧ move.periodEnd ≠ none) ∨
      standing.periodEnd = periodEnd ∧ ∀ move ∈ moves, move.target = .trialing →
        move.periodEnd.getD periodEnd = periodEnd) :
    Runs.run Standing.move standing moves = Runs.run Standing.move ⟨target, periodEnd⟩ moves := by
  -- Induction on the moves, up to the first that leaves the trial.
  induction moves generalizing standing with
  | nil =>
      obtain ⟨move, member, -⟩ := leaves
      cases member
  | cons move rest ih =>
      have later : ∀ move ∈ rest, move.target.mover = true ∨ move.target = .trialing :=
        fun other member => mild other (List.mem_cons_of_mem _ member)
      have passed : (⟨target, periodEnd⟩ : Standing).status.mover = true := moved
      rw [Runs.run_cons, Runs.run_cons, move_of_moved passed (mild move (by simp))]
      have occupying : standing.accepts move = true := by
        rcases mild move (by simp) with mover | stays
        · simp only [Status.mover, decide_eq_true_eq] at mover
          rcases mover with eq | eq <;> simp [Standing.accepts, trial, eq, Status.occupying,
            canTransition, allowedTransitions]
        · simp [Standing.accepts, trial, stays, Status.occupying, canTransition]
      rw [move_of_accepts occupying]
      cases mover : move.target.mover with
      -- The trial is left here: both runs stand on the same status, and on the same
      -- period end unless a later move tells one.
      | true =>
          obtain rfl := agree move (by simp) mover
          rw [if_pos rfl]
          cases told : move.periodEnd with
          | some periodEnd => rfl
          | none =>
              rcases moot with ⟨teller, member, moves, tells⟩ | ⟨same, -⟩
              · rcases List.mem_cons.mp member with rfl | member
                · exact absurd told tells
                · exact run_forgets mover _ _ later ⟨teller, member, moves, tells⟩
              · rw [Option.getD_none, Option.getD_none, same]
      | false =>
          have stays : move.target = .trialing := by
            rcases mild move (by simp) with other | stays
            · rw [mover] at other
              cases other
            · exact stays
          rw [if_neg (by simp)]
          -- What is asked of some mover is asked of one that is still to come.
          have tail (property : Move → Prop) (exists_one : ∃ entry ∈ move :: rest,
              entry.target.mover = true ∧ property entry) :
              ∃ entry ∈ rest, entry.target.mover = true ∧ property entry := by
            obtain ⟨other, member, moves, holds⟩ := exists_one
            rcases List.mem_cons.mp member with eq | member
            · rw [eq, mover] at moves
              cases moves
            · exact ⟨other, member, moves, holds⟩
          refine ih stays later ?_ (fun other member => agree other (List.mem_cons_of_mem _ member))
            ?_
          · obtain ⟨other, member, moves, -⟩ := tail (fun _ => True)
              (leaves.imp fun _ leaves => ⟨leaves.1, leaves.2, trivial⟩)
            exact ⟨other, member, moves⟩
          · rcases moot with told | ⟨same, quiet⟩
            · exact .inl (tail _ told)
            · refine .inr ⟨?_, fun other member => quiet other (List.mem_cons_of_mem _ member)⟩
              simpa only [same] using quiet move (by simp) stays

/-- Movers that tell no period end leave it as it is. -/
theorem run_quiet (moved : standing.status.mover = true)
    (mild : ∀ move ∈ moves, move.target.mover = true ∨ move.target = .trialing)
    (untold : ∀ move ∈ moves, move.target.mover = true → move.periodEnd = none) :
    (Runs.run Standing.move standing moves).periodEnd = standing.periodEnd := by
  refine (Runs.run_invariant_mem Standing.move
    (fun state => state.status.mover = true ∧ state.periodEnd = standing.periodEnd)
    (fun state move member ⟨inside, periodEnd⟩ => ?_) ⟨moved, rfl⟩).2
  rw [move_of_moved inside (mild move member)]
  split
  · next leaves => exact ⟨leaves, by rw [untold move member leaves]; exact periodEnd⟩
  · exact ⟨inside, periodEnd⟩

theorem mover_region (start : Standing) (moved : start.status.mover = true)
    (mild : ∀ move ∈ moves, move.target.mover = true ∨ move.target = .trialing) :
    Region (fun status => status.mover = true) start [] moves := by
  refine ⟨moved, fun status => occupying_of_mover, by simp, fun move member _ status inside legal =>
    ?_⟩
  rw [canTransition_of_mover inside (unended_of_mild (mild move member))] at legal
  exact ⟨legal, (canTransition_of_mover moved (unended_of_mild (mild move member))).trans legal⟩

theorem accepts_mover (occupying : standing.status.occupying = true)
    (mover : move.target.mover = true) : standing.accepts move = true := by
  obtain ⟨status, periodEnd⟩ := standing
  obtain ⟨target, told⟩ := move
  cases target <;> cases mover <;> cases status <;> first | rfl | cases occupying

theorem occupying_of_mild (occupying : standing.status.occupying = true)
    (mild : move.target.mover = true ∨ move.target = .trialing) :
    (standing.move move).status.occupying = true := by
  cases accepts : standing.accepts move with
  | false => rwa [move_of_refuses accepts]
  | true =>
      rw [move_of_accepts accepts]
      rcases mild with mover | stays
      · exact occupying_of_mover mover
      · rw [stays]
        rfl

/-- Out of a trial with no ending, order does not matter exactly if the movers
agree. -/
theorem orderFree_iff_moversAgree (trial : start.status = .trialing)
    (mild : ∀ move ∈ moves, move.target.mover = true ∨ move.target = .trialing)
    (leaves : ∃ move ∈ moves, move.target.mover = true) :
    Runs.OrderFree Standing.move start moves ↔ MoversAgree start moves := by
  have from_trial (move : Move) (member : move ∈ moves) :
      start.move move = ⟨move.target, move.periodEnd.getD start.periodEnd⟩ := by
    refine move_of_accepts ?_
    rw [Standing.accepts, trial]
    rcases mild move member with mover | stays
    · simp only [Status.mover, decide_eq_true_eq] at mover
      rcases mover with eq | eq <;> rw [eq] <;> rfl
    · rw [stays]
      rfl
  obtain ⟨leaver, leaverMember, leaverMoves⟩ := leaves
  -- Every order ends as if the trial had been left before it began.
  have as_moved (order : List Move) (perm : order.Perm moves) (agree : MoversAgree start moves) :
      Runs.run Standing.move start order =
        Runs.run Standing.move ⟨leaver.target, start.periodEnd⟩ order := by
    have mild_order : ∀ move ∈ order, move.target.mover = true ∨ move.target = .trialing :=
      fun move member => mild move (perm.mem_iff.mp member)
    refine run_trial leaverMoves start.periodEnd trial mild_order
      ⟨leaver, perm.mem_iff.mpr leaverMember, leaverMoves⟩ (fun move member moves =>
        (agree.agree move (perm.mem_iff.mp member) leaver leaverMember moves leaverMoves).1) ?_
    by_cases told : ∃ move ∈ order, move.target.mover = true ∧ move.periodEnd ≠ none
    · exact .inl told
    · refine .inr ⟨rfl, fun staying member stays => ?_⟩
      refine agree.silent (fun move here moves => ?_) staying (perm.mem_iff.mp member) stays
      by_contra tells
      exact told ⟨move, perm.mem_iff.mpr here, moves, tells⟩
  constructor
  · intro free
    refine ⟨fun first left second right firstMoves secondMoves => ?_,
      fun untold staying here stays => ?_⟩
    -- The mover that comes last sets the status, and the period end if it tells one.
    · have last (before : List Move) (move : Move) (mover : move.target.mover = true)
          (perm : (before ++ [move]).Perm moves) :
          ∃ periodEnd, Runs.run Standing.move start (before ++ [move]) =
            ⟨move.target, move.periodEnd.getD periodEnd⟩ := by
        have occupying : (Runs.run Standing.move start before).status.occupying = true :=
          Runs.run_invariant_mem Standing.move (fun standing => standing.status.occupying = true)
            (fun standing other member inside =>
              occupying_of_mild inside (mild other (perm.mem_iff.mp (by simp [member]))))
            (by rw [trial]; rfl)
        rw [Runs.run_append, Runs.run_cons, Runs.run_nil,
          move_of_accepts (accepts_mover occupying mover)]
        exact ⟨_, rfl⟩
      obtain ⟨before, firstLast⟩ := Orders.exists_perm_append_singleton left
      obtain ⟨earlier, secondLast⟩ := Orders.exists_perm_append_singleton right
      obtain ⟨_, one⟩ := last before first firstMoves firstLast
      obtain ⟨_, other⟩ := last earlier second secondMoves secondLast
      have same := free _ _ firstLast secondLast
      rw [one, other] at same
      refine ⟨congrArg Standing.status same, fun told told_eq retold retold_eq => ?_⟩
      have periodEnd := congrArg Standing.periodEnd same
      rw [Option.mem_def] at told_eq retold_eq
      simpa [told_eq, retold_eq] using periodEnd
    -- Movers that tell nothing: a staying move in front leaves its period end.
    · have distinct : staying ≠ leaver := by
        rintro rfl
        rw [stays] at leaverMoves
        cases leaverMoves
      obtain ⟨rest, stayingFirst⟩ := Orders.exists_perm_cons_cons here leaverMember distinct
      obtain ⟨others, leaverFirst⟩ := Orders.exists_perm_cons leaverMember
      have same := congrArg Standing.periodEnd (free _ _ stayingFirst leaverFirst)
      have left : (⟨staying.target, staying.periodEnd.getD start.periodEnd⟩ :
          Standing).status.occupying = true := by
        rw [stays]
        rfl
      have silent := untold leaver leaverMember leaverMoves
      rw [Runs.run_cons, Runs.run_cons, Runs.run_cons, from_trial staying here,
        from_trial leaver leaverMember, move_of_accepts (accepts_mover left leaverMoves), silent,
        run_quiet leaverMoves (fun move member => mild move (stayingFirst.mem_iff.mp (by simp [member])))
          (fun move member => untold move (stayingFirst.mem_iff.mp (by simp [member]))),
        run_quiet leaverMoves (fun move member => mild move (leaverFirst.mem_iff.mp (by simp [member])))
          (fun move member => untold move (leaverFirst.mem_iff.mp (by simp [member])))] at same
      exact same
  · intro agree first second left right
    rw [as_moved first left agree, as_moved second right agree]
    have region := mover_region ⟨leaver.target, start.periodEnd⟩ leaverMoves mild
    refine (orderFree_iff_passingsAgree region (by simp) fun move member status inside => ?_).mpr
      (fun one here other there oneLegal otherLegal => ?_) first second left right
    · rw [canTransition_of_mover inside (unended_of_mild (mild move member))]
      exact (canTransition_of_mover leaverMoves (unended_of_mild (mild move member))).symm
    · exact agree.agree one here other there
        ((canTransition_of_mover leaverMoves (unended_of_mild (mild one here))).symm.trans oneLegal)
        ((canTransition_of_mover leaverMoves (unended_of_mild (mild other there))).symm.trans otherLegal)

end Trials

section Statuses

variable {start : Standing} {moves : List Move} {ends : List Status} {region : Status → Prop}

theorem orderFree_iff_agree (within : Region region start ends moves)
    (uniform : ∀ move ∈ moves, move.target ∉ ends → ∀ status, region status →
      canTransition status move.target = canTransition start.status move.target) :
    Runs.OrderFree Standing.move start moves ↔ Agree start ends moves := by
  by_cases ended : ∃ move ∈ moves, move.target ∈ ends
  · rw [orderFree_iff_endingsAgree within ended]
    refine ⟨fun agree => ⟨fun _ => agree, fun unended => ?_⟩, fun agree => agree.ended ended⟩
    obtain ⟨move, member, ends⟩ := ended
    exact absurd ends (unended move member)
  · have unended : ∀ move ∈ moves, move.target ∉ ends := fun move member ends =>
      ended ⟨move, member, ends⟩
    rw [orderFree_iff_passingsAgree within unended fun move member =>
      uniform move member (unended move member)]
    exact ⟨fun agree => ⟨fun some => absurd some ended, fun _ => agree⟩,
      fun agree => agree.unended unended⟩

theorem orderFree_of_vacant (vacant : start.status.occupying = false) :
    Runs.OrderFree Standing.move start moves := by
  intro first second _ _
  rw [Runs.run_absorbed _ (move_of_vacant vacant), Runs.run_absorbed _ (move_of_vacant vacant)]

theorem orderFree_paying (paying : start.status.mover = true) :
    Runs.OrderFree Standing.move start moves ↔ Agree start [.canceled, .unpaid] moves := by
  have unended {move : Move} (passing : move.target ∉ [Status.canceled, .unpaid]) :
      move.target ≠ .canceled ∧ move.target ≠ .unpaid := by simpa using passing
  have within : Region (fun status => status.mover = true) start [.canceled, .unpaid] moves := by
    refine ⟨paying, fun status => occupying_of_mover, fun move _ ending => ?_,
      fun move _ passing status inside legal => ?_⟩
    · simp only [List.mem_cons, List.not_mem_nil, or_false] at ending
      refine ⟨by rcases ending with eq | eq <;> rw [eq] <;> rfl, fun status inside => ?_⟩
      rcases ending with eq | eq <;> rw [eq] <;> cases status <;> cases inside <;> rfl
    · rw [canTransition_of_mover inside (unended passing)] at legal
      exact ⟨legal, (canTransition_of_mover paying (unended passing)).trans legal⟩
  exact orderFree_iff_agree within fun move _ passing status inside =>
    (canTransition_of_mover inside (unended passing)).trans
      (canTransition_of_mover paying (unended passing)).symm

theorem trialing_of_lasting {target : Status} (passing : target ∉ [Status.canceled, .incomplete])
    (stays : target.mover = false) (legal : canTransition .trialing target = true) :
    target = .trialing := by
  cases target <;> simp_all [Status.mover, canTransition, allowedTransitions]

theorem orderFree_lasting (trial : start.status = .trialing)
    (lasting : ∀ move ∈ moves, move.target.mover = false) :
    Runs.OrderFree Standing.move start moves ↔ Agree start [.canceled, .incomplete] moves := by
  have within : Region (fun status => status = .trialing) start [.canceled, .incomplete] moves := by
    refine ⟨trial, fun status inside => by rw [inside]; rfl, fun move _ ending => ?_,
      fun move member passing status inside legal => ?_⟩
    · simp only [List.mem_cons, List.not_mem_nil, or_false] at ending
      refine ⟨by rcases ending with eq | eq <;> rw [eq] <;> rfl, fun status inside => ?_⟩
      rw [inside]
      rcases ending with eq | eq <;> rw [eq] <;> rfl
    · have stays : move.target = .trialing :=
        trialing_of_lasting passing (lasting move member) (inside ▸ legal)
      rw [trial, stays]
      exact ⟨rfl, rfl⟩
  exact orderFree_iff_agree within fun move _ _ status inside => by rw [inside, trial]

theorem canTransition_away {status target : Status} (notTrial : status ≠ .trialing)
    (notIncomplete : status ≠ .incomplete) (legal : canTransition status target = true) :
    target ≠ .trialing ∧ target ≠ .incomplete := by
  cases status <;> cases target <;> simp_all [canTransition, allowedTransitions]

/-- An incomplete first ends the trial, a mover first keeps it from it. -/
theorem not_orderFree_of_incomplete {ending leaver : Move} (trial : start.status = .trialing)
    (here : ending ∈ moves) (incomplete : ending.target = .incomplete) (there : leaver ∈ moves)
    (mover : leaver.target.mover = true) : ¬ Runs.OrderFree Standing.move start moves := by
  intro free
  obtain ⟨rest, endingFirst⟩ := Orders.exists_perm_cons here
  obtain ⟨others, leaverFirst⟩ := Orders.exists_perm_cons there
  have same := congrArg Standing.status (free _ _ endingFirst leaverFirst)
  have ends : start.accepts ending = true := by
    rw [Standing.accepts, trial, incomplete]
    rfl
  have leaves : start.accepts leaver = true := accepts_mover (by rw [trial]; rfl) mover
  rw [Runs.run_cons, Runs.run_cons, move_of_accepts ends, move_of_accepts leaves,
    Runs.run_absorbed _ (move_of_vacant (by rw [incomplete]; rfl))] at same
  have left : leaver.target ≠ .trialing ∧ leaver.target ≠ .incomplete := by
    constructor <;> intro eq <;> rw [eq] at mover <;> cases mover
  -- Once left, a trial never gets to be incomplete.
  have never : (Runs.run Standing.move ⟨leaver.target, leaver.periodEnd.getD start.periodEnd⟩
      others).status ≠ .trialing ∧ (Runs.run Standing.move
        ⟨leaver.target, leaver.periodEnd.getD start.periodEnd⟩ others).status ≠ .incomplete :=
    Runs.run_invariant_mem Standing.move
    (fun standing => standing.status ≠ .trialing ∧ standing.status ≠ .incomplete)
    (fun standing move _ away => by
      cases accepts : standing.accepts move with
      | false =>
          rw [move_of_refuses accepts]
          exact away
      | true =>
          rw [move_of_accepts accepts]
          rw [Standing.accepts, Bool.and_eq_true] at accepts
          exact canTransition_away away.1 away.2 accepts.2) left
  exact never.2 (same.symm.trans incomplete)

/-- An unpaid ends the subscription after a mover, and is refused before. -/
theorem not_orderFree_of_unpaid {ending leaver : Move} (trial : start.status = .trialing)
    (here : ending ∈ moves) (unpaid : ending.target = .unpaid) (there : leaver ∈ moves)
    (mover : leaver.target.mover = true) : ¬ Runs.OrderFree Standing.move start moves := by
  intro free
  have distinct : leaver ≠ ending := by
    rintro rfl
    rw [unpaid] at mover
    cases mover
  obtain ⟨rest, leaverFirst⟩ := Orders.exists_perm_cons_cons there here distinct
  -- An order with every unpaid move in front, where none of them is accepted.
  have unpaidFirst := List.filter_append_perm (fun move : Move => move.target = .unpaid) moves
  have same := congrArg Standing.status (free _ _ leaverFirst unpaidFirst)
  have leaves : start.accepts leaver = true := accepts_mover (by rw [trial]; rfl) mover
  have ends : (⟨leaver.target, leaver.periodEnd.getD start.periodEnd⟩ : Standing).accepts ending =
      true := by
    rw [Standing.accepts, occupying_of_mover mover, unpaid]
    obtain ⟨target, told⟩ := leaver
    cases target <;> cases mover <;> rfl
  have refused : Runs.run Standing.move start (moves.filter fun move => move.target = .unpaid) =
      start := by
    refine Runs.run_invariant_mem Standing.move (· = start) (fun standing move member eq => ?_) rfl
    have target : move.target = .unpaid := by simpa using (List.mem_filter.mp member).2
    rw [eq, move_of_refuses]
    rw [Standing.accepts, trial, target]
    rfl
  rw [Runs.run_cons, Runs.run_cons, move_of_accepts leaves, move_of_accepts ends,
    Runs.run_absorbed _ (move_of_vacant (by rw [unpaid]; rfl)), Runs.run_append, refused] at same
  have never := Runs.run_invariant_mem Standing.move (fun standing => standing.status ≠ .unpaid)
    (fun standing move (member : move ∈ moves.filter fun move => !decide (move.target = .unpaid))
      notUnpaid => by
      have target : move.target ≠ .unpaid := by simpa using (List.mem_filter.mp member).2
      rw [Standing.move]
      split
      · exact target
      · exact notUnpaid)
    (show start.status ≠ .unpaid by rw [trial]; simp)
  exact never (same.symm.trans unpaid)

theorem trial_region (trial : start.status = .trialing)
    (possible : ∀ move ∈ moves, move.target ≠ .incomplete ∧ move.target ≠ .unpaid) :
    Region (fun status => status.occupying = true) start [.canceled] moves := by
  refine ⟨by rw [trial]; rfl, fun status inside => inside, fun move _ ending => ?_,
    fun move member passing status inside legal => ?_⟩
  · rw [List.mem_singleton.mp ending]
    exact ⟨rfl, fun status _ => canTransition_canceled status⟩
  · obtain ⟨complete, paid⟩ := possible move member
    rw [List.mem_singleton] at passing
    rw [trial]
    cases target : move.target <;>
      simp_all [Status.occupying, canTransition, allowedTransitions]

theorem orderFree_trial (trial : start.status = .trialing) :
    Runs.OrderFree Standing.move start moves ↔ TrialAgrees start moves := by
  -- No mover, a move the trial cannot take back, an ending, or only passings.
  by_cases leaves : ∃ move ∈ moves, move.target.mover = true
  · obtain ⟨leaver, there, mover⟩ := leaves
    have lasts : ¬ ∀ move ∈ moves, move.target.mover = false := fun lasting => by
      rw [lasting leaver there] at mover
      cases mover
    by_cases possible : ∀ move ∈ moves, move.target ≠ .incomplete ∧ move.target ≠ .unpaid
    · by_cases canceled : ∃ move ∈ moves, move.target = .canceled
      · rw [orderFree_iff_endingsAgree (trial_region trial possible) (by simpa using canceled)]
        exact ⟨fun agree => ⟨fun lasting => absurd lasting lasts, fun _ => ⟨possible, fun _ => agree,
            fun none => absurd canceled (by simpa using none)⟩⟩,
          fun agrees => (agrees.left ⟨leaver, there, mover⟩).2.1 canceled⟩
      · have uncanceled : ∀ move ∈ moves, move.target ≠ .canceled := fun move member eq =>
          canceled ⟨move, member, eq⟩
        have mild : ∀ move ∈ moves, move.target.mover = true ∨ move.target = .trialing := by
          intro move member
          have some := uncanceled move member
          obtain ⟨complete, paid⟩ := possible move member
          cases target : move.target <;> simp_all [Status.mover]
        rw [orderFree_iff_moversAgree trial mild ⟨leaver, there, mover⟩]
        exact ⟨fun agree => ⟨fun lasting => absurd lasting lasts, fun _ => ⟨possible,
            fun some => absurd some canceled, fun _ => agree⟩⟩,
          fun agrees => (agrees.left ⟨leaver, there, mover⟩).2.2 uncanceled⟩
    · refine iff_of_false (fun free => possible fun move member => ⟨fun eq => ?_, fun eq => ?_⟩)
        (fun agrees => possible (agrees.left ⟨leaver, there, mover⟩).1)
      · exact not_orderFree_of_incomplete trial member eq there mover free
      · exact not_orderFree_of_unpaid trial member eq there mover free
  · have lasting : ∀ move ∈ moves, move.target.mover = false := fun move member => by
      simpa using fun mover => leaves ⟨move, member, mover⟩
    rw [orderFree_lasting trial lasting]
    exact ⟨fun agree => ⟨fun _ => agree, fun some => absurd some leaves⟩,
      fun agrees => agrees.lasting lasting⟩

/-- The order of the moves is immaterial exactly when they leave nothing to it. -/
theorem orderFree_iff_determined :
    Runs.OrderFree Standing.move start moves ↔ OrderDetermined start moves := by
  unfold OrderDetermined
  cases status : start.status with
  | active | pastDue => exact orderFree_paying (by rw [status]; rfl)
  | trialing => exact orderFree_trial status
  | incomplete | unpaid | canceled =>
      exact iff_of_true (orderFree_of_vacant (by rw [status]; rfl)) trivial

end Statuses

section Deliveries

variable {providerName : String} {db : Db} {arrivals first : List Arrival}
  {subscription : Subscription}

theorem OwnIds.perm (own : OwnIds providerName db arrivals) (perm : first.Perm arrivals) :
    OwnIds providerName db first :=
  ⟨(perm.map _).nodup_iff.mpr own.distinct,
    fun arrival member => own.unknown arrival (perm.mem_iff.mp member)⟩

/-- A run of status events moves the standing of the subscription along the moves
they ask for. -/
theorem run_status (own : OwnIds providerName db arrivals)
    (found : db.subscriptions.get subscription.id = some subscription)
    (about : ∀ arrival ∈ arrivals, arrival.AsksOf db subscription.organizationId) :
    (Runs.run (receive providerName) db arrivals).subscriptions.get subscription.id =
      some (subscription.stand (Runs.run Standing.move subscription.standing
        (arrivals.filterMap (·.event.move)))) := by
  -- Induction on the arrivals; the row is tracked through its standing.
  induction arrivals generalizing db subscription with
  | nil => exact found
  | cons arrival rest ih =>
      obtain ⟨after, kept⟩ := receive_status (own.unknown arrival (by simp)) found
        (about arrival (by simp))
      have later : ∀ other ∈ rest, other.AsksOf (receive providerName db arrival)
          subscription.organizationId := fun other member => by
        obtain ⟨asked, resolved⟩ := about other (List.mem_cons_of_mem _ member)
        exact ⟨asked, (kept other.event).trans resolved⟩
      have moved : (receive providerName db arrival).subscriptions.get
          (subscription.stand (subscription.standing.hear arrival.event)).id =
            some (subscription.stand (subscription.standing.hear arrival.event)) := after
      have tail : (Runs.run (receive providerName) (receive providerName db arrival)
          rest).subscriptions.get subscription.id = some (subscription.stand
            (Runs.run Standing.move (subscription.standing.hear arrival.event)
              (rest.filterMap (·.event.move)))) := ih own.rest moved later
      rw [Runs.run_cons, tail]
      cases asked : arrival.event.move with
      | none => simp only [List.filterMap_cons, asked, Standing.hear]
      | some move => simp only [List.filterMap_cons, asked, Standing.hear, Runs.run_cons]

/-- Status and period end of a subscription after some arrivals. -/
def standingAfter (providerName : String) (db : Db) (id : Nat) (arrivals : List Arrival) :
    Option Standing :=
  ((Runs.run (receive providerName) db arrivals).subscriptions.get id).map Subscription.standing

/-- Every two orders of a subscription's status events leave it with the same
status and period end exactly when the events leave nothing to their order. -/
theorem delivery_order_immaterial_iff (own : OwnIds providerName db arrivals)
    (found : db.subscriptions.get subscription.id = some subscription)
    (about : ∀ arrival ∈ arrivals, arrival.AsksOf db subscription.organizationId) :
    (∀ first second : List Arrival, first.Perm arrivals → second.Perm arrivals →
      standingAfter providerName db subscription.id first =
        standingAfter providerName db subscription.id second) ↔
      OrderDetermined subscription.standing (arrivals.filterMap (·.event.move)) := by
  have outcome (order : List Arrival) (perm : order.Perm arrivals) :
      standingAfter providerName db subscription.id order = some (Runs.run Standing.move
        subscription.standing (order.filterMap (·.event.move))) := by
    rw [standingAfter, run_status (own.perm perm) found fun arrival member =>
      about arrival (perm.mem_iff.mp member)]
    rfl
  rw [← orderFree_iff_determined]
  constructor
  · intro immaterial one other left right
    obtain ⟨first, firstPerm, rfl⟩ := Orders.exists_perm_filterMap left
    obtain ⟨second, secondPerm, rfl⟩ := Orders.exists_perm_filterMap right
    have same := immaterial first second firstPerm secondPerm
    rwa [outcome first firstPerm, outcome second secondPerm, Option.some.injEq] at same
  · intro free first second left right
    rw [outcome first left, outcome second right,
      free _ _ (left.filterMap _) (right.filterMap _)]

end Deliveries

/-! A payment that failed on the first day and succeeded on the second. -/

def failedFirst : Arrival :=
  { pastDueArrival with event := { pastDueArrival.event with occurredAt := day } }

def paidSecond : Arrival :=
  { activatedArrival with event := { activatedArrival.event with occurredAt := 2 * day } }

theorem delivery_order_immaterial_iff_failed_twice :
    (∀ first second : List Arrival,
      first.Perm [failedFirst, { failedFirst with providerEventId := "evt_3" }] →
      second.Perm [failedFirst, { failedFirst with providerEventId := "evt_3" }] →
        standingAfter "stripe" (sampleDb (sampleSubscription 0)) (sampleSubscription 0).id first =
          standingAfter "stripe" (sampleDb (sampleSubscription 0)) (sampleSubscription 0).id second) ↔
      OrderDetermined (sampleSubscription 0).standing [⟨.pastDue, none⟩, ⟨.pastDue, none⟩] :=
  delivery_order_immaterial_iff ⟨by decide, by decide⟩ (by decide)
    (by simp only [List.forall_mem_cons]; exact ⟨⟨by decide, by decide⟩, ⟨by decide, by decide⟩, by simp⟩)

/-- In the order it happened the subscription ends active; the other way round the
older event overwrites the newer one. -/
theorem older_failure_overwrites_payment :
    standingAfter "stripe" (sampleDb (sampleSubscription 0)) 0 [failedFirst, paidSecond] =
        some ⟨.active, 30 * day⟩ ∧
      standingAfter "stripe" (sampleDb (sampleSubscription 0)) 0 [paidSecond, failedFirst] =
        some ⟨.pastDue, 30 * day⟩ ∧
      ¬ ∀ first second : List Arrival, first.Perm [failedFirst, paidSecond] →
        second.Perm [failedFirst, paidSecond] →
          standingAfter "stripe" (sampleDb (sampleSubscription 0)) 0 first =
            standingAfter "stripe" (sampleDb (sampleSubscription 0)) 0 second := by
  have inOrder : standingAfter "stripe" (sampleDb (sampleSubscription 0)) 0
      [failedFirst, paidSecond] = some ⟨.active, 30 * day⟩ := by decide
  have reversed : standingAfter "stripe" (sampleDb (sampleSubscription 0)) 0
      [paidSecond, failedFirst] = some ⟨.pastDue, 30 * day⟩ := by decide
  refine ⟨inOrder, reversed, fun immaterial => ?_⟩
  have same := immaterial _ _ (.refl _) (List.Perm.swap failedFirst paidSecond [])
  rw [inOrder, reversed] at same
  exact absurd same (by decide)

end SynapseSaas
