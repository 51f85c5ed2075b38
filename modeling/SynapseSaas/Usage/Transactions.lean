import SynapseSaas.Usage.Safety
import SynapseSaas.Worker.Rollup

/-! The transactions that write usage, and the contract they keep in every
interleaving. -/

set_option autoImplicit false

namespace SynapseSaas

open ReadCommitted UsageService

/-- The recording endpoint, the two consuming ones, and the hourly rollup. -/
inductive UsageRequest where
  | record (organization : Nat) (calls : List UsageCall)
  | consume (organization : Nat) (call : UsageCall)
  | consumeMany (organization : Nat) (calls : List UsageCall)
  | rollup (now : Int)

inductive UsageAnswer where
  | results (results : List UsageResult)
  | rolledUp (count : Nat)
  deriving DecidableEq, Repr

def UsageRequest.script : UsageRequest → UsageScript UsageAnswer
  | .record organization calls => do
      let results ← recordEvents organization calls
      return .results results
  | .consume organization call => do
      let result ← UsageService.consume organization call
      return .results [result]
  | .consumeMany organization calls => do
      let results ← UsageService.consumeMany organization calls
      return .results results
  | .rollup now => do
      let count ← rollupUsage now
      return .rolledUp count

/-- The calls of a request, in the order of its results. -/
def UsageRequest.calls : UsageRequest → List (Nat × UsageCall)
  | .record organization calls | .consumeMany organization calls =>
      calls.map fun call => (organization, call)
  | .consume organization call => [(organization, call)]
  | .rollup _ => []

def UsageAnswer.each : UsageAnswer → List UsageResult
  | .results answered => answered
  | .rolledUp _ => []

abbrev UsageSystem := System UsageKey.Row UsageEntry Failure UsageRequest UsageAnswer

/-- One scheduling decision among usage transactions. -/
def usageStep : UsageSystem → Action UsageRequest → UsageSystem := step UsageRequest.script

namespace Terms

variable (terms : Terms)

/-- The counters of this month and later were right at the start. -/
def RightFrom (month : Int) : Prop :=
  ∀ counter : CounterKey, month ≤ counter.periodStart →
    terms.openingTotal counter = used counter terms.opening.log

/-- Recording spends no capped metric; rollups, where there are any, rebuild only
counters that were right at the start. -/
def Admits : UsageRequest → Prop
  | .record organization calls => ∀ call ∈ calls, ∀ period,
      terms.cap ⟨organization, call.metric, period⟩ = none
  | .consume organization call => terms.Binding organization call
  | .consumeMany organization calls => ∀ call ∈ calls, terms.Binding organization call
  | .rollup now => terms.rollups now ∧ terms.RightFrom (monthBucket now)

end Terms

/-- A rollup ends as it went: its draft holds the sums of the log it read. -/
def UsageRequest.finished : UsageRequest → UsageStore → UsageDraft → Prop
  | .rollup now, store, draft => ∃ read, RollingUp now read store draft
  | _, _, _ => True

def UsageRequest.mayCommit : UsageRequest → UsageStore → UsageDraft → Prop
  | .rollup _, store, draft => Fresh store draft
  | _, _, _ => True

/-- The contract of usage transactions under the given terms. -/
def Terms.contract (terms : Terms) :
    Contract UsageKey.Row UsageEntry UsageRequest UsageAnswer where
  toRely := terms.rely
  admissible := terms.Admits
  finished request _ := request.finished
  mayCommit request _ := request.mayCommit
  told request answer store := List.Forall₂
    (fun call result => terms.Answers call.1 call.2 result store) request.calls answer.each
  told_grows grows told := told.imp fun {_ _} answers => answers.grows grows

namespace Terms

variable {terms : Terms} {store : UsageStore} {draft : UsageDraft}

/-! A rollup, from its query to its end. -/

theorem stable_rollingUp {now : Int} {read : List UsageEntry} :
    terms.rely.Stable (RollingUp now read) := by
  intro before after draft valid later rolling
  obtain ⟨rest, grown⟩ := later.grows.log
  constructor
  · exact rolling.entries
  · rw [← grown, List.length_append]
    exact rolling.since_le.trans (Nat.le_add_right ..)
  · rw [← grown, List.take_append_of_le_length rolling.since_le]
    exact rolling.read_eq
  · exact rolling.keys
  · exact rolling.totals

/-- A counter that was right at the start is right as long as every commit is. -/
theorem Valid.right (valid : terms.Valid store) {counter : CounterKey}
    (right : terms.openingTotal counter = used counter terms.opening.log) :
    counterTotal store.rows counter = used counter store.log := by
  obtain ⟨rest, grown⟩ := valid.grown
  rw [valid.counted counter, right, since, ← grown, List.drop_left, used_append]

/-- A fresh rollup writes the totals that are already there. -/
theorem Valid.rolledUp (valid : terms.Valid store) {now : Int} {read : List UsageEntry}
    (right : terms.RightFrom (monthBucket now)) (rolling : RollingUp now read store draft)
    (fresh : Fresh store draft) (counter : CounterKey) :
    counterTotal (store.under draft).rows counter = counterTotal store.rows counter := by
  cases written : draft.rows (.counter counter) with
  | none => exact counterTotal_congr (Store.under_rows_of_none written)
  | some row =>
      obtain ⟨total, current⟩ := rolling.totals counter row written
      rw [counterTotal_of_some (Store.under_rows_of_some written), total,
        valid.right (right counter current), rolling.used_eq counter, fresh counter row written,
        Int.add_zero]

theorem Valid.rollup_commits (valid : terms.Valid store) {now : Int} {read : List UsageEntry}
    (right : terms.RightFrom (monthBucket now)) (rolling : RollingUp now read store draft)
    (fresh : Fresh store draft) :
    terms.Valid (store.under draft) ∧ terms.Grows store (store.under draft) := by
  have totals := valid.rolledUp right rolling fresh
  refine ⟨⟨?_, ?_, ?_, ?_⟩, ⟨?_, ?_⟩⟩
  · rw [rolling.log_eq]
    exact valid.grown
  · intro counter
    rw [totals, since, rolling.log_eq]
    exact valid.counted counter
  · intro counter limit cap
    rw [totals]
    exact valid.capped counter limit cap
  · intro key followed
    rw [rolling.key_eq, rolling.log_eq]
    exact valid.settled key followed
  · simp only [rolling.log_eq, List.prefix_rfl]
  · intro key row followed here
    rw [rolling.key_eq]
    exact here

theorem safe_rebuildCounter {now : Int} {read : List UsageEntry} {row : RolledUp}
    (total : row.quantityTotal = used row.counter read)
    (current : monthBucket now ≤ row.counter.periodStart) (valid : terms.Valid store)
    (rolling : RollingUp now read store draft) :
    Safe terms.rely (fun _ => RollingUp now read) (rebuildCounter row) store draft := by
  apply safe_writeCounter (fun _ => stable_rollingUp)
  · intro later passed _
    exact stable_rollingUp _ _ _ valid passed rolling
  · intro later written passed changed
    apply (stable_rollingUp _ _ _ valid passed rolling).put ?_ current
    split at changed
    · cases changed
      exact total
    · cases changed
      exact total

theorem safe_rollupUsage {now : Int} (valid : terms.Valid store) :
    Safe terms.rely (fun _ store draft => ∃ read, RollingUp now read store draft)
      (rollupUsage now) store Draft.empty := by
  have stable : terms.rely.Stable fun store draft => ∃ read, RollingUp now read store draft := by
    rintro before after draft valid later ⟨read, rolling⟩
    exact ⟨read, stable_rollingUp _ _ _ valid later rolling⟩
  have selected : Safe terms.rely (fun rows store draft =>
        ∃ read, rows = rollUp now read ∧ RollingUp now read store draft)
      (Script.select fun store : UsageStore => rollUp now store.log : UsageScript _)
      store Draft.empty := by
    apply Safe.select
    · rintro rows before after draft valid later ⟨read, found, rolling⟩
      exact ⟨read, found, stable_rollingUp _ _ _ valid later rolling⟩
    · intro later passed
      refine ⟨later.log, by simp, ?_⟩
      exact ⟨rfl, le_rfl, by simp, fun _ => rfl, fun _ _ impossible => by cases impossible⟩
  apply Safe.bind valid selected
  rintro rows store draft valid ⟨read, found, rolling⟩
  have written : Safe terms.rely (fun _ => RollingUp now read)
      (Script.each rebuildCounter rows) store draft := by
    -- The batch is kept as a whole; nothing is said of single rows.
    have nothing (_ : RolledUp) (_ : Option CounterRow) : terms.rely.Stable fun _ _ => True :=
      fun _ _ _ _ _ _ => trivial
    have each : Safe terms.rely _ (Script.each rebuildCounter rows) store draft :=
      Safe.each stable_rollingUp nothing rows (fun row member store draft valid rolling => ?_)
        valid rolling
    · exact each.weaken fun results store draft valid done => done.1
    · obtain ⟨current, total⟩ := mem_rollUp (found ▸ member)
      have here := safe_rebuildCounter total current valid rolling
      exact here.weaken fun _ _ _ _ rolling => ⟨rolling, trivial, fun _ _ _ => trivial⟩
  apply Safe.bind valid written
  intro _ store draft valid rolling
  exact Safe.pure stable valid ⟨read, rolling⟩

/-- Every admitted request, run beside any others, may commit where it ends. -/
theorem serves (request : UsageRequest) (admitted : terms.Admits request) (store : UsageStore)
    (valid : terms.Valid store) :
    Safe terms.rely (terms.contract.Commits request) request.script store Draft.empty := by
  have balanced : terms.Balanced store Draft.empty := Books.empty valid
  -- Both batches end the same way: a balanced draft is one that may be committed.
  have finish {script : UsageScript (List UsageResult)} {organization : Nat}
      {calls : List UsageCall}
      (safe : Safe terms.rely (fun results store draft => terms.Balanced store draft ∧
        List.Forall₂ (fun call result =>
          terms.Answers organization call result (store.under draft)) calls results)
        script store Draft.empty)
      (listed : request.calls = calls.map fun call => (organization, call))
      (finishes : ∀ store draft, request.finished store draft) :
      Safe terms.rely (terms.contract.Commits request)
        (do let results ← script; return .results results) store Draft.empty := by
    apply Safe.bind valid safe
    rintro results store draft valid ⟨balanced, answers⟩ later passed
    have balanced := balanced.stable _ _ _ valid passed
    obtain ⟨kept, grows⟩ := balanced.commits passed.valid
    refine ⟨finishes later draft, fun _ => ⟨kept, grows, ?_⟩⟩
    change List.Forall₂ _ request.calls results
    rw [listed, List.forall₂_map_left_iff]
    exact answers.imp fun {_ _} answers => Answers.stable _ _ _ _ valid passed answers
  cases request with
  | record organization calls =>
      refine finish (safe_batch (fun call member base store draft valid books => ?_) valid balanced) rfl
        (fun _ _ => trivial)
      exact safe_record (admitted call member) valid books
  | consumeMany organization calls =>
      refine finish (safe_batch (fun call member base store draft valid books => ?_) valid balanced) rfl
        (fun _ _ => trivial)
      exact safe_consume (admitted call member) valid books
  | consume organization call =>
      apply Safe.bind valid (safe_consume admitted valid balanced)
      rintro result store draft valid concluded later passed
      have concluded := concluded.stable _ _ _ valid passed
      obtain ⟨kept, grows⟩ := concluded.1.commits passed.valid
      exact ⟨trivial, fun _ => ⟨kept, grows, .cons concluded.2 .nil⟩⟩
  | rollup now =>
      apply Safe.bind valid (safe_rollupUsage valid)
      rintro count store draft valid ⟨read, rolling⟩ later passed
      have rolling := stable_rollingUp _ _ _ valid passed rolling
      refine ⟨⟨read, rolling⟩, fun fresh => ?_⟩
      -- A rollup is balanced only if nothing was logged since it read the events.
      obtain ⟨kept, grows⟩ := passed.valid.rollup_commits admitted.2 rolling fresh
      exact ⟨kept, grows, .nil⟩

end Terms

end SynapseSaas
