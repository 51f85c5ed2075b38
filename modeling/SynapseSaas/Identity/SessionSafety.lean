import SynapseSaas.Foundation.Interference
import SynapseSaas.Identity.Sessions

/-! What every request on sessions has done when it is ready to commit, and what
is true of the committed tokens in every interleaving. -/

set_option autoImplicit false

namespace SynapseSaas.Identity

open ReadCommitted IdentityService

def IdentityEntry.issued? : IdentityEntry → Option String
  | .issued hash _ _ => some hash
  | .resetCompleted .. => none

/-- The rows say what the record says: every token on record is stored, a token
another was issued for is revoked and replaced, and a reset token is used that
completed a reset. -/
structure WellFormed (store : IdentityStore) : Prop where
  issuedOnce : (store.log.filterMap IdentityEntry.issued?).Nodup
  stored : ∀ hash userId presented, .issued hash userId presented ∈ store.log →
    ∃ token, store.rows (.refreshToken hash) = some token ∧ token.userId = userId
  logged : ∀ hash token, store.rows (.refreshToken hash) = some token →
    ∃ presented, .issued hash token.userId presented ∈ store.log
  presented : ∀ hash userId old, .issued hash userId (some old) ∈ store.log →
    ∃ token, store.rows (.refreshToken old) = some token ∧ token.userId = userId ∧
      token.revokedAt.isSome ∧ token.replacedBy.isSome
  replaced : ∀ old token, store.rows (.refreshToken old) = some token → token.replacedBy.isSome →
    ∃ hash userId, .issued hash userId (some old) ∈ store.log
  consumed : ∀ userId hash, .resetCompleted userId hash ∈ store.log →
    ∃ row, store.rows (.resetToken hash) = some row ∧ row.usedAt.isSome
  used : ∀ hash row, store.rows (.resetToken hash) = some row → row.usedAt.isSome →
    ∃ userId, .resetCompleted userId hash ∈ store.log

/-- The record is only added to, and a token keeps its user and stays revoked. -/
structure Grows (before after : IdentityStore) : Prop where
  log : ∃ more, after.log = before.log ++ more
  tokens : ∀ hash token, before.rows (.refreshToken hash) = some token →
    ∃ later, after.rows (.refreshToken hash) = some later ∧ later.userId = token.userId ∧
      (token.revokedAt.isSome → later.revokedAt.isSome)

theorem Grows.refl (store : IdentityStore) : Grows store store :=
  ⟨⟨[], (List.append_nil _).symm⟩, fun _ token found => ⟨token, found, rfl, id⟩⟩

theorem Grows.trans {first second third : IdentityStore} (early : Grows first second)
    (late : Grows second third) : Grows first third where
  log := by
    obtain ⟨more, same⟩ := early.log
    obtain ⟨others, next⟩ := late.log
    exact ⟨more ++ others, by rw [next, same, List.append_assoc]⟩
  tokens hash token found := by
    obtain ⟨later, there, user, revoked⟩ := early.tokens hash token found
    obtain ⟨last, here, same, still⟩ := late.tokens hash later there
    exact ⟨last, here, same.trans user, fun was => still (revoked was)⟩

def sessionRely : Rely IdentityKey.Row IdentityEntry where
  valid := WellFormed
  grows := Grows
  refl := Grows.refl
  trans := Grows.trans

/-! What an answer stands for. -/

namespace SessionAnswer

/-- The token a request has issued, and its user. -/
def token? : SessionAnswer → Option (String × Nat)
  | .issued hash userId | .rotated _ hash userId | .reset userId _ hash => some (hash, userId)
  | .reuseDetected | .loggedOut | .resetRequested => none

/-- The token a rotation was asked for with. -/
def presented? : SessionAnswer → Option String
  | .rotated presented _ _ => some presented
  | _ => none

/-- The reset a request has completed. -/
def reset? : SessionAnswer → Option (Nat × String)
  | .reset userId token _ => some (userId, token)
  | _ => none

def entries (answer : SessionAnswer) : List IdentityEntry :=
  (answer.reset?.map fun reset => .resetCompleted reset.1 reset.2).toList ++
    (answer.token?.map fun token => .issued token.1 token.2 answer.presented?).toList

end SessionAnswer

/-- A token that a transaction overwrites is revoked and keeps its user. -/
structure Overwrites (old token : RefreshToken) : Prop where
  user : token.userId = old.userId
  revoked : token.revokedAt.isSome

/-- What the rows of a draft are: tokens overwritten, the token issued, and the
reset token used up. -/
structure Written (issues : Option (String × Nat)) (replaces : Option String)
    (completes : Option (Nat × String)) (store : IdentityStore) (draft : IdentityDraft) : Prop where
  tokens : ∀ hash token, draft.rows (.refreshToken hash) = some token →
    (∃ old, store.rows (.refreshToken hash) = some old ∧ Overwrites old token ∧
      (token.replacedBy = old.replacedBy ∨ replaces = some hash)) ∨
    (∃ userId, issues = some (hash, userId)) ∧ token.replacedBy = none
  issued : ∀ hash userId, issues = some (hash, userId) →
    store.rows (.refreshToken hash) = none ∧ ∃ token : RefreshToken,
      draft.rows (.refreshToken hash) = some token ∧ token.userId = userId ∧ token.revokedAt = none
  resets : ∀ hash row, draft.rows (.resetToken hash) = some row →
    (∃ userId, completes = some (userId, hash)) ∨
      store.rows (.resetToken hash) = none ∧ row.usedAt = none
  completed : ∀ userId hash, completes = some (userId, hash) →
    ∃ row : PasswordResetToken, draft.rows (.resetToken hash) = some row ∧ row.usedAt.isSome

/-- The draft of a request that is ready to commit. -/
structure Drafted (answer : SessionAnswer) (store : IdentityStore) (draft : IdentityDraft) : Prop
    extends Written answer.token? answer.presented? answer.reset? store draft where
  entries : draft.entries = answer.entries
  presented : ∀ old hash userId, answer.presented? = some old → answer.token? = some (hash, userId) →
    ∃ was token : RefreshToken, store.rows (.refreshToken old) = some was ∧
      draft.rows (.refreshToken old) = some token ∧ token.userId = userId ∧
      token.revokedAt.isSome ∧ token.replacedBy.isSome

theorem SessionAnswer.token_of_presented {answer : SessionAnswer} {old : String}
    (presented : answer.presented? = some old) : ∃ hash userId, answer.token? = some (hash, userId) := by
  cases answer with
  | rotated _ hash userId => exact ⟨hash, userId, rfl⟩
  | issued hash userId => cases presented
  | reset userId token hash => cases presented
  | reuseDetected => cases presented
  | loggedOut => cases presented
  | resetRequested => cases presented

theorem SessionAnswer.issued_mem_entries {answer : SessionAnswer} {hash : String} {userId : Nat}
    {presented : Option String} :
    .issued hash userId presented ∈ answer.entries ↔
      answer.token? = some (hash, userId) ∧ presented = answer.presented? := by
  unfold entries
  cases answer <;> simp [token?, presented?, reset?, and_assoc, eq_comm]

theorem SessionAnswer.issued_entries (answer : SessionAnswer) :
    answer.entries.filterMap IdentityEntry.issued? = (answer.token?.map (·.1)).toList := by
  cases answer <;> rfl

theorem SessionAnswer.reset_mem_entries {answer : SessionAnswer} {hash : String} {userId : Nat} :
    .resetCompleted userId hash ∈ answer.entries ↔ answer.reset? = some (userId, hash) := by
  unfold entries
  cases answer <;> simp [token?, reset?, eq_comm]

section Commit

variable {answer : SessionAnswer} {store : IdentityStore} {draft : IdentityDraft}

/-- A stored token after the commit. -/
theorem Drafted.kept (drafted : Drafted answer store draft) {hash : String} {token : RefreshToken}
    (found : store.rows (.refreshToken hash) = some token) :
    ∃ later, (store.under draft).rows (.refreshToken hash) = some later ∧
      later.userId = token.userId ∧ (token.revokedAt.isSome → later.revokedAt.isSome) ∧
      (token.replacedBy.isSome → later.replacedBy.isSome) := by
  cases written : draft.rows (.refreshToken hash) with
  | none => exact ⟨token, (Store.under_rows_of_none written).trans found, rfl, id, id⟩
  | some later =>
      refine ⟨later, Store.under_rows_of_some written, ?_⟩
      rcases drafted.tokens hash later written with ⟨old, here, overwrites, replaced⟩ | ⟨⟨userId, new⟩, -⟩
      · cases here.symm.trans found
        refine ⟨overwrites.user, fun _ => overwrites.revoked, fun was => ?_⟩
        rcases replaced with same | presented
        · rwa [same]
        · obtain ⟨successor, userId, issued⟩ := SessionAnswer.token_of_presented presented
          obtain ⟨-, token, -, there, -, -, linked⟩ := drafted.presented hash successor userId presented issued
          cases there.symm.trans written
          exact linked
      · rw [(drafted.issued hash userId new).1] at found
        cases found

/-- Where a token of the committed database comes from. -/
theorem Drafted.source (drafted : Drafted answer store draft) {hash : String} {token : RefreshToken}
    (found : (store.under draft).rows (.refreshToken hash) = some token) :
    (∃ old, store.rows (.refreshToken hash) = some old ∧ token.userId = old.userId ∧
      (token = old ∨ token.revokedAt.isSome) ∧
      (token.replacedBy = old.replacedBy ∨ answer.presented? = some hash)) ∨
    answer.token? = some (hash, token.userId) ∧ token.replacedBy = none := by
  rcases Store.under_rows_eq_some found with written | ⟨-, here⟩
  · rcases drafted.tokens hash token written with ⟨old, here, overwrites, replaced⟩ | ⟨⟨userId, new⟩, unlinked⟩
    · exact .inl ⟨old, here, overwrites.user, .inr overwrites.revoked, replaced⟩
    · obtain ⟨-, stored, there, user, -⟩ := drafted.issued hash userId new
      cases there.symm.trans written
      rw [user]
      exact .inr ⟨new, unlinked⟩
  · exact .inl ⟨token, here, rfl, .inl rfl, .inl rfl⟩

theorem Drafted.grows (drafted : Drafted answer store draft) : Grows store (store.under draft) where
  log := ⟨draft.entries, rfl⟩
  tokens hash token found := by
    obtain ⟨later, there, user, revoked, -⟩ := drafted.kept found
    exact ⟨later, there, user, revoked⟩

theorem Drafted.mem_log (drafted : Drafted answer store draft) {entry : IdentityEntry} :
    entry ∈ (store.under draft).log ↔ entry ∈ store.log ∨ entry ∈ answer.entries := by
  rw [Store.under_log, List.mem_append, drafted.entries]

/-- What is issued is new. -/
theorem Drafted.fresh (drafted : Drafted answer store draft) (well : WellFormed store)
    {hash : String} {userId : Nat} (new : answer.token? = some (hash, userId)) :
    hash ∉ store.log.filterMap IdentityEntry.issued? := by
  intro logged
  obtain ⟨entry, there, same⟩ := List.mem_filterMap.mp logged
  cases entry with
  | resetCompleted user token => cases same
  | issued other user presented =>
      cases same
      obtain ⟨token, found, -⟩ := well.stored _ user presented there
      rw [(drafted.issued _ userId new).1] at found
      cases found

theorem WellFormed.commit (well : WellFormed store) (drafted : Drafted answer store draft) :
    WellFormed (store.under draft) where
  issuedOnce := by
    rw [Store.under_log, drafted.entries, List.filterMap_append]
    refine List.nodup_append.mpr ⟨well.issuedOnce, ?_, ?_⟩
    · rw [SessionAnswer.issued_entries]
      cases answer.token? <;> simp
    · rintro hash old other new rfl
      obtain ⟨entry, member, same⟩ := List.mem_filterMap.mp new
      cases entry with
      | resetCompleted user token => cases same
      | issued other user presented =>
          cases same
          obtain ⟨issued, -⟩ := SessionAnswer.issued_mem_entries.mp member
          exact drafted.fresh well issued old
  stored hash userId presented member := by
    rcases drafted.mem_log.mp member with old | new
    · obtain ⟨token, found, user⟩ := well.stored hash userId presented old
      obtain ⟨later, there, same, -⟩ := drafted.kept found
      exact ⟨later, there, same.trans user⟩
    · obtain ⟨issued, -⟩ := SessionAnswer.issued_mem_entries.mp new
      obtain ⟨-, token, written, user, -⟩ := drafted.issued hash userId issued
      exact ⟨token, Store.under_rows_of_some written, user⟩
  logged hash token found := by
    rcases drafted.source found with ⟨old, here, user, -, -⟩ | ⟨new, -⟩
    · obtain ⟨presented, there⟩ := well.logged hash old here
      rw [user]
      exact ⟨presented, drafted.mem_log.mpr (.inl there)⟩
    · exact ⟨answer.presented?, drafted.mem_log.mpr
        (.inr (SessionAnswer.issued_mem_entries.mpr ⟨new, rfl⟩))⟩
  presented hash userId old member := by
    rcases drafted.mem_log.mp member with past | new
    · obtain ⟨token, found, user, revoked, replaced⟩ := well.presented hash userId old past
      obtain ⟨later, there, same, still, linked⟩ := drafted.kept found
      exact ⟨later, there, same.trans user, still revoked, linked replaced⟩
    · obtain ⟨issued, same⟩ := SessionAnswer.issued_mem_entries.mp new
      obtain ⟨-, token, -, written, user, revoked, replaced⟩ :=
        drafted.presented old hash userId same.symm issued
      exact ⟨token, Store.under_rows_of_some written, user, revoked, replaced⟩
  replaced old token found linked := by
    rcases drafted.source found with ⟨was, here, -, -, same | presented⟩ | ⟨-, unlinked⟩
    · obtain ⟨hash, userId, there⟩ := well.replaced old was here (same ▸ linked)
      exact ⟨hash, userId, drafted.mem_log.mpr (.inl there)⟩
    · obtain ⟨hash, userId, issued⟩ := SessionAnswer.token_of_presented presented
      exact ⟨hash, userId, drafted.mem_log.mpr
        (.inr (SessionAnswer.issued_mem_entries.mpr ⟨issued, presented.symm⟩))⟩
    · rw [unlinked] at linked
      cases linked
  consumed userId hash member := by
    have reset_row (completed : answer.reset? = some (userId, hash) ∨
        ∃ user, answer.reset? = some (user, hash)) :
        ∃ row, (store.under draft).rows (.resetToken hash) = some row ∧ row.usedAt.isSome := by
      obtain ⟨user, completed⟩ : ∃ user, answer.reset? = some (user, hash) :=
        completed.elim (fun here => ⟨userId, here⟩) id
      obtain ⟨row, written, used⟩ := drafted.completed user hash completed
      exact ⟨row, Store.under_rows_of_some written, used⟩
    rcases drafted.mem_log.mp member with past | new
    · obtain ⟨row, found, used⟩ := well.consumed userId hash past
      cases written : draft.rows (.resetToken hash) with
      | none => exact ⟨row, (Store.under_rows_of_none written).trans found, used⟩
      | some later =>
          rcases drafted.resets hash later written with completed | ⟨vacant, -⟩
          · exact reset_row (.inr completed)
          · rw [vacant] at found
            cases found
    · exact reset_row (.inl (SessionAnswer.reset_mem_entries.mp new))
  used hash row found used := by
    rcases Store.under_rows_eq_some found with written | ⟨-, here⟩
    · rcases drafted.resets hash row written with ⟨userId, completed⟩ | ⟨-, unused⟩
      · exact ⟨userId, drafted.mem_log.mpr (.inr (SessionAnswer.reset_mem_entries.mpr completed))⟩
      · rw [unused] at used
        cases used
    · obtain ⟨userId, there⟩ := well.used hash row here used
      exact ⟨userId, drafted.mem_log.mpr (.inl there)⟩

end Commit

/-! The statements, each from what the draft was to what it becomes. -/

section Statements

variable {store : IdentityStore} {draft : IdentityDraft} {issues : Option (String × Nat)}
  {replaces : Option String} {completes : Option (Nat × String)}

theorem Written.stable : sessionRely.Stable (Written issues replaces completes) := by
  intro before after draft _ later written
  refine ⟨?_, ?_, ?_, ?_⟩
  · intro hash token mine
    rw [later.held _ _ mine]
    exact written.tokens hash token mine
  · intro hash userId issued
    obtain ⟨vacant, token, mine, rest⟩ := written.issued hash userId issued
    exact ⟨(later.held _ _ mine).trans vacant, token, mine, rest⟩
  · intro hash row mine
    rw [later.held _ _ mine]
    exact written.resets hash row mine
  · intro userId hash reset
    exact written.completed userId hash reset

theorem Drafted.stable (answer : SessionAnswer) : sessionRely.Stable (Drafted answer) := by
  intro before after draft valid later drafted
  refine ⟨Written.stable _ _ _ valid later drafted.toWritten, drafted.entries, ?_⟩
  intro old hash userId presented issued
  obtain ⟨was, token, here, mine, rest⟩ := drafted.presented old hash userId presented issued
  exact ⟨was, token, (later.held _ _ mine).trans here, mine, rest⟩

theorem Written.blank (blank : ∀ key, draft.rows key = none) : Written none none none store draft where
  tokens hash token mine := by
    rw [blank] at mine
    cases mine
  issued hash userId issued := by cases issued
  resets hash row mine := by
    rw [blank] at mine
    cases mine
  completed userId hash reset := by cases reset

/-- A user's row is not what the record is about. -/
theorem Written.account (written : Written issues replaces completes store draft) (userId : Nat)
    (account : Account) :
    Written issues replaces completes store (draft.put (.user userId) account) where
  tokens hash token mine := by
    rw [put_user_token] at mine
    exact written.tokens hash token mine
  issued hash owner issued := by
    rw [put_user_token]
    exact written.issued hash owner issued
  resets hash row mine := by
    rw [put_user_reset] at mine
    exact written.resets hash row mine
  completed owner hash reset := by
    rw [put_user_reset]
    exact written.completed owner hash reset

/-- A stored token is overwritten. -/
theorem Written.overwrite (written : Written issues replaces completes store draft) {hash : String}
    {old token : RefreshToken} (apart : ∀ userId, issues ≠ some (hash, userId))
    (found : (store.under draft).rows (.refreshToken hash) = some old)
    (overwrites : Overwrites old token)
    (replaced : token.replacedBy = old.replacedBy ∨ replaces = some hash) :
    Written issues replaces completes store (draft.put (.refreshToken hash) token) where
  tokens other next mine := by
    by_cases same : other = hash
    · subst other
      rw [put_token_self] at mine
      cases mine
      -- The draft's own version of the row overwrites the stored one already.
      rcases Store.under_rows_eq_some found with own | ⟨-, here⟩
      · rcases written.tokens hash old own with ⟨was, here, before, linked⟩ | ⟨⟨userId, issued⟩, -⟩
        · refine .inl ⟨was, here, ⟨overwrites.user.trans before.user, overwrites.revoked⟩, ?_⟩
          rcases replaced with same | presented
          · rw [same]
            exact linked
          · exact .inr presented
        · exact absurd issued (apart userId)
      · exact .inl ⟨old, here, overwrites, replaced⟩
    · rw [put_token_other draft token same] at mine
      exact written.tokens other next mine
  issued other userId issued := by
    have distinct : other ≠ hash := by
      rintro rfl
      exact apart userId issued
    rw [put_token_other draft token distinct]
    exact written.issued other userId issued
  resets other row mine := by
    rw [put_token_reset] at mine
    exact written.resets other row mine
  completed userId other reset := by
    rw [put_token_reset]
    exact written.completed userId other reset

/-- A reset token is used up. -/
theorem Written.consume (written : Written issues replaces none store draft) {hash : String}
    {row : PasswordResetToken} (userId : Nat) (used : row.usedAt.isSome) :
    Written issues replaces (some (userId, hash)) store (draft.put (.resetToken hash) row) where
  tokens other token mine := by
    rw [put_reset_token] at mine
    exact written.tokens other token mine
  issued other owner issued := by
    rw [put_reset_token]
    exact written.issued other owner issued
  resets other next mine := by
    by_cases same : other = hash
    · exact .inl ⟨userId, by rw [same]⟩
    · rw [put_reset_other draft row same] at mine
      rcases written.resets other next mine with ⟨owner, completed⟩ | vacant
      · cases completed
      · exact .inr vacant
  completed owner other reset := by
    cases reset
    exact ⟨row, put_reset_self draft row, used⟩

/-- A reset token is stored, not used yet. -/
theorem Written.request (written : Written issues replaces none store draft) {hash : String}
    {row : PasswordResetToken} (vacant : (store.under draft).rows (.resetToken hash) = none)
    (unused : row.usedAt = none) :
    Written issues replaces none store (draft.put (.resetToken hash) row) where
  tokens other token mine := by
    rw [put_reset_token] at mine
    exact written.tokens other token mine
  issued other owner issued := by
    rw [put_reset_token]
    exact written.issued other owner issued
  resets other next mine := by
    by_cases same : other = hash
    · subst other
      rw [put_reset_self] at mine
      cases mine
      exact .inr ⟨(Store.under_rows_eq_none vacant).2, unused⟩
    · rw [put_reset_other draft row same] at mine
      exact written.resets other next mine
  completed owner other reset := by cases reset

/-- A token is issued under a hash that was free. -/
theorem Written.issue (written : Written none replaces completes store draft) {hash : String}
    {token : RefreshToken} {userId : Nat} (user : token.userId = userId)
    (vacant : (store.under draft).rows (.refreshToken hash) = none)
    (fresh : token.revokedAt = none ∧ token.replacedBy = none) :
    Written (some (hash, userId)) replaces completes store
      (draft.put (.refreshToken hash) token) where
  tokens other next mine := by
    by_cases same : other = hash
    · subst other
      rw [put_token_self] at mine
      cases mine
      exact .inr ⟨⟨_, rfl⟩, fresh.2⟩
    · rw [put_token_other draft token same] at mine
      rcases written.tokens other next mine with overwritten | ⟨⟨userId, issued⟩, -⟩
      · exact .inl overwritten
      · cases issued
  issued other owner issued := by
    cases issued
    have nobody : store.rows (.refreshToken hash) = none := (Store.under_rows_eq_none vacant).2
    exact ⟨nobody, token, put_token_self draft token, user, fresh.1⟩
  resets other row mine := by
    rw [put_token_reset] at mine
    exact written.resets other row mine
  completed userId other reset := by
    rw [put_token_reset]
    exact written.completed userId other reset

end Statements

/-! The statements of the scripts. -/

section Scripts

variable {store : IdentityStore} {draft : IdentityDraft} {issues : Option (String × Nat)}
  {replaces : Option String} {completes : Option (Nat × String)}

theorem safe_update {key : IdentityKey} {change : key.Row → key.Row}
    {promised : IdentityStore → IdentityDraft → Prop} (valid : WellFormed store)
    (stable : sessionRely.Stable promised)
    (written : ∀ later row, sessionRely.Later draft store later →
      (later.under draft).rows key = some row → promised later (draft.put key (change row))) :
    Safe sessionRely (fun _ => promised) (update key change) store draft := by
  have executed : Safe sessionRely (fun result store draft => result.isSome → promised store draft)
      (Script.execute key (Option.map change) : IdentityScript (Option key.Row)) store draft := by
    apply Safe.execute
    · intro result before after draft valid later kept found
      exact stable _ _ _ valid later (kept found)
    · intro later passed _ impossible
      cases impossible
    · intro later row passed changed _
      obtain ⟨old, found, rfl⟩ := Option.map_eq_some_iff.mp changed
      exact written later old passed found
  apply Safe.bind valid executed
  intro result store draft valid kept
  cases result with
  | none => trivial
  | some row => exact Safe.pure stable valid (kept rfl)

theorem safe_insert {key : IdentityKey} {row : key.Row}
    {promised : IdentityStore → IdentityDraft → Prop} (valid : WellFormed store)
    (stable : sessionRely.Stable promised)
    (written : ∀ later, sessionRely.Later draft store later →
      (later.under draft).rows key = none → promised later (draft.put key row)) :
    Safe sessionRely (fun _ => promised) (insert key row) store draft := by
  have executed : Safe sessionRely (fun result store draft => result.isSome → promised store draft)
      (Script.execute key (fun found => if found.isSome then none else some row) :
        IdentityScript (Option key.Row)) store draft := by
    apply Safe.execute
    · intro result before after draft valid later kept found
      exact stable _ _ _ valid later (kept found)
    · intro later passed _ impossible
      cases impossible
    · intro later next passed changed _
      cases found : (later.under draft).rows key with
      | none =>
          rw [found] at changed
          cases changed
          exact written later passed found
      | some old =>
          rw [found] at changed
          cases changed
  apply Safe.bind valid executed
  intro result store draft valid kept
  cases result with
  | none => trivial
  | some row => exact Safe.pure stable valid (kept rfl)

/-- What a request has written and recorded so far. -/
structure Reached (issues : Option (String × Nat)) (replaces : Option String)
    (completes : Option (Nat × String)) (recorded : List IdentityEntry) (store : IdentityStore)
    (draft : IdentityDraft) : Prop extends Written issues replaces completes store draft where
  recorded : draft.entries = recorded

variable {recorded : List IdentityEntry}

theorem Reached.stable : sessionRely.Stable (Reached issues replaces completes recorded) := by
  intro before after draft valid later reached
  exact ⟨Written.stable _ _ _ valid later reached.toWritten, reached.recorded⟩

theorem Reached.empty (store : IdentityStore) : Reached none none none [] store Draft.empty :=
  ⟨Written.blank fun _ => rfl, rfl⟩

/-- A request without a rotation has written all its answer stands for. -/
theorem safe_answer (answer : SessionAnswer) (unpresented : answer.presented? = none)
    (valid : WellFormed store)
    (reached : Reached answer.token? answer.presented? answer.reset? answer.entries store draft) :
    Safe sessionRely Drafted (return answer : IdentityScript SessionAnswer) store draft := by
  refine Safe.pure (Drafted.stable answer) valid ⟨reached.toWritten, reached.recorded, ?_⟩
  intro old hash userId presented
  rw [unpresented] at presented
  cases presented

/-- A token seen before any is issued belongs to the user the database says. -/
theorem Reached.seen (reached : Reached none replaces completes recorded store draft)
    {hash : String} {token : RefreshToken}
    (found : (store.under draft).rows (.refreshToken hash) = some token) :
    ∃ old, store.rows (.refreshToken hash) = some old ∧ old.userId = token.userId := by
  rcases Store.under_rows_eq_some found with own | ⟨-, here⟩
  · rcases reached.tokens hash token own with ⟨old, here, overwrites, -⟩ | ⟨⟨userId, issued⟩, -⟩
    · exact ⟨old, here, overwrites.user.symm⟩
    · cases issued
  · exact ⟨token, here, rfl⟩

theorem safe_select {Result : Type} (read : IdentityStore → Result) (valid : WellFormed store)
    (reached : Reached issues replaces completes recorded store draft) :
    Safe sessionRely (fun _ => Reached issues replaces completes recorded)
      (Script.select read : IdentityScript Result) store draft := by
  apply Safe.select (fun _ => Reached.stable)
  intro later passed
  have reached := reached.stable _ _ _ valid passed
  exact ⟨⟨reached.tokens, reached.issued, reached.resets, reached.completed⟩, reached.recorded⟩

theorem safe_revoke {hash : String} (now : Int) (valid : WellFormed store)
    (reached : Reached none replaces completes recorded store draft) :
    Safe sessionRely (fun _ => Reached none replaces completes recorded)
      (update (.refreshToken hash) (revoke now)) store draft := by
  apply safe_update valid Reached.stable
  intro later token passed found
  have reached := reached.stable _ _ _ valid passed
  have apart (userId : Nat) : none ≠ some (hash, userId) := by simp
  exact ⟨reached.overwrite apart found ⟨rfl, rfl⟩ (.inl rfl), reached.recorded⟩

theorem safe_revokeAll {hashes : List String} (now : Int) (valid : WellFormed store)
    (reached : Reached none replaces completes recorded store draft) :
    Safe sessionRely (fun _ => Reached none replaces completes recorded)
      (Script.each (fun hash => update (.refreshToken hash) (revoke now)) hashes) store draft := by
  have nothing (_ : String) (_ : Unit) : sessionRely.Stable fun _ _ => True :=
    fun _ _ _ _ _ _ => trivial
  have done : Safe sessionRely _
      (Script.each (fun hash => update (.refreshToken hash) (revoke now)) hashes) store draft :=
    Safe.each Reached.stable nothing hashes (fun hash _ store draft valid reached => ?_) valid reached
  · exact done.weaken fun _ _ _ _ done => done.1
  · have revoked : Safe sessionRely _ (update (.refreshToken hash) (revoke now)) store draft :=
      safe_revoke now valid reached
    exact revoked.weaken fun _ _ _ _ reached => ⟨reached, trivial, fun _ _ _ => trivial⟩

theorem safe_revokeChain {userId : Nat} (now : Int) (valid : WellFormed store)
    (reached : Reached none replaces completes recorded store draft) :
    Safe sessionRely (fun _ => Reached none replaces completes recorded)
      (revokeChain userId now) store draft := by
  apply Safe.bind valid (safe_select (unrevokedTokens userId) valid reached)
  intro hashes store draft valid reached
  apply Safe.bind valid (safe_revokeAll now valid reached)
  intro _ store draft valid reached
  exact Safe.pure Reached.stable valid reached

theorem safe_issueTokens (settings : IdentitySettings) (userId : Nat) {organizationId : Option Nat}
    {hash : String} {now : Int} {presented : Option String} (valid : WellFormed store)
    (reached : Reached none replaces completes recorded store draft) :
    Safe sessionRely
      (fun _ => Reached (some (hash, userId)) replaces completes
        (recorded ++ [.issued hash userId presented]))
      (issueTokens settings userId organizationId hash now presented) store draft := by
  have inserted : Safe sessionRely
      (fun _ => Reached (some (hash, userId)) replaces completes recorded)
      (insert (.refreshToken hash)
        { userId, organizationId, expiresAt := now + settings.refreshTokenTtl
          revokedAt := none, replacedBy := none }) store draft := by
    apply safe_insert valid Reached.stable
    intro later passed vacant
    have reached := reached.stable _ _ _ valid passed
    exact ⟨reached.issue rfl vacant ⟨rfl, rfl⟩, reached.recorded⟩
  apply Safe.bind valid inserted
  intro _ store draft valid reached
  refine Safe.insert Reached.stable valid ?_
  refine ⟨⟨reached.tokens, reached.issued, reached.resets, reached.completed⟩, ?_⟩
  rw [Draft.add_entries, reached.recorded]

/-- The database holds a token of the user under the hash. -/
def Owns (userId : Nat) (hash : String) (store : IdentityStore) : Prop :=
  ∃ token, store.rows (.refreshToken hash) = some token ∧ token.userId = userId

theorem Owns.persists (userId : Nat) (hash : String) (before after : IdentityStore)
    (later : Grows before after) (owns : Owns userId hash before) : Owns userId hash after := by
  obtain ⟨token, here, user⟩ := owns
  obtain ⟨next, there, same, -⟩ := later.tokens hash token here
  exact ⟨next, there, same.trans user⟩

theorem safe_selectRefreshToken {hash : String} (valid : WellFormed store)
    (reached : Reached none replaces completes recorded store draft) :
    Safe sessionRely
      (fun found store draft => Reached none replaces completes recorded store draft ∧
        ∀ token, found = some token → Owns token.userId hash store)
      (selectRefreshToken hash) store draft := by
  apply Safe.select
  · rintro found before after draft valid later ⟨reached, owns⟩
    exact ⟨reached.stable _ _ _ valid later,
      fun token here => (owns token here).persists _ _ _ _ later.grows⟩
  · intro later passed
    have reached := reached.stable _ _ _ valid passed
    exact ⟨⟨⟨reached.tokens, reached.issued, reached.resets, reached.completed⟩, reached.recorded⟩,
      fun token found => reached.seen found⟩

/-- The last statement of a rotation: the presented token is replaced by the one
just issued, whatever has become of it since it was read. -/
theorem safe_replace {presented successor : String} {userId : Nat} (now : Int)
    (valid : WellFormed store) (owns : Owns userId presented store)
    (reached : Reached (some (successor, userId)) none none
      [.issued successor userId (some presented)] store draft) :
    Safe sessionRely (fun _ => Drafted (.rotated presented successor userId))
      (update (.refreshToken presented) (replace now successor)) store draft := by
  apply safe_update valid (Drafted.stable _)
  intro later token passed found
  have reached := reached.stable _ _ _ valid passed
  obtain ⟨was, here, user⟩ := owns.persists _ _ _ _ passed.grows
  -- The presented token is in the database, the successor was not.
  have distinct : presented ≠ successor := by
    rintro rfl
    rw [(reached.issued _ _ rfl).1] at here
    cases here
  have apart (owner : Nat) : some (successor, userId) ≠ some (presented, owner) := by
    simp [Ne.symm distinct]
  have same : token.userId = userId := by
    rcases Store.under_rows_eq_some found with own | ⟨-, there⟩
    · rcases reached.tokens presented token own with ⟨old, there, overwrites, -⟩ | ⟨⟨owner, issued⟩, -⟩
      · cases there.symm.trans here
        exact overwrites.user.trans user
      · exact absurd issued (apart owner)
    · cases there.symm.trans here
      exact user
  have replacing : Written (some (successor, userId)) (some presented) none later draft := by
    refine ⟨fun hash next mine => ?_, reached.issued, reached.resets, reached.completed⟩
    rcases reached.tokens hash next mine with ⟨old, there, overwrites, linked | linked⟩ | issued
    · exact .inl ⟨old, there, overwrites, .inl linked⟩
    · cases linked
    · exact .inr issued
  refine ⟨replacing.overwrite apart found ⟨rfl, rfl⟩ (.inr rfl), reached.recorded, ?_⟩
  intro old hash owner replaced issued
  cases replaced
  cases issued
  exact ⟨was, _, here, put_token_self draft _, same, rfl, rfl⟩

end Scripts

section Requests

variable (settings : IdentitySettings) {store : IdentityStore} {draft : IdentityDraft}

theorem safe_signIn (userId : Nat) (organizationId : Option Nat) (hash : String) (now : Int)
    (valid : WellFormed store) :
    Safe sessionRely Drafted (signIn settings userId organizationId hash now) store Draft.empty := by
  apply Safe.bind valid (safe_issueTokens settings userId valid (.empty store))
  intro _ store draft valid reached
  exact safe_answer (.issued hash userId) rfl valid reached

theorem safe_refresh (presented successor : String) (now : Int) (valid : WellFormed store) :
    Safe sessionRely Drafted (refresh settings presented successor now) store Draft.empty := by
  apply Safe.bind valid (safe_selectRefreshToken valid (.empty store))
  rintro found store draft valid ⟨reached, owns⟩
  cases found with
  | none => exact True.intro
  | some token =>
      have owns := owns token rfl
      simp only
      split
      · exact True.intro
      · cases revoked : token.revokedAt with
        | some revokedAt =>
            simp only
            split
            · exact True.intro
            · apply Safe.bind valid (safe_revokeChain now valid reached)
              intro _ store draft valid reached
              exact safe_answer .reuseDetected rfl valid reached
        | none =>
            apply Safe.bind valid ((safe_select _ valid reached).frame (Owns.persists _ _) owns)
            rintro account store draft valid ⟨reached, owns⟩
            split
            · apply Safe.bind valid
                ((safe_issueTokens settings token.userId valid reached).frame (Owns.persists _ _) owns)
              rintro _ store draft valid ⟨reached, owns⟩
              apply Safe.bind valid ((safe_select _ valid reached).frame (Owns.persists _ _) owns)
              rintro issued store draft valid ⟨reached, owns⟩
              cases issued with
              | none => exact True.intro
              | some new =>
                  apply Safe.bind valid (safe_replace now valid owns reached)
                  intro _ store draft valid drafted
                  exact Safe.pure (Drafted.stable _) valid drafted
            · exact True.intro

theorem safe_logout (presented : String) (now : Int) (valid : WellFormed store) :
    Safe sessionRely Drafted (logout presented now) store Draft.empty := by
  apply Safe.bind valid (safe_selectRefreshToken valid (.empty store))
  rintro found store draft valid ⟨reached, -⟩
  split
  · apply Safe.bind valid (safe_revoke now valid reached)
    intro _ store draft valid reached
    exact safe_answer .loggedOut rfl valid reached
  · exact safe_answer .loggedOut rfl valid reached

theorem safe_requestPasswordReset (userId : Nat) (hash : String) (now : Int)
    (valid : WellFormed store) :
    Safe sessionRely Drafted (requestPasswordReset settings userId hash now) store Draft.empty := by
  have inserted : Safe sessionRely (fun _ => Reached none none none [])
      (insert (.resetToken hash) ⟨userId, now + settings.resetTokenTtl, none⟩) store Draft.empty := by
    apply safe_insert valid Reached.stable
    intro later passed vacant
    have reached := Reached.empty later
    exact ⟨reached.request vacant rfl, reached.recorded⟩
  apply Safe.bind valid inserted
  intro _ store draft valid reached
  exact safe_answer .resetRequested rfl valid reached

theorem safe_resetPassword (token passwordHash successor : String) (now : Int)
    (valid : WellFormed store) :
    Safe sessionRely Drafted (resetPassword settings token passwordHash successor now) store
      Draft.empty := by
  apply Safe.bind valid (safe_select _ valid (.empty store))
  intro found store draft valid reached
  split
  · next userId expiresAt =>
      split
      · exact True.intro
      · apply Safe.bind valid (safe_select _ valid reached)
        intro account store draft valid reached
        cases account with
        | none => exact True.intro
        | some account =>
            apply Safe.bind valid (safe_select (unrevokedTokens userId) valid reached)
            intro hashes store draft valid reached
            have changed : Safe sessionRely (fun _ => Reached none none none [])
                (update (.user userId) fun account =>
                  { account with passwordHash := some passwordHash }) store draft := by
              apply safe_update valid Reached.stable
              intro later row passed _
              have reached := reached.stable _ _ _ valid passed
              exact ⟨reached.account userId _, reached.recorded⟩
            apply Safe.bind valid changed
            intro _ store draft valid reached
            have consumed : Safe sessionRely (fun _ => Reached none none (some (userId, token)) [])
                (update (.resetToken token) fun row => { row with usedAt := some now })
                store draft := by
              apply safe_update valid Reached.stable
              intro later row passed _
              have reached := reached.stable _ _ _ valid passed
              exact ⟨reached.consume userId rfl, reached.recorded⟩
            apply Safe.bind valid consumed
            intro _ store draft valid reached
            apply Safe.bind valid (safe_revokeAll now valid reached)
            intro _ store draft valid reached
            have recorded : Safe sessionRely
                (fun _ => Reached none none (some (userId, token)) [.resetCompleted userId token])
                (Script.insert (.resetCompleted userId token) : IdentityScript Unit) store draft := by
              refine Safe.insert Reached.stable valid ?_
              refine ⟨⟨reached.tokens, reached.issued, reached.resets, reached.completed⟩, ?_⟩
              rw [Draft.add_entries, reached.recorded]
              rfl
            apply Safe.bind valid recorded
            intro _ store draft valid reached
            apply Safe.bind valid (safe_issueTokens settings userId valid reached)
            intro _ store draft valid reached
            exact safe_answer (.reset userId token successor) rfl valid reached
  · exact True.intro

theorem safe_script (request : SessionRequest) (valid : WellFormed store) :
    Safe sessionRely Drafted (request.script settings) store Draft.empty := by
  cases request with
  | signIn userId organizationId hash now => exact safe_signIn settings _ _ _ _ valid
  | refresh presented successor now => exact safe_refresh settings _ _ _ valid
  | logout presented now => exact safe_logout _ _ valid
  | requestPasswordReset userId hash now => exact safe_requestPasswordReset settings _ _ _ valid
  | resetPassword token passwordHash successor now => exact safe_resetPassword settings _ _ _ _ valid

end Requests

/-! The service as a whole. -/

def sessionContract : Contract IdentityKey.Row IdentityEntry SessionRequest SessionAnswer where
  toRely := sessionRely
  admissible _ := True
  finished _ := Drafted
  mayCommit _ _ _ _ := True
  told _ _ _ := True
  told_grows _ told := told

/-- Whatever commits beside it, a request that ends well may commit. -/
theorem sessionContract_serves (settings : IdentitySettings) (request : SessionRequest)
    (_ : sessionContract.admissible request) (store : IdentityStore) (valid : WellFormed store) :
    Safe sessionRely (sessionContract.Commits request) (request.script settings) store Draft.empty :=
  (safe_script settings request valid).weaken fun _ _ _ valid drafted =>
    ⟨drafted, fun _ => ⟨valid.commit drafted, drafted.grows, trivial⟩⟩

end SynapseSaas.Identity
