import VelaWallet.Wallet.SessionRuns

/-!
# The landing watch

A watch has one request outstanding at a time.  While it waits for a record's task, that task
is what it asked about, so a landing reported to it is that record's.
-/

namespace VelaWallet.Session

variable {books : Books} {records : List (Option PendingUpload)} {before model : Model}
  {next : Served Model Request} {result : SessionShellResult} {credentialId : String}

/-- The current watch's requests among some. -/
def watchRequests (model : Model) (requests : List Request) : List Request :=
  requests.filter fun request => request.asker == .watch model.watch

/-- What a record is being watched for. -/
inductive Waits (model : Model) (records : List (Option PendingUpload)) : List Request → Prop
  | idle {current : List Request} (watching : model.watching = none) (single : current.length ≤ 1)
      (others : ∀ request ∈ current, ∀ taskId, request.operation ≠ .awaitRegistryLanding taskId) :
      Waits model records current
  | landing {credentialId taskId : String} (watching : model.watching = some credentialId)
      (known : (credentialId, taskId) ∈ landings records) :
      Waits model records [⟨.watch model.watch, .awaitRegistryLanding taskId⟩]

/-- What holds of the landing watch in every run. -/
structure Watched (served : Served Model Request) (books : Books) : Prop where
  watches : ∀ request ∈ served.requests, ∀ watch, request.asker = .watch watch →
    watch ≤ served.state.watch
  queue : ∀ entry ∈ served.state.watchQueue, entry ∈ landings books.records
  waits : Waits served.state books.records (watchRequests served.state served.requests)

/-- A request an attempt made; no attempt drops an outbox record. -/
def OfAttempt (request : Request) : Prop :=
  (∃ attempt, request.asker = .attempt attempt) ∧
    ∀ credentialId, request.operation ≠ .removePendingUpload credentialId

/-- An event that is no answer to the watch keeps it or starts a new one. -/
inductive WatchTurn (before after : Model) (requests : List Request) : Prop
  | kept (watch : after.watch = before.watch) (queue : after.watchQueue = before.watchQueue)
      (watching : after.watching = before.watching)
      (others : ∀ request ∈ requests, OfAttempt request)
  | started (watch : after.watch = before.watch + 1) (queue : after.watchQueue = [])
      (watching : after.watching = none) {asked : List Request}
      (split : requests = asked ++ watchRequest after .loadPendingUploads)
      (others : ∀ request ∈ asked, OfAttempt request)

theorem ofAttempt_requests {operations : List SessionOperation}
    (others : ∀ operation ∈ operations, ∀ credentialId,
      operation ≠ .removePendingUpload credentialId) :
    ∀ request ∈ requests model operations, OfAttempt request := by
  intro request member
  obtain ⟨operation, among, rfl⟩ := List.mem_map.mp member
  exact ⟨⟨_, rfl⟩, others operation among⟩

theorem WatchTurn.quiet {after : Model} (watch : after.watch = before.watch)
    (queue : after.watchQueue = before.watchQueue) (watching : after.watching = before.watching) :
    WatchTurn before after [] :=
  .kept watch queue watching fun _ member => absurd member List.not_mem_nil

section Turns

variable {model : Model}

theorem watchTurn_venue (address : String) (venue : SigningVenue) :
    WatchTurn model (chooseVenue address venue model).1 (chooseVenue address venue model).2 := by
  unfold chooseVenue
  split
  · exact .quiet rfl rfl rfl
  · split
    · exact .quiet rfl rfl rfl
    · split
      · exact .quiet rfl rfl rfl
      · split
        · exact .quiet rfl rfl rfl
        · split
          · exact .quiet rfl rfl rfl
          · exact .kept rfl rfl rfl (ofAttempt_requests (by simp))

theorem watchTurn_remove (index : Nat) :
    WatchTurn model (removeAccount index model).1 (removeAccount index model).2 := by
  unfold removeAccount
  split
  · exact .quiet rfl rfl rfl
  · dsimp only
    split
    · exact .kept rfl rfl rfl (ofAttempt_requests (by simp [clearing]))
    · refine .kept rfl rfl rfl (ofAttempt_requests ?_)
      intro operation member credentialId
      rcases List.mem_append.mp member with first | last
      · rcases List.mem_cons.mp first with rfl | second
        · rintro ⟨⟩
        · rw [List.mem_singleton.mp second]
          rintro ⟨⟩
      · split at last
        · rw [List.mem_singleton.mp last]
          rintro ⟨⟩
        · cases last

theorem watchTurn_establish (mode : CompletionMode) :
    WatchTurn model (establish mode model).1 (establish mode model).2 := by
  cases mode with
  | addAccount =>
    simp only [establish]
    exact .started rfl rfl rfl rfl (ofAttempt_requests (by simp))
  | setWallet =>
    simp only [establish]
    split
    · exact .quiet rfl rfl rfl
    · exact .started rfl rfl rfl rfl (ofAttempt_requests (by simp))

theorem watchTurn_restore [AddressRuntime] :
    WatchTurn model (tryFinishRestore model).1 (tryFinishRestore model).2 := by
  unfold tryFinishRestore
  split
  · dsimp only
    split
    · exact .quiet rfl rfl rfl
    · refine .started rfl rfl rfl rfl (ofAttempt_requests ?_)
      intro operation member credentialId
      rcases List.mem_append.mp member with written | last
      · obtain ⟨account, _, rfl⟩ := List.mem_map.mp written
        rintro ⟨⟩
      · rw [List.mem_singleton.mp last]
        rintro ⟨⟩
  · exact .quiet rfl rfl rfl

theorem WatchTurn.congr {other after : Model} {requests : List Request}
    (turn : WatchTurn before after requests) (watch : before.watch = other.watch)
    (queue : before.watchQueue = other.watchQueue) (watching : before.watching = other.watching) :
    WatchTurn other after requests := by
  cases turn with
  | kept sameWatch sameQueue sameWatching others =>
    exact .kept (sameWatch.trans watch) (sameQueue.trans queue) (sameWatching.trans watching) others
  | started next empty none_watched split others =>
    exact .started (by rw [next, watch]) empty none_watched split others

theorem watchTurn_accept [AddressRuntime] (result : SessionShellResult) :
    WatchTurn model (accept result model).1 (accept result model).2 := by
  unfold accept
  split
  · exact watchTurn_restore.congr rfl rfl rfl
  · exact watchTurn_restore.congr rfl rfl rfl
  · exact .quiet rfl rfl rfl
  · split <;> exact .quiet rfl rfl rfl
  · split <;> exact .quiet rfl rfl rfl
  · exact .quiet rfl rfl rfl

theorem watchTurn_of_update [AddressRuntime] {event : Event}
    (other : ∀ result, event ≠ .watchCompleted model.watch result) :
    WatchTurn model (update event model).1 (update event model).2 := by
  cases event with
  | boot | signOut =>
    simp only [update]
    split
    · exact .quiet rfl rfl rfl
    · exact .kept rfl rfl rfl (ofAttempt_requests (by simp))
  | switchAccount =>
    simp only [update, switchAccount]
    split
    · exact .quiet rfl rfl rfl
    · split
      · exact .quiet rfl rfl rfl
      · exact .kept rfl rfl rfl (ofAttempt_requests (by simp))
  | accountEstablished mode => exact watchTurn_establish mode
  | removeAccount index => exact watchTurn_remove index
  | signingVenueChosen address venue => exact watchTurn_venue address venue
  | signOutConfirmed =>
    simp only [update, signOutConfirmed]
    split
    · exact .quiet rfl rfl rfl
    · exact .kept rfl rfl rfl (ofAttempt_requests (by simp [clearing]))
  | signOutDismissed => exact .quiet rfl rfl rfl
  | shellCompleted _ result =>
    simp only [update]
    split
    · exact .quiet rfl rfl rfl
    · exact watchTurn_accept result
  | watchCompleted watch result =>
    have stale : watch ≠ model.watch := by
      rintro rfl
      exact other result rfl
    simp only [update, if_pos stale]
    exact .quiet rfl rfl rfl

end Turns

theorem watchRequests_nil {requests : List Request}
    (others : ∀ request ∈ requests, OfAttempt request) :
    watchRequests model requests = [] := by
  apply List.filter_eq_nil_iff.mpr
  intro request member
  obtain ⟨⟨attempt, asker⟩, _⟩ := others request member
  simp [asker]

theorem watchRequests_append (model : Model) (left right : List Request) :
    watchRequests model (left ++ right) = watchRequests model left ++ watchRequests model right :=
  List.filter_append ..

theorem watchRequests_congr {other : Model} (same : other.watch = model.watch)
    (requests : List Request) : watchRequests other requests = watchRequests model requests := by
  rw [watchRequests, same]
  rfl

theorem watchRequests_takes {event : Event} {requests rest : List Request}
    (takes : sessionShell.Takes event requests rest)
    (other : ∀ result, event ≠ .watchCompleted model.watch result) :
    watchRequests model rest = watchRequests model requests := by
  cases takes with
  | none => rfl
  | @one request before after answers =>
    have foreign : (request.asker == .watch model.watch) = false := by
      cases asker : request.asker with
      | attempt => rfl
      | watch watch =>
        cases event <;> simp only [asker] at answers <;> try contradiction
        next result =>
          simp only [Bool.and_eq_true, beq_iff_eq] at answers
          have differs : watch ≠ model.watch := by
            intro same
            apply other result
            rw [← same, answers.1]
          simpa using differs
    rw [watchRequests_append, watchRequests, watchRequests, watchRequests,
      List.filter_append, List.filter_cons_of_neg (by simp [foreign])]

theorem Waits.taken {requests rest : List Request}
    (waits : Waits model records (watchRequests model requests))
    (takes : sessionShell.Takes (.watchCompleted model.watch result) requests rest) :
    ∃ operation, operation.reportedBy result = true ∧
      watchRequests model requests = [⟨.watch model.watch, operation⟩] ∧
      watchRequests model rest = [] ∧
      (⟨.watch model.watch, operation⟩ : Request) ∈ requests := by
  cases takes with
  | none external => cases external
  | @one request before after answers =>
    obtain ⟨asker, operation⟩ := request
    cases asker with
    | attempt => cases answers
    | watch watch =>
      simp only [Bool.and_eq_true, beq_iff_eq] at answers
      obtain ⟨rfl, reported⟩ := answers
      have single : (watchRequests model
          (before ++ ⟨.watch model.watch, operation⟩ :: after)).length ≤ 1 := by
        generalize watchRequests model _ = current at waits ⊢
        cases waits with
        | idle _ single => exact single
        | landing => exact Nat.le_refl 1
      have all : watchRequests model (before ++ ⟨.watch model.watch, operation⟩ :: after) =
          watchRequests model before ++ ⟨.watch model.watch, operation⟩ ::
            watchRequests model after := by
        rw [watchRequests_append, watchRequests, watchRequests,
          List.filter_cons_of_pos (by simp)]
        rfl
      rw [all, List.length_append, List.length_cons] at single
      have none_before : watchRequests model before = [] :=
        List.eq_nil_of_length_eq_zero (by omega)
      have none_after : watchRequests model after = [] :=
        List.eq_nil_of_length_eq_zero (by omega)
      refine ⟨operation, reported, ?_, ?_, by simp⟩
      · rw [all, none_before, none_after]
        rfl
      · rw [watchRequests_append, none_before, none_after]
        rfl

theorem nextLanding_waits (queue : ∀ entry ∈ model.watchQueue, entry ∈ landings records) :
    (nextLanding model).1.watch = model.watch ∧
      (∀ entry ∈ (nextLanding model).1.watchQueue, entry ∈ landings records) ∧
      (∀ request ∈ (nextLanding model).2, request.asker = .watch model.watch) ∧
      Waits (nextLanding model).1 records (nextLanding model).2 := by
  unfold nextLanding
  split
  · next =>
      refine ⟨rfl, queue, nofun, .idle rfl (Nat.zero_le _) nofun⟩
  · next split =>
      rw [split] at queue
      refine ⟨rfl, fun entry member => queue entry (List.mem_cons_of_mem _ member), ?_, ?_⟩
      · intro request member
        rw [List.mem_singleton.mp member]
      · exact .landing rfl (queue _ List.mem_cons_self)

/-- What an answer to the current watch does to it. -/
structure WatchAnswer (before after : Model) (requests : List Request)
    (records : List (Option PendingUpload)) : Prop where
  watch : after.watch = before.watch
  queue : ∀ entry ∈ after.watchQueue, entry ∈ landings records
  askers : ∀ request ∈ requests, request.asker = .watch before.watch
  waits : Waits after records requests

theorem nextLanding_answer
    (same : model.watch = before.watch) (queue : ∀ entry ∈ model.watchQueue, entry ∈ landings records) :
    WatchAnswer before (nextLanding model).1 (nextLanding model).2 records := by
  obtain ⟨watch, kept, askers, waits⟩ := nextLanding_waits queue
  exact ⟨watch.trans same, kept, fun request member => (askers request member).trans (by rw [same]),
    waits⟩

/-- The records read as the outbox by an answer, or those read before. -/
def readBy (records : List (Option PendingUpload)) : SessionShellResult → List (Option PendingUpload)
  | .pendingUploadsLoaded loaded => loaded
  | _ => records

theorem acceptWatch_answer
    (queue : ∀ entry ∈ model.watchQueue, entry ∈ landings records) (result : SessionShellResult) :
    WatchAnswer model (acceptWatch result model).1 (acceptWatch result model).2
      (readBy records result) := by
  have stops : WatchAnswer model { model with watchQueue := [], watching := none } [] records :=
    ⟨rfl, nofun, nofun, .idle rfl (Nat.zero_le _) nofun⟩
  cases result with
  | pendingUploadsLoaded => exact nextLanding_answer rfl fun entry member => member
  | registryLanded =>
    simp only [acceptWatch]
    cases watching : model.watching with
    | none => exact ⟨rfl, queue, nofun, .idle watching (Nat.zero_le _) nofun⟩
    | some =>
      refine ⟨rfl, queue, ?_, .idle rfl (Nat.le_refl 1) ?_⟩
      · intro request member
        rw [List.mem_singleton.mp member]
      · intro request member taskId
        rw [List.mem_singleton.mp member]
        exact nofun
  | registryLandingUnconfirmed message | pendingUploadRemoved => exact nextLanding_answer rfl queue
  | _ => exact stops

theorem acceptWatch_removes {asker : Asker}
    (removes : (⟨asker, .removePendingUpload credentialId⟩ : Request) ∈ (acceptWatch result model).2)
    {requests : List Request} (waits : Waits model records requests) :
    result = .registryLanded ∧ ∃ taskId, (credentialId, taskId) ∈ landings records ∧
      requests = [⟨.watch model.watch, .awaitRegistryLanding taskId⟩] := by
  have others : ∀ {model : Model},
      (⟨asker, .removePendingUpload credentialId⟩ : Request) ∉ (nextLanding model).2 := by
    intro model
    unfold nextLanding
    split
    · exact List.not_mem_nil
    · intro member
      have same := congrArg Request.operation (List.mem_singleton.mp member)
      cases same
  cases result with
  | registryLanded =>
    simp only [acceptWatch] at removes
    cases watching : model.watching with
    | none =>
      rw [watching] at removes
      cases removes
    | some =>
      rw [watching] at removes
      have same := congrArg Request.operation (List.mem_singleton.mp removes)
      cases same
      refine ⟨rfl, ?_⟩
      cases waits with
      | idle none_watched => rw [watching] at none_watched; cases none_watched
      | @landing credentialId_ taskId watching_ known =>
        obtain rfl := Option.some.inj (watching.symm.trans watching_)
        exact ⟨taskId, known, rfl⟩
  | pendingUploadsLoaded | registryLandingUnconfirmed | pendingUploadRemoved =>
    exact absurd removes others
  | _ => cases removes

theorem mem_landings {taskId : String} (known : (credentialId, taskId) ∈ landings records) :
    ∃ record, some record ∈ records ∧ record.id = credentialId ∧
      record.awaitsLanding = some taskId := by
  obtain ⟨stored, member, made⟩ := List.mem_filterMap.mp known
  simp only [Option.bind_eq_bind, Option.bind_eq_some_iff, Option.pure_def, Option.some.injEq,
    Prod.mk.injEq] at made
  obtain ⟨record, rfl, task, waits, same, rfl⟩ := made
  exact ⟨record, member, same, waits⟩

section Runs

variable [AddressRuntime] {move : Move Event} {before after : Served Model Request × Books}
  {output : List (Request × Nat)}

omit [AddressRuntime] in
theorem Books.records_of_answer {served : Served Model Request}
    (same : next.state.watch = served.state.watch)
    (event : move.event = .watchCompleted served.state.watch result) :
    (books.write served move next).records = readBy books.records result := by
  simp only [Books.write, same, event]
  cases result <;> simp [readBy]

omit [AddressRuntime] in
theorem Books.records_of_kept {served : Served Model Request}
    (same : next.state.watch = served.state.watch)
    (other : ∀ result, move.event ≠ .watchCompleted served.state.watch result) :
    (books.write served move next).records = books.records := by
  simp only [Books.write, same, ne_eq, not_true_eq_false, if_false]
  split
  · next event =>
      rw [if_neg]
      rintro rfl
      exact other _ event
  · rfl

omit [AddressRuntime] in
theorem Books.records_of_started {served : Served Model Request}
    (next_watch : next.state.watch = served.state.watch + 1) :
    (books.write served move next).records = [] := by
  simp [Books.write, next_watch]

omit [AddressRuntime] in
theorem Watched.fresh (watched : Watched before.1 before.2) {left : List Request}
    (kept : left ⊆ before.1.requests)
    (later : model.watch = before.1.state.watch + 1) : watchRequests model left = [] := by
  apply List.filter_eq_nil_iff.mpr
  intro request member
  rw [beq_iff_eq]
  intro asker
  have old := watched.watches request (kept member) _ asker
  omega

theorem Watched.step (watched : Watched before.1 before.2)
    (stepped : session.step move before = some (after, output)) : Watched after.1 after.2 := by
  obtain ⟨rest, serves, state, _, books⟩ := session_step stepped
  obtain ⟨left, takes, requests⟩ := serves.takes
  have kept := takes.subset
  by_cases answer : ∃ result, move.event = .watchCompleted before.1.state.watch result
  · obtain ⟨result, event⟩ := answer
    have updated : update move.event before.1.state = acceptWatch result before.1.state := by
      simp [update, event]
    rw [updated] at state requests
    have answered := acceptWatch_answer watched.queue result
    rw [← state] at answered
    rw [event] at takes
    obtain ⟨operation, _, _, none_left, _⟩ := watched.waits.taken takes
    have records : after.2.records = readBy before.2.records result := by
      rw [books]
      exact Books.records_of_answer answered.watch event
    constructor
    · intro request member watch asker
      rw [requests] at member
      rcases List.mem_append.mp member with old | new
      · rw [answered.watch]
        exact watched.watches request (kept old) watch asker
      · rw [answered.askers request new] at asker
        rw [answered.watch, Asker.watch.inj asker]
    · rw [records]
      exact answered.queue
    · have made : watchRequests after.1.state (acceptWatch result before.1.state).2 =
          (acceptWatch result before.1.state).2 := by
        apply List.filter_eq_self.mpr
        intro request member
        rw [answered.askers request member, answered.watch]
        simp
      rw [records, requests, watchRequests_append, watchRequests_congr answered.watch, none_left,
        List.nil_append, made]
      exact answered.waits
  · have other : ∀ result, move.event ≠ .watchCompleted before.1.state.watch result :=
      fun result event => answer ⟨result, event⟩
    have turn := @watchTurn_of_update before.1.state _ _ other
    rw [← state] at turn
    have same := watchRequests_takes takes other
    cases turn with
    | kept watch queue watching others =>
      have records : after.2.records = before.2.records := by
        rw [books]
        exact Books.records_of_kept watch other
      constructor
      · intro request member watch_ asker
        rw [requests] at member
        rw [watch]
        rcases List.mem_append.mp member with old | new
        · exact watched.watches request (kept old) watch_ asker
        · obtain ⟨⟨attempt, shell⟩, _⟩ := others request new
          rw [shell] at asker
          cases asker
      · rw [records, queue]
        exact watched.queue
      · rw [records, requests, watchRequests_append, watchRequests_nil others, List.append_nil,
          watchRequests_congr watch, same]
        have waits := watched.waits
        generalize watchRequests before.1.state before.1.requests = current at waits ⊢
        cases waits with
        | idle idle single none_awaited => exact .idle (watching.trans idle) single none_awaited
        | landing watched known =>
          rw [← watch]
          exact .landing (watching.trans watched) known
    | @started watch queue watching asked split others =>
      have records : after.2.records = [] := by
        rw [books]
        exact Books.records_of_started watch
      constructor
      · intro request member watch_ asker
        rw [requests, split] at member
        rcases List.mem_append.mp member with old | new
        · have := watched.watches request (kept old) watch_ asker
          omega
        · rcases List.mem_append.mp new with shell | load
          · obtain ⟨⟨attempt, shell⟩, _⟩ := others request shell
            rw [shell] at asker
            cases asker
          · rw [List.mem_singleton.mp load] at asker
            exact Nat.le_of_eq (Asker.watch.inj asker).symm
      · rw [queue]
        rintro _ ⟨⟩
      · rw [requests, split, watchRequests_append, watched.fresh kept watch, List.nil_append,
          watchRequests_append, watchRequests_nil others, List.nil_append]
        have made : watchRequests after.1.state (watchRequest after.1.state .loadPendingUploads) =
            watchRequest after.1.state .loadPendingUploads := by
          simp [watchRequests, watchRequest]
        rw [made]
        refine .idle watching (Nat.le_refl 1) ?_
        intro request member taskId
        rw [List.mem_singleton.mp member]
        rintro ⟨⟩

/-- An outbox record is dropped only as the answer to the landing of its own task, asked in the
current watch; it is a one-key record of the outbox that watch read. -/
theorem Watched.removal (watched : Watched before.1 before.2)
    (stepped : session.step move before = some (after, output)) {asker : Asker}
    {number : Nat}
    (removes : ((⟨asker, .removePendingUpload credentialId⟩ : Request), number) ∈ output) :
    ∃ asked taskId record, move = .answers asked (.watchCompleted before.1.state.watch .registryLanded) ∧
      ((⟨.watch before.1.state.watch, .awaitRegistryLanding taskId⟩ : Request), asked) ∈
        before.1.outstanding ∧
      some record ∈ before.2.records ∧ record.id = credentialId ∧
      record.awaitsLanding = some taskId := by
  obtain ⟨rest, serves, state, rfl, books⟩ := session_step stepped
  have made := List.fst_mem_of_mem_zipIdx removes
  by_cases answer : ∃ result, move.event = .watchCompleted before.1.state.watch result
  · obtain ⟨result, event⟩ := answer
    have updated : update move.event before.1.state = acceptWatch result before.1.state := by
      simp [update, event]
    rw [updated] at made
    obtain ⟨rfl, taskId, known, current⟩ := acceptWatch_removes made watched.waits
    obtain ⟨record, stored, same, waits⟩ := mem_landings known
    have accepted := serves.accepted
    generalize outstanding : before.1.outstanding = entries at accepted
    cases accepted with
    | arrives external =>
      rw [Move.event] at event
      rw [event] at external
      cases external
    | @answers taken request asked early late answers =>
      rw [Move.event] at event
      subst event
      obtain ⟨asker, operation⟩ := request
      have held : (⟨asker, operation⟩ : Request) ∈
          watchRequests before.1.state before.1.requests := by
        rw [watchRequests, List.mem_filter, Served.requests, outstanding]
        refine ⟨by simp, ?_⟩
        cases asker with
        | attempt => cases answers
        | watch =>
          simp only [Bool.and_eq_true, beq_iff_eq] at answers
          simp [answers.1]
      rw [current] at held
      cases List.mem_singleton.mp held
      exact ⟨asked, taskId, record, rfl, by simp, stored, same, waits⟩
  · have turn := @watchTurn_of_update before.1.state _ _ fun result event => answer ⟨result, event⟩
    generalize (update move.event before.1.state).2 = requests at made turn
    cases turn with
    | kept _ _ _ others => exact absurd rfl ((others _ made).2 credentialId)
    | started _ _ _ split others =>
      rw [split] at made
      rcases List.mem_append.mp made with shell | load
      · exact absurd rfl ((others _ shell).2 credentialId)
      · cases List.mem_singleton.mp load

end Runs

end VelaWallet.Session
