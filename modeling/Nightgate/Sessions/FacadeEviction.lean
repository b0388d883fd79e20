import Mathlib.Data.List.Nodup
import Nightgate.Sessions.FacadeSharing

/-!
# Eviction of shared wallets

A wallet that is loaded is needed by a session that is not closed, or somebody who closed one is
still to check it. That fails in two ways: a build that asks for the lock after the check of the
session it was asked for, and a session that connects between a check and the eviction.
-/

namespace Nightgate.Sessions.FacadeSharing

open Library

variable {User Account : Type}

/-- The rows have distinct ids, and the active ones their viewing key. -/
structure RowsSound (rows : List (WalletSession User Account)) (nextSession : Nat) : Prop where
  distinct : (rows.map WalletSession.sessionId).Nodup
  below : ∀ row ∈ rows, row.sessionId < nextSession
  keyed : ∀ row ∈ rows, row.isActive = true → row.hasViewingKey = true

/-- The row of a session that was read. While it is active, it was so when it was read. -/
def Known (rows : List (WalletSession User Account)) (session : WalletSession User Account) :
    Prop :=
  ∃ row ∈ rows, row.sessionId = session.sessionId ∧ row.userId = session.userId ∧
    row.account = session.account ∧ (row.isActive = true → session.hasViewingKey = true)

/-- A session of the same user and wallet is closed. -/
def Closed (rows : List (WalletSession User Account)) (session : WalletSession User Account) :
    Prop :=
  ∃ row ∈ rows, row.account = session.account ∧ row.userId = session.userId ∧ row.isActive = false

/-- A change of a row that does not open it again. -/
structure RowChange (change : WalletSession User Account → WalletSession User Account) :
    Prop where
  sessionId : ∀ row, (change row).sessionId = row.sessionId
  userId : ∀ row, (change row).userId = row.userId
  account : ∀ row, (change row).account = row.account
  stays : ∀ row, (change row).isActive = true → row.isActive = true
  keyed : ∀ row, (change row).isActive = true → (change row).hasViewingKey = row.hasViewingKey

theorem rowChange_close : RowChange (WalletSession.close : WalletSession User Account → _) where
  sessionId _ := rfl
  userId _ := rfl
  account _ := rfl
  stays _ := nofun
  keyed _ := nofun

theorem rowChange_sign :
    RowChange fun row : WalletSession User Account => { row with hasSeedKey := true } where
  sessionId _ := rfl
  userId _ := rfl
  account _ := rfl
  stays _ active := active
  keyed _ _ := rfl

section Rows

variable {rows : List (WalletSession User Account)} {nextSession : Nat}
  {holds : WalletSession User Account → Bool}
  {change : WalletSession User Account → WalletSession User Account}

/-- A row after an update, and the one that it was. -/
theorem mem_updateWhere {row : WalletSession User Account} :
    row ∈ updateWhere holds change rows ↔
      ∃ old ∈ rows, (if holds old then change old else old) = row :=
  List.mem_map

theorem RowChange.ite (isChange : RowChange change) :
    RowChange fun row : WalletSession User Account => if holds row then change row else row where
  sessionId row := by split <;> simp [isChange.sessionId]
  userId row := by split <;> simp [isChange.userId]
  account row := by split <;> simp [isChange.account]
  stays row := by
    split
    · exact isChange.stays row
    · exact id
  keyed row := by
    split
    · exact isChange.keyed row
    · exact fun _ => rfl

theorem RowsSound.updateWhere (sound : RowsSound rows nextSession) (isChange : RowChange change) :
    RowsSound (updateWhere holds change rows) nextSession where
  distinct := by
    have same : WalletSession.sessionId ∘ (fun row => if holds row then change row else row) =
        WalletSession.sessionId := by
      funext row
      exact isChange.ite.sessionId row
    rw [FacadeSharing.updateWhere, List.map_map, same]
    exact sound.distinct
  below row isRow := by
    obtain ⟨old, isOld, rfl⟩ := mem_updateWhere.mp isRow
    rw [isChange.ite.sessionId old]
    exact sound.below old isOld
  keyed row isRow active := by
    obtain ⟨old, isOld, rfl⟩ := mem_updateWhere.mp isRow
    rw [isChange.ite.keyed old active]
    exact sound.keyed old isOld (isChange.ite.stays old active)

variable {session : WalletSession User Account}

theorem Known.updateWhere (known : Known rows session)
    (isChange : RowChange change) : Known (updateWhere holds change rows) session := by
  obtain ⟨row, isRow, sameId, sameUser, sameAccount, seen⟩ := known
  refine ⟨_, mem_updateWhere.mpr ⟨row, isRow, rfl⟩, ?_, ?_, ?_, ?_⟩
  · rw [isChange.ite.sessionId row, sameId]
  · rw [isChange.ite.userId row, sameUser]
  · rw [isChange.ite.account row, sameAccount]
  · exact fun active => seen (isChange.ite.stays row active)

theorem Closed.updateWhere (closed : Closed rows session)
    (isChange : RowChange change) : Closed (updateWhere holds change rows) session := by
  obtain ⟨row, isRow, sameAccount, sameUser, inactive⟩ := closed
  refine ⟨_, mem_updateWhere.mpr ⟨row, isRow, rfl⟩, ?_, ?_, ?_⟩
  · rw [isChange.ite.account row, sameAccount]
  · rw [isChange.ite.userId row, sameUser]
  · apply Bool.eq_false_iff.mpr
    intro active
    rw [isChange.ite.stays row active] at inactive
    cases inactive

theorem Known.append (known : Known rows session)
    (more : List (WalletSession User Account)) : Known (rows ++ more) session := by
  obtain ⟨row, isRow, same⟩ := known
  exact ⟨row, List.mem_append_left _ isRow, same⟩

theorem Closed.append (closed : Closed rows session)
    (more : List (WalletSession User Account)) : Closed (rows ++ more) session := by
  obtain ⟨row, isRow, same⟩ := closed
  exact ⟨row, List.mem_append_left _ isRow, same⟩

theorem known_of_mem (sound : RowsSound rows nextSession)
    (isRow : session ∈ rows) : Known rows session :=
  ⟨session, isRow, rfl, rfl, rfl, sound.keyed session isRow⟩

/-- A session that was read is closed by the update of its row. -/
theorem Known.closed (known : Known rows session)
    (hits : ∀ row ∈ rows, row.sessionId = session.sessionId → row.userId = session.userId →
      holds row = true) :
    Closed (FacadeSharing.updateWhere holds WalletSession.close rows) session := by
  obtain ⟨row, isRow, sameId, sameUser, sameAccount, _⟩ := known
  refine ⟨_, mem_updateWhere.mpr ⟨row, isRow, rfl⟩, ?_⟩
  rw [if_pos (hits row isRow sameId sameUser)]
  exact ⟨sameAccount, sameUser, rfl⟩

end Rows

/-! ## Tasks -/

namespace Task

/-- The sessions that the task has read and will close. -/
def reads : Task User Account → List (WalletSession User Account)
  | disconnect session => [session]
  | cleanup sessions => sessions
  | _ => []

/-- The closed sessions that are left to decide about. -/
def left : Task User Account → List (WalletSession User Account)
  | closing left => left
  | check _ _ left => left
  | _ => []

/-- The closed sessions of the task. -/
def closed : Task User Account → List (WalletSession User Account)
  | closing left => left
  | check session _ left => session :: left
  | _ => []

/-- The account whose lock the task has asked for. -/
def waitsFor : Task User Account → Option Account
  | build account => some account
  | check session _ _ => some session.account
  | _ => none

end Task

/-- What a task has read is known, and what it has closed is closed. -/
def TaskSound (rows : List (WalletSession User Account)) (task : Task User Account) : Prop :=
  (∀ session ∈ task.reads, Known rows session) ∧ ∀ session ∈ task.closed, Closed rows session

namespace Server

/-- The rows are sound, the tasks match them, and the locks are asked for by the tasks that wait. -/
structure Sound (s : Server User Account) : Prop where
  rows : RowsSound s.rows s.nextSession
  tasks : ∀ id task, s.tasks id = some task → TaskSound s.rows task
  fresh : ∀ id, s.nextTask ≤ id → s.tasks id = none
  queued : ∀ account id, id ∈ s.lock account ↔
    ∃ task, s.tasks id = some task ∧ task.waitsFor = some account
  once : ∀ account, (s.lock account).Nodup
  holder : ∀ id session left, s.tasks id = some (.check session true left) →
    s.holds session.account id = true

/-- A closed session of the account is left to decide about. -/
def ToDecide (s : Server User Account) (account : Account) : Prop :=
  ∃ id task, s.tasks id = some task ∧
    ∃ session ∈ task.left, session.account = account ∧ session.hasViewingKey = true

/-- One of the tasks checks whether to evict. -/
def Checks (s : Server User Account) (ids : List Nat) : Prop :=
  ∃ id ∈ ids, ∃ session evicting left, s.tasks id = some (.check session evicting left)

/-- An active session needs the wallet: it has its signing key, or its user has closed a session of
the wallet. -/
def Needed (rows : List (WalletSession User Account)) (account : Account) : Prop :=
  ∃ row ∈ rows, row.account = account ∧ row.isActive = true ∧ (row.hasSeedKey = true ∨
      ∃ closed ∈ rows, closed.account = account ∧ closed.userId = row.userId ∧
        closed.isActive = false)

/-- What keeps a wallet loaded. -/
structure Watched [DecidableEq User] [DecidableEq Account] (s : Server User Account) : Prop where
  unneeded : ∀ id session left, s.tasks id = some (.check session true left) →
    hasLiveSessionForWallet s.rows s.now session.account session.userId = false
  loaded : ∀ account, s.loaded account = true →
    Needed s.rows account ∨ s.ToDecide account ∨ s.Checks (s.lock account)
  building : ∀ account before id after, s.lock account = before ++ id :: after →
    s.tasks id = some (.build account) → Needed s.rows account ∨ s.ToDecide account ∨ s.Checks after

theorem sound_start : (start : Server User Account).Sound where
  rows := ⟨List.nodup_nil, nofun, nofun⟩
  tasks := nofun
  fresh _ _ := rfl
  queued _ _ := ⟨nofun, fun ⟨_, impossible, _⟩ => nomatch impossible⟩
  once _ := List.nodup_nil
  holder := nofun

theorem watched_start [DecidableEq User] [DecidableEq Account] :
    (start : Server User Account).Watched where
  unneeded := nofun
  loaded := nofun
  building account before id after impossible := by
    have inside : id ∈ ([] : List Nat) := by
      have isLock : [] = before ++ id :: after := impossible
      rw [isLock]
      simp
    cases inside

section Tasks

variable {s s' : Server User Account} {account : Account} {id : Nat}

@[simp] theorem setTask_tasks (s : Server User Account) (id other : Nat)
    (task : Option (Task User Account)) :
    (s.setTask id task).tasks other = if other = id then task else s.tasks other :=
  rfl

theorem ToDecide.move (toDecide : s.ToDecide account)
    (others : ∀ other ≠ id, s'.tasks other = s.tasks other)
    (goesOn : ∀ task, s.tasks id = some task → ∀ session ∈ task.left, session.account = account →
      session.hasViewingKey = true → s'.ToDecide account) : s'.ToDecide account := by
  obtain ⟨other, task, isTask, session, isLeft, isAccount, seen⟩ := toDecide
  by_cases same : other = id
  · subst same
    exact goesOn task isTask session isLeft isAccount seen
  · exact ⟨other, task, (others other same).trans isTask, session, isLeft, isAccount, seen⟩

theorem Checks.move {ids : List Nat} (checks : s.Checks ids)
    (others : ∀ other ≠ id, s'.tasks other = s.tasks other) (outside : id ∉ ids) :
    s'.Checks ids := by
  obtain ⟨other, listed, session, evicting, left, isCheck⟩ := checks
  have different : other ≠ id := by
    rintro rfl
    exact outside listed
  exact ⟨other, listed, session, evicting, left, (others other different).trans isCheck⟩

/-- A task that waits for no lock is in none. -/
theorem Sound.notMem_lock (sound : s.Sound) {task : Task User Account}
    (isTask : s.tasks id = some task) (idle : task.waitsFor = none) : id ∉ s.lock account := by
  intro listed
  obtain ⟨other, isOther, waits⟩ := (sound.queued account id).mp listed
  rw [isTask] at isOther
  cases isOther
  rw [idle] at waits
  cases waits

theorem Sound.lt_nextTask (sound : s.Sound) {task : Task User Account}
    (isTask : s.tasks id = some task) : id < s.nextTask := by
  by_contra isFresh
  rw [sound.fresh id (Nat.not_lt.mp isFresh)] at isTask
  cases isTask

theorem Sound.fresh_setTask (sound : s.Sound) {old : Task User Account}
    (isOld : s.tasks id = some old) {next : Option (Task User Account)} (other : Nat)
    (isFresh : s.nextTask ≤ other) : (s.setTask id next).tasks other = none := by
  have known := sound.lt_nextTask isOld
  rw [setTask_tasks, if_neg (by omega)]
  exact sound.fresh other isFresh

theorem Sound.tasks_setTask (sound : s.Sound) {next : Option (Task User Account)}
    (nextSound : ∀ task, next = some task → TaskSound s.rows task) (other : Nat)
    (task : Task User Account) (isTask : (s.setTask id next).tasks other = some task) :
    TaskSound s.rows task := by
  rw [setTask_tasks] at isTask
  split at isTask
  · exact nextSound task isTask
  · exact sound.tasks other task isTask

end Tasks

end Server

variable {rows : List (WalletSession User Account)} {task : Task User Account}

theorem TaskSound.updateWhere {holds : WalletSession User Account → Bool}
    {change : WalletSession User Account → WalletSession User Account} (sound : TaskSound rows task)
    (isChange : RowChange change) :
    TaskSound (updateWhere holds change rows) task :=
  ⟨fun session isRead => (sound.1 session isRead).updateWhere isChange,
    fun session isClosed => (sound.2 session isClosed).updateWhere isChange⟩

theorem TaskSound.append (sound : TaskSound rows task) (more : List (WalletSession User Account)) :
    TaskSound (rows ++ more) task :=
  ⟨fun session isRead => (sound.1 session isRead).append more,
    fun session isClosed => (sound.2 session isClosed).append more⟩

namespace Server

section Changes

variable {s : Server User Account} {account : Account} {id : Nat}

variable (sound : s.Sound)

include sound

theorem Sound.setLoaded [DecidableEq Account] (account : Account)
    (isLoaded : Bool) : (s.setLoaded account isLoaded).Sound :=
  ⟨sound.rows, sound.tasks, sound.fresh, sound.queued, sound.once, sound.holder⟩

/-- A new call asks for no lock yet. -/
theorem Sound.spawn (taskSound : TaskSound s.rows task)
    (idle : task.waitsFor = none) : (s.spawn task).Sound where
  rows := sound.rows
  tasks other := by
    intro otherTask isTask
    rw [Server.spawn, setTask_tasks] at isTask
    split at isTask
    · cases isTask
      exact taskSound
    · exact sound.tasks other otherTask isTask
  fresh other isFresh := by
    have beyond : s.nextTask + 1 ≤ other := isFresh
    rw [Server.spawn, setTask_tasks, if_neg (by omega)]
    exact sound.fresh other (by omega)
  queued account other := by
    rw [Server.spawn, setTask_tasks]
    refine (sound.queued account other).trans ?_
    split
    next isNew =>
      rw [sound.fresh other (Nat.le_of_eq isNew.symm)]
      constructor
      · rintro ⟨_, impossible, _⟩
        cases impossible
      · rintro ⟨_, ⟨⟩, waits⟩
        rw [idle] at waits
        cases waits
    · exact Iff.rfl
  once := sound.once
  holder other session left isCheck := by
    rw [Server.spawn, setTask_tasks] at isCheck
    split at isCheck
    · cases isCheck
      cases idle
    · exact sound.holder other session left isCheck

/-- A task that neither had nor asks for a lock goes on, and may write rows. -/
theorem Sound.turn {old : Task User Account} (isOld : s.tasks id = some old)
    (idle : old.waitsFor = none) (rowsSound : RowsSound rows s.nextSession)
    (evolves : ∀ task, TaskSound s.rows task → TaskSound rows task)
    {next : Option (Task User Account)}
    (nextSound : ∀ task, next = some task → TaskSound rows task ∧ task.waitsFor = none) :
    ((s.setRows rows).setTask id next).Sound where
  rows := rowsSound
  tasks other := by
    intro task isTask
    rw [setTask_tasks] at isTask
    split at isTask
    · exact (nextSound task isTask).1
    · exact evolves task (sound.tasks other task isTask)
  fresh := sound.fresh_setTask isOld
  queued account other := by
    rw [setTask_tasks]
    refine (sound.queued account other).trans ?_
    split
    next same =>
      subst same
      rw [isOld]
      constructor
      · rintro ⟨_, ⟨⟩, waits⟩
        rw [idle] at waits
        cases waits
      · rintro ⟨task, isNext, waits⟩
        rw [(nextSound task isNext).2] at waits
        cases waits
    · exact Iff.rfl
  once := sound.once
  holder other session left isCheck := by
    rw [setTask_tasks] at isCheck
    split at isCheck
    · exact nomatch (nextSound _ isCheck).2
    · exact sound.holder other session left isCheck

/-- A task asks for a lock. -/
theorem Sound.ask [DecidableEq Account] {old next : Task User Account}
    (isOld : s.tasks id = some old) (idle : old.waitsFor = none) (taskSound : TaskSound s.rows next)
    (waits : next.waitsFor = some account)
    (notEvicting : ∀ session left, next ≠ .check session true left) :
    ((s.setTask id (some next)).enqueue account id).Sound where
  rows := sound.rows
  tasks := sound.tasks_setTask fun _ isNext => Option.some.inj isNext ▸ taskSound
  fresh := sound.fresh_setTask isOld
  queued queue other := by
    show other ∈ (if queue = account then s.lock queue ++ [id] else s.lock queue) ↔
      ∃ task, (s.setTask id (some next)).tasks other = some task ∧ task.waitsFor = some queue
    rw [setTask_tasks]
    have before := sound.queued queue other
    by_cases same : other = id
    · subst same
      rw [if_pos rfl]
      have outside : other ∉ s.lock queue := sound.notMem_lock isOld idle
      split
      next own =>
        subst own
        simp [waits]
      next different =>
        simp [outside, waits, Ne.symm different]
    · rw [if_neg same]
      split
      · simpa [same] using before
      · exact before
  once queue := by
    show (if queue = account then s.lock queue ++ [id] else s.lock queue).Nodup
    split
    · rw [List.nodup_append]
      refine ⟨sound.once queue, by simp, ?_⟩
      rintro other listed _ isId rfl
      rw [List.mem_singleton] at isId
      subst isId
      exact sound.notMem_lock isOld idle listed
    · exact sound.once queue
  holder other session left isCheck := by
    have isCheck' : (s.setTask id (some next)).tasks other = some (.check session true left) :=
      isCheck
    rw [setTask_tasks] at isCheck'
    split at isCheck'
    · exact absurd (Option.some.inj isCheck') (notEvicting session left)
    · have isHead := sound.holder other session left isCheck'
      rw [holds, decide_eq_true_eq] at isHead ⊢
      show (if session.account = account then s.lock session.account ++ [id]
        else s.lock session.account).head? = some other
      split
      · rw [List.head?_append, isHead, Option.some_or]
      · exact isHead

/-- A task that has the lock gives it back. -/
theorem Sound.leave [DecidableEq Account] {old : Task User Account}
    (isOld : s.tasks id = some old) (waits : old.waitsFor = some account)
    (has : s.holds account id = true) {next : Option (Task User Account)}
    (nextSound : ∀ task, next = some task → TaskSound s.rows task ∧ task.waitsFor = none) :
    ((s.release account).setTask id next).Sound where
  rows := sound.rows
  tasks := sound.tasks_setTask fun task isNext => (nextSound task isNext).1
  fresh := sound.fresh_setTask isOld
  queued queue other := by
    show other ∈ (if queue = account then (s.lock queue).tail else s.lock queue) ↔
      ∃ task, (s.setTask id next).tasks other = some task ∧ task.waitsFor = some queue
    rw [setTask_tasks]
    have before := sound.queued queue other
    by_cases same : other = id
    · subst same
      rw [if_pos rfl]
      have none : ¬∃ task, next = some task ∧ task.waitsFor = some queue := by
        rintro ⟨task, isNext, waits⟩
        rw [(nextSound task isNext).2] at waits
        cases waits
      refine iff_of_false ?_ none
      split
      next own =>
        subst own
        obtain ⟨rest, isLock⟩ := List.head?_eq_some_iff.mp (of_decide_eq_true has)
        have once := sound.once queue
        rw [isLock, List.nodup_cons] at once
        rw [isLock]
        exact once.1
      next different =>
        intro listed
        obtain ⟨task, isTask, waits'⟩ := before.mp listed
        rw [isOld] at isTask
        cases isTask
        rw [waits] at waits'
        exact different (Option.some.inj waits').symm
    · rw [if_neg same]
      split
      next own =>
        subst own
        obtain ⟨rest, isLock⟩ := List.head?_eq_some_iff.mp (of_decide_eq_true has)
        rw [isLock, List.mem_cons] at before
        rw [isLock]
        simpa [same] using before
      · exact before
  once queue := by
    show (if queue = account then (s.lock queue).tail else s.lock queue).Nodup
    split
    · exact (sound.once queue).sublist (List.tail_sublist _)
    · exact sound.once queue
  holder other session left isCheck := by
    rw [setTask_tasks] at isCheck
    split at isCheck
    · exact nomatch (nextSound _ isCheck).2
    next different =>
      have isHead := sound.holder other session left isCheck
      show decide ((if session.account = account then (s.lock session.account).tail
        else s.lock session.account).head? = some other) = true
      split
      next own =>
        rw [own, holds, decide_eq_true_eq] at isHead
        rw [holds, decide_eq_true_eq, isHead] at has
        exact absurd (Option.some.inj has) different
      · exact isHead

/-- A check that has the lock decides to evict. -/
theorem Sound.decide {session : WalletSession User Account}
    {left : List (WalletSession User Account)}
    (isOld : s.tasks id = some (.check session false left))
    (has : s.holds session.account id = true) :
    (s.setTask id (some (.check session true left))).Sound where
  rows := sound.rows
  tasks := by
    apply sound.tasks_setTask
    rintro _ ⟨⟩
    have before := sound.tasks id _ isOld
    exact ⟨before.1, before.2⟩
  fresh := sound.fresh_setTask isOld
  queued account other := by
    rw [setTask_tasks]
    refine (sound.queued account other).trans ?_
    split
    next same =>
      subst same
      rw [isOld]
      simp [Task.waitsFor]
    · exact Iff.rfl
  once := sound.once
  holder other otherSession otherLeft isCheck := by
    rw [setTask_tasks] at isCheck
    split at isCheck
    next same =>
      cases isCheck
      subst same
      exact has
    · exact sound.holder other otherSession otherLeft isCheck

end Changes

/-! ## What keeps a wallet loaded, step by step -/

section Watch

variable [DecidableEq User] [DecidableEq Account] {s s' : Server User Account} {account : Account}
  {id : Nat}

/-- Who stands in a queue waits in it, and so do those behind. -/
theorem waiting_of_lock {queue before after : List Nat} (isQueue : queue = before ++ id :: after) :
    id ∈ queue ∧ ∀ later ∈ after, later ∈ queue := by
  subst isQueue
  exact ⟨List.mem_append_right _ List.mem_cons_self,
    fun _ isLater => List.mem_append_right _ (List.mem_cons_of_mem _ isLater)⟩

/-- A task outside the locks goes on. -/
theorem Watched.change (watched : s.Watched) (lock : s'.lock = s.lock)
    (loaded : s'.loaded = s.loaded) (others : ∀ other ≠ id, s'.tasks other = s.tasks other)
    (outside : ∀ account, id ∉ s.lock account)
    (idle : ∀ task, s'.tasks id = some task → task.waitsFor = none)
    (unneeded : ∀ other session left, s.tasks other = some (.check session true left) →
      hasLiveSessionForWallet s'.rows s'.now session.account session.userId = false)
    (needed : ∀ account, Needed s.rows account → Needed s'.rows account ∨ s'.ToDecide account)
    (goesOn : ∀ account task, s.tasks id = some task → ∀ session ∈ task.left,
      session.account = account → session.hasViewingKey = true → s'.ToDecide account) :
    s'.Watched := by
  have decides : ∀ account, s.ToDecide account → s'.ToDecide account :=
    fun account toDecide => toDecide.move others (goesOn account)
  constructor
  · intro other session left isCheck
    by_cases same : other = id
    · subst same
      cases idle _ isCheck
    · rw [others other same] at isCheck
      exact unneeded other session left isCheck
  · intro account isLoaded
    rw [loaded] at isLoaded
    rw [lock]
    rcases watched.loaded account isLoaded with isNeeded | toDecide | isChecked
    · exact (needed account isNeeded).imp_right .inl
    · exact .inr (.inl (decides account toDecide))
    · exact .inr (.inr (isChecked.move others (outside account)))
  · intro account before other after isLock isBuild
    rw [lock] at isLock
    obtain ⟨listed, inside⟩ := waiting_of_lock isLock
    rw [others other fun same => outside account (same ▸ listed)] at isBuild
    rcases watched.building account before other after isLock isBuild with
      isNeeded | toDecide | isChecked
    · exact (needed account isNeeded).imp_right .inl
    · exact .inr (.inl (decides account toDecide))
    · exact .inr (.inr (isChecked.move others fun behind => outside account (inside id behind)))

/-- A task asks for a lock, to build or to check. -/
theorem Watched.ask (sound : s.Sound) (watched : s.Watched) {old next : Task User Account}
    (isOld : s.tasks id = some old) (idle : old.waitsFor = none)
    (notEvicting : ∀ session left, next ≠ .check session true left)
    (goesOn : ∀ account, ∀ session ∈ old.left, session.account = account →
      session.hasViewingKey = true →
        (∃ session ∈ next.left, session.account = account ∧ session.hasViewingKey = true) ∨
        ∃ session evicting left, next = .check session evicting left ∧ session.account = account)
    (waits : next.waitsFor = some account)
    (inTime : next = .build account → Needed s.rows account ∨ s.ToDecide account)
    (nothingLeft : next = .build account → old.left = []) :
    ((s.setTask id (some next)).enqueue account id).Watched := by
  have isNext : ((s.setTask id (some next)).enqueue account id).tasks id = some next := if_pos rfl
  have others : ∀ other ≠ id,
      ((s.setTask id (some next)).enqueue account id).tasks other = s.tasks other :=
    fun other different => if_neg different
  have outside : ∀ account, id ∉ s.lock account := fun account => sound.notMem_lock isOld idle
  have isLock : ∀ queue, ((s.setTask id (some next)).enqueue account id).lock queue =
      if queue = account then s.lock queue ++ [id] else s.lock queue := fun _ => rfl
  -- what is left to decide about is so still, or the check asks for the lock now
  have decides : ∀ queue, s.ToDecide queue →
      ((s.setTask id (some next)).enqueue account id).ToDecide queue ∨
        (queue = account ∧ ∃ session evicting left, next = .check session evicting left) := by
    rintro queue ⟨other, task, isTask, session, isLeft, isAccount, seen⟩
    by_cases same : other = id
    · subst same
      rw [isOld] at isTask
      cases isTask
      rcases goesOn queue session isLeft isAccount seen with
        ⟨later, isLater, both⟩ | ⟨now, evicting, left, isCheck, sameAccount⟩
      · exact .inl ⟨other, next, isNext, later, isLater, both⟩
      · rw [isCheck, Task.waitsFor, sameAccount, Option.some_inj] at waits
        exact .inr ⟨waits, now, evicting, left, isCheck⟩
    · exact .inl ⟨other, task, (others other same).trans isTask, session, isLeft, isAccount, seen⟩
  constructor
  · intro other session left isCheck
    by_cases same : other = id
    · subst same
      rw [isNext] at isCheck
      exact absurd (Option.some.inj isCheck) (notEvicting session left)
    · rw [others other same] at isCheck
      exact watched.unneeded other session left isCheck
  · intro queue isLoaded
    rw [isLock]
    rcases watched.loaded queue isLoaded with isNeeded | toDecide | isChecked
    · exact .inl isNeeded
    · rcases decides queue toDecide with stays | ⟨isAccount, session, evicting, left, isCheck⟩
      · exact .inr (.inl stays)
      · refine .inr (.inr ⟨id, ?_, session, evicting, left, isCheck ▸ isNext⟩)
        rw [if_pos isAccount]
        exact List.mem_append_right _ List.mem_cons_self
    · obtain ⟨other, listed, rest⟩ := isChecked.move others (outside queue)
      refine .inr (.inr ⟨other, ?_, rest⟩)
      split
      · exact List.mem_append_left _ listed
      · exact listed
  · intro queue before other after isQueue isBuild
    rw [isLock] at isQueue
    have earlier : ∀ tail, s.lock queue = before ++ other :: tail →
        (∀ later ∈ tail, later ∈ after) →
        (queue = account → id ∈ after) →
        Needed s.rows queue ∨ ((s.setTask id (some next)).enqueue account id).ToDecide queue ∨
          ((s.setTask id (some next)).enqueue account id).Checks after := by
      intro tail isTail within asked
      obtain ⟨listed, inside⟩ := waiting_of_lock isTail
      rw [others other fun same => outside queue (same ▸ listed)] at isBuild
      rcases watched.building queue before other tail isTail isBuild with
        isNeeded | toDecide | isChecked
      · exact .inl isNeeded
      · rcases decides queue toDecide with stays | ⟨isAccount, session, evicting, left, isCheck⟩
        · exact .inr (.inl stays)
        · exact .inr (.inr ⟨id, asked isAccount, session, evicting, left, isCheck ▸ isNext⟩)
      · obtain ⟨later, isLater, rest⟩ :=
          isChecked.move others fun behind => outside queue (inside id behind)
        exact .inr (.inr ⟨later, within later isLater, rest⟩)
    split at isQueue
    next isAccount =>
      rcases List.eq_nil_or_concat after with rfl | ⟨tail, last, rfl⟩
      · obtain ⟨_, isLast⟩ := List.append_inj' isQueue rfl
        cases isLast
        rw [isNext] at isBuild
        have builds : next = .build account := by
          rw [← isAccount]
          exact Option.some.inj isBuild
        subst isAccount
        rcases inTime builds with isNeeded | toDecide
        · exact .inl isNeeded
        · refine .inr (.inl (toDecide.move others ?_))
          intro task isTask session isLeft
          rw [isOld] at isTask
          cases isTask
          rw [nothingLeft builds] at isLeft
          cases isLeft
      · have shifted : s.lock queue ++ [id] = (before ++ other :: tail) ++ [last] := by
          rw [isQueue]
          simp
        obtain ⟨isTail, isLast⟩ := List.append_inj' shifted rfl
        cases isLast
        exact earlier tail isTail (fun later isLater => by simp [isLater]) fun _ => by simp
    next different =>
      exact earlier after isQueue (fun _ isLater => isLater) fun same => absurd same different

/-- A task that has the lock gives it back. -/
theorem Watched.leave (sound : s.Sound) (watched : s.Watched) {old : Task User Account}
    (isOld : s.tasks id = some old) {rest : List Nat} (first : s.lock account = id :: rest)
    (rows : s'.rows = s.rows) (now : s'.now = s.now)
    (lock : ∀ queue, s'.lock queue =
      if queue = account then (s.lock queue).tail else s.lock queue)
    (others : ∀ other ≠ id, s'.tasks other = s.tasks other)
    (idle : ∀ task, s'.tasks id = some task → task.waitsFor = none)
    (goesOn : ∀ queue, ∀ session ∈ old.left, session.account = queue →
      session.hasViewingKey = true → s'.ToDecide queue)
    (elsewhere : ∀ queue ≠ account, s'.loaded queue = s.loaded queue)
    (here : s'.loaded account = true →
      Needed s.rows account ∨ s.ToDecide account ∨ s.Checks rest) : s'.Watched := by
  have decides : ∀ queue, s.ToDecide queue → s'.ToDecide queue := by
    intro queue toDecide
    apply toDecide.move others
    intro task isTask
    rw [isOld] at isTask
    cases isTask
    exact goesOn queue
  have once := sound.once account
  rw [first, List.nodup_cons] at once
  have outside : ∀ queue, id ∉ s'.lock queue := by
    intro queue listed
    rw [lock] at listed
    split at listed
    next same =>
      subst same
      rw [first] at listed
      exact once.1 listed
    next different =>
      obtain ⟨task, isTask, waits⟩ := (sound.queued queue id).mp listed
      have own : id ∈ s.lock account := by
        rw [first]
        exact List.mem_cons_self
      obtain ⟨task', isTask', waits'⟩ := (sound.queued account id).mp own
      rw [isTask] at isTask'
      cases isTask'
      rw [waits] at waits'
      exact different (Option.some.inj waits')
  constructor
  · intro other session left isCheck
    by_cases same : other = id
    · subst same
      cases idle _ isCheck
    · rw [others other same] at isCheck
      rw [rows, now]
      exact watched.unneeded other session left isCheck
  · intro queue isLoaded
    by_cases same : queue = account
    · subst same
      have isRest : s'.lock queue = rest := by rw [lock, if_pos rfl, first, List.tail_cons]
      rw [rows, isRest]
      refine (here isLoaded).imp_right (Or.imp (decides queue) fun isChecked =>
        isChecked.move others (isRest ▸ outside queue))
    · rw [elsewhere queue same] at isLoaded
      have isLock : s'.lock queue = s.lock queue := by rw [lock, if_neg same]
      rw [rows]
      rcases watched.loaded queue isLoaded with isNeeded | toDecide | isChecked
      · exact .inl isNeeded
      · exact .inr (.inl (decides queue toDecide))
      · rw [← isLock] at isChecked
        exact .inr (.inr (isChecked.move others (outside queue)))
  · intro queue before other after isQueue isBuild
    obtain ⟨listed, inside⟩ := waiting_of_lock isQueue
    rw [others other fun same => outside queue (same ▸ listed)] at isBuild
    have before' : ∃ before', s.lock queue = before' ++ other :: after := by
      rw [lock] at isQueue
      split at isQueue
      next same =>
        subst same
        rw [first] at isQueue ⊢
        have isRest : rest = before ++ other :: after := isQueue
        exact ⟨id :: before, by rw [isRest, List.cons_append]⟩
      · exact ⟨before, isQueue⟩
    obtain ⟨before', isLock⟩ := before'
    rw [rows]
    rcases watched.building queue before' other after isLock isBuild with
      isNeeded | toDecide | isChecked
    · exact .inl isNeeded
    · exact .inr (.inl (decides queue toDecide))
    · exact .inr (.inr (isChecked.move others fun behind => outside queue (inside id behind)))

/-- A check that has the lock finds no session that needs the wallet. -/
theorem Watched.decide (watched : s.Watched) {session : WalletSession User Account}
    {left : List (WalletSession User Account)}
    (isOld : s.tasks id = some (.check session false left))
    (unneeded : hasLiveSessionForWallet s.rows s.now session.account session.userId = false) :
    (s.setTask id (some (.check session true left))).Watched := by
  have decides : ∀ account, s.ToDecide account →
      (s.setTask id (some (.check session true left))).ToDecide account := by
    intro account toDecide
    apply toDecide.move fun other different => if_neg different
    intro task isTask later isLeft isAccount seen
    rw [isOld] at isTask
    cases isTask
    exact ⟨id, .check session true left, if_pos rfl, later, isLeft, isAccount, seen⟩
  have checks : ∀ ids, s.Checks ids →
      (s.setTask id (some (.check session true left))).Checks ids := by
    rintro ids ⟨other, listed, otherSession, evicting, otherLeft, isCheck⟩
    by_cases same : other = id
    · exact ⟨other, listed, session, true, left, if_pos same⟩
    · exact ⟨other, listed, otherSession, evicting, otherLeft, (if_neg same).trans isCheck⟩
  constructor
  · intro other otherSession otherLeft isCheck
    rw [setTask_tasks] at isCheck
    split at isCheck
    · cases isCheck
      exact unneeded
    · exact watched.unneeded other otherSession otherLeft isCheck
  · intro account isLoaded
    exact (watched.loaded account isLoaded).imp_right (Or.imp (decides account) (checks _))
  · intro account before other after isLock isBuild
    rw [setTask_tasks] at isBuild
    split at isBuild
    · cases isBuild
    · exact (watched.building account before other after isLock isBuild).imp_right
        (Or.imp (decides account) (checks _))

end Watch

end Server

/-! ## Rows that are written -/

section Needs

variable {rows : List (WalletSession User Account)} {nextSession : Nat}
  {holds : WalletSession User Account → Bool} {account : Account}

/-- Closing sessions leaves a need, or closes one that is active. -/
theorem Server.Needed.close (needed : Server.Needed rows account) :
    Server.Needed (updateWhere holds WalletSession.close rows) account ∨
      ∃ row ∈ rows, row.account = account ∧ row.isActive = true ∧ holds row = true := by
  obtain ⟨row, isRow, isAccount, active, why⟩ := needed
  cases hit : holds row with
  | true => exact .inr ⟨row, isRow, isAccount, active, hit⟩
  | false =>
    refine .inl ⟨row, mem_updateWhere.mpr ⟨row, isRow, if_neg (by simp [hit])⟩, isAccount, active,
      why.imp_right ?_⟩
    rintro ⟨closed, isClosed, sameAccount, sameUser, inactive⟩
    refine ⟨_, mem_updateWhere.mpr ⟨closed, isClosed, rfl⟩, ?_⟩
    split
    · exact ⟨sameAccount, sameUser, rfl⟩
    · exact ⟨sameAccount, sameUser, inactive⟩

theorem Server.Needed.sign (needed : Server.Needed rows account) :
    Server.Needed (updateWhere holds (fun row => { row with hasSeedKey := true }) rows)
      account := by
  have member : ∀ row ∈ rows, (if holds row then { row with hasSeedKey := true } else row) ∈
      updateWhere holds (fun row => { row with hasSeedKey := true }) rows :=
    fun row isRow => mem_updateWhere.mpr ⟨row, isRow, rfl⟩
  obtain ⟨row, isRow, isAccount, active, why⟩ := needed
  refine ⟨_, member row isRow, ?_, ?_, ?_⟩
  · split <;> exact isAccount
  · split <;> exact active
  · rcases why with hasKey | ⟨closed, isClosed, sameAccount, sameUser, inactive⟩
    · left
      split
      · rfl
      · exact hasKey
    · right
      refine ⟨_, member closed isClosed, ?_⟩
      split <;> split <;> exact ⟨sameAccount, sameUser, inactive⟩

theorem Server.Needed.append (needed : Server.Needed rows account)
    (more : List (WalletSession User Account)) : Server.Needed (rows ++ more) account := by
  obtain ⟨row, isRow, isAccount, active, why⟩ := needed
  refine ⟨row, List.mem_append_left _ isRow, isAccount, active, why.imp_right ?_⟩
  rintro ⟨closed, isClosed, same⟩
  exact ⟨closed, List.mem_append_left _ isClosed, same⟩

/-- The session that was read, of a row that is active. -/
theorem Known.of_row (sound : RowsSound rows nextSession) {session row : WalletSession User Account}
    (known : Known rows session) (isRow : row ∈ rows) (sameId : row.sessionId = session.sessionId)
    (active : row.isActive = true) :
    session.account = row.account ∧ session.hasViewingKey = true := by
  obtain ⟨other, isOther, otherId, _, sameAccount, seen⟩ := known
  have same : other = row :=
    List.inj_on_of_nodup_map sound.distinct isOther isRow (otherId.trans sameId.symm)
  subst same
  exact ⟨sameAccount.symm, seen active⟩

end Needs

section Lives

variable [DecidableEq User] [DecidableEq Account] {rows : List (WalletSession User Account)}
  {now : Nat} {account : Account} {userId : User}

theorem hasLive_iff : hasLiveSessionForWallet rows now account userId = true ↔
    ∃ row ∈ rows, row.account = account ∧ row.isActive = true ∧
      (row.userId = userId ∨ row.hasSeedKey = true) ∧ row.isSessionExpired now = false := by
  simp only [hasLiveSessionForWallet, List.any_eq_true, Bool.and_eq_true, Bool.or_eq_true,
    decide_eq_true_eq, Bool.not_eq_true', and_assoc]

theorem hasLive_close {holds : WalletSession User Account → Bool}
    (unneeded : hasLiveSessionForWallet rows now account userId = false) :
    hasLiveSessionForWallet (updateWhere holds WalletSession.close rows) now account userId =
      false := by
  rw [Bool.eq_false_iff] at unneeded ⊢
  intro live
  obtain ⟨_, isRow, isAccount, active, why, unexpired⟩ := hasLive_iff.mp live
  obtain ⟨old, isOld, rfl⟩ := mem_updateWhere.mp isRow
  cases hit : holds old with
  | true =>
    rw [if_pos hit] at active
    cases active
  | false =>
    rw [if_neg (by simp [hit])] at isAccount active why unexpired
    exact unneeded (hasLive_iff.mpr ⟨old, isOld, isAccount, active, why, unexpired⟩)

theorem hasLive_later {later : Nat} (isLater : now ≤ later)
    (unneeded : hasLiveSessionForWallet rows now account userId = false) :
    hasLiveSessionForWallet rows later account userId = false := by
  rw [Bool.eq_false_iff] at unneeded ⊢
  intro live
  obtain ⟨row, isRow, isAccount, active, why, unexpired⟩ := hasLive_iff.mp live
  refine unneeded (hasLive_iff.mpr ⟨row, isRow, isAccount, active, why, ?_⟩)
  cases isExpiry : row.expiresAt with
  | none => rw [WalletSession.isSessionExpired, isExpiry, Option.any_none]
  | some expiresAt =>
    simp only [WalletSession.isSessionExpired, isExpiry, Option.any_some,
      decide_eq_false_iff_not] at unexpired ⊢
    omega

end Lives

theorem mem_decided [DecidableEq Account] {hashes : List Account}
    {sessions : List (WalletSession User Account)} {session : WalletSession User Account}
    (isDecided : session ∈ decided hashes sessions) : session ∈ sessions := by
  induction sessions generalizing hashes with
  | nil => cases isDecided
  | cons first rest ih =>
    rw [decided] at isDecided
    split at isDecided
    · exact List.mem_cons_of_mem _ (ih isDecided)
    · split at isDecided
      · exact List.mem_cons_of_mem _ (ih isDecided)
      · rcases List.mem_cons.mp isDecided with rfl | later
        · exact List.mem_cons_self
        · exact List.mem_cons_of_mem _ (ih later)

/-- A cleanup decides about every wallet whose session it closes. -/
theorem exists_decided [DecidableEq Account] {hashes : List Account}
    {sessions : List (WalletSession User Account)} {session : WalletSession User Account}
    (isRead : session ∈ sessions) (seen : session.hasViewingKey = true)
    (undecided : session.account ∉ hashes) :
    ∃ other ∈ decided hashes sessions,
      other.account = session.account ∧ other.hasViewingKey = true := by
  induction sessions generalizing hashes with
  | nil => cases isRead
  | cons first rest ih =>
    rw [decided]
    by_cases hasKey : first.hasViewingKey = true
    · rw [if_neg (by simp [hasKey])]
      by_cases same : first.account = session.account
      · rw [if_neg (same ▸ undecided)]
        exact ⟨first, List.mem_cons_self, same, hasKey⟩
      · have later : session ∈ rest := by
          rcases List.mem_cons.mp isRead with rfl | later
          · exact absurd rfl same
          · exact later
        split
        · exact ih later undecided
        · have stillUndecided : session.account ∉ first.account :: hashes := by
            intro listed
            rcases List.mem_cons.mp listed with isFirst | listed
            · exact same isFirst.symm
            · exact undecided listed
          obtain ⟨other, isDecided, both⟩ := ih later stillUndecided
          exact ⟨other, List.mem_cons_of_mem _ isDecided, both⟩
    · rw [if_pos (by simp [hasKey])]
      rcases List.mem_cons.mp isRead with rfl | later
      · exact absurd seen hasKey
      · exact ih later undecided

end Nightgate.Sessions.FacadeSharing
