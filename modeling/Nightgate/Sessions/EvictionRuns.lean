import Nightgate.Sessions.FacadeEviction

/-!
# Runs of shared wallets

Every step keeps the locks, the tasks and the rows in order. Every careful step keeps what keeps a
wallet loaded, and an eviction after careful steps is of a wallet that no live session needs.
-/

namespace Nightgate.Sessions.FacadeSharing

open Library

variable {User Account : Type} {rows : List (WalletSession User Account)}

theorem RowsSound.append {nextSession : Nat} (sound : RowsSound rows nextSession) (userId : User)
    (account : Account) (expiresAt : Option Nat) :
    RowsSound (rows ++ [⟨nextSession, userId, account, true, true, false, expiresAt⟩])
      (nextSession + 1) where
  distinct := by
    rw [List.map_append, List.nodup_append]
    refine ⟨sound.distinct, List.nodup_singleton _, ?_⟩
    rintro sessionId isOld _ isNew rfl
    obtain ⟨row, isRow, rfl⟩ := List.mem_map.mp isOld
    have below := sound.below row isRow
    rw [List.mem_singleton.mp isNew] at below
    exact Nat.lt_irrefl nextSession below
  below row isRow := by
    rcases List.mem_append.mp isRow with isOld | isNew
    · exact Nat.lt_succ_of_lt (sound.below row isOld)
    · rw [List.mem_singleton.mp isNew]
      exact Nat.lt_succ_self _
  keyed row isRow active := by
    rcases List.mem_append.mp isRow with isOld | isNew
    · exact sound.keyed row isOld active
    · rw [List.mem_singleton.mp isNew]

variable {task : Task User Account}

/-- A task that has closed nothing. -/
theorem taskSound_idle
    (reads : ∀ session ∈ task.reads, Known rows session) (closed : task.closed = []) :
    TaskSound rows task :=
  ⟨reads, by simp [closed]⟩

section Lives

variable [DecidableEq User] [DecidableEq Account] {rows : List (WalletSession User Account)}
  {now : Nat} {account : Account} {userId : User}

/-- Nobody needs the wallet still: the new session has no signing key, and is of another user or
wallet. -/
theorem hasLive_append {row : WalletSession User Account}
    (unneeded : hasLiveSessionForWallet rows now account userId = false)
    (unsigned : row.hasSeedKey = false) (other : ¬(account = row.account ∧ userId = row.userId)) :
    hasLiveSessionForWallet (rows ++ [row]) now account userId = false := by
  rw [Bool.eq_false_iff] at unneeded ⊢
  intro live
  obtain ⟨found, isRow, isAccount, active, why, unexpired⟩ := hasLive_iff.mp live
  rcases List.mem_append.mp isRow with isOld | isNew
  · exact unneeded (hasLive_iff.mpr ⟨found, isOld, isAccount, active, why, unexpired⟩)
  · rw [List.mem_singleton.mp isNew] at isAccount why
    rcases why with sameUser | hasKey
    · exact other ⟨isAccount.symm, sameUser.symm⟩
    · rw [unsigned] at hasKey
      cases hasKey

/-- Nobody needs the wallet still: no session of it that is active is given its signing key. -/
theorem hasLive_sign {holds : WalletSession User Account → Bool}
    (unneeded : hasLiveSessionForWallet rows now account userId = false)
    (others : ∀ row ∈ rows, holds row = true → row.isActive = true →
      row.isSessionExpired now = false → row.account ≠ account) :
    hasLiveSessionForWallet (updateWhere holds (fun row => { row with hasSeedKey := true }) rows)
      now account userId = false := by
  rw [Bool.eq_false_iff] at unneeded ⊢
  intro live
  obtain ⟨_, isRow, isAccount, active, why, unexpired⟩ := hasLive_iff.mp live
  obtain ⟨old, isOld, rfl⟩ := mem_updateWhere.mp isRow
  cases hit : holds old with
  | true =>
    rw [if_pos hit] at isAccount active unexpired
    exact others old isOld hit active unexpired isAccount
  | false =>
    rw [if_neg (by simp [hit])] at isAccount active why unexpired
    exact unneeded (hasLive_iff.mpr ⟨old, isOld, isAccount, active, why, unexpired⟩)

/-- A session that keeps the wallet of one that is closed needs it. -/
theorem needed_of_live {session : WalletSession User Account}
    (live : hasLiveSessionForWallet rows now session.account session.userId = true)
    (closed : Closed rows session) : Server.Needed rows session.account := by
  obtain ⟨row, isRow, isAccount, active, why, _⟩ := hasLive_iff.mp live
  obtain ⟨other, isOther, otherAccount, otherUser, inactive⟩ := closed
  refine ⟨row, isRow, isAccount, active, ?_⟩
  rcases why with sameUser | hasKey
  · exact .inr ⟨other, isOther, otherAccount, otherUser.trans sameUser.symm, inactive⟩
  · exact .inl hasKey

end Lives

namespace Server

variable {s : Server User Account}

theorem Sound.connectWallet (sound : s.Sound) (userId : User) (account : Account)
    (expiresAt : Option Nat) : (s.connectWallet userId account expiresAt).Sound where
  rows := sound.rows.append userId account expiresAt
  tasks id task isTask := (sound.tasks id task isTask).append _
  fresh := sound.fresh
  queued := sound.queued
  once := sound.once
  holder := sound.holder

/-- What a check has left is closed still. -/
theorem Sound.closing (sound : s.Sound) {id : Nat} (isTask : s.tasks id = some task)
    {left : List (WalletSession User Account)} (isLeft : ∀ session ∈ left, session ∈ task.closed)
    (next : Task User Account) (isNext : some (Task.closing left) = some next) :
    TaskSound s.rows next ∧ next.waitsFor = none := by
  cases isNext
  refine ⟨⟨nofun, ?_⟩, rfl⟩
  intro session listed
  exact (sound.tasks id task isTask).2 session (isLeft session listed)

section Turns

variable [DecidableEq User] [DecidableEq Account]

/-- What an event does. -/
inductive Turn (s : Server User Account) : Event User Account → Server User Account → Prop
  | ignored (event : Event User Account) : s.Turn event s
  | ticks (time : Nat) : s.Turn (.tick time) { s with now := max s.now time }
  | connects (userId : User) (account : Account) (expiresAt : Option Nat) :
      s.Turn (.connectWallet userId account expiresAt) (s.connectWallet userId account expiresAt)
  /-- A call starts, which has read rows and closed none. -/
  | calls (event : Event User Account) (task : Task User Account) (idle : task.waitsFor = none)
      (reads : ∀ session ∈ task.reads, session ∈ s.rows) (closed : task.closed = []) :
      s.Turn event (s.spawn task)
  | signs {id sessionId userId} (succeeds : Bool)
      (isTask : s.tasks id = some (.sign sessionId userId)) :
      s.Turn (.proceed id succeeds) ((s.setRows (updateWhere
        (fun row => row.sessionId = sessionId && row.userId = userId)
        (fun row => { row with hasSeedKey := true }) s.rows)).setTask id none)
  | asks {id session} (succeeds : Bool) (isTask : s.tasks id = some (.command session)) :
      s.Turn (.proceed id succeeds)
        ((s.setTask id (some (.build session.account))).enqueue session.account id)
  | builds {id account} (succeeds : Bool) (isTask : s.tasks id = some (.build account))
      (has : s.holds account id = true) :
      s.Turn (.proceed id succeeds)
        (((s.setLoaded account (s.loaded account || succeeds)).release account).setTask id none)
  /-- The rows of what was read are deactivated. -/
  | closes {id task} (succeeds : Bool) (isTask : s.tasks id = some task)
      (idle : task.waitsFor = none) (nothing : task.left = [])
      (holds : WalletSession User Account → Bool) (closing : List (WalletSession User Account))
      (reads : ∀ session ∈ closing, session ∈ task.reads ∧ ∀ row : WalletSession User Account,
        row.sessionId = session.sessionId → row.userId = session.userId → holds row = true)
      (decides : ∀ row, holds row = true → ∃ session ∈ task.reads,
        row.sessionId = session.sessionId ∧ (session.hasViewingKey = true →
          ∃ other ∈ closing, other.account = session.account ∧ other.hasViewingKey = true)) :
      s.Turn (.proceed id succeeds)
        ((s.setRows (updateWhere holds WalletSession.close s.rows)).setTask id
          (some (.closing closing)))
  | ends {id} (succeeds : Bool) (isTask : s.tasks id = some (.closing [])) :
      s.Turn (.proceed id succeeds) (s.setTask id none)
  | skips {id session left} (succeeds : Bool)
      (isTask : s.tasks id = some (.closing (session :: left)))
      (unseen : session.hasViewingKey = false) :
      s.Turn (.proceed id succeeds) (s.setTask id (some (.closing left)))
  | checks {id session left} (succeeds : Bool)
      (isTask : s.tasks id = some (.closing (session :: left))) :
      s.Turn (.proceed id succeeds)
        ((s.setTask id (some (.check session false left))).enqueue session.account id)
  | keeps {id session left} (succeeds : Bool)
      (isTask : s.tasks id = some (.check session false left))
      (has : s.holds session.account id = true)
      (live : hasLiveSessionForWallet s.rows s.now session.account session.userId = true) :
      s.Turn (.proceed id succeeds) ((s.release session.account).setTask id (some (.closing left)))
  | decides {id session left} (succeeds : Bool)
      (isTask : s.tasks id = some (.check session false left))
      (has : s.holds session.account id = true)
      (unneeded : hasLiveSessionForWallet s.rows s.now session.account session.userId = false) :
      s.Turn (.proceed id succeeds) (s.setTask id (some (.check session true left)))
  | evicts {id session left} (succeeds : Bool)
      (isTask : s.tasks id = some (.check session true left)) :
      s.Turn (.proceed id succeeds)
        (((s.setLoaded session.account false).release session.account).setTask id
          (some (.closing left)))

theorem turn_disconnects {id : Nat} {session : WalletSession User Account} (succeeds : Bool)
    (isTask : s.tasks id = some (.disconnect session)) :
    s.Turn (.proceed id succeeds) (s.proceed id succeeds) := by
  simp only [Server.proceed, isTask]
  refine .closes succeeds isTask rfl rfl _ _ ?_ ?_
  · intro other isOther
    rw [List.mem_singleton.mp isOther]
    exact ⟨List.mem_cons_self, fun row sameId sameUser => by simp [sameId, sameUser]⟩
  · intro row hit
    simp only [Bool.and_eq_true, decide_eq_true_eq] at hit
    exact ⟨session, List.mem_cons_self, hit.1, fun seen => ⟨session, List.mem_cons_self, rfl, seen⟩⟩

theorem turn_cleansUp {id : Nat} {sessions : List (WalletSession User Account)} (succeeds : Bool)
    (isTask : s.tasks id = some (.cleanup sessions)) :
    s.Turn (.proceed id succeeds) (s.proceed id succeeds) := by
  simp only [Server.proceed, isTask]
  refine .closes succeeds isTask rfl rfl _ _ ?_ ?_
  · intro session isClosed
    have isRead : session ∈ sessions := mem_decided isClosed
    refine ⟨isRead, fun row sameId _ => List.any_eq_true.mpr ⟨session, isRead, ?_⟩⟩
    rw [sameId, decide_eq_true rfl]
  · intro row hit
    obtain ⟨session, isRead, sameId⟩ := List.any_eq_true.mp hit
    exact ⟨session, isRead, (of_decide_eq_true sameId).symm,
      fun seen => exists_decided isRead seen List.not_mem_nil⟩

theorem turn_proceed (s : Server User Account) (id : Nat) (succeeds : Bool) :
    s.Turn (.proceed id succeeds) (s.proceed id succeeds) := by
  cases isTask : s.tasks id with
  | none =>
    simp only [Server.proceed, isTask]
    exact .ignored _
  | some task =>
    cases task with
    | disconnect session => exact turn_disconnects succeeds isTask
    | cleanup sessions => exact turn_cleansUp succeeds isTask
    | sign sessionId userId =>
      simp only [Server.proceed, isTask]
      exact .signs succeeds isTask
    | command session =>
      simp only [Server.proceed, isTask]
      exact .asks succeeds isTask
    | build account =>
      simp only [Server.proceed, isTask]
      split
      next has => exact .builds succeeds isTask has
      · exact .ignored _
    | closing left =>
      cases left with
      | nil =>
        simp only [Server.proceed, isTask]
        exact .ends succeeds isTask
      | cons session left =>
        simp only [Server.proceed, isTask]
        split
        next unseen => exact .skips succeeds isTask (by simpa using unseen)
        · exact .checks succeeds isTask
    | check session evicting left =>
      cases evicting with
      | false =>
        simp only [Server.proceed, isTask]
        split
        next has =>
          split
          next live => exact .keeps succeeds isTask has live
          next unneeded => exact .decides succeeds isTask has (Bool.eq_false_iff.mpr unneeded)
        · exact .ignored _
      | true =>
        simp only [Server.proceed, isTask]
        exact .evicts succeeds isTask

theorem turn (s : Server User Account) (event : Event User Account) :
    s.Turn event (s.step event) := by
  cases event with
  | tick time => exact .ticks time
  | connectWallet userId account expiresAt => exact .connects userId account expiresAt
  | connectWalletForSigning sessionId userId =>
    rw [step, Server.connectWalletForSigning]
    split
    · exact .ignored _
    · split
      · exact .ignored _
      · exact .calls _ _ rfl nofun rfl
  | executeWalletCommand sessionId requestedBy =>
    rw [step, Server.executeWalletCommand]
    split
    · exact .ignored _
    · split
      · exact .ignored _
      · split
        · exact .ignored _
        · exact .calls _ _ rfl nofun rfl
  | disconnectWallet sessionId userId =>
    rw [step, Server.disconnectWallet]
    split
    · exact .ignored _
    next session found =>
      refine .calls _ _ rfl ?_ rfl
      intro read isRead
      rw [List.mem_singleton.mp isRead]
      exact List.mem_of_find?_eq_some found
  | sessionCleanup =>
    rw [step, Server.sessionCleanup]
    split
    · exact .ignored _
    · refine .calls _ _ rfl ?_ rfl
      intro read isRead
      exact (List.mem_filter.mp isRead).1
  | proceed id succeeds => exact s.turn_proceed id succeeds

end Turns

section Steps

variable [DecidableEq User] [DecidableEq Account] {s' : Server User Account}
  {event : Event User Account}

theorem Turn.sound (turn : s.Turn event s') (sound : s.Sound) : s'.Sound := by
  have later : ∀ (session : WalletSession User Account) left, ∀ other ∈ left,
      other ∈ session :: left := fun _ _ _ isLeft => List.mem_cons_of_mem _ isLeft
  cases turn with
  | ignored => exact sound
  | ticks => exact ⟨sound.rows, sound.tasks, sound.fresh, sound.queued, sound.once, sound.holder⟩
  | connects userId account expiresAt => exact sound.connectWallet userId account expiresAt
  | calls _ task idle reads closed =>
    exact sound.spawn (taskSound_idle
      (fun session isRead => known_of_mem sound.rows (reads session isRead)) closed) idle
  | signs _ isTask =>
    exact sound.turn isTask rfl (sound.rows.updateWhere rowChange_sign)
      (fun _ other => other.updateWhere rowChange_sign) nofun
  | asks _ isTask => exact sound.ask isTask rfl (taskSound_idle nofun rfl) rfl nofun
  | builds _ isTask has => exact (sound.setLoaded _ _).leave isTask rfl has nofun
  | closes _ isTask idle _ holds closing reads _ =>
    refine sound.turn isTask idle (sound.rows.updateWhere rowChange_close)
      (fun _ other => other.updateWhere rowChange_close) ?_
    rintro _ ⟨⟩
    refine ⟨⟨nofun, ?_⟩, rfl⟩
    intro session isClosed
    obtain ⟨isRead, hits⟩ := reads session isClosed
    exact ((sound.tasks _ _ isTask).1 session isRead).closed fun row _ => hits row
  | ends _ isTask => exact sound.turn isTask rfl sound.rows (fun _ other => other) nofun
  | skips _ isTask _ =>
    exact sound.turn isTask rfl sound.rows (fun _ other => other) (sound.closing isTask (later _ _))
  | checks _ isTask => exact sound.ask isTask rfl ⟨nofun, (sound.tasks _ _ isTask).2⟩ rfl nofun
  | keeps _ isTask has _ => exact sound.leave isTask rfl has (sound.closing isTask (later _ _))
  | decides _ isTask has _ => exact sound.decide isTask has
  | evicts _ isTask =>
    exact (sound.setLoaded _ false).leave isTask rfl (sound.holder _ _ _ isTask)
      (sound.closing isTask (later _ _))

theorem Sound.step (sound : s.Sound) (event : Event User Account) : (s.step event).Sound :=
  (s.turn event).sound sound

end Steps

/-! ## Careful steps -/

/-- The check of the session has decided to evict its wallet. -/
def Evicting (s : Server User Account) (session : WalletSession User Account) : Prop :=
  ∃ id left, s.tasks id = some (.check session true left)

/-- Nobody who needs a wallet comes between the check and its eviction, and a wallet is built for a
session only while one needs it, or while the check of one that is closed is still to come. -/
def Careful (s : Server User Account) : Event User Account → Prop
  | .connectWallet userId account _ =>
    ∀ session, s.Evicting session → ¬(session.account = account ∧ session.userId = userId)
  | .proceed id _ =>
    match s.tasks id with
    | some (.sign sessionId userId) =>
      ∀ session, s.Evicting session → ∀ row ∈ s.rows, row.sessionId = sessionId →
        row.userId = userId → row.isActive = true → row.isSessionExpired s.now = false →
          row.account ≠ session.account
    | some (.command session) => Needed s.rows session.account ∨ s.ToDecide session.account
    | _ => True
  | _ => True

/-- The next call has asked for no lock. -/
theorem Sound.nextTask_notMem (sound : s.Sound) (account : Account) :
    s.nextTask ∉ s.lock account := by
  intro listed
  obtain ⟨task, isTask, _⟩ := (sound.queued account s.nextTask).mp listed
  rw [sound.fresh s.nextTask (Nat.le_refl _)] at isTask
  cases isTask

/-- A check that has decided to evict has a lock. -/
theorem Sound.not_evicting (sound : s.Sound)
    (free : ∀ account, s.lock account = []) (session : WalletSession User Account) :
    ¬s.Evicting session := by
  rintro ⟨id, left, isCheck⟩
  have has := sound.holder id session left isCheck
  rw [holds, free, List.head?_nil] at has
  cases has

section Watched

variable [DecidableEq User] [DecidableEq Account] {s' : Server User Account}

/-- A change of the rows or the time that takes no turn of a task. -/
theorem Watched.between (sound : s.Sound) (watched : s.Watched)
    (tasks : s'.tasks = s.tasks) (lock : s'.lock = s.lock) (loaded : s'.loaded = s.loaded)
    (unneeded : ∀ session, s.Evicting session →
      hasLiveSessionForWallet s'.rows s'.now session.account session.userId = false)
    (needed : ∀ account, Needed s.rows account → Needed s'.rows account) : s'.Watched := by
  have isFresh : s.tasks s.nextTask = none := sound.fresh s.nextTask (Nat.le_refl _)
  refine watched.change lock loaded (fun other _ => congrFun tasks other) sound.nextTask_notMem
    ?_ ?_ (fun account isNeeded => .inl (needed account isNeeded)) ?_
  · intro task isTask
    rw [tasks, isFresh] at isTask
    cases isTask
  · intro other session left isCheck
    exact unneeded session ⟨other, left, isCheck⟩
  · intro account task isTask
    rw [isFresh] at isTask
    cases isTask

theorem Watched.spawn (sound : s.Sound) (watched : s.Watched)
    (idle : task.waitsFor = none) : (s.spawn task).Watched := by
  have isFresh : s.tasks s.nextTask = none := sound.fresh s.nextTask (Nat.le_refl _)
  refine watched.change rfl rfl (fun other different => if_neg different) sound.nextTask_notMem
    ?_ ?_ (fun account isNeeded => .inl isNeeded) ?_
  · intro other isNew
    rw [Server.spawn, setTask_tasks, if_pos rfl] at isNew
    cases isNew
    exact idle
  · intro other session left isCheck
    exact watched.unneeded other session left isCheck
  · intro account task isTask
    rw [isFresh] at isTask
    cases isTask

/-- A task writes rows on its turn, outside the locks. -/
theorem Watched.turn (sound : s.Sound) (watched : s.Watched) {id : Nat} {old : Task User Account}
    (isOld : s.tasks id = some old) (idle : old.waitsFor = none)
    {next : Option (Task User Account)}
    (nextIdle : ∀ task, next = some task → task.waitsFor = none)
    (unneeded : ∀ session, s.Evicting session →
      hasLiveSessionForWallet rows s.now session.account session.userId = false)
    (needed : ∀ account, Needed s.rows account →
      Needed rows account ∨ ((s.setRows rows).setTask id next).ToDecide account)
    (goesOn : ∀ account, ∀ session ∈ old.left, session.account = account →
      session.hasViewingKey = true → ((s.setRows rows).setTask id next).ToDecide account) :
    ((s.setRows rows).setTask id next).Watched := by
  refine watched.change rfl rfl (fun other different => if_neg different)
    (fun account => sound.notMem_lock isOld idle) ?_ ?_ needed ?_
  · intro task isTask
    rw [setTask_tasks, if_pos rfl] at isTask
    exact nextIdle task isTask
  · intro other session left isCheck
    exact unneeded session ⟨other, left, isCheck⟩
  · intro account task isTask
    rw [isOld] at isTask
    cases isTask
    exact goesOn account

/-- A task gives a lock back, and goes on with the closed sessions that are left. -/
theorem Watched.leaves (sound : s.Sound) (watched : s.Watched) {id : Nat}
    {session : WalletSession User Account} {evicting : Bool}
    {left : List (WalletSession User Account)}
    (isTask : s.tasks id = some (.check session evicting left))
    (has : s.holds session.account id = true) (rows : s'.rows = s.rows) (now : s'.now = s.now)
    (lock : s'.lock = (s.release session.account).lock)
    (tasks : s'.tasks = (s.setTask id (some (.closing left))).tasks)
    (elsewhere : ∀ queue ≠ session.account, s'.loaded queue = s.loaded queue)
    (here : s'.loaded session.account = true → Needed s.rows session.account) : s'.Watched := by
  obtain ⟨rest, first⟩ := List.head?_eq_some_iff.mp (of_decide_eq_true has)
  have isNext : s'.tasks id = some (.closing left) := by rw [tasks, setTask_tasks, if_pos rfl]
  refine watched.leave sound isTask first rows now (fun queue => congrFun lock queue)
    (fun other different => by rw [tasks, setTask_tasks, if_neg different]) ?_ ?_ elsewhere
    fun isLoaded => .inl (here isLoaded)
  · intro task isTask
    rw [isNext] at isTask
    cases isTask
    rfl
  · intro account later isLeft isAccount seen
    exact ⟨id, .closing left, isNext, later, isLeft, isAccount, seen⟩

/-- The rows of sessions are deactivated, which are decided about next. -/
theorem Watched.closes (sound : s.Sound) (watched : s.Watched) {id : Nat}
    (isTask : s.tasks id = some task) (idle : task.waitsFor = none)
    (nothing : task.left = []) {holds : WalletSession User Account → Bool}
    {closing : List (WalletSession User Account)}
    (decides : ∀ row, holds row = true → ∃ session ∈ task.reads,
      row.sessionId = session.sessionId ∧ (session.hasViewingKey = true →
        ∃ other ∈ closing, other.account = session.account ∧ other.hasViewingKey = true)) :
    ((s.setRows (updateWhere holds WalletSession.close s.rows)).setTask id
      (some (.closing closing))).Watched := by
  refine watched.turn sound isTask idle ?_ ?_ ?_ (by simp [nothing])
  · rintro _ ⟨⟩
    rfl
  · rintro other ⟨otherId, left, isCheck⟩
    exact hasLive_close (watched.unneeded otherId other left isCheck)
  · intro account isNeeded
    refine isNeeded.close.imp_right ?_
    rintro ⟨row, isRow, isAccount, active, hit⟩
    obtain ⟨session, isRead, sameId, decided⟩ := decides row hit
    have known := (sound.tasks id task isTask).1 session isRead
    obtain ⟨sameAccount, seen⟩ := known.of_row sound.rows isRow sameId active
    obtain ⟨other, isDecided, otherAccount, otherSeen⟩ := decided seen
    exact ⟨id, .closing closing, if_pos rfl, other, isDecided,
      otherAccount.trans (sameAccount.trans isAccount), otherSeen⟩

variable {event : Event User Account}

theorem Turn.watched
    (turn : s.Turn event s') (sound : s.Sound) (watched : s.Watched) (careful : s.Careful event) :
    s'.Watched := by
  have stays : ∀ session, s.Evicting session →
      hasLiveSessionForWallet s.rows s.now session.account session.userId = false := by
    rintro session ⟨id, left, isCheck⟩
    exact watched.unneeded id session left isCheck
  cases turn with
  | ignored => exact watched
  | ticks time =>
    refine watched.between sound rfl rfl rfl ?_ fun _ isNeeded => isNeeded
    intro session isEvicting
    exact hasLive_later (Nat.le_max_left _ _) (stays session isEvicting)
  | connects =>
    refine watched.between sound rfl rfl rfl ?_ fun other isNeeded => isNeeded.append _
    intro session isEvicting
    exact hasLive_append (stays session isEvicting) rfl (careful session isEvicting)
  | calls _ _ idle => exact watched.spawn sound idle
  | signs _ isTask =>
    simp only [Careful, isTask] at careful
    refine watched.turn sound isTask rfl nofun ?_ (fun account isNeeded => .inl isNeeded.sign) nofun
    intro session isEvicting
    refine hasLive_sign (stays session isEvicting) ?_
    intro row isRow hit
    simp only [Bool.and_eq_true, decide_eq_true_eq] at hit
    exact careful session isEvicting row isRow hit.1 hit.2
  | asks _ isTask =>
    simp only [Careful, isTask] at careful
    exact watched.ask sound isTask rfl nofun nofun rfl (fun _ => careful) fun _ => rfl
  | @builds id account _ isTask has =>
    obtain ⟨rest, first⟩ := List.head?_eq_some_iff.mp (of_decide_eq_true has)
    refine watched.leave sound isTask first rfl rfl (fun _ => rfl)
      (fun other different => if_neg different) ?_ nofun (fun _ different => if_neg different)
      fun _ => watched.building account [] id rest first isTask
    intro task isNext
    rw [setTask_tasks, if_pos rfl] at isNext
    cases isNext
  | closes _ isTask idle nothing _ _ _ decides =>
    exact watched.closes sound isTask idle nothing decides
  | ends _ isTask => exact watched.turn sound isTask rfl nofun stays (fun _ => .inl) nofun
  | @skips id session left _ isTask unseen =>
    refine watched.turn sound isTask rfl ?_ stays (fun _ => .inl) ?_
    · rintro _ ⟨⟩
      rfl
    · intro account later isLeft isAccount seen
      rcases List.mem_cons.mp isLeft with rfl | isLater
      · simp [seen] at unseen
      · exact ⟨id, .closing left, if_pos rfl, later, isLater, isAccount, seen⟩
  | @checks id session left _ isTask =>
    refine watched.ask sound isTask rfl nofun ?_ rfl nofun nofun
    intro account later isLeft isAccount seen
    rcases List.mem_cons.mp isLeft with rfl | isLater
    · exact .inr ⟨later, false, left, rfl, isAccount⟩
    · exact .inl ⟨later, isLater, isAccount, seen⟩
  | keeps _ isTask has live =>
    have isClosed := (sound.tasks _ _ isTask).2 _ List.mem_cons_self
    exact watched.leaves sound isTask has rfl rfl rfl rfl (fun _ _ => rfl)
      fun _ => needed_of_live live isClosed
  | decides _ isTask _ unneeded => exact watched.decide isTask unneeded
  | evicts _ isTask =>
    refine watched.leaves sound isTask (sound.holder _ _ _ isTask) rfl rfl rfl rfl
      (fun _ different => if_neg different) fun isLoaded => ?_
    rw [show Server.loaded _ _ = false from if_pos rfl] at isLoaded
    cases isLoaded

theorem Watched.step (sound : s.Sound) (watched : s.Watched) (event : Event User Account)
    (careful : s.Careful event) : (s.step event).Watched :=
  (s.turn event).watched sound watched careful

/-! ## What runs keep -/

/-- Only an eviction drops a wallet. -/
theorem evicting_of_dropped {account : Account}
    (isLoaded : s.loaded account = true) (dropped : (s.step event).loaded account = false) :
    ∃ session, s.Evicting session ∧ session.account = account := by
  have turn := s.turn event
  generalize s.step event = s' at turn dropped
  cases turn with
  | @evicts id session left _ isTask =>
    by_cases same : account = session.account
    · exact ⟨session, ⟨id, left, isTask⟩, same.symm⟩
    · have isOther : s.loaded account = false := (if_neg same).symm.trans dropped
      rw [isLoaded] at isOther
      cases isOther
  | @builds id queue succeeds =>
    have built : (if account = queue then s.loaded queue || succeeds else s.loaded account) =
        false := dropped
    split at built
    next same =>
      rw [← same, isLoaded] at built
      cases built
    · exact nomatch isLoaded.symm.trans built
  | ignored | ticks | connects | calls | signs | asks | closes | ends | skips | checks | keeps
  | decides =>
    exact nomatch isLoaded.symm.trans dropped

/-- Who closed a session of the wallet is still to check, or checks, whether to evict it. -/
def Closing (s : Server User Account) (account : Account) : Prop :=
  s.ToDecide account ∨ s.Checks (s.lock account)

/-- A wallet is dropped for a session that is closed, while no live session needs it. -/
def EvictsUnneeded (s : Server User Account) (event : Event User Account) : Prop :=
  ∀ account, s.loaded account = true → (s.step event).loaded account = false →
    ∃ session, s.Evicting session ∧ session.account = account ∧ Closed s.rows session ∧
      hasLiveSessionForWallet s.rows s.now account session.userId = false

/-- A wallet that is loaded is needed, unless a session of it is still being closed. -/
def LoadedNeeded (s : Server User Account) : Prop :=
  ∀ account, s.loaded account = true → Needed s.rows account ∨ s.Closing account

theorem Watched.evictsUnneeded (sound : s.Sound) (watched : s.Watched)
    (event : Event User Account) : s.EvictsUnneeded event := by
  intro account isLoaded dropped
  obtain ⟨session, ⟨id, left, isCheck⟩, rfl⟩ := evicting_of_dropped isLoaded dropped
  have closed := (sound.tasks id _ isCheck).2 session List.mem_cons_self
  exact ⟨session, ⟨id, left, isCheck⟩, rfl, closed, watched.unneeded id session left isCheck⟩

theorem sound_run (events : List (Event User Account)) : (run step start events).Sound :=
  run_invariant (fun _ event sound _ => sound.step event) sound_start events (Along.trivial events)

/-- In every run the rows have distinct ids and the active ones a viewing key, a lock is asked for
once by each task that waits for it and by no other, and who evicts a wallet holds its lock. -/
theorem locks_ask_for_waiting (events : List (Event User Account)) :
    let s := run step start events
    RowsSound s.rows s.nextSession ∧ (∀ account, (s.lock account).Nodup ∧ ∀ id,
      id ∈ s.lock account ↔ ∃ task, s.tasks id = some task ∧ task.waitsFor = some account) ∧
      ∀ id session left, s.tasks id = some (.check session true left) →
        s.holds session.account id = true := by
  have sound := sound_run events
  exact ⟨sound.rows, fun account => ⟨sound.once account, sound.queued account⟩, sound.holder⟩

/-- What careful steps keep. -/
structure Kept (s : Server User Account) : Prop where
  sound : s.Sound
  watched : s.Watched

theorem kept_start : (start : Server User Account).Kept :=
  ⟨sound_start, watched_start⟩

theorem Kept.step (kept : s.Kept) (careful : s.Careful event) :
    (s.step event).Kept :=
  ⟨kept.sound.step event, kept.watched.step kept.sound event careful⟩

/-- However sessions are opened, used and closed: after careful steps a wallet is dropped only
while no live session needs it, and stays loaded only while one does or one is being closed. -/
theorem evictions_exact (events : List (Event User Account))
    (careful : Along step Careful start events) :
    Along step EvictsUnneeded start events ∧ LoadedNeeded (run step start events) := by
  have keeps : ∀ (s : Server User Account) event, s.Kept → s.Careful event → (s.step event).Kept :=
    fun _ _ kept careful => kept.step careful
  constructor
  · exact careful.of_invariant keeps
      (fun _ event kept _ => kept.watched.evictsUnneeded kept.sound event) kept_start
  · exact (run_invariant keeps kept_start events careful).watched.loaded

end Watched

/-- Two users share a wallet. The first one to close its session keeps it loaded. -/
def sharing : List (Event Nat Nat) :=
  [.connectWallet 0 0 (some 100), .connectWallet 1 0 (some 100), .connectWalletForSigning 0 0,
    .proceed 0 true, .connectWalletForSigning 1 1, .proceed 1 true, .executeWalletCommand 0 0,
    .proceed 2 true, .proceed 2 true, .disconnectWallet 0 0, .proceed 3 true, .proceed 3 true,
    .proceed 3 true, .proceed 3 true, .disconnectWallet 1 1, .proceed 4 true, .proceed 4 true,
    .proceed 4 true, .proceed 4 true, .proceed 4 true]

example : (run step start (sharing.take 14)).loaded 0 = true := by decide
example : (run step start sharing).loaded 0 = false := by decide

theorem evictions_exact_sharing :
    Along step EvictsUnneeded start sharing ∧ LoadedNeeded (run step start sharing) := by
  apply evictions_exact sharing
  refine ⟨?_, ?_, True.intro, ?_, True.intro, ?_, True.intro, ?_, True.intro, True.intro,
    True.intro, True.intro, True.intro, True.intro, True.intro, True.intro, True.intro,
    True.intro, True.intro, True.intro, True.intro⟩
  · rintro session ⟨id, left, isCheck⟩
    cases isCheck
  · rintro session ⟨id, left, isCheck⟩
    cases isCheck
  · intro session isEvicting
    exact absurd isEvicting ((sound_run (sharing.take 3)).not_evicting (fun _ => rfl) session)
  · intro session isEvicting
    exact absurd isEvicting ((sound_run (sharing.take 5)).not_evicting (fun _ => rfl) session)
  · exact .inl ⟨⟨0, 0, 0, true, true, true, some 100⟩, List.mem_cons_self, rfl, rfl, .inl rfl⟩

/-- A session connects between the check of another one and its eviction. -/
def lateConnect : List (Event Nat Nat) :=
  [.connectWallet 0 0 (some 100), .connectWalletForSigning 0 0, .proceed 0 true,
    .executeWalletCommand 0 0, .proceed 1 true, .proceed 1 true, .disconnectWallet 0 0,
    .proceed 2 true, .proceed 2 true, .proceed 2 true, .connectWallet 0 0 (some 100)]

/-- A command builds the wallet of a session that has been closed since it was read. -/
def lateBuild : List (Event Nat Nat) :=
  [.connectWallet 0 0 (some 100), .connectWalletForSigning 0 0, .proceed 0 true,
    .executeWalletCommand 0 0, .disconnectWallet 0 0, .proceed 2 true, .proceed 2 true,
    .proceed 2 true, .proceed 2 true, .proceed 2 true, .proceed 1 true, .proceed 1 true]

theorem lateConnect_lateBuild :
    ¬(run step start lateConnect).EvictsUnneeded (.proceed 2 true) ∧
      ¬(run step start lateBuild).LoadedNeeded := by
  constructor
  · intro exact
    obtain ⟨session, ⟨id, left, isCheck⟩, _, _, unneeded⟩ := exact 0 rfl rfl
    have below := (sound_run lateConnect).lt_nextTask isCheck
    have isThird : id < 3 := below
    have isUser : session.userId = 0 := by
      obtain rfl | rfl | rfl : id = 0 ∨ id = 1 ∨ id = 2 := by omega
      · cases isCheck
      · cases isCheck
      · cases isCheck
        rfl
    rw [isUser] at unneeded
    cases unneeded
  · intro needed
    have idle : ∀ id, (run step start lateBuild).tasks id = none := by
      intro id
      by_cases isFresh : 3 ≤ id
      · exact (sound_run lateBuild).fresh id isFresh
      · obtain rfl | rfl | rfl : id = 0 ∨ id = 1 ∨ id = 2 := by omega
        · rfl
        · rfl
        · rfl
    rcases needed 0 rfl with ⟨row, isRow, _, active, _⟩ | ⟨id, task, isTask, _⟩ | ⟨id, listed, _⟩
    · rw [List.mem_singleton.mp isRow] at active
      cases active
    · rw [idle id] at isTask
      cases isTask
    · cases listed

end Server

end Nightgate.Sessions.FacadeSharing
