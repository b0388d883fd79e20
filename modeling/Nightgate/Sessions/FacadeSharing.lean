import Nightgate.Library.Machine

/-!
# Wallets that sessions share

Sessions with the same viewing key share a wallet. A session is closed by its user or, once it has
expired, by the cleanup: its row is deactivated first, and then, under the lock of the account, the
wallet is evicted unless another live session needs it. A wallet is built under the same lock, for
a session that was read before. Between two statements of a call, other calls run theirs. The
query for live sessions and the worker's eviction succeed; a build may fail.
-/

namespace Nightgate.Sessions.FacadeSharing

open Library

/-- A row of `midnight.WalletSessions`. -/
structure WalletSession (User Account : Type) where
  sessionId : Nat
  userId : User
  /-- The account of the viewing key, which its hash stands for. -/
  account : Account
  isActive : Bool
  /-- `encryptedViewingKey` is not null. -/
  hasViewingKey : Bool
  /-- `encryptedSeedKey` is not null. -/
  hasSeedKey : Bool
  /-- None for a platform fee sponsor, which never expires. -/
  expiresAt : Option Nat

variable {User Account : Type} [DecidableEq User] [DecidableEq Account]

namespace WalletSession

def isSessionExpired (session : WalletSession User Account) (now : Nat) : Bool :=
  session.expiresAt.any fun expiresAt => expiresAt < now

/-- The row of a session that is closed. -/
def close (session : WalletSession User Account) : WalletSession User Account :=
  { session with isActive := false, hasViewingKey := false, hasSeedKey := false }

end WalletSession

/-- `UPDATE ... WHERE`. -/
def updateWhere (holds : WalletSession User Account → Bool)
    (change : WalletSession User Account → WalletSession User Account)
    (rows : List (WalletSession User Account)) : List (WalletSession User Account) :=
  rows.map fun row => if holds row then change row else row

/-- Another session needs the wallet: one of the same user, or one with a signing key. -/
def hasLiveSessionForWallet (rows : List (WalletSession User Account)) (now : Nat)
    (account : Account) (userId : User) : Bool :=
  rows.any fun row => row.account = account && row.isActive &&
    (row.userId = userId || row.hasSeedKey) && !row.isSessionExpired now

/-- The sessions for which a cleanup decides whether to evict: one of each wallet. -/
def decided (decidedHashes : List Account) :
    List (WalletSession User Account) → List (WalletSession User Account)
  | [] => []
  | session :: rest =>
    if !session.hasViewingKey then decided decidedHashes rest
    else if session.account ∈ decidedHashes then decided decidedHashes rest
    else session :: decided (session.account :: decidedHashes) rest

/-- A call in progress, with what it has read. -/
inductive Task (User Account : Type) where
  /-- `connectWalletForSigning` has found its session. -/
  | sign (sessionId : Nat) (userId : User)
  /-- `executeWalletCommand` has found its session. -/
  | command (session : WalletSession User Account)
  /-- `getOrBuildWalletFacade` has asked for the lock. -/
  | build (account : Account)
  /-- `disconnectWallet` has read its session. -/
  | disconnect (session : WalletSession User Account)
  /-- A cleanup has read the sessions that have expired. -/
  | cleanup (sessions : List (WalletSession User Account))
  /-- The rows are deactivated; these sessions are left to decide about. -/
  | closing (left : List (WalletSession User Account))
  /-- `evictFacadeUnlessShared` has asked for the lock; `evicting`: it has found no session that
  needs the wallet. -/
  | check (session : WalletSession User Account) (evicting : Bool)
      (left : List (WalletSession User Account))

structure Server (User Account : Type) where
  now : Nat
  rows : List (WalletSession User Account)
  nextSession : Nat
  tasks : Nat → Option (Task User Account)
  nextTask : Nat
  /-- The tasks that asked for the lock of an account. The first one has it. -/
  lock : Account → List Nat
  /-- The worker has the wallet of the account. -/
  loaded : Account → Bool

inductive Event (User Account : Type) where
  | tick (time : Nat)
  | connectWallet (userId : User) (account : Account) (expiresAt : Option Nat)
  | connectWalletForSigning (sessionId : Nat) (userId : User)
  /-- A job of a session, such as the prewarm of its wallet. -/
  | executeWalletCommand (sessionId : Nat) (requestedBy : User)
  | disconnectWallet (sessionId : Nat) (userId : User)
  | sessionCleanup
  /-- The next statement of a task; `succeeds`: a build gives a wallet. -/
  | proceed (task : Nat) (succeeds : Bool)

namespace Server

def start : Server User Account where
  now := 0
  rows := []
  nextSession := 0
  tasks _ := none
  nextTask := 0
  lock _ := []
  loaded _ := false

def setTask (s : Server User Account) (id : Nat) (task : Option (Task User Account)) :
    Server User Account :=
  { s with tasks := fun other => if other = id then task else s.tasks other }

/-- A new call. -/
def spawn (s : Server User Account) (task : Task User Account) : Server User Account :=
  { s.setTask s.nextTask (some task) with nextTask := s.nextTask + 1 }

/-- `withKeyedLock`. -/
def enqueue (s : Server User Account) (account : Account) (id : Nat) : Server User Account :=
  { s with lock := fun other => if other = account then s.lock other ++ [id] else s.lock other }

def release (s : Server User Account) (account : Account) : Server User Account :=
  { s with lock := fun other => if other = account then (s.lock other).tail else s.lock other }

def setLoaded (s : Server User Account) (account : Account) (isLoaded : Bool) :
    Server User Account :=
  { s with loaded := fun other => if other = account then isLoaded else s.loaded other }

def setRows (s : Server User Account) (rows : List (WalletSession User Account)) :
    Server User Account :=
  { s with rows := rows }

/-- The task has the lock of the account. -/
def holds (s : Server User Account) (account : Account) (id : Nat) : Bool :=
  (s.lock account).head? = some id

def find (s : Server User Account) (sessionId : Nat) (userId : User) :
    Option (WalletSession User Account) :=
  s.rows.find? fun row => row.sessionId = sessionId && row.userId = userId

def connectWallet (s : Server User Account) (userId : User) (account : Account)
    (expiresAt : Option Nat) : Server User Account :=
  { s.setRows (s.rows ++ [⟨s.nextSession, userId, account, true, true, false, expiresAt⟩]) with
    nextSession := s.nextSession + 1 }

def connectWalletForSigning (s : Server User Account) (sessionId : Nat) (userId : User) :
    Server User Account :=
  match s.find sessionId userId with
  | none => s
  | some session =>
    if !session.isActive || session.isSessionExpired s.now then s
    else s.spawn (.sign sessionId userId)

def executeWalletCommand (s : Server User Account) (sessionId : Nat) (requestedBy : User) :
    Server User Account :=
  match s.find sessionId requestedBy with
  | none => s
  | some session =>
    if !session.isActive || session.isSessionExpired s.now then s
    else if !session.hasViewingKey || !session.hasSeedKey then s
    else s.spawn (.command session)

def disconnectWallet (s : Server User Account) (sessionId : Nat) (userId : User) :
    Server User Account :=
  match s.find sessionId userId with
  | none => s
  | some session => s.spawn (.disconnect session)

def sessionCleanup (s : Server User Account) : Server User Account :=
  match s.rows.filter fun row => row.isActive && row.isSessionExpired s.now with
  | [] => s
  | expiring => s.spawn (.cleanup expiring)

/-- The next step of a task. -/
def proceed (s : Server User Account) (id : Nat) (succeeds : Bool) : Server User Account :=
  match s.tasks id with
  | none => s
  | some (.sign sessionId userId) =>
    (s.setRows (updateWhere (fun row => row.sessionId = sessionId && row.userId = userId)
      (fun row => { row with hasSeedKey := true }) s.rows)).setTask id none
  | some (.command session) =>
    (s.setTask id (some (.build session.account))).enqueue session.account id
  | some (.build account) =>
    if s.holds account id then
      ((s.setLoaded account (s.loaded account || succeeds)).release account).setTask id none
    else s
  | some (.disconnect session) =>
    (s.setRows (updateWhere
        (fun row => row.sessionId = session.sessionId && row.userId = session.userId)
        WalletSession.close s.rows)).setTask id (some (.closing [session]))
  | some (.cleanup sessions) =>
    (s.setRows (updateWhere (fun row => sessions.any fun session =>
        session.sessionId = row.sessionId) WalletSession.close s.rows)).setTask id
      (some (.closing (decided [] sessions)))
  | some (.closing []) => s.setTask id none
  | some (.closing (session :: left)) =>
    if !session.hasViewingKey then s.setTask id (some (.closing left))
    else (s.setTask id (some (.check session false left))).enqueue session.account id
  | some (.check session false left) =>
    if s.holds session.account id then
      if hasLiveSessionForWallet s.rows s.now session.account session.userId then
        (s.release session.account).setTask id (some (.closing left))
      else s.setTask id (some (.check session true left))
    else s
  | some (.check session true left) =>
    ((s.setLoaded session.account false).release session.account).setTask id (some (.closing left))

def step (s : Server User Account) : Event User Account → Server User Account
  | .tick time => { s with now := max s.now time }
  | .connectWallet userId account expiresAt => s.connectWallet userId account expiresAt
  | .connectWalletForSigning sessionId userId => s.connectWalletForSigning sessionId userId
  | .executeWalletCommand sessionId requestedBy => s.executeWalletCommand sessionId requestedBy
  | .disconnectWallet sessionId userId => s.disconnectWallet sessionId userId
  | .sessionCleanup => s.sessionCleanup
  | .proceed task succeeds => s.proceed task succeeds

end Server

end Nightgate.Sessions.FacadeSharing
