import Nightgate.Library.Machine

/-!
# The announcement before a broadcast

One submitting call between the client on the main thread and its worker. The worker
announces a transaction and sends it only once the client confirms that the caller's hook
stored it. Messages travel on the port of the call, in order; both sides have timers, a
hook takes as long as its database takes, and the worker can exit at any point. The events
are the single turns of the two event loops.
-/

namespace Nightgate.Midnight

open Library

/-- What the worker posts. Announcements are numbered for the record; the number is not
part of the message. -/
inductive ToMain where
  | submitIntent (announcement : Nat) (txHash : String)
  /-- The result of the method, or its error. -/
  | reply

/-- What the client posts. `hook` says which announcement the hook was for; the worker
matches an acknowledgement by its `txHash` alone. -/
inductive ToWorker where
  | submitIntentAck (txHash : String) (ok : Bool) (hook : Nat)
  | cancel

inductive WorkerPhase where
  /-- The method runs; it may build, wait for a submission, or fail. -/
  | working
  /-- `announceSubmitIntent` waits for its acknowledgement. -/
  | waiting (announcement : Nat) (txHash : String) (startedAt : Nat)
  /-- The method ended, its result is posted and the port closed. -/
  | replied
  | exited
  deriving DecidableEq

/-- A transaction the worker submits, with its announcement. -/
structure Submission where
  announcement : Nat
  txHash : String
  deriving DecidableEq

inductive HookStage where
  | queued
  | running
  /-- The hook's transaction is committed. -/
  | committed
  | fulfilled
  | failed
  /-- The acknowledgement was posted or left out. -/
  | handled
  deriving DecidableEq

/-- A hook in `intentsInFlight`. -/
structure Hook where
  announcement : Nat
  txHash : String
  stage : HookStage

inductive ClientPhase where
  | waiting
  /-- `answered`: about to look at the hooks in flight. -/
  | checking (answeredAt : Nat)
  /-- Waits for the hooks it saw, or for a timer. -/
  | racing (answeredAt wakeAt : Nat) (hooks : List Nat)
  /-- The caller has the outcome. -/
  | settled (answeredAt : Nat)
  deriving DecidableEq

structure Handshake where
  now : Nat
  worker : WorkerPhase
  /-- Submissions the worker started. One that was given up may still send. -/
  submissions : List Submission
  toMain : List ToMain
  toWorker : List ToWorker
  client : ClientPhase
  intentsInFlight : List Hook
  /-- The hash of each announcement. -/
  announced : List String
  /-- The announcements whose hook committed. -/
  committed : List Nat
  /-- The announcements whose positive acknowledgement arrived while the worker waited for
  it, with the announcement of the hook behind it. -/
  acknowledged : List (Nat × Nat)
  /-- The announcements the worker gave up or was refused. -/
  gaveUp : List Nat
  broadcast : List Submission

/-- The call was posted to the worker. -/
def Handshake.start : Handshake where
  now := 0
  worker := .working
  submissions := []
  toMain := []
  toWorker := []
  client := .waiting
  intentsInFlight := []
  announced := []
  committed := []
  acknowledged := []
  gaveUp := []
  broadcast := []

inductive HandshakeEvent where
  | time (ms : Nat)
  -- the worker
  | announceSubmitIntent (txHash : String)
  | ackTimeout
  | workerReceives
  | send (submission : Submission)
  | reply
  | workerExits
  -- the client
  | clientReceives
  | rpcTimeout
  /-- The worker exited or crashed, or a message could not be read or posted. -/
  | reject
  | hookStarts (announcement : Nat)
  | hookCommits (announcement : Nat)
  | hookFulfils (announcement : Nat)
  | hookFails (announcement : Nat)
  | hookHandled (announcement : Nat)
  | hookDone (announcement : Nat)
  | check
  | hooksSettled
  | timerFires
  /-- A message in flight is lost with its port. -/
  | toMainLost
  | toWorkerLost

namespace Handshake

/-- `announceSubmitIntent`: posts the intent and waits. -/
def announceSubmitIntent (s : Handshake) (txHash : String) : Handshake :=
  match s.worker with
  | .working =>
    { s with
      worker := .waiting s.announced.length txHash s.now
      toMain := s.toMain ++ [.submitIntent s.announced.length txHash]
      announced := s.announced ++ [txHash] }
  | _ => s

/-- The wait ends without a submission; its error unwinds the method. -/
def giveUp (s : Handshake) (announcement : Nat) : Handshake :=
  { s with worker := .working, gaveUp := s.gaveUp ++ [announcement] }

def ackTimeout (ackTimeoutMs : Nat) (s : Handshake) : Handshake :=
  match s.worker with
  | .waiting announcement _ startedAt =>
    if startedAt + ackTimeoutMs ≤ s.now then s.giveUp announcement else s
  | _ => s

/-- The listener of `announceSubmitIntent`. -/
def onMsg (s : Handshake) (txHash : String) (ok : Bool) (hook : Nat) : Handshake :=
  match s.worker with
  | .waiting announcement waitedFor _ =>
    if txHash = waitedFor then
      if ok then
        { s with
          worker := .working
          submissions := s.submissions ++ [⟨announcement, txHash⟩]
          acknowledged := s.acknowledged ++ [(announcement, hook)] }
      else s.giveUp announcement
    else s
  | _ => s

def workerReceives (s : Handshake) : Handshake :=
  if s.worker = .exited then s
  else
    match s.toWorker with
    | [] => s
    | .submitIntentAck txHash ok hook :: rest =>
      onMsg { s with toWorker := rest } txHash ok hook
    -- an announced transaction is never cancelled
    | .cancel :: rest => { s with toWorker := rest }

/-- The transaction goes to the node. -/
def send (s : Handshake) (submission : Submission) : Handshake :=
  if s.worker ≠ .exited ∧ submission ∈ s.submissions then
    { s with broadcast := s.broadcast ++ [submission] }
  else s

def reply (s : Handshake) : Handshake :=
  match s.worker with
  | .working => { s with worker := .replied, toMain := s.toMain ++ [.reply] }
  | _ => s

def answered (s : Handshake) : Bool := s.client ≠ .waiting

/-- `finish`: the outcome is known; the hooks in flight come first. -/
def finish (s : Handshake) : Handshake :=
  if s.answered then s else { s with client := .checking s.now }

def clientReceives (s : Handshake) : Handshake :=
  match s.toMain with
  | [] => s
  | .submitIntent announcement txHash :: rest =>
    if s.answered then { s with toMain := rest }
    else
      { s with
        toMain := rest
        intentsInFlight := s.intentsInFlight ++ [⟨announcement, txHash, .queued⟩] }
  | .reply :: rest => finish { s with toMain := rest }

def rpcTimeout (rpcTimeoutMs : Nat) (s : Handshake) : Handshake :=
  if s.answered = false ∧ rpcTimeoutMs ≤ s.now then
    finish { s with toWorker := s.toWorker ++ [.cancel] }
  else s

/-- Moves the hook of an announcement from one stage to another. -/
def advance (s : Handshake) (announcement : Nat) (old new : HookStage) : Handshake :=
  { s with
    intentsInFlight := s.intentsInFlight.map fun hook =>
      if hook.announcement = announcement ∧ hook.stage = old then { hook with stage := new }
      else hook }

/-- The hook of an announcement is in flight at this stage. -/
def hookAt (s : Handshake) (announcement : Nat) (stage : HookStage) : Option Hook :=
  s.intentsInFlight.find? fun hook => hook.announcement = announcement ∧ hook.stage = stage

def hookCommits (s : Handshake) (announcement : Nat) : Handshake :=
  match s.hookAt announcement .running with
  | none => s
  | some _ =>
    { s.advance announcement .running .committed with
      committed := s.committed ++ [announcement] }

/-- `postAck`, unless the worker has answered. -/
def postAck (s : Handshake) (txHash : String) (ok : Bool) (hook : Nat) : Handshake :=
  if s.answered then s
  else { s with toWorker := s.toWorker ++ [.submitIntentAck txHash ok hook] }

/-- What follows a hook that returned or threw. -/
def hookHandled (s : Handshake) (announcement : Nat) : Handshake :=
  match s.hookAt announcement .fulfilled with
  | some hook =>
    (s.postAck hook.txHash true announcement).advance announcement .fulfilled .handled
  | none =>
    match s.hookAt announcement .failed with
    | some hook =>
      (s.postAck hook.txHash false announcement).advance announcement .failed .handled
    | none => s

def hookDone (s : Handshake) (announcement : Nat) : Handshake :=
  { s with
    intentsInFlight := s.intentsInFlight.filter fun hook =>
      ¬ (hook.announcement = announcement ∧ hook.stage = .handled) }

/-- The loop of `finish`: deliver, or wait for the hooks in flight as long as is left. -/
def check (ackTimeoutMs : Nat) (s : Handshake) : Handshake :=
  match s.client with
  | .checking answeredAt =>
    if s.intentsInFlight = [] ∨ answeredAt + ackTimeoutMs ≤ s.now then
      { s with client := .settled answeredAt }
    else
      { s with
        client := .racing answeredAt (s.now + (answeredAt + ackTimeoutMs - s.now))
          (s.intentsInFlight.map Hook.announcement) }
  | _ => s

def hooksSettled (s : Handshake) : Handshake :=
  match s.client with
  | .racing answeredAt _ hooks =>
    if ∀ hook ∈ s.intentsInFlight, hook.announcement ∉ hooks then
      { s with client := .checking answeredAt }
    else s
  | _ => s

def timerFires (s : Handshake) : Handshake :=
  match s.client with
  | .racing answeredAt wakeAt _ =>
    if wakeAt ≤ s.now then { s with client := .checking answeredAt } else s
  | _ => s

/-! ## The machine -/

def step (ackTimeoutMs rpcTimeoutMs : Nat) (s : Handshake) : HandshakeEvent → Handshake
  | .time ms => { s with now := s.now + ms }
  | .announceSubmitIntent txHash => s.announceSubmitIntent txHash
  | .ackTimeout => s.ackTimeout ackTimeoutMs
  | .workerReceives => s.workerReceives
  | .send submission => s.send submission
  | .reply => s.reply
  | .workerExits => { s with worker := .exited }
  | .clientReceives => s.clientReceives
  | .rpcTimeout => s.rpcTimeout rpcTimeoutMs
  | .reject => s.finish
  | .hookStarts announcement => s.advance announcement .queued .running
  | .hookCommits announcement => s.hookCommits announcement
  | .hookFulfils announcement => s.advance announcement .committed .fulfilled
  | .hookFails announcement =>
    (s.advance announcement .running .failed).advance announcement .committed .failed
  | .hookHandled announcement => s.hookHandled announcement
  | .hookDone announcement => s.hookDone announcement
  | .check => s.check ackTimeoutMs
  | .hooksSettled => s.hooksSettled
  | .timerFires => s.timerFires
  | .toMainLost => { s with toMain := s.toMain.tail }
  | .toWorkerLost => { s with toWorker := s.toWorker.tail }

/-- The hook of an announcement of this hash committed. -/
def Stored (s : Handshake) (announcement : Nat) (txHash : String) : Prop :=
  s.announced[announcement]? = some txHash ∧ announcement ∈ s.committed

/-- A submission was announced, and its acknowledgement came before the worker gave up, from
a hook that had stored the hash. -/
structure Backed (s : Handshake) (submission : Submission) : Prop where
  announced : s.announced[submission.announcement]? = some submission.txHash
  inTime : submission.announcement ∉ s.gaveUp
  stored : ∃ hook, (submission.announcement, hook) ∈ s.acknowledged ∧
    s.Stored hook submission.txHash

/-- The hooks in flight are those of announced transactions. -/
structure HooksSound (s : Handshake) : Prop where
  announced : ∀ hook ∈ s.intentsInFlight, s.announced[hook.announcement]? = some hook.txHash
  committed : ∀ hook ∈ s.intentsInFlight, hook.stage = .committed ∨ hook.stage = .fulfilled →
    hook.announcement ∈ s.committed

/-- What is on its way is about announced transactions; a positive acknowledgement only
leaves after a commit. -/
structure MessagesSound (s : Handshake) : Prop where
  intents : ∀ announcement txHash, .submitIntent announcement txHash ∈ s.toMain →
    s.announced[announcement]? = some txHash
  acks : ∀ txHash hook, .submitIntentAck txHash true hook ∈ s.toWorker → s.Stored hook txHash

/-- The worker waits for one announcement, which is not decided yet. -/
structure WorkerSound (s : Handshake) : Prop where
  waiting : ∀ announcement txHash startedAt, s.worker = .waiting announcement txHash startedAt →
    s.announced[announcement]? = some txHash ∧ announcement ∉ s.gaveUp ∧
      ∀ hook, (announcement, hook) ∉ s.acknowledged
  gaveUp : ∀ announcement ∈ s.gaveUp, announcement < s.announced.length
  acknowledged : ∀ entry ∈ s.acknowledged, entry.1 < s.announced.length
  submissions : ∀ submission ∈ s.submissions, s.Backed submission
  broadcast : ∀ submission ∈ s.broadcast, s.Backed submission

/-- The caller gets its outcome after the last hook, or after the ceiling. -/
structure ClientSound (ackTimeoutMs : Nat) (s : Handshake) : Prop where
  racing : ∀ answeredAt wakeAt hooks, s.client = .racing answeredAt wakeAt hooks →
    answeredAt + ackTimeoutMs ≤ wakeAt
  settled : ∀ answeredAt, s.client = .settled answeredAt →
    s.intentsInFlight = [] ∨ answeredAt + ackTimeoutMs ≤ s.now

structure Sound (ackTimeoutMs : Nat) (s : Handshake) : Prop where
  hooks : s.HooksSound
  messages : s.MessagesSound
  worker : s.WorkerSound
  client : s.ClientSound ackTimeoutMs

/-- Announcements and commits are only added. -/
structure Grows (s later : Handshake) : Prop where
  announced : ∀ (announcement : Nat) (txHash : String), s.announced[announcement]? = some txHash →
      later.announced[announcement]? = some txHash
  committed : s.committed ⊆ later.committed

variable {s later : Handshake}

theorem Grows.of_same (announced : later.announced = s.announced)
    (committed : later.committed = s.committed) : Grows s later := by
  constructor
  · intro announcement txHash listed
    rw [announced]
    exact listed
  · rw [committed]
    exact List.Subset.refl _

variable {txHash : String}

variable {announcement : Nat}

theorem Grows.stored (grows : Grows s later) (stored : s.Stored announcement txHash) :
    later.Stored announcement txHash :=
  ⟨grows.announced _ _ stored.1, grows.committed stored.2⟩

theorem Grows.backed (grows : Grows s later)
    (acknowledged : s.acknowledged ⊆ later.acknowledged) {submission : Submission}
    (undecided : submission.announcement ∉ later.gaveUp) (backed : s.Backed submission) :
    later.Backed submission := by
  rcases backed with ⟨announced, _, hook, positive, stored⟩
  exact ⟨grows.announced _ _ announced, undecided, hook, acknowledged positive, grows.stored stored⟩

/-- A step of the client leaves the worker as it is. -/
structure SameWorker (s later : Handshake) : Prop where
  worker : later.worker = s.worker
  announced : later.announced = s.announced
  gaveUp : later.gaveUp = s.gaveUp
  acknowledged : later.acknowledged = s.acknowledged
  submissions : later.submissions = s.submissions
  broadcast : later.broadcast = s.broadcast

theorem WorkerSound.of_same (sound : s.WorkerSound)
    (same : SameWorker s later) (committed : s.committed ⊆ later.committed) :
    later.WorkerSound := by
  have grows : Grows s later := by
    constructor
    · intro announcement txHash listed
      rw [same.announced]
      exact listed
    · exact committed
  have backed : ∀ submission, s.Backed submission → later.Backed submission := by
    intro submission backed
    apply grows.backed _ _ backed
    · rw [same.acknowledged]
      exact List.Subset.refl _
    · rw [same.gaveUp]
      exact backed.inTime
  constructor
  · intro announcement txHash startedAt waiting
    rw [same.worker] at waiting
    rw [same.announced, same.gaveUp, same.acknowledged]
    exact sound.waiting _ _ _ waiting
  · rw [same.announced, same.gaveUp]
    exact sound.gaveUp
  · rw [same.announced, same.acknowledged]
    exact sound.acknowledged
  · intro submission listed
    rw [same.submissions] at listed
    exact backed _ (sound.submissions _ listed)
  · intro submission listed
    rw [same.broadcast] at listed
    exact backed _ (sound.broadcast _ listed)

variable {ackTimeoutMs : Nat}

section Sound

variable (sound : s.Sound ackTimeoutMs)

include sound

/-- Messages are posted, taken or lost. -/
theorem Sound.of_messages {toMain : List ToMain}
    {toWorker : List ToWorker} (messages : MessagesSound { s with toMain, toWorker }) :
    Sound ackTimeoutMs { s with toMain, toWorker } where
  hooks := { sound.hooks with }
  messages := messages
  worker := sound.worker.of_same ⟨rfl, rfl, rfl, rfl, rfl, rfl⟩ (List.Subset.refl _)
  client := { sound.client with }

theorem Sound.of_fewer {toMain : List ToMain}
    {toWorker : List ToWorker} (fewerMain : toMain ⊆ s.toMain)
    (fewerWorker : toWorker ⊆ s.toWorker) : Sound ackTimeoutMs { s with toMain, toWorker } :=
  sound.of_messages ⟨fun _ _ posted => sound.messages.intents _ _ (fewerMain posted),
      fun _ _ posted => sound.messages.acks _ _ (fewerWorker posted)⟩

/-- The hooks in flight change, and none is added once the outcome is known. -/
theorem Sound.of_hooks {intentsInFlight : List Hook}
    (hooks : HooksSound { s with intentsInFlight })
    (fewer : s.client = .waiting ∨ (s.intentsInFlight = [] → intentsInFlight = [])) :
    Sound ackTimeoutMs { s with intentsInFlight } where
  hooks := hooks
  messages := { sound.messages with }
  worker := sound.worker.of_same ⟨rfl, rfl, rfl, rfl, rfl, rfl⟩ (List.Subset.refl _)
  client := by
    refine ⟨sound.client.racing, ?_⟩
    intro answeredAt settled
    rcases fewer with waiting | fewer
    · rw [waiting] at settled
      cases settled
    · exact (sound.client.settled answeredAt settled).imp_left fewer

/-- The client changes what it waits for, and what follows from that holds. -/
theorem Sound.of_client {client : ClientPhase}
    (clientSound : ClientSound ackTimeoutMs { s with client }) :
    Sound ackTimeoutMs { s with client } where
  hooks := { sound.hooks with }
  messages := { sound.messages with }
  worker := sound.worker.of_same ⟨rfl, rfl, rfl, rfl, rfl, rfl⟩ (List.Subset.refl _)
  client := clientSound

end Sound

/-! ## Steps of the worker -/

theorem getElem?_announce {announced : List String}
    (listed : announced[announcement]? = some txHash) (new : String) :
    (announced ++ [new])[announcement]? = some txHash := by
  have bound := (List.getElem?_eq_some_iff.1 listed).1
  rw [List.getElem?_append_left bound]
  exact listed

variable {s : Handshake}

theorem announceSubmitIntent_sound (sound : s.Sound ackTimeoutMs) (txHash : String) :
    (s.announceSubmitIntent txHash).Sound ackTimeoutMs := by
  simp only [announceSubmitIntent]
  split
  next working =>
    have grows : Grows s { s with
        worker := .waiting s.announced.length txHash s.now
        toMain := s.toMain ++ [.submitIntent s.announced.length txHash]
        announced := s.announced ++ [txHash] } := by
      constructor
      · intro announcement known listed
        exact getElem?_announce listed txHash
      · exact List.Subset.refl _
    refine ⟨⟨?_, sound.hooks.committed⟩, ⟨?_, ?_⟩, ⟨?_, ?_, ?_, ?_, ?_⟩, { sound.client with }⟩
    · intro hook listed
      exact grows.announced _ _ (sound.hooks.announced hook listed)
    · intro announcement posted listed
      simp only [List.mem_append, List.mem_singleton] at listed
      rcases listed with earlier | new
      · exact grows.announced _ _ (sound.messages.intents _ _ earlier)
      · cases new
        simp
    · intro posted hook listed
      exact grows.stored (sound.messages.acks _ _ listed)
    · intro announcement waited startedAt waiting
      cases waiting
      have gaveUp : s.announced.length ∉ s.gaveUp := by
        intro listed
        exact Nat.lt_irrefl _ (sound.worker.gaveUp _ listed)
      have acknowledged : ∀ hook, (s.announced.length, hook) ∉ s.acknowledged := by
        intro hook listed
        exact Nat.lt_irrefl _ (sound.worker.acknowledged _ listed)
      exact ⟨by simp, gaveUp, acknowledged⟩
    · intro announcement listed
      have bound := sound.worker.gaveUp _ listed
      simp only [List.length_append, List.length_singleton]
      omega
    · intro entry listed
      have bound := sound.worker.acknowledged _ listed
      simp only [List.length_append, List.length_singleton]
      omega
    · intro submission listed
      have backed := sound.worker.submissions _ listed
      exact grows.backed (List.Subset.refl _) backed.inTime backed
    · intro submission listed
      have backed := sound.worker.broadcast _ listed
      exact grows.backed (List.Subset.refl _) backed.inTime backed
  · exact sound

/-- The acknowledged announcements are not among those the worker still waits for. -/
theorem Backed.ne_waiting {submission : Submission} (backed : s.Backed submission)
    (undecided : ∀ hook, (announcement, hook) ∉ s.acknowledged) :
    submission.announcement ≠ announcement := by
  intro same
  rcases backed.stored with ⟨hook, positive, _⟩
  rw [same] at positive
  exact undecided hook positive

section Sound

variable (sound : s.Sound ackTimeoutMs)

include sound

theorem giveUp_sound {announcement startedAt : Nat}
    (waiting : s.worker = .waiting announcement txHash startedAt) :
    (s.giveUp announcement).Sound ackTimeoutMs := by
  have grows : Grows s (s.giveUp announcement) := Grows.of_same rfl rfl
  rcases sound.worker.waiting _ _ _ waiting with ⟨announced, _, undecided⟩
  have keeps : ∀ submission, s.Backed submission → (s.giveUp announcement).Backed submission := by
    intro submission backed
    apply grows.backed (List.Subset.refl _) _ backed
    simp only [giveUp, List.mem_append, List.mem_singleton, not_or]
    exact ⟨backed.inTime, backed.ne_waiting undecided⟩
  refine ⟨{ sound.hooks with }, { sound.messages with },
    ⟨?_, ?_, sound.worker.acknowledged, ?_, ?_⟩, { sound.client with }⟩
  · rintro _ _ _ ⟨⟩
  · intro other listed
    simp only [giveUp, List.mem_append, List.mem_singleton] at listed
    rcases listed with earlier | now
    · exact sound.worker.gaveUp _ earlier
    · rw [now]
      exact (List.getElem?_eq_some_iff.1 announced).1
  · intro submission listed
    exact keeps _ (sound.worker.submissions _ listed)
  · intro submission listed
    exact keeps _ (sound.worker.broadcast _ listed)

theorem onMsg_sound {ok : Bool} {hook : Nat} (stored : ok = true → s.Stored hook txHash) :
    (s.onMsg txHash ok hook).Sound ackTimeoutMs := by
  simp only [onMsg]
  split
  next announcement waitedFor startedAt waiting =>
    split
    next same =>
      subst same
      split
      next positive =>
        have stored := stored positive
        rcases sound.worker.waiting _ _ _ waiting with ⟨announced, undecided, _⟩
        have bound := (List.getElem?_eq_some_iff.1 announced).1
        have grows : Grows s { s with
            worker := .working
            submissions := s.submissions ++ [⟨announcement, txHash⟩]
            acknowledged := s.acknowledged ++ [(announcement, hook)] } :=
          Grows.of_same rfl rfl
        refine ⟨{ sound.hooks with }, { sound.messages with },
          ⟨?_, sound.worker.gaveUp, ?_, ?_, ?_⟩, { sound.client with }⟩
        · nofun
        · intro entry listed
          simp only [List.mem_append, List.mem_singleton] at listed
          rcases listed with earlier | new
          · exact sound.worker.acknowledged _ earlier
          · rw [new]
            exact bound
        · intro submission listed
          simp only [List.mem_append, List.mem_singleton] at listed
          rcases listed with earlier | new
          · have backed := sound.worker.submissions _ earlier
            exact grows.backed (by simp) backed.inTime backed
          · subst new
            exact ⟨announced, undecided, hook, by simp, stored⟩
        · intro submission listed
          have backed := sound.worker.broadcast _ listed
          exact grows.backed (by simp) backed.inTime backed
      · exact giveUp_sound sound waiting
    · exact sound
  · exact sound

theorem ackTimeout_sound :
    (s.ackTimeout ackTimeoutMs).Sound ackTimeoutMs := by
  simp only [ackTimeout]
  split
  next waiting =>
    split
    · exact giveUp_sound sound waiting
    · exact sound
  · exact sound

theorem workerReceives_sound : s.workerReceives.Sound ackTimeoutMs := by
  simp only [workerReceives]
  split
  · exact sound
  · split
    · exact sound
    next txHash ok hook rest posted =>
      have fewer : rest ⊆ s.toWorker := by
        rw [posted]
        exact List.subset_cons_self _ _
      have taken := sound.of_fewer (List.Subset.refl _) fewer
      apply onMsg_sound taken
      intro positive
      subst positive
      apply sound.messages.acks
      rw [posted]
      exact List.mem_cons_self
    next rest posted =>
      apply sound.of_fewer (List.Subset.refl _)
      rw [posted]
      exact List.subset_cons_self _ _

theorem send_sound (submission : Submission) : (s.send submission).Sound ackTimeoutMs := by
  simp only [send]
  split
  next sends =>
    have grows : Grows s { s with broadcast := s.broadcast ++ [submission] } :=
      Grows.of_same rfl rfl
    have keeps : ∀ other, s.Backed other →
        Backed { s with broadcast := s.broadcast ++ [submission] } other := by
      intro other backed
      exact grows.backed (List.Subset.refl _) backed.inTime backed
    refine ⟨{ sound.hooks with }, { sound.messages with }, { sound.worker with
      submissions := fun other listed => keeps _ (sound.worker.submissions _ listed)
      broadcast := ?_ }, { sound.client with }⟩
    intro other listed
    simp only [List.mem_append, List.mem_singleton] at listed
    rcases listed with earlier | new
    · exact keeps _ (sound.worker.broadcast _ earlier)
    · subst new
      exact keeps _ (sound.worker.submissions _ sends.2)
  · exact sound

/-- The worker leaves its method. -/
theorem sound_of_leaves {worker : WorkerPhase} (leaves : worker = .replied ∨ worker = .exited) :
    Sound ackTimeoutMs { s with worker } := by
  have grows : Grows s { s with worker } := Grows.of_same rfl rfl
  have keeps : ∀ submission, s.Backed submission → Backed { s with worker } submission :=
    fun submission backed => grows.backed (List.Subset.refl _) backed.inTime backed
  refine ⟨{ sound.hooks with }, { sound.messages with }, { sound.worker with
    waiting := ?_
    submissions := fun submission listed => keeps _ (sound.worker.submissions _ listed)
    broadcast := fun submission listed => keeps _ (sound.worker.broadcast _ listed) },
    { sound.client with }⟩
  intro announcement txHash startedAt waiting
  rcases leaves with rfl | rfl <;> cases waiting

theorem reply_sound :
    s.reply.Sound ackTimeoutMs := by
  simp only [reply]
  split
  next working =>
    have left := sound_of_leaves sound (Or.inl rfl : WorkerPhase.replied = .replied ∨ _)
    refine left.of_messages ⟨?_, sound.messages.acks⟩
    intro announcement txHash posted
    simp only [List.mem_append, List.mem_singleton] at posted
    rcases posted with earlier | impossible
    · exact sound.messages.intents _ _ earlier
    · cases impossible
  · exact sound

end Sound

/-! ## Steps of the client -/

section Sound

variable (sound : s.Sound ackTimeoutMs)

include sound

theorem checking_sound
    (answeredAt : Nat) : Sound ackTimeoutMs { s with client := .checking answeredAt } := by
  apply sound.of_client
  constructor
  · nofun
  · nofun

theorem finish_sound :
    s.finish.Sound ackTimeoutMs := by
  simp only [finish]
  split
  · exact sound
  · exact checking_sound sound s.now

theorem check_sound : (s.check ackTimeoutMs).Sound ackTimeoutMs := by
  simp only [check]
  split
  next answeredAt checking =>
    split
    next ready =>
      apply sound.of_client
      constructor
      · nofun
      · intro other settled
        cases settled
        exact ready
    · apply sound.of_client
      constructor
      · intro other wakeAt hooks racing
        cases racing
        omega
      · nofun
  · exact sound

theorem hooksSettled_sound :
    s.hooksSettled.Sound ackTimeoutMs := by
  simp only [hooksSettled]
  split
  next answeredAt wakeAt hooks racing =>
    split
    · exact checking_sound sound answeredAt
    · exact sound
  · exact sound

theorem timerFires_sound :
    s.timerFires.Sound ackTimeoutMs := by
  simp only [timerFires]
  split
  next answeredAt wakeAt hooks racing =>
    split
    · exact checking_sound sound answeredAt
    · exact sound
  · exact sound

theorem clientReceives_sound : s.clientReceives.Sound ackTimeoutMs := by
  simp only [clientReceives]
  split
  · exact sound
  next announcement txHash rest posted =>
    have fewer : rest ⊆ s.toMain := by
      rw [posted]
      exact List.subset_cons_self _ _
    have taken := sound.of_fewer fewer (List.Subset.refl _)
    split
    · exact taken
    next unanswered =>
      have announced := sound.messages.intents announcement txHash (by rw [posted]; simp)
      -- no hook starts once the outcome is known
      have waiting : s.client = .waiting := by simpa [answered] using unanswered
      refine taken.of_hooks ⟨?_, ?_⟩ (Or.inl waiting)
      · intro hook listed
        simp only [List.mem_append, List.mem_singleton] at listed
        rcases listed with earlier | new
        · exact sound.hooks.announced _ earlier
        · subst new
          exact announced
      · intro hook listed stage
        simp only [List.mem_append, List.mem_singleton] at listed
        rcases listed with earlier | new
        · exact sound.hooks.committed _ earlier stage
        · subst new
          rcases stage with impossible | impossible <;> cases impossible
  next rest posted =>
    apply finish_sound
    apply sound.of_fewer _ (List.Subset.refl _)
    rw [posted]
    exact List.subset_cons_self _ _

theorem rpcTimeout_sound (rpcTimeoutMs : Nat) : (s.rpcTimeout rpcTimeoutMs).Sound ackTimeoutMs := by
  simp only [rpcTimeout]
  split
  · apply finish_sound
    refine sound.of_messages ⟨sound.messages.intents, ?_⟩
    intro txHash hook posted
    simp only [List.mem_append, List.mem_singleton] at posted
    rcases posted with earlier | impossible
    · exact sound.messages.acks _ _ earlier
    · cases impossible
  · exact sound

/-- A hook may move to a later stage; from its commit on its hash is stored. -/
theorem advance_sound (announcement : Nat) (old new : HookStage)
    (stored : new = .committed ∨ new = .fulfilled →
      old = .committed ∨ old = .fulfilled ∨ announcement ∈ s.committed) :
    (s.advance announcement old new).Sound ackTimeoutMs := by
  refine sound.of_hooks ⟨?_, ?_⟩ (Or.inr fun empty => by rw [empty, List.map_nil])
  · intro hook listed
    simp only [List.mem_map] at listed
    rcases listed with ⟨before, listed, rfl⟩
    have announced := sound.hooks.announced before listed
    split
    · exact announced
    · exact announced
  · intro hook listed stage
    simp only [List.mem_map] at listed
    rcases listed with ⟨before, listed, rfl⟩
    revert stage
    split
    next moved =>
      intro stage
      rcases stored stage with committed | fulfilled | known
      · exact sound.hooks.committed before listed (Or.inl (moved.2.trans committed))
      · exact sound.hooks.committed before listed (Or.inr (moved.2.trans fulfilled))
      · simp only [moved.1]
        exact known
    · exact sound.hooks.committed before listed

theorem hookCommits_sound
    (announcement : Nat) : (s.hookCommits announcement).Sound ackTimeoutMs := by
  simp only [hookCommits]
  split
  · exact sound
  next hook running =>
    have more : s.committed ⊆ s.committed ++ [announcement] := by simp
    have stored : Sound ackTimeoutMs { s with committed := s.committed ++ [announcement] } :=
      ⟨⟨sound.hooks.announced, fun hook listed stage =>
          more (sound.hooks.committed hook listed stage)⟩,
        ⟨sound.messages.intents, fun _ _ posted =>
          (sound.messages.acks _ _ posted).imp_right fun known => more known⟩,
        sound.worker.of_same ⟨rfl, rfl, rfl, rfl, rfl, rfl⟩ more, { sound.client with }⟩
    apply advance_sound stored announcement .running .committed
    intro
    right
    right
    simp

end Sound

theorem hookAt_eq_some {stage : HookStage} {hook : Hook}
    (found : s.hookAt announcement stage = some hook) :
    hook ∈ s.intentsInFlight ∧ hook.announcement = announcement ∧ hook.stage = stage := by
  have listed := List.mem_of_find?_eq_some found
  have meets := List.find?_some found
  simp only [decide_eq_true_eq] at meets
  exact ⟨listed, meets⟩

theorem postAck_sound (sound : s.Sound ackTimeoutMs) {ok : Bool} {hook : Nat}
    (stored : ok = true → s.Stored hook txHash) :
    (s.postAck txHash ok hook).Sound ackTimeoutMs := by
  simp only [postAck]
  split
  · exact sound
  · refine sound.of_messages ⟨sound.messages.intents, ?_⟩
    intro other announcement posted
    simp only [List.mem_append, List.mem_singleton] at posted
    rcases posted with earlier | new
    · exact sound.messages.acks _ _ earlier
    · cases new
      exact stored rfl

theorem hookHandled_sound (sound : s.Sound ackTimeoutMs)
    (announcement : Nat) : (s.hookHandled announcement).Sound ackTimeoutMs := by
  simp only [hookHandled]
  split
  next hook found =>
    rcases hookAt_eq_some found with ⟨listed, same, fulfilled⟩
    have announced := sound.hooks.announced hook listed
    have committed := sound.hooks.committed hook listed (Or.inr fulfilled)
    rw [same] at announced committed
    apply advance_sound (postAck_sound sound fun _ => ⟨announced, committed⟩)
    simp
  · split
    next hook found =>
      apply advance_sound (postAck_sound sound fun impossible => by cases impossible)
      simp
    · exact sound

theorem hookDone_sound (sound : s.Sound ackTimeoutMs)
    (announcement : Nat) : (s.hookDone announcement).Sound ackTimeoutMs := by
  refine sound.of_hooks ⟨?_, ?_⟩ (Or.inr fun empty => by rw [empty, List.filter_nil])
  · intro hook listed
    exact sound.hooks.announced hook (List.mem_of_mem_filter listed)
  · intro hook listed stage
    exact sound.hooks.committed hook (List.mem_of_mem_filter listed) stage

/-! ## Runs -/

theorem step_sound (ackTimeoutMs rpcTimeoutMs : Nat) (s : Handshake) (event : HandshakeEvent)
    (sound : s.Sound ackTimeoutMs) :
    (s.step ackTimeoutMs rpcTimeoutMs event).Sound ackTimeoutMs := by
  cases event with
  | time ms =>
    exact ⟨{ sound.hooks with }, { sound.messages with },
      sound.worker.of_same ⟨rfl, rfl, rfl, rfl, rfl, rfl⟩ (List.Subset.refl _),
      sound.client.racing, fun answeredAt settled =>
        (sound.client.settled answeredAt settled).imp_right fun late => Nat.le_add_right_of_le late⟩
  | announceSubmitIntent txHash => exact announceSubmitIntent_sound sound txHash
  | ackTimeout => exact ackTimeout_sound sound
  | workerReceives => exact workerReceives_sound sound
  | send submission => exact send_sound sound submission
  | reply => exact reply_sound sound
  | workerExits => exact sound_of_leaves sound (Or.inr rfl)
  | clientReceives => exact clientReceives_sound sound
  | rpcTimeout => exact rpcTimeout_sound sound rpcTimeoutMs
  | reject => exact finish_sound sound
  | hookStarts announcement =>
    apply advance_sound sound
    simp
  | hookCommits announcement => exact hookCommits_sound sound announcement
  | hookFulfils announcement => exact advance_sound sound _ _ _ fun _ => Or.inl rfl
  | hookFails announcement =>
    apply advance_sound
    · apply advance_sound sound
      simp
    · simp
  | hookHandled announcement => exact hookHandled_sound sound announcement
  | hookDone announcement => exact hookDone_sound sound announcement
  | check => exact check_sound sound
  | hooksSettled => exact hooksSettled_sound sound
  | timerFires => exact timerFires_sound sound
  | toMainLost =>
    exact sound.of_fewer (List.tail_sublist _).subset (List.Subset.refl _)
  | toWorkerLost =>
    exact sound.of_fewer (List.Subset.refl _) (List.tail_sublist _).subset

theorem start_sound (ackTimeoutMs : Nat) : start.Sound ackTimeoutMs := by
  constructor
  · constructor <;> intro hook listed <;> cases listed
  · constructor
    · nofun
    · nofun
  · constructor
    · nofun
    all_goals intro entry listed; cases listed
  · constructor
    · nofun
    · nofun

/-- A transaction is sent only after a hook stored its hash and the acknowledgement arrived
while the worker waited for it; of the announcement's own hook, unless the same transaction
was announced before. The caller gets the outcome only when no hook is in flight or the
hooks had their whole ceiling. -/
theorem announced_before_broadcast (ackTimeoutMs rpcTimeoutMs : Nat)
    (events : List HandshakeEvent) :
    let s := run (step ackTimeoutMs rpcTimeoutMs) start events
    (∀ submission ∈ s.broadcast, s.announced[submission.announcement]? = some submission.txHash ∧
        submission.announcement ∉ s.gaveUp ∧
          ∃ hook, (submission.announcement, hook) ∈ s.acknowledged ∧ hook ∈ s.committed ∧
            s.announced[hook]? = some submission.txHash ∧
              ((∀ other, s.announced[other]? = some submission.txHash →
                other = submission.announcement) → hook = submission.announcement)) ∧
      ∀ answeredAt, s.client = .settled answeredAt →
        ∀ hook ∈ s.intentsInFlight, answeredAt + ackTimeoutMs ≤ s.now := by
  intro s
  have sound : s.Sound ackTimeoutMs := by
    apply run_invariant _ (start_sound ackTimeoutMs) events (Along.trivial events)
    intro state event sound _
    exact step_sound ackTimeoutMs rpcTimeoutMs state event sound
  constructor
  · intro submission sent
    rcases sound.worker.broadcast submission sent with
      ⟨announced, inTime, hook, positive, known, committed⟩
    exact ⟨announced, inTime, hook, positive, committed, known, fun unique => unique _ known⟩
  · intro answeredAt settled hook inFlight
    rcases sound.client.settled answeredAt settled with empty | late
    · rw [empty] at inFlight
      cases inFlight
    · exact late

/-- In every run a hook in flight is of an announced transaction, a positive acknowledgement is on
its way only when its hook has stored the hash, and the worker waits only for an announcement that
is neither given up nor acknowledged. -/
theorem acknowledged_when_stored (ackTimeoutMs rpcTimeoutMs : Nat) (events : List HandshakeEvent) :
    let s := run (step ackTimeoutMs rpcTimeoutMs) start events
    (∀ hook ∈ s.intentsInFlight, s.announced[hook.announcement]? = some hook.txHash) ∧
      (∀ txHash hook, .submitIntentAck txHash true hook ∈ s.toWorker → s.Stored hook txHash) ∧
      ∀ announcement txHash startedAt, s.worker = .waiting announcement txHash startedAt →
        announcement ∉ s.gaveUp ∧ ∀ hook, (announcement, hook) ∉ s.acknowledged := by
  have sound := run_invariant
    (fun state event sound _ => step_sound ackTimeoutMs rpcTimeoutMs state event sound)
    (start_sound ackTimeoutMs) events (Along.trivial events)
  exact ⟨sound.hooks.announced, sound.messages.acks, fun announcement txHash startedAt waiting =>
    (sound.worker.waiting announcement txHash startedAt waiting).2⟩

end Handshake

end Nightgate.Midnight
