import Nightgate.Midnight.FacadeRuns
import Mathlib.Tactic.IntervalCases

/-!
# Registered or wiped

A facade that was made ends up registered or wiped, unless its start throws or what is awaited for
it without a bound never comes. `buildFacade` does not clear the keys of a facade it could not
start, and an eviction serializes the wallet before it clears the keys.
-/

namespace Nightgate.Midnight.Facades

open Library

variable {Session : Type}

/-- What a wallet that was built awaits before it is registered or its keys are cleared. -/
inductive Wait where
  /-- `facade.start`. -/
  | start
  | saveLane
  | sessionLock
  | serialize
  | saveAck
  deriving DecidableEq

/-- A timer ends the wait, if nothing else does. -/
def Wait.bounded : Wait → Bool
  | .start => false
  | .saveLane => true
  | .sessionLock => false
  | .serialize => false
  | .saveAck => true

/-- What is awaited for a wallet has settled. -/
def Wait.EndsBy (wait : Wait) (entry : Nat) (event : Event Session) : Prop :=
  if wait = .start then ∃ succeeds, event = .built entry succeeds
  else ∃ succeeds changed, event = .proceed entry succeeds changed

def Eviction.wait (eviction : Eviction) : Option Wait :=
  match eviction.phase with
  | .saveLane => some .saveLane
  | .sessionLock => some .sessionLock
  | .collecting => some .serialize
  | .saving => some .saveAck
  | .wiping => none
  | .finished => none

/-- What the eviction still has before it. -/
def Eviction.rank (eviction : Eviction) : Nat :=
  match eviction.phase with
  | .saveLane => 5
  | .sessionLock => 4
  | .collecting => 3
  | .saving => 2
  | .wiping => 1
  | .finished => 0

theorem Eviction.rank_next (eviction : Eviction) (succeeds changed : Bool) :
    (eviction.next succeeds changed).rank < eviction.rank ∨
      eviction.phase = .finished ∧ eviction.next succeeds changed = eviction := by
  rw [Eviction.next]
  cases is : eviction.phase with
  | saveLane | sessionLock | saving | wiping => simp [rank, is]
  | collecting =>
    dsimp only
    split <;> simp [rank, is]
  | finished => simp

namespace Wallet

def wait (w : Wallet Session) : Option Wait :=
  match w.phase, w.eviction with
  | .starting, _ => some .start
  | .finished, some eviction => eviction.wait
  | _, _ => none

def rank (w : Wallet Session) : Nat :=
  match w.phase, w.eviction with
  | .building, _ => 8
  | .starting, _ => 7
  | .finished, none => 6
  | .finished, some eviction => eviction.rank
  | .discarding, _ => 1
  | .failed, _ => 0
  | .startFailed, _ => 0
  | .discarded, _ => 0

/-- What one event does to a wallet. -/
inductive Moves (entry : Nat) (event : Event Session) (w w' : Wallet Session) : Prop
  /-- Nothing, but that a call may join its build. -/
  | stays (phase : w'.phase = w.phase) (eviction : w'.eviction = w.eviction)
  | made (was : w.phase = .building) (becomes : w' = { w with phase := .starting })
  | failed (was : w.phase = .building) (becomes : w' = { w with phase := .failed })
  | startFailed (was : w.phase = .starting) (throws : event = .built entry false)
      (becomes : w' = { w with phase := .startFailed })
  | discarding (was : w.phase = .starting) (returns : event = .built entry true)
      (becomes : w' = { w with phase := .discarding, cleared := true })
  | registered (was : w.phase = .starting) (unevicted : w.eviction = none)
      (returns : event = .built entry true) (becomes : w' = { w with phase := .finished })
  | discarded (was : w.phase = .discarding) (becomes : w' = { w with phase := .discarded })
  | evicted (was : w.InUse) (caller : Nat) (awaitSaveAck : Bool)
      (becomes : w' = { w with eviction := some ⟨caller, awaitSaveAck, true, .saveLane⟩ })
  | proceeds (was : w.phase = .finished) (eviction : Eviction)
      (isEvicted : w.eviction = some eviction) (succeeds changed : Bool)
      (settled : event = .proceed entry succeeds changed)
      (becomes : w' = { w with
        eviction := some (eviction.next succeeds changed)
        cleared := w.cleared || (eviction.next succeeds changed).phase = .wiping })

variable {entry : Nat} {event : Event Session} {w w' : Wallet Session}

/-- A wallet that awaits something was built, and is neither in use nor wiped. -/
theorem Placed.of_wait {registered tracked : Prop} (placed : w.Placed registered tracked)
    {wait : Wait} (awaits : w.wait = some wait) :
    w.Built ∧ ¬registered ∧ w.cleared = false := by
  rw [Placed] at placed
  split at placed
  next phase _ => simp [Wallet.wait, phase] at awaits
  next phase _ => exact ⟨by simp [Built, phase], placed.1, placed.2.2⟩
  next phase _ => simp [Wallet.wait, phase] at awaits
  next phase _ => simp [Wallet.wait, phase] at awaits
  next phase _ => simp [Wallet.wait, phase] at awaits
  next phase _ => simp [Wallet.wait, phase] at awaits
  next phase unevicted => simp [Wallet.wait, phase, unevicted] at awaits
  next eviction phase evicted =>
    refine ⟨by simp [Built, phase], placed.1, Bool.eq_false_iff.mpr fun cleared => ?_⟩
    rw [Wallet.wait, phase, evicted] at awaits
    rcases placed.2.2.mp cleared with ended | ended
    · simp [Eviction.wait, ended] at awaits
    · simp [Eviction.wait, ended] at awaits
  · exact placed.elim

/-- A built wallet that awaits nothing is registered or wiped, or its start threw. -/
theorem Placed.of_settled {registered tracked : Prop} (placed : w.Placed registered tracked)
    (isBuilt : w.Built) (nothing : w.wait = none) :
    registered ∨ w.cleared = true ∨ w.phase = .startFailed := by
  rw [Placed] at placed
  split at placed
  next phase _ => exact absurd phase isBuilt.1
  next phase _ => simp [Wallet.wait, phase] at nothing
  · exact .inr (.inl placed.2.2)
  next phase _ => exact absurd phase isBuilt.2
  next phase _ => exact .inr (.inr phase)
  · exact .inr (.inl placed.2.2)
  · exact .inl placed.1
  next eviction phase evicted =>
    refine .inr (.inl (placed.2.2.mpr ?_))
    rw [Wallet.wait, phase, evicted] at nothing
    cases is : eviction.phase with
    | saveLane | sessionLock | collecting | saving => simp [Eviction.wait, is] at nothing
    | wiping => exact .inl rfl
    | finished => exact .inr rfl
  · exact placed.elim

/-- What is awaited settles by the end of the build, or by the next step of the eviction. -/
theorem of_endsBy {wait : Wait} (awaits : w.wait = some wait) (ends : wait.EndsBy entry event) :
    (w.phase = .starting ∧ ∃ succeeds, event = .built entry succeeds) ∨
      w.eviction ≠ none ∧ ∃ succeeds changed, event = .proceed entry succeeds changed := by
  rw [Wallet.wait] at awaits
  rw [Wait.EndsBy] at ends
  split at awaits
  next phase =>
    cases awaits
    exact .inl ⟨phase, ends⟩
  next eviction _ evicted =>
    have notStart : wait ≠ .start := by
      rintro rfl
      rw [Eviction.wait] at awaits
      split at awaits <;> cases awaits
    rw [if_neg notStart] at ends
    exact .inr ⟨by simp [evicted], ends⟩
  · cases awaits

theorem wait_congr (phase : w'.phase = w.phase) (eviction : w'.eviction = w.eviction) :
    w'.wait = w.wait := by
  rw [wait, wait, phase, eviction]

theorem rank_congr (phase : w'.phase = w.phase) (eviction : w'.eviction = w.eviction) :
    w'.rank = w.rank := by
  rw [rank, rank, phase, eviction]

namespace Moves

variable (moves : w.Moves entry event w')

include moves

/-- Once built, a wallet stays a built one. -/
theorem built (isBuilt : w.Built) : w'.Built := by
  cases moves with
  | stays phase _ =>
    rw [Built, phase]
    exact isBuilt
  | made was _ => exact absurd was isBuilt.1
  | failed was _ => exact absurd was isBuilt.1
  | startFailed _ _ becomes => simp [Built, becomes]
  | discarding _ _ becomes => simp [Built, becomes]
  | registered _ _ _ becomes => simp [Built, becomes]
  | discarded _ becomes => simp [Built, becomes]
  | evicted was _ _ becomes => simp [Built, becomes, was.1]
  | proceeds was _ _ _ _ _ becomes => simp [Built, becomes, was]

/-- An event brings a wallet closer to its end, or the wallet awaits the same. -/
theorem advances :
    w'.rank < w.rank ∨ w'.rank = w.rank ∧ w'.wait = w.wait := by
  cases moves with
  | stays phase eviction => exact .inr ⟨rank_congr phase eviction, wait_congr phase eviction⟩
  | made was becomes => simp [becomes, rank, was]
  | failed was becomes => simp [becomes, rank, was]
  | startFailed was _ becomes => simp [becomes, rank, was]
  | discarding was _ becomes => simp [becomes, rank, was]
  | registered was unevicted _ becomes => simp [becomes, rank, was, unevicted]
  | discarded was becomes => simp [becomes, rank, was]
  | evicted was _ _ becomes => simp [becomes, rank, was.1, was.2, Eviction.rank]
  | proceeds was eviction isEvicted succeeds changed _ becomes =>
    rcases eviction.rank_next succeeds changed with lower | ⟨ended, same⟩
    · left
      simpa only [becomes, rank, was, isEvicted] using lower
    · right
      simp [becomes, rank, wait, was, isEvicted, same, Eviction.wait, ended]

/-- What a wallet awaits stays so until it has settled. -/
theorem wait_of_unended {wait : Wait}
    (awaits : w.wait = some wait) (unended : ¬wait.EndsBy entry event) : w'.wait = some wait := by
  cases moves with
  | stays phase eviction => exact (wait_congr phase eviction).trans awaits
  | made was _ => simp [Wallet.wait, was] at awaits
  | failed was _ => simp [Wallet.wait, was] at awaits
  | startFailed was throws _ =>
    simp only [Wallet.wait, was, Option.some.injEq] at awaits
    exact absurd (awaits ▸ by simp [Wait.EndsBy, throws]) unended
  | discarding was returns _ =>
    simp only [Wallet.wait, was, Option.some.injEq] at awaits
    exact absurd (awaits ▸ by simp [Wait.EndsBy, returns]) unended
  | registered was _ returns _ =>
    simp only [Wallet.wait, was, Option.some.injEq] at awaits
    exact absurd (awaits ▸ by simp [Wait.EndsBy, returns]) unended
  | discarded was _ => simp [Wallet.wait, was] at awaits
  | evicted was _ _ _ => simp [Wallet.wait, was.1, was.2] at awaits
  | proceeds was eviction isEvicted _ _ settled _ =>
    have notStart : wait ≠ .start := by
      rintro rfl
      cases is : eviction.phase <;> simp [Wallet.wait, was, isEvicted, Eviction.wait, is] at awaits
    exact absurd (by simp [Wait.EndsBy, notStart, settled]) unended

/-- A start that threw leaves the wallet as it is. -/
theorem stays_startFailed (threw : w.phase = .startFailed) :
    w'.phase = .startFailed := by
  cases moves with
  | stays phase _ => exact phase.trans threw
  | made was _ => simp [threw] at was
  | failed was _ => simp [threw] at was
  | startFailed was _ _ => simp [threw] at was
  | discarding was _ _ => simp [threw] at was
  | registered was _ _ _ => simp [threw] at was
  | discarded was _ => simp [threw] at was
  | evicted was _ _ _ => simp [Wallet.InUse, threw] at was
  | proceeds was _ _ _ _ _ _ => simp [threw] at was

/-- A start throws in one way. -/
theorem of_startFailed (threw : w'.phase = .startFailed) :
    w.phase = .startFailed ∨ w.phase = .starting ∧ event = .built entry false := by
  cases moves with
  | stays phase _ => exact .inl (phase.symm.trans threw)
  | made _ becomes => simp [becomes] at threw
  | failed _ becomes => simp [becomes] at threw
  | startFailed was throws _ => exact .inr ⟨was, throws⟩
  | discarding _ _ becomes => simp [becomes] at threw
  | registered _ _ _ becomes => simp [becomes] at threw
  | discarded _ becomes => simp [becomes] at threw
  | evicted was _ _ becomes => simp [becomes, was.1] at threw
  | proceeds was _ _ _ _ _ becomes => simp [becomes, was] at threw

end Moves

end Wallet

namespace Registry

def wait (r : Registry Session) (entry : Nat) : Option Wait :=
  (r.wallets entry).bind Wallet.wait

def rank (r : Registry Session) (entry : Nat) : Nat :=
  ((r.wallets entry).map Wallet.rank).getD 9

/-- The wallet is registered or its keys are cleared. -/
def Kept (r : Registry Session) (entry : Nat) : Prop :=
  ∃ w, r.wallets entry = some w ∧ (r.facades w.session = some entry ∨ w.cleared = true)

section Moves

variable {r : Registry Session} {entry : Nat} {event : Event Session} {w : Wallet Session}

theorem wait_of_wallet (wallet : r.wallets entry = some w) : r.wait entry = w.wait := by
  rw [wait, wallet]
  rfl

theorem rank_of_wallet (wallet : r.wallets entry = some w) : r.rank entry = w.rank := by
  rw [rank, wallet]
  rfl

/-- A change of one wallet moves that one, and leaves the others as they are. -/
theorem moves_onWallet {changed : Nat} {before : Wallet Session}
    {change : Wallet Session → Wallet Session} (known : r.wallets changed = some before)
    (wallet : r.wallets entry = some w) (moves : before.Moves changed event (change before)) :
    ∃ w', (r.onWallet changed change).wallets entry = some w' ∧ w.Moves entry event w' := by
  by_cases same : entry = changed
  · subst same
    rw [known] at wallet
    cases wallet
    exact ⟨_, onWallet_self known change, moves⟩
  · exact ⟨w, (onWallet_of_ne r same change).trans wallet, .stays rfl rfl⟩

variable [DecidableEq Session]

theorem Sound.moves (sound : r.Sound) (event : Event Session) (wallet : r.wallets entry = some w) :
    ∃ w', (r.step event).wallets entry = some w' ∧ w.Moves entry event w' := by
  have turn := r.turn event
  generalize r.step event = r', (r.handle event).2 = answered at turn ⊢
  cases turn with
  | ignored | known | unregistered | marked => exact ⟨w, wallet, .stays rfl rfl⟩
  | joins isTracked =>
    obtain ⟨joined, known, _⟩ := sound.of_tracked isTracked
    exact moves_onWallet (r := r.called) known wallet (.stays rfl rfl)
  | starts =>
    have isOld : entry ≠ r.nextCall := Nat.ne_of_lt (sound.lt_nextCall wallet)
    exact ⟨w, (if_neg isOld).trans wallet, .stays rfl rfl⟩
  | made known was => exact moves_onWallet known wallet (.made was rfl)
  | throws known phase was =>
    rcases was with ⟨was, rfl⟩ | ⟨was, rfl⟩
    · exact moves_onWallet known wallet (.failed was rfl)
    · exact moves_onWallet known wallet (.startFailed was rfl rfl)
  | discarding known was => exact moves_onWallet known wallet (.discarding was rfl rfl)
  | registered known was =>
    have unevicted := (sound.of_building known (.inr (.inl was))).2.2
    exact moves_onWallet known wallet (.registered was unevicted rfl rfl)
  | discarded known was => exact moves_onWallet known wallet (.discarded was rfl)
  | evicts isRegistered awaitSaveAck =>
    obtain ⟨used, known, _, inUse, _⟩ := sound.of_registered isRegistered
    exact moves_onWallet (r := r.called) known wallet (.evicted inUse r.nextCall awaitSaveAck rfl)
  | proceeds known evicted succeeds changed =>
    have phase := sound.finished_of_evicted known evicted
    exact moves_onWallet known wallet (.proceeds phase _ evicted succeeds changed rfl rfl)

omit [DecidableEq Session] in
theorem rank_onWallet (wallet : r.wallets entry = some w)
    (change : Wallet Session → Wallet Session) :
    (r.onWallet entry change).rank entry = (change w).rank :=
  rank_of_wallet (onWallet_self wallet change)

/-- What a wallet awaited brings it closer to its end. -/
theorem Sound.ends (sound : r.Sound) (wallet : r.wallets entry = some w) {wait : Wait}
    (awaits : w.wait = some wait) (ends : wait.EndsBy entry event) :
    (r.step event).rank entry < r.rank entry := by
  have turn := r.turn event
  generalize r.step event = r', (r.handle event).2 = answered at turn ⊢
  rw [rank_of_wallet wallet]
  rcases Wallet.of_endsBy awaits ends with ⟨was, succeeds, rfl⟩ | ⟨isEvicted, _, _, rfl⟩
  · have unevicted := (sound.of_building wallet (.inr (.inl was))).2.2
    have rank : w.rank = 7 := by simp [Wallet.rank, was]
    rw [rank]
    cases turn with
    | ignored _ unfit => exact absurd was (unfit w wallet)
    | throws known phase isPhase =>
      rw [wallet] at known
      cases known
      refine (rank_onWallet wallet _).trans_lt ?_
      rcases isPhase with ⟨_, rfl⟩ | ⟨_, rfl⟩
      · simp [Wallet.rank]
      · simp [Wallet.rank]
    | discarding known _ =>
      refine (rank_onWallet wallet _).trans_lt ?_
      simp [Wallet.rank]
    | registered known _ =>
      refine (rank_onWallet wallet _).trans_lt ?_
      simp [Wallet.rank, unevicted]
  · cases turn with
    | ignored _ unfit => exact absurd (unfit w wallet) isEvicted
    | @proceeds _ _ eviction known evicted =>
      rw [wallet] at known
      cases known
      have phase := sound.finished_of_evicted wallet evicted
      refine (rank_onWallet wallet _).trans_lt ?_
      rcases eviction.rank_next _ _ with lower | ⟨ended, _⟩
      · simpa only [Wallet.rank, phase, evicted] using lower
      · simp [Wallet.wait, phase, evicted, Eviction.wait, ended] at awaits

/-- A start that throws leaves the wallet without an owner. -/
theorem startFailed_of_throws (wallet : r.wallets entry = some w) (was : w.phase = .starting) :
    ∃ w', (r.step (.built entry false)).wallets entry = some w' ∧ w'.phase = .startFailed := by
  have turn := r.turn (.built entry false)
  generalize r.step (.built entry false) = r', (r.handle _).2 = answered at turn ⊢
  cases turn with
  | ignored _ unfit => exact absurd was (unfit w wallet)
  | throws known phase isPhase =>
    rw [wallet] at known
    cases known
    rcases isPhase with ⟨building, _⟩ | ⟨_, rfl⟩
    · rw [was] at building
      cases building
    · exact ⟨_, onWallet_self wallet _, rfl⟩

/-- A new wallet is one that is being built. -/
theorem building_of_new (isNew : r.wallets entry = none)
    (wallet : (r.step event).wallets entry = some w) : w.phase = .building := by
  have unchanged : ∀ {changed : Nat} {change : Wallet Session → Wallet Session},
      (r.onWallet changed change).wallets entry ≠ some w := by
    intro changed change
    simp [onWallet, isNew]
  have notNew : r.wallets entry ≠ some w := by simp [isNew]
  have turn := r.turn event
  generalize r.step event = r', (r.handle event).2 = answered at turn wallet
  cases turn with
  | starts =>
    dsimp only at wallet
    split at wallet
    · cases wallet
      rfl
    · exact absurd wallet notNew
  | ignored | known | unregistered | marked => exact absurd wallet notNew
  | joins | made | throws | discarding | registered | discarded | evicts | proceeds =>
    exact absurd wallet unchanged

end Moves

section Schedules

variable [DecidableEq Session]

/-- `facade.start` does not throw. -/
def StartReturns (schedule : Nat → Event Session) (entry : Nat) : Prop :=
  ∀ time w, (stateAt step start schedule time).wallets entry = some w → w.phase = .starting →
    schedule time ≠ .built entry false

/-- What is awaited for the wallet comes, of the waits that have a bound or of those that have
none. -/
def WaitsEnd (schedule : Nat → Event Session) (entry : Nat) (bounded : Bool) : Prop :=
  ∀ time wait, (stateAt step start schedule time).wait entry = some wait → wait.bounded = bounded →
    ∃ later, time ≤ later ∧ wait.EndsBy entry (schedule later)

/-- Once it was built, a wallet always gets to be registered or wiped. -/
def EndsKept (schedule : Nat → Event Session) (entry : Nat) : Prop :=
  ∀ time w, (stateAt step start schedule time).wallets entry = some w → w.Built →
    ∃ later, time ≤ later ∧ (stateAt step start schedule later).Kept entry

variable {schedule : Nat → Event Session} {entry : Nat} {r : Registry Session}

theorem sound_at (schedule : Nat → Event Session) (time : Nat) :
    Sound (stateAt step start schedule time) := by
  have keeps : ∀ (r : Registry Session) event, r.Sound → (r.step event).Sound :=
    fun _ event sound => sound.step event
  exact stateAt_invariant keeps sound_start time

/-- The wallet is there, and was built. -/
def HasBuilt (entry : Nat) (r : Registry Session) : Prop :=
  r.Sound ∧ ∃ w, r.wallets entry = some w ∧ w.Built

theorem HasBuilt.step (has : r.HasBuilt entry) (event : Event Session) :
    (r.step event).HasBuilt entry := by
  obtain ⟨sound, w, wallet, isBuilt⟩ := has
  obtain ⟨w', wallet', moves⟩ := sound.moves event wallet
  exact ⟨sound.step event, w', wallet', moves.built isBuilt⟩

theorem HasBuilt.advances (has : r.HasBuilt entry) (event : Event Session) :
    (r.step event).rank entry < r.rank entry ∨
      (r.step event).rank entry = r.rank entry ∧ (r.step event).wait entry = r.wait entry := by
  obtain ⟨sound, w, wallet, _⟩ := has
  obtain ⟨w', wallet', moves⟩ := sound.moves event wallet
  rw [rank_of_wallet wallet, rank_of_wallet wallet', wait_of_wallet wallet, wait_of_wallet wallet']
  exact moves.advances

/-- Where the start returns, no wallet is left by a start that threw. -/
theorem StartReturns.not_startFailed (returns : StartReturns schedule entry) (time : Nat)
    {w : Wallet Session} (wallet : (stateAt step start schedule time).wallets entry = some w) :
    w.phase ≠ .startFailed := by
  induction time generalizing w with
  | zero => cases wallet
  | succ time ih =>
    intro threw
    cases before : (stateAt step start schedule time).wallets entry with
    | none =>
      have building := building_of_new before wallet
      rw [threw] at building
      cases building
    | some known =>
      obtain ⟨w', wallet', moves⟩ := (sound_at schedule time).moves (schedule time) before
      have same : w = w' := Option.some.inj (wallet.symm.trans wallet')
      rcases moves.of_startFailed (same ▸ threw) with already | ⟨starting, throws⟩
      · exact ih before already
      · exact returns time known before starting throws

omit [DecidableEq Session] in
/-- A wallet that awaits something is neither registered nor wiped. -/
theorem Sound.not_kept_of_wait (sound : r.Sound) {wait : Wait} (awaits : r.wait entry = some wait) :
    r.HasBuilt entry ∧ ¬r.Kept entry := by
  obtain ⟨w, wallet, isWait⟩ := Option.bind_eq_some_iff.mp awaits
  obtain ⟨isBuilt, unregistered, uncleared⟩ := (sound.placed entry w wallet).of_wait isWait
  refine ⟨⟨sound, w, wallet, isBuilt⟩, ?_⟩
  rintro ⟨w', wallet', isKept⟩
  rw [wallet] at wallet'
  cases wallet'
  rcases isKept with isRegistered | isCleared
  · exact unregistered isRegistered
  · rw [uncleared] at isCleared
    cases isCleared

/-- What never comes is awaited for ever. -/
theorem wait_forever {time : Nat} {wait : Wait}
    (awaits : (stateAt step start schedule time).wait entry = some wait)
    (never : ∀ later, time ≤ later → ¬wait.EndsBy entry (schedule later)) {later : Nat}
    (after : time ≤ later) : (stateAt step start schedule later).wait entry = some wait := by
  induction later, after using Nat.le_induction with
  | base => exact awaits
  | succ later isLater ih =>
    obtain ⟨w, wallet, isWait⟩ := Option.bind_eq_some_iff.mp ih
    obtain ⟨w', wallet', moves⟩ := (sound_at schedule later).moves (schedule later) wallet
    exact (wait_of_wallet wallet').trans (moves.wait_of_unended isWait (never later isLater))

/-- A wallet whose start threw is neither registered nor wiped, ever after. -/
theorem not_kept_of_startFailed {time : Nat} {w : Wallet Session}
    (wallet : (stateAt step start schedule time).wallets entry = some w)
    (threw : w.phase = .startFailed) {later : Nat} (after : time ≤ later) :
    ¬(stateAt step start schedule later).Kept entry := by
  have stays : ∃ w, (stateAt step start schedule later).wallets entry = some w ∧
      w.phase = .startFailed := by
    induction later, after using Nat.le_induction with
    | base => exact ⟨w, wallet, threw⟩
    | succ later _ ih =>
      obtain ⟨before, isBefore, threwBefore⟩ := ih
      obtain ⟨w', wallet', moves⟩ := (sound_at schedule later).moves (schedule later) isBefore
      exact ⟨w', wallet', moves.stays_startFailed threwBefore⟩
  obtain ⟨w, wallet, threw⟩ := stays
  have placed := (sound_at schedule later).placed entry w wallet
  rintro ⟨w', wallet', isKept⟩
  rw [wallet] at wallet'
  cases wallet'
  rw [Wallet.Placed, threw] at placed
  split at placed
  all_goals simp_all

/-- A facade that was made is always registered or wiped again if and only if its start does not
throw and what it awaits without a bound comes. -/
theorem endsKept_iff (timers : WaitsEnd schedule entry true) :
    EndsKept schedule entry ↔ StartReturns schedule entry ∧ WaitsEnd schedule entry false := by
  constructor
  · intro kept
    constructor
    · intro time w wallet starting throws
      obtain ⟨w', wallet', threw⟩ := startFailed_of_throws wallet starting
      rw [← throws] at wallet'
      have wallet' : (stateAt step start schedule (time + 1)).wallets entry = some w' := wallet'
      obtain ⟨later, after, isKept⟩ := kept (time + 1) w' wallet' (by simp [Wallet.Built, threw])
      exact not_kept_of_startFailed wallet' threw after isKept
    · intro time wait awaits _
      by_contra isNever
      have never : ∀ later, time ≤ later → ¬wait.EndsBy entry (schedule later) :=
        fun later after ends => isNever ⟨later, after, ends⟩
      obtain ⟨⟨_, w, wallet, isBuilt⟩, _⟩ := (sound_at schedule time).not_kept_of_wait awaits
      obtain ⟨later, after, isKept⟩ := kept time w wallet isBuilt
      have still := wait_forever awaits never after
      exact ((sound_at schedule later).not_kept_of_wait still).2 isKept
  · rintro ⟨returns, settles⟩ time w wallet isBuilt
    have has : HasBuilt entry (stateAt step start schedule time) :=
      ⟨sound_at schedule time, w, wallet, isBuilt⟩
    have keeps : ∀ (r : Registry Session) event, r.HasBuilt entry → (r.step event).HasBuilt entry :=
      fun _ event has => has.step event
    have progress : ∀ (r : Registry Session) event, r.HasBuilt entry →
        (r.step event).rank entry < r.rank entry ∨
          (r.step event).rank entry = r.rank entry ∧ (r.step event).wait entry = r.wait entry :=
      fun _ event has => has.advances event
    have helps : ∀ (r : Registry Session) event, r.HasBuilt entry →
        (∃ wait, r.wait entry = some wait ∧ wait.EndsBy entry event) →
        (r.step event).rank entry < r.rank entry := by
      rintro r event ⟨sound, w, wallet, _⟩ ⟨wait, awaits, ends⟩
      exact sound.ends wallet ((wait_of_wallet wallet).symm.trans awaits) ends
    have descends : ∀ now, time ≤ now → ¬(stateAt step start schedule now).wait entry = none →
        ∃ later, now ≤ later ∧ (stateAt step start schedule later).rank entry <
          (stateAt step start schedule now).rank entry := by
      intro now after awaits
      obtain ⟨wait, awaits⟩ := Option.ne_none_iff_exists'.mp awaits
      obtain ⟨later, afterNow, ends⟩ :
          ∃ later, now ≤ later ∧ wait.EndsBy entry (schedule later) := by
        cases isBounded : wait.bounded with
        | true => exact timers now wait awaits isBounded
        | false => exact settles now wait awaits isBounded
      have here := stateAt_invariant_from keeps has after
      have awaited : ∃ wait, (stateAt step start schedule now).wait entry = some wait ∧
          wait.EndsBy entry (schedule later) := ⟨wait, awaits, ends⟩
      exact @eventually_lower _ _ step start schedule _ (fun r => r.rank entry) _
        (fun r => r.wait entry) (fun awaited event => ∃ wait, awaited = some wait ∧
          wait.EndsBy entry event) keeps progress helps now later here afterNow awaited
    obtain ⟨later, after, nothing⟩ := eventually_of_descent time descends
    obtain ⟨sound, w', wallet', isBuilt'⟩ := stateAt_invariant_from keeps has after
    rw [wait_of_wallet wallet'] at nothing
    rcases (sound.placed entry w' wallet').of_settled isBuilt' nothing with
      isRegistered | isCleared | threw
    · exact ⟨later, after, w', wallet', .inl isRegistered⟩
    · exact ⟨later, after, w', wallet', .inr isCleared⟩
    · exact absurd threw (returns.not_startFailed later wallet')

end Schedules

section Lifecycle

variable [DecidableEq Session]

theorem sound_run (events : List (Event Session)) : (run step start events).Sound := by
  have keeps : ∀ (r : Registry Session) event, r.Sound → True → (r.step event).Sound :=
    fun _ event sound _ => sound.step event
  exact run_invariant keeps sound_start events (Along.trivial events)

/-- In every state that a run reaches, what is registered under a session is a built wallet of the
session with its keys, two wallets of a session are not in use at once, and a caller who is told to
use a wallet is told so when it is registered. A wallet that was built is in the end registered or
wiped if and only if its `facade.start` returns and the lock and the serialize of its eviction
come; what has a timer ends by itself. -/
theorem facade_lifecycle :
    (∀ events : List (Event Session),
      (∀ session entry, (run step start events).facades session = some entry →
        ∃ w, (run step start events).wallets entry = some w ∧ w.session = session ∧ w.Built ∧
          w.cleared = false) ∧
      (∀ first second w w', (run step start events).wallets first = some w →
        (run step start events).wallets second = some w' → w.session = w'.session →
        w.InUse → w'.InUse → first = second) ∧
      ∀ event caller entry alreadyExisted,
        (caller, .ready entry alreadyExisted) ∈ ((run step start events).handle event).2 →
        ∃ session w, (run step start (events ++ [event])).facades session = some entry ∧
          (run step start (events ++ [event])).wallets entry = some w ∧ w.cleared = false) ∧
    ∀ (schedule : Nat → Event Session) (entry : Nat), WaitsEnd schedule entry true →
      (EndsKept schedule entry ↔ StartReturns schedule entry ∧ WaitsEnd schedule entry false) := by
  constructor
  · intro events
    have sound := sound_run events
    refine ⟨?_, ?_, ?_⟩
    · intro session entry isRegistered
      obtain ⟨w, wallet, isSession, inUse, uncleared⟩ := sound.of_registered isRegistered
      exact ⟨w, wallet, isSession, by simp [Wallet.Built, inUse.1], uncleared⟩
    · intro first second w w' wallet wallet' same inUse inUse'
      have isFirst := sound.of_inUse wallet inUse
      rw [same, sound.of_inUse wallet' inUse'] at isFirst
      exact (Option.some.inj isFirst).symm
    · intro event caller entry alreadyExisted told
      obtain ⟨session, isRegistered⟩ :=
        ((run step start events).turn event).registered_of_ready told
      obtain ⟨w, wallet, _, _, uncleared⟩ := (sound.step event).of_registered isRegistered
      rw [run_append]
      exact ⟨session, w, isRegistered, wallet, uncleared⟩
  · intro schedule entry timers
    exact endsKept_iff timers

end Lifecycle

/-- Of a wallet that is not being discarded, this changes nothing. -/
def idle : Event Unit :=
  .discarded 0

/-- A wallet that is built and then evicted with a last save. -/
def evictedWallet : List (Event Unit) :=
  [.init (), .made 0, .built 0 true, .evict () true, .proceed 0 true true, .proceed 0 true true,
    .proceed 0 true true, .proceed 0 true true, .proceed 0 true true]

theorem evictedWallet_waits {time : Nat} {wait : Wait}
    (awaits : (stateAt step start (thenIdle evictedWallet idle) time).wait 0 = some wait) :
    wait.EndsBy 0 (thenIdle evictedWallet idle time) := by
  by_cases after : 9 ≤ time
  · rw [stateAt_thenIdle rfl rfl after] at awaits
    cases awaits
  · interval_cases time
    all_goals cases awaits
    all_goals simp [Wait.EndsBy, thenIdle, idle, evictedWallet]

theorem evictedWallet_returns : StartReturns (thenIdle evictedWallet idle) 0 := by
  intro time _ _ _
  by_cases after : 9 ≤ time
  · have isIdle : thenIdle evictedWallet idle time = .discarded 0 := thenIdle_of_le after
    simp [isIdle]
  · interval_cases time
    all_goals simp [thenIdle, idle, evictedWallet]

theorem facade_lifecycle_evicted : EndsKept (thenIdle evictedWallet idle) 0 :=
  (facade_lifecycle.2 (thenIdle evictedWallet idle) 0 fun time _ awaits _ =>
      ⟨time, le_rfl, evictedWallet_waits awaits⟩).mpr
    ⟨evictedWallet_returns, fun time _ awaits _ => ⟨time, le_rfl, evictedWallet_waits awaits⟩⟩

/-- A wallet whose `facade.start` throws. -/
def startThrows : List (Event Unit) :=
  [.init (), .made 0, .built 0 false]

/-- A wallet that is evicted, and whose serialize hangs. -/
def serializeHangs : List (Event Unit) :=
  [.init (), .made 0, .built 0 true, .evict () true, .proceed 0 true true, .proceed 0 true true]

theorem startThrows_timers : WaitsEnd (thenIdle startThrows idle) 0 true := by
  intro time wait awaits isBounded
  refine ⟨time, le_rfl, ?_⟩
  by_cases after : 3 ≤ time
  · rw [stateAt_thenIdle rfl rfl after] at awaits
    cases awaits
  · interval_cases time
    all_goals cases awaits
    cases isBounded

theorem serializeHangs_timers : WaitsEnd (thenIdle serializeHangs idle) 0 true := by
  intro time wait awaits isBounded
  refine ⟨time, le_rfl, ?_⟩
  by_cases after : 6 ≤ time
  · rw [stateAt_thenIdle rfl rfl after] at awaits
    cases awaits
    cases isBounded
  · interval_cases time
    all_goals cases awaits
    all_goals simp [Wait.EndsBy, thenIdle, idle, serializeHangs] at isBounded ⊢

/-- Of a wallet whose start throws, and of one whose last serialize hangs, nobody clears the
keys. -/
theorem built_wallet_never_wiped :
    (WaitsEnd (thenIdle startThrows idle) 0 true ∧ ¬EndsKept (thenIdle startThrows idle) 0) ∧
      WaitsEnd (thenIdle serializeHangs idle) 0 true ∧
        ¬EndsKept (thenIdle serializeHangs idle) 0 := by
  refine ⟨⟨startThrows_timers, fun kept => ?_⟩, serializeHangs_timers, fun kept => ?_⟩
  · have returns := ((endsKept_iff startThrows_timers).mp kept).1
    exact returns 2 _ rfl rfl rfl
  · have settles := ((endsKept_iff serializeHangs_timers).mp kept).2
    obtain ⟨later, after, ends⟩ := settles 6 .serialize rfl rfl
    rw [thenIdle_of_le after] at ends
    simp [Wait.EndsBy, idle] at ends

end Registry

end Nightgate.Midnight.Facades
