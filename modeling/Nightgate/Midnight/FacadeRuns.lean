import Nightgate.Midnight.FacadeLifecycle

/-!
# The registry along a run

Every wallet has its place: a session has one wallet in use at most, a caller is told to use only
the wallet that is registered, and no cleared wallet is registered, whatever the order of inits,
builds, failures and evictions.
-/

namespace Nightgate.Midnight.Facades

open Library

variable {Session : Type}

namespace Wallet

/-- Where a wallet stands in the registry. -/
def Placed (w : Wallet Session) (registered tracked : Prop) : Prop :=
  match w.phase, w.eviction with
  | .building, none => ¬registered ∧ tracked ∧ w.cleared = false
  | .starting, none => ¬registered ∧ tracked ∧ w.cleared = false
  | .discarding, none => ¬registered ∧ tracked ∧ w.cleared = true
  | .failed, none => ¬registered ∧ ¬tracked ∧ w.cleared = false
  | .startFailed, none => ¬registered ∧ ¬tracked ∧ w.cleared = false
  | .discarded, none => ¬registered ∧ ¬tracked ∧ w.cleared = true
  | .finished, none => registered ∧ ¬tracked ∧ w.cleared = false
  | .finished, some eviction => ¬registered ∧ ¬tracked ∧
      (w.cleared = true ↔ eviction.phase = .wiping ∨ eviction.phase = .finished)
  | _, some _ => False

/-- `WalletFacade.init` gave the facade. -/
def Built (w : Wallet Session) : Prop :=
  w.phase ≠ .building ∧ w.phase ≠ .failed

/-- The build, or the wiping that follows it, is not over. -/
def InFlight (w : Wallet Session) : Prop :=
  w.phase = .building ∨ w.phase = .starting ∨ w.phase = .discarding

/-- The wallet was built and is neither discarded nor evicted. -/
def InUse (w : Wallet Session) : Prop :=
  w.phase = .finished ∧ w.eviction = none

end Wallet

namespace Registry

/-- Every wallet stands where it should, and what is registered or tracked is a wallet. -/
structure Sound (r : Registry Session) : Prop where
  fresh : ∀ n, r.nextCall ≤ n → r.wallets n = none
  placed : ∀ entry w, r.wallets entry = some w →
    w.Placed (r.facades w.session = some entry) (r.buildsInFlight w.session = some entry)
  registered : ∀ session entry, r.facades session = some entry →
    ∃ w, r.wallets entry = some w ∧ w.session = session
  tracked : ∀ session entry, r.buildsInFlight session = some entry →
    ∃ w, r.wallets entry = some w ∧ w.session = session
  /-- No wallet is built while one is registered. -/
  apart : ∀ session, r.facades session ≠ none → r.buildsInFlight session = none

theorem sound_start : (start : Registry Session).Sound where
  fresh _ _ := rfl
  placed := nofun
  registered := nofun
  tracked := nofun
  apart _ isNone := absurd rfl isNone

/-- A step that changes one wallet, and the registry of that wallet only. -/
theorem Sound.change {r r' : Registry Session} (sound : r.Sound) {entry : Nat} {w : Wallet Session}
    (wallet : r'.wallets entry = some w)
    (others : ∀ other ≠ entry, r'.wallets other = r.wallets other)
    (facades : ∀ session, ∀ other ≠ entry,
      r'.facades session = some other ↔ r.facades session = some other)
    (builds : ∀ session, ∀ other ≠ entry,
      r'.buildsInFlight session = some other ↔ r.buildsInFlight session = some other)
    (ownFacade : ∀ session, r'.facades session = some entry → w.session = session)
    (ownBuild : ∀ session, r'.buildsInFlight session = some entry → w.session = session)
    (placed :
      w.Placed (r'.facades w.session = some entry) (r'.buildsInFlight w.session = some entry))
    (apart : ∀ session, r'.facades session ≠ none → r'.buildsInFlight session = none)
    (numbered : entry < r'.nextCall) (later : r.nextCall ≤ r'.nextCall) : r'.Sound where
  fresh n isFresh := by
    rw [others n (by omega)]
    exact sound.fresh n (by omega)
  placed other w' isWallet := by
    by_cases same : other = entry
    · subst same
      rw [wallet] at isWallet
      cases isWallet
      exact placed
    · rw [others other same] at isWallet
      rw [facades _ other same, builds _ other same]
      exact sound.placed other w' isWallet
  registered session other isRegistered := by
    by_cases same : other = entry
    · subst same
      exact ⟨w, wallet, ownFacade session isRegistered⟩
    · rw [others other same]
      exact sound.registered session other ((facades session other same).mp isRegistered)
  tracked session other isTracked := by
    by_cases same : other = entry
    · subst same
      exact ⟨w, wallet, ownBuild session isTracked⟩
    · rw [others other same]
      exact sound.tracked session other ((builds session other same).mp isTracked)
  apart := apart

theorem onWallet_self {r : Registry Session} {entry : Nat} {w : Wallet Session}
    (wallet : r.wallets entry = some w) (change : Wallet Session → Wallet Session) :
    (r.onWallet entry change).wallets entry = some (change w) := by
  simp only [onWallet, if_true, wallet, Option.map_some]

theorem onWallet_of_ne (r : Registry Session) {entry other : Nat} (differ : other ≠ entry)
    (change : Wallet Session → Wallet Session) :
    (r.onWallet entry change).wallets other = r.wallets other :=
  if_neg differ

theorem Sound.lt_nextCall {r : Registry Session} (sound : r.Sound) {entry : Nat}
    {w : Wallet Session} (wallet : r.wallets entry = some w) : entry < r.nextCall := by
  by_contra isFresh
  rw [sound.fresh entry (by omega)] at wallet
  cases wallet

section Places

variable {r : Registry Session} {entry : Nat} {session : Session} {w : Wallet Session}

variable (sound : r.Sound)

include sound

/-- A registered wallet is in use, with its keys. -/
theorem Sound.of_registered (isRegistered : r.facades session = some entry) :
    ∃ w, r.wallets entry = some w ∧ w.session = session ∧ w.InUse ∧ w.cleared = false := by
  obtain ⟨w, wallet, rfl⟩ := sound.registered session entry isRegistered
  have placed := sound.placed entry w wallet
  refine ⟨w, wallet, rfl, ?_⟩
  rw [Wallet.Placed] at placed
  split at placed
  · exact absurd isRegistered placed.1
  · exact absurd isRegistered placed.1
  · exact absurd isRegistered placed.1
  · exact absurd isRegistered placed.1
  · exact absurd isRegistered placed.1
  · exact absurd isRegistered placed.1
  next phase evicted => exact ⟨⟨phase, evicted⟩, placed.2.2⟩
  · exact absurd isRegistered placed.1
  · exact placed.elim

/-- A wallet in use is the registered one of its session. -/
theorem Sound.of_inUse (wallet : r.wallets entry = some w) (inUse : w.InUse) :
    r.facades w.session = some entry := by
  have placed := sound.placed entry w wallet
  rw [Wallet.Placed, inUse.1, inUse.2] at placed
  exact placed.1

/-- A tracked wallet is being built, or wiped after its build. -/
theorem Sound.of_tracked (isTracked : r.buildsInFlight session = some entry) :
    ∃ w, r.wallets entry = some w ∧ w.session = session ∧ w.eviction = none ∧ w.InFlight := by
  obtain ⟨w, wallet, rfl⟩ := sound.tracked session entry isTracked
  have placed := sound.placed entry w wallet
  refine ⟨w, wallet, rfl, ?_⟩
  rw [Wallet.Placed] at placed
  split at placed
  next phase evicted => exact ⟨evicted, .inl phase⟩
  next phase evicted => exact ⟨evicted, .inr (.inl phase)⟩
  next phase evicted => exact ⟨evicted, .inr (.inr phase)⟩
  · exact absurd isTracked placed.2.1
  · exact absurd isTracked placed.2.1
  · exact absurd isTracked placed.2.1
  · exact absurd isTracked placed.2.1
  · exact absurd isTracked placed.2.1
  · exact placed.elim

/-- While a wallet is built, it is the tracked one of its session and none is registered. -/
theorem Sound.of_building (wallet : r.wallets entry = some w)
    (phase : w.InFlight) :
    r.buildsInFlight w.session = some entry ∧ r.facades w.session = none ∧ w.eviction = none := by
  have placed := sound.placed entry w wallet
  have tracked : r.buildsInFlight w.session = some entry ∧ w.eviction = none := by
    rw [Wallet.Placed] at placed
    split at placed
    next evicted => exact ⟨placed.2.1, evicted⟩
    next evicted => exact ⟨placed.2.1, evicted⟩
    next evicted => exact ⟨placed.2.1, evicted⟩
    next is _ => simp [Wallet.InFlight, is] at phase
    next is _ => simp [Wallet.InFlight, is] at phase
    next is _ => simp [Wallet.InFlight, is] at phase
    next is _ => simp [Wallet.InFlight, is] at phase
    next is _ => simp [Wallet.InFlight, is] at phase
    · exact placed.elim
  refine ⟨tracked.1, ?_, tracked.2⟩
  by_contra isRegistered
  rw [sound.apart _ isRegistered] at tracked
  cases tracked.1

/-- Only a wallet that was registered is evicted. -/
theorem Sound.finished_of_evicted (wallet : r.wallets entry = some w)
    {eviction : Eviction} (evicted : w.eviction = some eviction) : w.phase = .finished := by
  have placed := sound.placed entry w wallet
  rw [Wallet.Placed, evicted] at placed
  cases is : w.phase with
  | finished => rfl
  | building | starting | discarding | failed | startFailed | discarded => simp [is] at placed

end Places

section Steps

variable [DecidableEq Session]

/-- The number of a call is taken. -/
def called (r : Registry Session) : Registry Session :=
  { r with nextCall := r.nextCall + 1 }

/-- The wallet that the event is about does not await what has settled. -/
def Ignores (r : Registry Session) : Event Session → Prop
  | .built entry _ => ∀ w, r.wallets entry = some w → w.phase ≠ .starting
  | .proceed entry _ _ => ∀ w, r.wallets entry = some w → w.eviction = none
  | _ => True

/-- What an event does, and the answers it gives. -/
inductive Turn (r : Registry Session) :
    Event Session → Registry Session → List (Nat × Reply) → Prop
  /-- The event does not fit the wallet it is about. -/
  | ignored (event : Event Session) (unfit : r.Ignores event) : r.Turn event r []
  | known {session entry} (isRegistered : r.facades session = some entry) :
      r.Turn (.init session) r.called [(r.nextCall, .ready entry true)]
  | joins {session entry} (isTracked : r.buildsInFlight session = some entry) :
      r.Turn (.init session)
        (r.called.onWallet entry fun w => { w with joined := w.joined ++ [r.nextCall] }) []
  | starts {session} (isFree : r.facades session = none)
      (isIdle : r.buildsInFlight session = none) :
      r.Turn (.init session)
        { (r.called.mark session false).track session (some r.nextCall) with
          wallets := fun other => if other = r.nextCall then
            some ⟨session, .building, [], none, false⟩ else r.wallets other } []
  | made {entry w} (wallet : r.wallets entry = some w) (was : w.phase = .building) :
      r.Turn (.made entry) (r.onWallet entry fun w => { w with phase := .starting }) []
  | throws {entry w} (wallet : r.wallets entry = some w) (phase : BuildPhase)
      (was : w.phase = .building ∧ phase = .failed ∨ w.phase = .starting ∧ phase = .startFailed) :
      r.Turn (.built entry false) (r.buildThrows entry w.session w.joined phase).1
        (r.buildThrows entry w.session w.joined phase).2
  | discarding {entry w} (wallet : r.wallets entry = some w) (was : w.phase = .starting) :
      r.Turn (.built entry true)
        ((r.onWallet entry fun w => { w with phase := .discarding, cleared := true }).mark
          w.session false) []
  | registered {entry w} (wallet : r.wallets entry = some w) (was : w.phase = .starting) :
      r.Turn (.built entry true)
        (((r.onWallet entry fun w => { w with phase := .finished }).register w.session
          (some entry)).track w.session none)
        (answers entry w.joined (.ready entry false) (.ready entry true))
  | discarded {entry w} (wallet : r.wallets entry = some w) (was : w.phase = .discarding) :
      r.Turn (.discarded entry)
        ((r.onWallet entry fun w => { w with phase := .discarded }).track w.session none)
        (answers entry w.joined .evictedWhileBuilding .evictedWhileBuilding)
  | unregistered (session : Session) (awaitSaveAck : Bool) :
      r.Turn (.evict session awaitSaveAck) r.called [(r.nextCall, .notEvicted)]
  | marked (session : Session) (awaitSaveAck : Bool) :
      r.Turn (.evict session awaitSaveAck) (r.called.mark session true)
        [(r.nextCall, .evicted false)]
  | evicts {session entry} (isRegistered : r.facades session = some entry) (awaitSaveAck : Bool) :
      r.Turn (.evict session awaitSaveAck) ((r.called.register session none).onWallet entry fun w =>
          { w with eviction := some ⟨r.nextCall, awaitSaveAck, true, .saveLane⟩ }) []
  | proceeds {entry w eviction} (wallet : r.wallets entry = some w)
      (evicted : w.eviction = some eviction) (succeeds changed : Bool) :
      r.Turn (.proceed entry succeeds changed)
        (r.onWallet entry fun w => { w with
          eviction := some (eviction.next succeeds changed)
          cleared := w.cleared || (eviction.next succeeds changed).phase = .wiping })
        (if eviction.phase = .wiping then [(eviction.caller, .evicted eviction.saved)] else [])

theorem turn_built (r : Registry Session) (entry : Nat) (succeeds : Bool) :
    r.Turn (.built entry succeeds) (r.built entry succeeds).1 (r.built entry succeeds).2 := by
  rw [Registry.built]
  split
  next wallet =>
    cases succeeds with
    | true =>
      refine .ignored _ fun w isWallet => ?_
      rw [wallet] at isWallet
      cases isWallet
      nofun
    | false => exact .throws wallet .failed (.inl ⟨rfl, rfl⟩)
  next wallet =>
    cases succeeds with
    | false => exact .throws wallet .startFailed (.inr ⟨rfl, rfl⟩)
    | true =>
      simp only [Bool.not_true, Bool.false_eq_true, if_false]
      split
      · exact .discarding wallet rfl
      · exact .registered wallet rfl
  next notStarting =>
    refine .ignored _ ?_
    rintro ⟨session, _, joined, eviction, cleared⟩ isWallet rfl
    exact notStarting session joined eviction cleared isWallet

theorem turn (r : Registry Session) (event : Event Session) :
    r.Turn event (r.step event) (r.handle event).2 := by
  rw [Registry.step]
  cases event with
  | init session =>
    rw [handle, Registry.init]
    split
    next isRegistered => exact .known isRegistered
    next isFree =>
      split
      next isTracked => exact .joins isTracked
      next isIdle => exact .starts isFree isIdle
  | made entry =>
    rw [handle, Registry.made]
    split
    next wallet => exact .made wallet rfl
    · exact .ignored _ trivial
  | built entry succeeds => exact r.turn_built entry succeeds
  | discarded entry =>
    rw [handle, Registry.discarded]
    split
    next wallet => exact .discarded wallet rfl
    · exact .ignored _ trivial
  | evict session awaitSaveAck =>
    rw [handle, Registry.evict]
    split
    · split
      · exact .unregistered session awaitSaveAck
      · exact .marked session awaitSaveAck
    next isRegistered => exact .evicts isRegistered awaitSaveAck
  | proceed entry succeeds changed =>
    rw [handle, Registry.proceed]
    split
    next unevicted =>
      refine .ignored _ fun w wallet => ?_
      rwa [wallet, Option.bind_some] at unevicted
    next isEviction =>
      obtain ⟨w, wallet, evicted⟩ := Option.bind_eq_some_iff.mp isEviction
      exact .proceeds wallet evicted succeeds changed

variable {r r' : Registry Session} {event : Event Session} {answered : List (Nat × Reply)}
  {entry : Nat} {session : Session} {w : Wallet Session}

omit [DecidableEq Session] in
theorem Sound.called (sound : r.Sound) : r.called.Sound :=
  { sound with fresh := fun n later => sound.fresh n (Nat.le_of_succ_le later) }

theorem Sound.mark (sound : r.Sound) (session : Session) (marked : Bool) :
    (r.mark session marked).Sound :=
  { sound with }

omit [DecidableEq Session] in
/-- A change of a wallet that leaves it in its place. -/
theorem Sound.onWallet (sound : r.Sound) (wallet : r.wallets entry = some w)
    (change : Wallet Session → Wallet Session) (same : (change w).session = w.session)
    (placed : (change w).Placed (r.facades w.session = some entry)
      (r.buildsInFlight w.session = some entry)) : (r.onWallet entry change).Sound := by
  have own : ∀ {registry : Session → Option Nat} {session : Session},
      (∀ session entry, registry session = some entry →
        ∃ w, r.wallets entry = some w ∧ w.session = session) →
      registry session = some entry → (change w).session = session := by
    intro registry session known isEntry
    obtain ⟨other, isOther, isSession⟩ := known session entry isEntry
    rw [wallet] at isOther
    cases isOther
    exact same.trans isSession
  apply sound.change (onWallet_self wallet change)
  · intro other differ
    exact onWallet_of_ne r differ change
  · intro _ _ _
    exact Iff.rfl
  · intro _ _ _
    exact Iff.rfl
  · intro session isRegistered
    exact own sound.registered isRegistered
  · intro session isTracked
    exact own sound.tracked isTracked
  · rw [same]
    exact placed
  · exact sound.apart
  · exact sound.lt_nextCall wallet
  · exact Nat.le_refl _

/-- A map that is set or cleared for one session keeps what it has of other wallets. -/
theorem set_eq_some_iff {map : Session → Option Nat} {value : Option Nat}
    (before : map session = none ∨ map session = some entry)
    (after : value = none ∨ value = some entry) (other : Session) (wallet : Nat)
    (differ : wallet ≠ entry) :
    (if other = session then value else map other) = some wallet ↔ map other = some wallet := by
  split
  next same =>
    subst same
    constructor
    · rintro rfl
      rcases after with isNone | isEntry
      · cases isNone
      · exact absurd (Option.some.inj isEntry) differ
    · intro isWallet
      rw [isWallet] at before
      rcases before with isNone | isEntry
      · cases isNone
      · exact absurd (Option.some.inj isEntry) differ
  · exact Iff.rfl

theorem register_self (isFacade : r.facades session = none) : r.register session none = r := by
  have same : (fun other => if other = session then none else r.facades other) = r.facades := by
    funext other
    split
    next isSession => rw [isSession, isFacade]
    · rfl
  rw [register, same]

theorem track_self (isBuild : r.buildsInFlight session = none) : r.track session none = r := by
  have same : (fun other => if other = session then none else r.buildsInFlight other) =
      r.buildsInFlight := by
    funext other
    split
    next isSession => rw [isSession, isBuild]
    · rfl
  rw [track, same]

/-- A change of a wallet with its place in the registry. -/
theorem Sound.rewire (sound : r.Sound) (wallet : r.wallets entry = some w)
    (change : Wallet Session → Wallet Session) (same : (change w).session = w.session)
    {facade build : Option Nat}
    (facadeBefore : r.facades w.session = none ∨ r.facades w.session = some entry)
    (buildBefore : r.buildsInFlight w.session = none ∨ r.buildsInFlight w.session = some entry)
    (facadeAfter : facade = none ∨ facade = some entry)
    (buildAfter : build = none ∨ build = some entry) (apart : facade ≠ none → build = none)
    (placed : (change w).Placed (facade = some entry) (build = some entry)) :
    (((r.onWallet entry change).register w.session facade).track w.session build).Sound := by
  have own : ∀ {map : Session → Option Nat} {value : Option Nat} {other : Session},
      (∀ session entry, map session = some entry →
        ∃ w, r.wallets entry = some w ∧ w.session = session) →
      (if other = w.session then value else map other) = some entry →
      (change w).session = other := by
    intro map value other known isEntry
    split at isEntry
    next isSession => rw [same, isSession]
    · obtain ⟨w', isWallet, isSession⟩ := known other entry isEntry
      rw [wallet] at isWallet
      cases isWallet
      exact same.trans isSession
  have changed : (((r.onWallet entry change).register w.session facade).track w.session
      build).wallets entry = some (change w) := onWallet_self wallet change
  apply sound.change changed
  · intro other differ
    exact onWallet_of_ne r differ change
  · exact set_eq_some_iff facadeBefore facadeAfter
  · exact set_eq_some_iff buildBefore buildAfter
  · intro other isRegistered
    exact own sound.registered isRegistered
  · intro other isTracked
    exact own sound.tracked isTracked
  · simp only [register, track, same, if_true]
    exact placed
  · intro other isRegistered
    simp only [register, track, Registry.onWallet] at isRegistered ⊢
    split
    next isSession =>
      rw [if_pos isSession] at isRegistered
      exact apart isRegistered
    next isOther =>
      rw [if_neg isOther] at isRegistered
      exact sound.apart other isRegistered
  · exact sound.lt_nextCall wallet
  · exact Nat.le_refl _

theorem Sound.starts (sound : r.Sound) (isFree : r.facades session = none)
    (isIdle : r.buildsInFlight session = none) :
    Sound { (r.called.mark session false).track session (some r.nextCall) with
      wallets := fun other => if other = r.nextCall then
        some ⟨session, .building, [], none, false⟩ else r.wallets other } := by
  apply sound.change (w := ⟨session, .building, [], .none, false⟩) (if_pos rfl)
  · intro other differ
    exact if_neg differ
  · intro _ _ _
    exact Iff.rfl
  · exact set_eq_some_iff (.inl isIdle) (.inr rfl)
  · intro other isRegistered
    obtain ⟨w, wallet, _⟩ := sound.registered other r.nextCall isRegistered
    rw [sound.fresh r.nextCall (Nat.le_refl _)] at wallet
    cases wallet
  · intro other isTracked
    simp only [track] at isTracked
    split at isTracked
    next same => exact same.symm
    · obtain ⟨w, wallet, _⟩ := sound.tracked other r.nextCall isTracked
      rw [sound.fresh r.nextCall (Nat.le_refl _)] at wallet
      cases wallet
  · refine ⟨?_, if_pos rfl, rfl⟩
    simp only [track, Registry.mark, Registry.called, isFree]
    nofun
  · intro other isRegistered
    simp only [track, Registry.mark] at isRegistered ⊢
    split
    next same =>
      subst same
      exact absurd isFree isRegistered
    · exact sound.apart other isRegistered
  · exact Nat.lt_succ_self _
  · exact Nat.le_succ _

omit [DecidableEq Session] in
/-- The keys are cleared when the eviction comes to `zeroEntry`. -/
theorem Sound.proceeds (sound : r.Sound) {eviction : Eviction} (wallet : r.wallets entry = some w)
    (evicted : w.eviction = some eviction) (succeeds changed : Bool) :
    (r.onWallet entry fun w => { w with
      eviction := some (eviction.next succeeds changed)
      cleared := w.cleared || (eviction.next succeeds changed).phase = .wiping }).Sound := by
  apply sound.onWallet wallet _ rfl
  have placed := sound.placed entry w wallet
  have phase := sound.finished_of_evicted wallet evicted
  simp only [Wallet.Placed, phase, evicted] at placed ⊢
  refine ⟨placed.1, placed.2.1, ?_⟩
  rw [Bool.or_eq_true, decide_eq_true_eq, placed.2.2, Eviction.next]
  cases is : eviction.phase with
  | saveLane | sessionLock | saving | wiping => simp
  | collecting =>
    dsimp only
    split <;> simp
  | finished => simp [is]

theorem Turn.sound (turn : r.Turn event r' answered) (sound : r.Sound) : r'.Sound := by
  cases turn with
  | ignored => exact sound
  | known | unregistered => exact sound.called
  | joins isTracked =>
    obtain ⟨w, wallet, rfl, _⟩ := sound.of_tracked isTracked
    apply sound.called.onWallet wallet _ rfl
    exact sound.placed _ w wallet
  | starts isFree isIdle => exact sound.starts isFree isIdle
  | made wallet was =>
    have placed := sound.placed _ _ wallet
    apply sound.onWallet wallet _ rfl
    have unevicted := (sound.of_building wallet (.inl was)).2.2
    simp only [Wallet.Placed, was, unevicted] at placed ⊢
    exact placed
  | throws wallet phase was =>
    have inFlight : Wallet.InFlight _ := was.imp And.left fun starts => .inl starts.1
    obtain ⟨isTracked, isFree, unevicted⟩ := sound.of_building wallet inFlight
    have placed := sound.placed _ _ wallet
    have rewired := sound.rewire wallet (fun w => { w with phase := phase }) rfl (.inl isFree)
      (.inr isTracked) (.inl rfl) (.inl rfl) (fun _ => rfl) (by
        rcases was with ⟨was, rfl⟩ | ⟨was, rfl⟩
        · simp_all [Wallet.Placed]
        · simp_all [Wallet.Placed])
    rwa [register_self (by exact isFree)] at rewired
  | discarding wallet was =>
    have placed := sound.placed _ _ wallet
    apply Sound.mark
    apply sound.onWallet wallet _ rfl
    have unevicted := (sound.of_building wallet (.inr (.inl was))).2.2
    simp only [Wallet.Placed, was, unevicted] at placed ⊢
    exact ⟨placed.1, placed.2.1, trivial⟩
  | registered wallet was =>
    obtain ⟨isTracked, isFree, unevicted⟩ := sound.of_building wallet (.inr (.inl was))
    have placed := sound.placed _ _ wallet
    simp only [Wallet.Placed, was, unevicted] at placed
    exact sound.rewire wallet (fun w => { w with phase := .finished }) rfl (.inl isFree)
      (.inr isTracked) (.inr rfl) (.inl rfl) (fun _ => rfl) (by
        simp [Wallet.Placed, unevicted, placed.2.2])
  | discarded wallet was =>
    obtain ⟨isTracked, isFree, unevicted⟩ := sound.of_building wallet (.inr (.inr was))
    have placed := sound.placed _ _ wallet
    simp only [Wallet.Placed, was, unevicted] at placed
    have rewired := sound.rewire wallet (fun w => { w with phase := .discarded }) rfl (.inl isFree)
      (.inr isTracked) (.inl rfl) (.inl rfl) (fun _ => rfl) (by
        simp [Wallet.Placed, unevicted, placed.2.2])
    rwa [register_self (by exact isFree)] at rewired
  | marked => exact sound.called.mark _ true
  | evicts isRegistered awaitSaveAck =>
    obtain ⟨w, wallet, rfl, ⟨phase, unevicted⟩, uncleared⟩ := sound.of_registered isRegistered
    have isIdle := sound.apart w.session (by rw [isRegistered]; nofun)
    have rewired := sound.called.rewire wallet
      (fun w => { w with eviction := some ⟨r.nextCall, awaitSaveAck, true, .saveLane⟩ }) rfl
      (.inr isRegistered) (.inl isIdle) (.inl rfl) (.inl rfl) (fun _ => rfl) (by
        simp [Wallet.Placed, phase, uncleared])
    rwa [track_self (by exact isIdle)] at rewired
  | proceeds wallet evicted succeeds changed =>
    exact sound.proceeds wallet evicted succeeds changed

theorem Sound.step (sound : r.Sound) (event : Event Session) : (r.step event).Sound :=
  (r.turn event).sound sound

/-- A caller is told to use a wallet that is registered. -/
theorem Turn.registered_of_ready (turn : r.Turn event r' answered) {caller : Nat}
    {alreadyExisted : Bool} (told : (caller, .ready entry alreadyExisted) ∈ answered) :
    ∃ session, r'.facades session = some entry := by
  cases turn with
  | known isRegistered =>
    cases List.mem_singleton.mp told
    exact ⟨_, isRegistered⟩
  | @registered known w =>
    have same : known = entry := by
      rw [answers, List.mem_cons, List.mem_map] at told
      rcases told with first | ⟨_, _, later⟩
      · cases first
        rfl
      · cases later
        rfl
    exact ⟨w.session, same ▸ if_pos rfl⟩
  | throws => simp [buildThrows, answers] at told
  | discarded => simp [answers] at told
  | proceeds =>
    split at told
    · simp at told
    · cases told
  | ignored | joins | starts | made | discarding | evicts => cases told
  | unregistered | marked => simp at told

end Steps

end Registry

end Nightgate.Midnight.Facades
