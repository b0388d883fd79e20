import Nightgate.Midnight.UnboundSponsoring

/-!
# Leased backings are exclusive
-/

namespace Nightgate.Midnight

open Library

section Build

variable {sessionId : String} {leased : DustLease} {needSpecks : Nat} {fresh : List DustNote}

/-- The inputs of a spend are among the notes. -/
theorem dustSpendInputs_notes (notes : List DustNote) (target : Nat) :
    ∀ input ∈ dustSpendInputs notes target, input.1 ∈ notes := by
  induction notes generalizing target with
  | nil => simp [dustSpendInputs]
  | cons note rest ih =>
    intro input isInput
    rw [dustSpendInputs] at isInput
    split at isInput
    · cases isInput
    · cases List.mem_cons.mp isInput with
      | inl isFirst =>
        rw [isFirst]
        exact List.mem_cons_self ..
      | inr isLater => exact List.mem_cons_of_mem _ (ih _ input isLater)

theorem betterNote_mem (notes : List DustNote) (start : Option DustNote) (note : DustNote)
    (isBest : notes.foldl betterNote start = some note) : start = some note ∨ note ∈ notes := by
  induction notes generalizing start with
  | nil => exact Or.inl isBest
  | cons first rest ih =>
    cases ih _ isBest with
    | inr isLater => exact Or.inr (List.mem_cons_of_mem _ isLater)
    | inl isNow =>
      cases start with
      | none =>
        rw [betterNote, Option.some.injEq] at isNow
        exact Or.inr (isNow ▸ List.mem_cons_self ..)
      | some current =>
        rw [betterNote] at isNow
        split at isNow
        · rw [Option.some.injEq] at isNow
          exact Or.inr (isNow ▸ List.mem_cons_self ..)
        · exact Or.inl isNow

theorem bestOn_key {key : String} {note : DustNote}
    (isBest : bestOn sessionId fresh key = some note) : backingKey sessionId note = key := by
  cases betterNote_mem _ none note isBest with
  | inl isStart => cases isStart
  | inr isNote => simpa using (List.mem_filter.mp isNote).2

theorem leasedNotes_keys {notes : List DustNote}
    (isNotes : leasedNotes sessionId fresh leased needSpecks = .ok notes) :
    ∀ note ∈ notes, backingKey sessionId note ∈ leased.parts.map Prod.fst := by
  intro note isNote
  simp only [leasedNotes] at isNotes
  split at isNotes
  next part isParts =>
    split at isNotes
    next chosen found =>
      cases isNotes
      have covers := List.find?_some found
      simp only [decide_eq_true_eq] at covers
      rw [List.mem_singleton.mp isNote, isParts, covers.1]
      exact List.mem_singleton_self _
    · cases isNotes
  · split at isNotes
    · cases isNotes
    · cases isNotes
      obtain ⟨part, isPart, isBest⟩ := List.mem_filterMap.mp isNote
      rw [bestOn_key isBest]
      exact List.mem_map_of_mem isPart

theorem buildDustSpend_keys {price : Nat → Option Nat} {built : DustSpend}
    (isBuilt : buildDustSpend sessionId leased needSpecks fresh price = .ok built) :
    ∀ input ∈ built.inputs, backingKey sessionId input.1 ∈ leased.parts.map Prod.fst := by
  intro input isInput
  simp only [buildDustSpend] at isBuilt
  split at isBuilt
  · cases isBuilt
  next notes isNotes =>
    split at isBuilt
    · cases isBuilt
    next target _ =>
      cases isBuilt
      exact leasedNotes_keys isNotes input.1 (dustSpendInputs_notes notes target input isInput)

end Build

/-- The spend of a sponsoring lies on the backings of its lease. -/
def UnboundSponsoring.SpendsLeased (sponsoring : UnboundSponsoring) : Prop :=
  ∀ built ∈ sponsoring.stage.spend, ∃ leased ∈ sponsoring.stage.lease, ∀ input ∈ built.inputs,
      backingKey sponsoring.sessionId input.1 ∈ leased.parts.map Prod.fst

namespace SponsorDesk

/-! ## What a step does -/

/-- What one step of a sponsoring does to the worker. -/
inductive Effect (desk : SponsorDesk) (id : Nat) (sponsoring : UnboundSponsoring)
    (event : DeskEvent) : SponsorDesk → Prop where
  | idle : Effect desk id sponsoring event desk
  | moves (next : UnboundSponsoring) (sameLease : next.stage.lease = sponsoring.stage.lease)
      (leasedSpend : next.SpendsLeased) : Effect desk id sponsoring event (desk.put id next)
  | takes (next : UnboundSponsoring) (keys : List String) (backing : String) (ttlMs : Nat)
      (acquires : event.Acquires) (distinct : keys.Nodup)
      (free : ∀ key ∈ keys, desk.locks.busy key = false)
      (isLease : next.stage.lease = some ⟨(desk.locks.grantAll ttlMs keys).1, backing⟩)
      (noSpend : next.stage.spend = none) :
      Effect desk id sponsoring event
        ({ desk with locks := (desk.locks.grantAll ttlMs keys).2 }.put id next)
  | renews (leased : DustLease) (isLease : sponsoring.stage.lease = some leased)
      (part : String × Nat) (isPart : part ∈ leased.parts) (ttlMs : Nat) :
      Effect desk id sponsoring event { desk with locks := desk.locks.renew part.1 part.2 ttlMs }
  | letsGo (leased : DustLease) (isLease : sponsoring.stage.lease = some leased)
      (next : UnboundSponsoring) (unleased : next.stage.lease = none) :
      Effect desk id sponsoring event (desk.letGo id leased next)

@[simp] theorem reselect_stage (sponsoring : UnboundSponsoring) (leased : DustLease)
    (short : DustBackingShort) : (reselect sponsoring leased short).stage = .waiting := by
  simp only [reselect]
  split
  · rfl
  · split <;> rfl

variable {sponsoring : UnboundSponsoring}

theorem stepOf_effect (desk : SponsorDesk) (id : Nat)
    (event : DeskEvent) (leasedSpend : sponsoring.SpendsLeased) :
    Effect desk id sponsoring event (desk.stepOf id sponsoring event) := by
  cases event with
  | tick | begin => exact .idle
  | acquire other notes =>
    simp only [stepOf]
    split
    · rcases tryLockDust_cases desk.locks sponsoring.sessionId notes sponsoring.needSpecks
          sponsoring.leaseTtlMs sponsoring.shortBackings sponsoring.maxNotes with
        isNone | ⟨keys, backing, distinct, free, isSome⟩
      · rw [isNone]
        exact .idle
      · rw [isSome]
        exact .takes _ keys backing _ trivial distinct free rfl rfl
    · exact .idle
  | giveUp other =>
    simp only [stepOf]
    split
    next isStage =>
      exact .moves _ (by rw [isStage]; rfl) nofun
    · exact .idle
  | renew other part =>
    simp only [stepOf]
    split
    next leased isLease =>
      split
      next isPart => exact .renews leased isLease part isPart _
      · exact .idle
    · exact .idle
  | build other fresh price =>
    simp only [stepOf]
    split
    next leased isStage =>
      have isLease : sponsoring.stage.lease = some leased := by rw [isStage]; rfl
      split
      next built isBuilt =>
        refine .moves _ isLease.symm fun other isOther => ⟨leased, rfl, ?_⟩
        cases isOther
        exact buildDustSpend_keys isBuilt
      next short _ =>
        split
        · exact .letsGo leased isLease _ (by rw [reselect_stage]; rfl)
        · exact .letsGo leased isLease _ rfl
    · exact .idle
  | fail other =>
    simp only [stepOf]
    split
    next leased isStage => exact .letsGo leased (by rw [isStage]; rfl) _ rfl
    next leased built isStage => exact .letsGo leased (by rw [isStage]; rfl) _ rfl
    · exact .idle
  | announce other =>
    simp only [stepOf]
    split
    next leased built isStage =>
      rw [UnboundSponsoring.SpendsLeased, isStage] at leasedSpend
      exact .moves _ (by rw [isStage]; rfl) leasedSpend
    · exact .idle
  | submitted other neverTaken =>
    simp only [stepOf]
    split
    next leased built isStage =>
      split
      · exact .letsGo leased (by rw [isStage]; rfl) _ rfl
      · rw [UnboundSponsoring.SpendsLeased, isStage] at leasedSpend
        exact .moves _ (by rw [isStage]; rfl) leasedSpend
    · exact .idle
  | settle other =>
    simp only [stepOf]
    split
    next leased built isStage => exact .letsGo leased (by rw [isStage]; rfl) _ rfl
    · exact .idle

/-- The reservations are sound, the parts of a lease are granted to the one sponsoring that has
them, and every spend lies on its lease. -/
structure Kept (desk : SponsorDesk) : Prop where
  sound : desk.locks.Sound
  granted : ∀ id part, desk.Leased id part → desk.locks.GrantedFor part.2 part.1
  apart : ∀ id other part again, desk.Leased id part → desk.Leased other again →
    part.2 = again.2 → id = other
  leasedSpends : ∀ id, ∀ sponsoring ∈ desk.sponsorings id, sponsoring.SpendsLeased

theorem Kept.initial : Kept SponsorDesk.initial where
  sound := LeaseTable.Sound.initial
  granted := by simp [Leased, SponsorDesk.initial]
  apart := by simp [Leased, SponsorDesk.initial]
  leasedSpends := by simp [SponsorDesk.initial]

variable {desk : SponsorDesk} {id other : Nat} {next : UnboundSponsoring}

/-- A part held after a sponsoring was written is its own or another's as before. -/
theorem leased_put {part : String × Nat} (isLeased : (desk.put id next).Leased other part) :
    (other = id ∧ ∃ leased ∈ next.stage.lease, part ∈ leased.parts) ∨
      (other ≠ id ∧ desk.Leased other part) := by
  obtain ⟨sponsoring, isSponsoring, held⟩ := isLeased
  rcases mem_update isSponsoring with ⟨same, isNew⟩ | ⟨elsewhere, before⟩
  · cases isNew
    exact Or.inl ⟨same, held⟩
  · exact Or.inr ⟨elsewhere, sponsoring, before, held⟩

variable {id : Nat}

theorem leasedSpends_put
    (before : ∀ id, ∀ sponsoring ∈ desk.sponsorings id, sponsoring.SpendsLeased)
    (leasedSpend : next.SpendsLeased) :
    ∀ other, ∀ sponsoring ∈ (desk.put id next).sponsorings other, sponsoring.SpendsLeased := by
  intro other sponsoring isSponsoring
  rcases mem_update isSponsoring with ⟨_, isNew⟩ | ⟨_, isOld⟩
  · cases isNew
    exact leasedSpend
  · exact before other sponsoring isOld

theorem SponsorStage.spend_of_unleased {stage : SponsorStage} (unleased : stage.lease = none) :
    stage.spend = none := by
  cases stage with
  | waiting | ended | building leased => rfl
  | proving leased built | sending leased built | settling leased built => cases unleased

theorem Kept.moves (kept : desk.Kept)
    {sponsoring next : UnboundSponsoring} (current : sponsoring ∈ desk.sponsorings id)
    (sameLease : next.stage.lease = sponsoring.stage.lease) (leasedSpend : next.SpendsLeased) :
    (desk.put id next).Kept := by
  have asBefore : ∀ other part, (desk.put id next).Leased other part → desk.Leased other part := by
    intro other part isLeased
    rcases leased_put isLeased with ⟨rfl, held⟩ | ⟨_, before⟩
    · exact ⟨sponsoring, current, sameLease ▸ held⟩
    · exact before
  exact {
    sound := kept.sound
    granted := fun other part isLeased => kept.granted other part (asBefore other part isLeased)
    apart := fun other third part again isLeased isAgain same =>
      kept.apart other third part again (asBefore other part isLeased)
        (asBefore third again isAgain) same
    leasedSpends := leasedSpends_put kept.leasedSpends leasedSpend }

theorem Kept.takes (kept : desk.Kept) (id : Nat) {keys : List String} {backing : String}
    {ttlMs : Nat} (distinct : keys.Nodup) (free : ∀ key ∈ keys, desk.locks.busy key = false)
    (isLease : next.stage.lease = some ⟨(desk.locks.grantAll ttlMs keys).1, backing⟩)
    (noSpend : next.stage.spend = none) :
    ({ desk with locks := (desk.locks.grantAll ttlMs keys).2 }.put id next).Kept := by
  have cases : ∀ other part,
      ({ desk with locks := (desk.locks.grantAll ttlMs keys).2 }.put id next).Leased other part →
        (other = id ∧ part ∈ (desk.locks.grantAll ttlMs keys).1) ∨ desk.Leased other part := by
    intro other part isLeased
    rcases leased_put isLeased with ⟨isOwn, leased, isLeased, isPart⟩ | ⟨_, before⟩
    · rw [isLease] at isLeased
      cases isLeased
      exact Or.inl ⟨isOwn, isPart⟩
    · exact Or.inr before
  -- A new token is above all granted before, so it is no other sponsoring's.
  have above : ∀ other part again, part ∈ (desk.locks.grantAll ttlMs keys).1 →
      desk.Leased other again → part.2 ≠ again.2 := by
    intro other part again isNew isOld same
    have new := LeaseTable.grantAll_tokens keys part isNew
    have old := (kept.granted other again isOld).le_seq kept.sound
    omega
  exact {
    sound := kept.sound.grantAll distinct free ttlMs
    granted := by
      intro other part isLeased
      cases cases other part isLeased with
      | inl isNew => exact LeaseTable.grantAll_granted keys part isNew.2
      | inr isOld => exact (kept.granted other part isOld).grantAll kept.sound keys
    apart := by
      intro other third part again isLeased isAgain same
      rcases cases other part isLeased with ⟨isId, isNew⟩ | isOld
      · rcases cases third again isAgain with ⟨isIdToo, _⟩ | isOldToo
        · rw [isId, isIdToo]
        · exact absurd same (above third part again isNew isOldToo)
      · rcases cases third again isAgain with ⟨_, isNewToo⟩ | isOldToo
        · exact absurd same.symm (above other again part isNewToo isOld)
        · exact kept.apart other third part again isOld isOldToo same
    leasedSpends := leasedSpends_put kept.leasedSpends fun built isBuilt => by
      rw [noSpend] at isBuilt
      cases isBuilt }

theorem Kept.letGo (kept : desk.Kept)
    {sponsoring next : UnboundSponsoring} (current : sponsoring ∈ desk.sponsorings id)
    {leased : DustLease} (isLease : sponsoring.stage.lease = some leased)
    (unleased : next.stage.lease = none) : (desk.letGo id leased next).Kept := by
  have others : ∀ other part, (desk.letGo id leased next).Leased other part →
      other ≠ id ∧ desk.Leased other part := by
    intro other part isLeased
    rcases leased_put isLeased with ⟨_, held, isHeld, _⟩ | before
    · rw [unleased] at isHeld
      cases isHeld
    · exact before
  exact {
    sound := kept.sound.releaseAll leased.parts
    granted := by
      intro other part isLeased
      obtain ⟨different, before⟩ := others other part isLeased
      refine (kept.granted other part before).releaseAll ?_
      intro own isOwn same
      exact different
        (kept.apart other id part own before ⟨sponsoring, current, leased, isLease, isOwn⟩ same)
    apart := fun other third part again isLeased isAgain same =>
      kept.apart other third part again (others other part isLeased).2
        (others third again isAgain).2 same
    leasedSpends := leasedSpends_put kept.leasedSpends fun built isBuilt => by
      rw [SponsorStage.spend_of_unleased unleased] at isBuilt
      cases isBuilt }

theorem Kept.renew (kept : desk.Kept) (part : String × Nat) (ttlMs : Nat) :
    Kept { desk with locks := desk.locks.renew part.1 part.2 ttlMs } where
  sound := kept.sound.renew part.1 part.2 ttlMs
  granted := fun other held isLeased => (kept.granted other held isLeased).renew kept.sound
  apart := kept.apart
  leasedSpends := kept.leasedSpends

theorem Kept.effect {desk next : SponsorDesk} (kept : desk.Kept)
    (current : sponsoring ∈ desk.sponsorings id)
    {event : DeskEvent} (effect : Effect desk id sponsoring event next) : next.Kept := by
  cases effect with
  | idle => exact kept
  | moves next sameLease leasedSpend => exact kept.moves current sameLease leasedSpend
  | takes next keys backing ttlMs acquires distinct free isLease noSpend =>
    exact kept.takes id distinct free isLease noSpend
  | renews leased isLease part isPart ttlMs => exact kept.renew part ttlMs
  | letsGo leased isLease next unleased => exact kept.letGo current isLease unleased

/-- A step of a sponsoring is nothing or its effect. -/
theorem step_effect (kept : desk.Kept) {event : DeskEvent}
    (isId : event.id = some id) : desk.step event = desk ∨
      ∃ sponsoring ∈ desk.sponsorings id, desk.step event = desk.stepOf id sponsoring event ∧
        Effect desk id sponsoring event (desk.step event) := by
  have isStep : desk.step event = (desk.sponsorings id).elim desk fun sponsoring =>
      desk.stepOf id sponsoring event := by
    cases event with
    | tick span | begin other sessionId needSpecks leaseTtlMs maxNotes => cases isId
    | acquire other notes | giveUp other | renew other part | build other fresh price
    | fail other | announce other | submitted other neverTaken | settle other =>
      cases isId
      simp only [SponsorDesk.step]
      cases desk.sponsorings id <;> rfl
  cases isSponsoring : desk.sponsorings id with
  | none =>
    rw [isSponsoring] at isStep
    exact Or.inl isStep
  | some sponsoring =>
    rw [isSponsoring] at isStep
    refine Or.inr ⟨sponsoring, rfl, isStep, ?_⟩
    rw [isStep]
    exact stepOf_effect desk id event (kept.leasedSpends id sponsoring isSponsoring)

theorem Kept.step (kept : desk.Kept) (event : DeskEvent) : (desk.step event).Kept := by
  cases isId : event.id with
  | some id =>
    rcases step_effect kept isId with same | ⟨sponsoring, current, _, effect⟩
    · rw [same]
      exact kept
    · exact kept.effect current effect
  | none =>
    cases event with
    | tick span =>
      exact ⟨kept.sound.advance span, kept.granted, kept.apart, kept.leasedSpends⟩
    | begin id sessionId needSpecks leaseTtlMs maxNotes =>
      simp only [SponsorDesk.step]
      split
      · exact kept
      next absent =>
        have unchanged : ∀ other part,
            (desk.put id ⟨sessionId, needSpecks, leaseTtlMs, maxNotes, 0, [], .waiting⟩).Leased
              other part → desk.Leased other part := by
          intro other part isLeased
          rcases leased_put isLeased with ⟨_, held, isHeld, _⟩ | ⟨_, before⟩
          · cases isHeld
          · exact before
        exact {
          sound := kept.sound
          granted := fun other part isLeased =>
            kept.granted other part (unchanged other part isLeased)
          apart := fun other third part again isLeased isAgain same =>
            kept.apart other third part again (unchanged other part isLeased)
              (unchanged third again isAgain) same
          leasedSpends := leasedSpends_put kept.leasedSpends fun built isBuilt => by
            cases isBuilt }
    | acquire other notes | giveUp other | renew other part | build other fresh price
    | fail other | announce other | submitted other neverTaken | settle other => cases isId

theorem kept_run (events : List DeskEvent) :
    (run SponsorDesk.step SponsorDesk.initial events).Kept := by
  have keeps : ∀ desk event, SponsorDesk.Kept desk → True → (desk.step event).Kept :=
    fun desk event kept _ => kept.step event
  exact run_invariant keeps Kept.initial events (Along.trivial events)

/-! ## Exclusion -/

theorem Kept.holder_unique (kept : desk.Kept)
    {key : String} (first : desk.HoldsBacking id key) (second : desk.HoldsBacking other key) :
    id = other := by
  obtain ⟨token, isLeased, unexpired⟩ := first
  obtain ⟨again, isLeasedToo, unexpiredToo⟩ := second
  have holds := (kept.granted id (key, token) isLeased).holds unexpired
  have holdsToo := (kept.granted other (key, again) isLeasedToo).holds unexpiredToo
  exact kept.apart id other (key, token) (key, again) isLeased isLeasedToo
    (kept.sound.exclusive holds holdsToo)

/-- A step of one sponsoring leaves the reservations of the others, an acquisition those that
have not expired. -/
theorem Kept.others_untouched (kept : desk.Kept) {event : DeskEvent} (isId : event.id = some id)
    (different : id ≠ other) {part : String × Nat} (isLeased : desk.Leased other part)
    {held : Lease} (isHeld : desk.locks.locks part.1 = some held) (isToken : held.token = part.2)
    (lasts : event.Acquires → desk.locks.now < held.exp) :
    (desk.step event).locks.locks part.1 = some held := by
  rcases step_effect kept isId with same | ⟨sponsoring, current, _, effect⟩
  · rw [same]
    exact isHeld
  · have foreign : ∀ leased, sponsoring.stage.lease = some leased → ∀ own ∈ leased.parts,
        held.token ≠ own.2 := by
      intro leased isLease own isOwn same
      exact different (kept.apart id other own part ⟨sponsoring, current, leased, isLease, isOwn⟩
        isLeased (same.symm.trans isToken))
    generalize desk.step event = next at effect ⊢
    cases effect with
    | idle | moves => exact isHeld
    | takes next keys backing ttlMs acquires distinct free isLease noSpend =>
      have elsewhere : part.1 ∉ keys := by
        intro isKey
        have notBusy := free part.1 isKey
        simp only [LeaseTable.busy, isHeld, Option.any_some, decide_eq_false_iff_not] at notBusy
        exact notBusy (lasts acquires)
      exact (LeaseTable.grantAll_locks_of_notMem elsewhere).trans isHeld
    | renews leased isLease own isOwn ttlMs =>
      exact LeaseTable.renew_locks isHeld (foreign leased isLease own isOwn)
    | letsGo leased isLease next unleased =>
      exact LeaseTable.releaseAll_locks isHeld (foreign leased isLease)

/-- An acquisition changes nothing or leases distinct backings whole. -/
theorem acquire_whole (current : desk.sponsorings id = some sponsoring) (notes : List DustNote) :
    desk.step (.acquire id notes) = desk ∨ ∃ leased : DustLease, (leased.parts.map Prod.fst).Nodup ∧
        (desk.step (.acquire id notes)).sponsorings id =
          some { sponsoring with stage := .building leased } ∧
        ∀ part ∈ leased.parts, (desk.step (.acquire id notes)).locks.locks part.1 =
          some ⟨desk.locks.now + sponsoring.leaseTtlMs, part.2⟩ := by
  simp only [step, current, stepOf]
  split
  · rcases tryLockDust_cases desk.locks sponsoring.sessionId notes sponsoring.needSpecks
        sponsoring.leaseTtlMs sponsoring.shortBackings sponsoring.maxNotes with
      isNone | ⟨keys, backing, distinct, free, isSome⟩
    · rw [isNone]
      exact Or.inl rfl
    · rw [isSome]
      refine Or.inr ⟨⟨_, backing⟩, ?_, Function.update_self .., ?_⟩
      · rw [LeaseTable.grantAll_keys]
        exact distinct
      · exact LeaseTable.grantAll_locks distinct
  · exact Or.inl rfl

/-- Where every lease lasts, spends of one backing are of one sponsoring. -/
theorem Kept.spender_unique (kept : desk.Kept)
    (lasting : ∀ id part, desk.Leased id part → desk.locks.Unexpired part.2)
    {key : String} (first : desk.Spends id key) (second : desk.Spends other key) :
    id = other := by
  have holds : ∀ id, desk.Spends id key → desk.HoldsBacking id key := by
    intro id spends
    obtain ⟨sponsoring, current, built, isBuilt, input, isInput, isKey⟩ := spends
    obtain ⟨leased, isLease, onLease⟩ := kept.leasedSpends id sponsoring current built isBuilt
    obtain ⟨part, isPart, samePart⟩ := List.mem_map.mp (onLease input isInput)
    rw [isKey] at samePart
    subst samePart
    have isLeased : desk.Leased id part := ⟨sponsoring, current, leased, isLease, isPart⟩
    exact ⟨part.2, isLeased, lasting id part isLeased⟩
  exact kept.holder_unique (holds id first) (holds other second)

/-- In every state a run reaches: a backing has one unexpired holder at most; a step of one
sponsoring leaves the reservations of the others as they are; an acquisition leases distinct
backings or changes nothing; and while the leases last, no two sponsorings in flight spend
notes of one backing. -/
theorem backing_leases_exclusive (events : List DeskEvent) :
    let desk := run step initial events
    (∀ id other key, desk.HoldsBacking id key → desk.HoldsBacking other key → id = other) ∧
    (∀ event id other part held, event.id = some id → id ≠ other → desk.Leased other part →
      desk.locks.locks part.1 = some held → held.token = part.2 →
      (event.Acquires → desk.locks.now < held.exp) →
      (desk.step event).locks.locks part.1 = some held) ∧
    (∀ id sponsoring notes, desk.sponsorings id = some sponsoring →
      desk.step (.acquire id notes) = desk ∨
      ∃ leased : DustLease, (leased.parts.map Prod.fst).Nodup ∧
        (desk.step (.acquire id notes)).sponsorings id =
          some { sponsoring with stage := .building leased } ∧
        ∀ part ∈ leased.parts, (desk.step (.acquire id notes)).locks.locks part.1 =
          some ⟨desk.locks.now + sponsoring.leaseTtlMs, part.2⟩) ∧
    ((∀ id part, desk.Leased id part → desk.locks.Unexpired part.2) →
      ∀ id other key, desk.Spends id key → desk.Spends other key → id = other) := by
  have kept := kept_run events
  refine ⟨?_, ?_, ?_, ?_⟩
  · intro id other key first second
    exact kept.holder_unique first second
  · intro event id other part held isId different isLeased isHeld isToken lasts
    exact kept.others_untouched isId different isLeased isHeld isToken lasts
  · intro id sponsoring notes current
    exact acquire_whole current notes
  · intro lasting id other key first second
    exact kept.spender_unique lasting first second

/-- The first sponsoring's lease on `s|a` expires and is taken over by the second, which keeps
it when the first one fails; the third spends on `s|b` meanwhile. -/
def takenOverRun : List DeskEvent :=
  let notes := [⟨some "a", some 9, some "n1"⟩, ⟨some "b", some 5, some "n2"⟩]
  [.begin 1 "s" 7 10 1, .begin 2 "s" 7 10 1, .begin 3 "s" 4 10 1, .acquire 1 notes,
    .acquire 3 notes, .tick 6, .renew 3 ("s|b", 2), .tick 6, .acquire 2 notes, .fail 1,
    .build 2 notes (fun _ => none), .build 3 notes (fun _ => none)]

theorem takenOverRun_lasting : ∀ id part, (run step initial takenOverRun).Leased id part →
    (run step initial takenOverRun).locks.Unexpired part.2 := by
  intro id part isLeased
  obtain ⟨sponsoring, current, leased, isLease, isPart⟩ := isLeased
  match id with
  | 0 => cases current
  | 1 =>
    cases current
    cases isLease
  | 2 =>
    cases current
    cases isLease
    cases List.mem_singleton.mp isPart
    exact ⟨⟨"s|a", 22, false⟩, rfl, by decide⟩
  | 3 =>
    cases current
    cases isLease
    cases List.mem_singleton.mp isPart
    exact ⟨⟨"s|b", 16, false⟩, rfl, by decide⟩
  | id + 4 => cases current

/-- After the takeover a late timer of the second sponsoring leaves `s|b` to the third, and
the two do not spend on `s|a` together. -/
theorem backing_leases_exclusive_takenOver :
    let desk := run step initial takenOverRun
    (desk.step (.renew 2 ("s|a", 3))).locks.locks "s|b" = some ⟨16, 2⟩ ∧
      desk.Spends 2 "s|a" ∧ ¬ desk.Spends 3 "s|a" := by
  have leases := backing_leases_exclusive takenOverRun
  have spends : (run step initial takenOverRun).Spends 2 "s|a" :=
    ⟨_, rfl, _, rfl, _, List.mem_singleton_self _, by decide⟩
  refine ⟨?_, spends, ?_⟩
  · have isLeased : (run step initial takenOverRun).Leased 3 ("s|b", 2) :=
      ⟨_, rfl, _, rfl, List.mem_singleton_self _⟩
    exact leases.2.1 _ 2 3 ("s|b", 2) ⟨16, 2⟩ rfl (by decide) isLeased rfl rfl nofun
  · intro spendsToo
    have same := leases.2.2.2 takenOverRun_lasting 2 3 "s|a" spends spendsToo
    cases same

end SponsorDesk

end Nightgate.Midnight
