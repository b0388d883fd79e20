import Mathlib.Algebra.GroupWithZero.Nat
import Nightgate.Library.Machine
import Nightgate.Midnight.DustLeases

/-!
# Unbound sponsorings

A sponsoring reserves backings, builds its dust spend from notes on them, and keeps them until
the wallet dropped the spent notes. Any number run at once; each step here is one stretch of
code between two awaits.
-/

namespace Nightgate.Midnight

open Library

/-- How often to pick another backing when the chosen one holds too little dust. -/
def maxBackingReselects : Nat := 3

/-- How often the fee of a spend from several notes is priced again. -/
def maxFeeRounds : Nat := 4

/-- The notes of the lease fell short. `shortKeys` names the backings without a note; it is
empty when the notes together held too little. -/
structure DustBackingShort where
  backing : String
  held : Nat
  needed : Nat
  shortKeys : List String
  deriving DecidableEq

/-- Inputs that take `target` specks from the notes in order. -/
def dustSpendInputs : List DustNote → Nat → List (DustNote × Nat)
  | [], _ => []
  | note :: rest, target =>
    if target = 0 then []
    else
      let value := if noteSpecks note < target then noteSpecks note else target
      (note, value) :: dustSpendInputs rest (target - value)

/-- The note with more dust, the earlier of equal ones. -/
def betterNote : Option DustNote → DustNote → Option DustNote
  | some current, note => if noteSpecks current < noteSpecks note then some note else some current
  | none, note => some note

/-- The note with the most dust on a backing. -/
def bestOn (sessionId : String) (fresh : List DustNote) (key : String) : Option DustNote :=
  (fresh.filter fun note => backingKey sessionId note = key).foldl betterNote none

/-- The notes of a lease the spend is built from. -/
def leasedNotes (sessionId : String) (fresh : List DustNote) (leased : DustLease)
    (needSpecks : Nat) : Except DustBackingShort (List DustNote) :=
  match leased.parts with
  | [part] =>
    match sufficientNoteOnBacking sessionId fresh part.1 needSpecks with
    | some note => .ok [note]
    | none =>
      let held := ((bestOn sessionId fresh part.1).map noteSpecks).getD 0
      .error ⟨leased.backing, held, needSpecks, []⟩
  | parts =>
    let missing := (parts.filter fun part => (bestOn sessionId fresh part.1).isNone).map Prod.fst
    if missing ≠ [] then .error ⟨leased.backing, 0, needSpecks, missing⟩
    else .ok (parts.filterMap fun part => bestOn sessionId fresh part.1)

/-- The target the spend is built for. Every extra note raises the fee, so the whole
transaction is priced again until the fee holds; a price that cannot be told leaves it. -/
def settleFee (backing : String) (held notes : Nat) (price : Nat → Option Nat) :
    Nat → Nat → Except DustBackingShort Nat
  | 0, target => if held < target then .error ⟨backing, held, target, []⟩ else .ok target
  | rounds + 1, target =>
    if held < target then .error ⟨backing, held, target, []⟩
    else if notes < 2 then .ok target
    else
      let fee := (price target).getD target
      if fee ≤ target then .ok target else settleFee backing held notes price rounds fee

structure DustSpend where
  inputs : List (DustNote × Nat)
  spentNonces : List String
  deriving DecidableEq

/-- The dust spend on the reserved backings. -/
def buildDustSpend (sessionId : String) (leased : DustLease) (needSpecks : Nat)
    (fresh : List DustNote) (price : Nat → Option Nat) : Except DustBackingShort DustSpend :=
  match leasedNotes sessionId fresh leased needSpecks with
  | .error short => .error short
  | .ok notes =>
    let held := (notes.map noteSpecks).sum
    match settleFee leased.backing held notes.length price maxFeeRounds needSpecks with
    | .error short => .error short
    | .ok target =>
      let inputs := dustSpendInputs notes target
      .ok ⟨inputs, (notes.take inputs.length).filterMap DustNote.nonce⟩

/-- Where a sponsoring is. It holds its lease from `building` to `settling`; in `settling`
the call has returned and the backings wait for the wallet to drop the notes. -/
inductive SponsorStage where
  | waiting
  | building (leased : DustLease)
  | proving (leased : DustLease) (built : DustSpend)
  | sending (leased : DustLease) (built : DustSpend)
  | settling (leased : DustLease) (built : DustSpend)
  | ended

def SponsorStage.lease : SponsorStage → Option DustLease
  | .building leased | .proving leased _ | .sending leased _ | .settling leased _ => some leased
  | .waiting | .ended => none

/-- The dust spend a sponsoring built and did not give up. -/
def SponsorStage.spend : SponsorStage → Option DustSpend
  | .proving _ built | .sending _ built | .settling _ built => some built
  | .waiting | .building _ | .ended => none

structure UnboundSponsoring where
  sessionId : String
  needSpecks : Nat
  leaseTtlMs : Nat
  maxNotes : Nat
  attempt : Nat
  shortBackings : List String
  stage : SponsorStage

/-- What another look for a backing avoids or asks for after the chosen ones fell short. -/
def reselect (sponsoring : UnboundSponsoring) (leased : DustLease) (short : DustBackingShort) :
    UnboundSponsoring :=
  let again := { sponsoring with attempt := sponsoring.attempt + 1, stage := .waiting }
  if short.shortKeys ≠ [] then
    { again with shortBackings := sponsoring.shortBackings ++ short.shortKeys }
  else if 1 < leased.parts.length ∧ sponsoring.needSpecks < short.needed then
    { again with needSpecks := short.needed }
  else
    { again with shortBackings := sponsoring.shortBackings ++ leased.parts.map Prod.fst }

/-- The worker: its reservations and the sponsorings it runs. -/
structure SponsorDesk where
  locks : NoteLocks
  sponsorings : Nat → Option UnboundSponsoring

inductive DeskEvent where
  | tick (span : Nat)
  | begin (id : Nat) (sessionId : String) (needSpecks leaseTtlMs maxNotes : Nat)
  /-- One look of `acquireBacking` at the wallet's notes. -/
  | acquire (id : Nat) (notes : List DustNote)
  /-- The wait for a backing ends without one. -/
  | giveUp (id : Nat)
  /-- The timer of one part of a lease. -/
  | renew (id : Nat) (part : String × Nat)
  | build (id : Nat) (fresh : List DustNote) (price : Nat → Option Nat)
  /-- Any other error before the send. -/
  | fail (id : Nat)
  | announce (id : Nat)
  /-- The submit call ends. The node surely never took the transaction, or it may have it. -/
  | submitted (id : Nat) (neverTaken : Bool)
  /-- The wallet dropped the notes, or the wait for it ended. -/
  | settle (id : Nat)

/-- The sponsoring an event is a step of. -/
def DeskEvent.id : DeskEvent → Option Nat
  | .tick _ | .begin .. => none
  | .acquire id _ | .giveUp id | .renew id _ | .build id _ _ | .fail id | .announce id
  | .submitted id _ | .settle id => some id

/-- The step looks for a backing. -/
def DeskEvent.Acquires : DeskEvent → Prop
  | .acquire .. => True
  | _ => False

namespace SponsorDesk

def initial : SponsorDesk where
  locks := LeaseTable.initial
  sponsorings := fun _ => none

def put (desk : SponsorDesk) (id : Nat) (sponsoring : UnboundSponsoring) : SponsorDesk :=
  { desk with sponsorings := Function.update desk.sponsorings id (some sponsoring) }

/-- The lease is released and the sponsoring goes on without it. -/
def letGo (desk : SponsorDesk) (id : Nat) (leased : DustLease)
    (sponsoring : UnboundSponsoring) : SponsorDesk :=
  { desk with locks := releaseLease desk.locks leased }.put id sponsoring

/-- The step of one sponsoring. -/
def stepOf (desk : SponsorDesk) (id : Nat) (sponsoring : UnboundSponsoring) :
    DeskEvent → SponsorDesk
  | .acquire _ notes =>
    match sponsoring.stage with
    | .waiting =>
      let (leased, locks) := tryLockDust desk.locks sponsoring.sessionId notes
        sponsoring.needSpecks sponsoring.leaseTtlMs sponsoring.shortBackings
        sponsoring.maxNotes
      match leased with
      | some leased =>
        { desk with locks := locks }.put id { sponsoring with stage := .building leased }
      | none => { desk with locks := locks }
    | _ => desk
  | .giveUp _ =>
    match sponsoring.stage with
    | .waiting => desk.put id { sponsoring with stage := .ended }
    | _ => desk
  | .renew _ part =>
    match sponsoring.stage.lease with
    | some leased =>
      if part ∈ leased.parts then
        { desk with locks := renewNote desk.locks part.1 part.2 sponsoring.leaseTtlMs }
      else desk
    | none => desk
  | .build _ fresh price =>
    match sponsoring.stage with
    | .building leased =>
      match buildDustSpend sponsoring.sessionId leased sponsoring.needSpecks fresh price with
      | .ok built => desk.put id { sponsoring with stage := .proving leased built }
      | .error short =>
        if sponsoring.attempt < maxBackingReselects then
          desk.letGo id leased (reselect sponsoring leased short)
        else desk.letGo id leased { sponsoring with stage := .ended }
    | _ => desk
  | .fail _ =>
    match sponsoring.stage with
    | .building leased | .proving leased _ =>
      desk.letGo id leased { sponsoring with stage := .ended }
    | _ => desk
  | .announce _ =>
    match sponsoring.stage with
    | .proving leased built => desk.put id { sponsoring with stage := .sending leased built }
    | _ => desk
  | .submitted _ neverTaken =>
    match sponsoring.stage with
    | .sending leased built =>
      if neverTaken then desk.letGo id leased { sponsoring with stage := .ended }
      else desk.put id { sponsoring with stage := .settling leased built }
    | _ => desk
  | .settle _ =>
    match sponsoring.stage with
    | .settling leased _ => desk.letGo id leased { sponsoring with stage := .ended }
    | _ => desk
  | .tick _ | .begin .. => desk

def step (desk : SponsorDesk) (event : DeskEvent) : SponsorDesk :=
  match event with
  | .tick span => { desk with locks := desk.locks.advance span }
  | .begin id sessionId needSpecks leaseTtlMs maxNotes =>
    match desk.sponsorings id with
    | some _ => desk
    | none => desk.put id ⟨sessionId, needSpecks, leaseTtlMs, maxNotes, 0, [], .waiting⟩
  | .acquire id _ | .giveUp id | .renew id _ | .build id _ _ | .fail id | .announce id
  | .submitted id _ | .settle id =>
    match desk.sponsorings id with
    | some sponsoring => desk.stepOf id sponsoring event
    | none => desk

/-- The sponsoring has this part of a lease, whether or not the part has expired. -/
def Leased (desk : SponsorDesk) (id : Nat) (part : String × Nat) : Prop :=
  ∃ sponsoring ∈ desk.sponsorings id, ∃ leased ∈ sponsoring.stage.lease, part ∈ leased.parts

/-- The sponsoring is an unexpired holder of the backing. -/
def HoldsBacking (desk : SponsorDesk) (id : Nat) (key : String) : Prop :=
  ∃ token, desk.Leased id (key, token) ∧ desk.locks.Unexpired token

/-- The sponsoring is in flight with a spend of a note on the backing. -/
def Spends (desk : SponsorDesk) (id : Nat) (key : String) : Prop :=
  ∃ sponsoring ∈ desk.sponsorings id, ∃ built ∈ sponsoring.stage.spend,
    ∃ input ∈ built.inputs, backingKey sponsoring.sessionId input.1 = key

end SponsorDesk

end Nightgate.Midnight
