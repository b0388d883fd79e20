import Nightgate.Library.OffsetPaging
import Nightgate.Submission.SwapOffers

/-!
# The board of swap offers

Offers are posted, filled by a landed swap, retired by their poster and swept when they expire;
readers list them by status. An offer whose row still says open is shown as expired once its time
is over. Writers, sweep, filters and views each evaluate the clock for themselves, and every
statement is a step of its own. A listing with a tag reads pages until enough offers match, and
loads these.
-/

namespace Nightgate.Submission

open Library

/-- An offer with the columns that closing and listing read and write. -/
structure BoardOffer extends SwapOffer where
  givesType : String := ""
  nullifiers : List String := []
  tags : List String := []
  posterUserId : String := ""
  posterGrantId : Option Nat := none
  filledTxHash : Option String := none
  closedAt : Option Nat := none
  createdAt : Nat := 0
  modifiedAt : Nat := 0
  deriving DecidableEq

instance : Keyed BoardOffer := ⟨fun offer => offer.ID⟩

/-- The status shown to readers. -/
def effectiveSwapOfferStatus (now : Nat) (row : SwapOffer) : SwapOfferStatus :=
  if row.status ≠ .listed then row.status
  else if row.expiresAt.any (· ≤ now) then .expired
  else .listed

/-- `closeSwapOffer`, for the rows it finds open. Every update stamps `modifiedAt`. -/
def BoardOffer.close (now : Nat) (status : SwapOfferStatus) (txHash : Option String) :
    Patch BoardOffer where
  set row := { row with
    status, closedAt := some now, modifiedAt := now
    filledTxHash := (txHash.filter (· ≠ "")).or row.filledTxHash }

def BoardOffer.isOpenRow (row : BoardOffer) : Bool := row.status = .listed

/-- A status filter of `listSwapOffers`. -/
inductive StatusFilter where
  | all
  | only (status : SwapOfferStatus)

/-- The condition of the query. -/
def StatusFilter.selects (now : Nat) (row : SwapOffer) : StatusFilter → Bool
  | .all => true
  | .only .listed => row.status = .listed && row.expiresAt.all (now < ·)
  | .only .expired => row.status = .expired || row.status = .listed && row.expiresAt.any (· ≤ now)
  | .only status => row.status = status

/-- An offer is selected by the filter of the status that is shown for it, and by no other. -/
theorem selects_iff (now : Nat) (row : SwapOffer) (status : SwapOfferStatus) :
    (StatusFilter.only status).selects now row = true ↔
      effectiveSwapOfferStatus now row = status := by
  unfold effectiveSwapOfferStatus
  cases isStatus : row.status with
  | listed =>
    cases isExpiry : row.expiresAt with
    | none => cases status <;> simp [StatusFilter.selects, isStatus, isExpiry]
    | some expiresAt =>
      by_cases isOver : expiresAt ≤ now
      · have notLater : ¬ now < expiresAt := by omega
        cases status <;> simp [StatusFilter.selects, isStatus, isExpiry, isOver, notLater]
      · have later : now < expiresAt := by omega
        cases status <;> simp [StatusFilter.selects, isStatus, isExpiry, isOver, later]
  | filled | retired | expired => cases status <;> simp [StatusFilter.selects, isStatus]

/-- The shown statuses of a filter. -/
def StatusFilter.admits (shown : SwapOfferStatus) : StatusFilter → Bool
  | .all => true
  | .only status => shown = status

theorem selects_eq (now : Nat) (row : SwapOffer) (filter : StatusFilter) :
    filter.selects now row = filter.admits (effectiveSwapOfferStatus now row) := by
  cases filter with
  | all => rfl
  | only status =>
    rw [Bool.eq_iff_iff, selects_iff, StatusFilter.admits, decide_eq_true_iff]

/-- A call of `retireSwapOffer`. -/
inductive RetirePhase where
  | refused
  /-- After the row was read. -/
  | loaded (row : BoardOffer)
  /-- The update closed the row, with the status of the clock at that time. -/
  | closed (row : BoardOffer) (time : Nat)
  /-- The update found the row closed. -/
  | lost (row : BoardOffer)
  /-- The row is read again. -/
  | reloaded (row : BoardOffer)
  | answered (status : SwapOfferStatus)
  deriving DecidableEq

/-- The row that the update closed, and the time of the update. -/
def RetirePhase.closedRow? : RetirePhase → Option (BoardOffer × Nat)
  | .closed row time => some (row, time)
  | _ => none

structure Retirement where
  ID : Nat
  offerId : Nat
  phase : RetirePhase

instance : Keyed Retirement := ⟨Retirement.ID⟩

def Retirement.moveTo (phase : RetirePhase) : Patch Retirement where
  set retirement := { retirement with phase }

/-- A landed transaction closes the offers that spend one of its inputs, one after the other. -/
structure Filling where
  ID : Nat
  txHash : Option String
  offerIds : List Nat

instance : Keyed Filling := ⟨Filling.ID⟩

def Filling.next : Patch Filling where
  set filling := { filling with offerIds := filling.offerIds.tail }

/-- A request of `listSwapOffers`, parsed. -/
structure ListRequest where
  filter : StatusFilter
  givesType : Option String := none
  wantsType : Option String := none
  /-- With `mine`, the poster that the offers must have. -/
  poster : Option (String × Option Nat) := none
  since : Option Nat := none
  /-- The tag, without blanks around it; empty when none is wanted. -/
  tag : String := ""
  limit : Nat := 50

namespace ListRequest

/-- The offer has changed since then; an offer that expired changed at its expiry. -/
def changedSince (now : Nat) (row : BoardOffer) (since : Nat) : Bool :=
  since < row.modifiedAt ||
    row.status = .listed && row.expiresAt.any fun expiresAt => expiresAt ≤ now && since < expiresAt

/-- The conditions of the query besides the status. -/
def asks (request : ListRequest) (now : Nat) (row : BoardOffer) : Bool :=
  request.givesType.all (· = row.givesType) && request.wantsType.all (· = row.wantsType) &&
    request.poster.all (· = (row.posterUserId, row.posterGrantId)) &&
    request.since.all (changedSince now row)

def wantsTag (request : ListRequest) (row : BoardOffer) : Bool :=
  request.tag = "" || request.tag ∈ row.tags

/-- `orderBy`, the latest first. -/
def ordered (request : ListRequest) (rows : List BoardOffer) : List BoardOffer :=
  match request.filter with
  | .only .listed => rows.insertionSort fun a b => b.createdAt ≤ a.createdAt
  | _ => rows.insertionSort fun a b => b.modifiedAt ≤ a.modifiedAt

/-- The query `offers`. -/
def offers (request : ListRequest) (now : Nat) (rows : List BoardOffer) : List BoardOffer :=
  request.ordered (rows.filter fun row =>
    request.asks now row && request.filter.selects now row.toSwapOffer)

/-- The offer is asked for, and its shown status is one of the filter. -/
def admits (request : ListRequest) (now : Nat) (row : BoardOffer) : Bool :=
  request.asks now row && request.filter.admits (effectiveSwapOfferStatus now row.toSwapOffer)

/-- What the request is owed: of the offers that it asks for, those whose shown status its filter
admits, in order and up to the limit. -/
def owed (request : ListRequest) (now : Nat) (rows : List BoardOffer) : List BoardOffer :=
  Offset.picked request.limit request.wantsTag (request.ordered (rows.filter (request.admits now)))

variable {request : ListRequest} {now : Nat} {rows : List BoardOffer}

@[simp] theorem mem_ordered {row : BoardOffer} : row ∈ request.ordered rows ↔ row ∈ rows := by
  unfold ordered
  split
  · exact List.mem_insertionSort _
  · exact List.mem_insertionSort _

theorem perm_ordered : (request.ordered rows).Perm rows := by
  unfold ordered
  split
  · exact List.perm_insertionSort _ rows
  · exact List.perm_insertionSort _ rows

/-- The query finds by the stored status and the clock what is owed by the shown status. -/
theorem owed_eq :
    request.owed now rows =
      Offset.picked request.limit request.wantsTag (request.offers now rows) := by
  unfold owed offers admits
  simp only [selects_eq]

theorem of_mem_owed {row : BoardOffer} (listed : row ∈ request.owed now rows) :
    row ∈ rows ∧ request.filter.admits (effectiveSwapOfferStatus now row.toSwapOffer) = true := by
  have inOrder := (List.mem_filter.mp (List.mem_of_mem_take listed)).1
  have inFilter := List.mem_filter.mp (mem_ordered.mp inOrder)
  exact ⟨inFilter.1, (Bool.and_eq_true_iff.mp inFilter.2).2⟩

/-- No offer is owed twice. -/
theorem nodup_owed (distinct : (rows.map Keyed.key).Nodup) :
    ((request.owed now rows).map Keyed.key).Nodup := by
  have inFilter : ((rows.filter (request.admits now)).map Keyed.key).Nodup :=
    (List.filter_sublist.map Keyed.key).nodup distinct
  have inOrder : ((request.ordered (rows.filter (request.admits now))).map Keyed.key).Nodup :=
    (perm_ordered.map Keyed.key).nodup_iff.mpr inFilter
  exact (((List.take_sublist _ _).trans List.filter_sublist).map Keyed.key).nodup inOrder

end ListRequest

/-- The length of a page. -/
def pageLength : Nat := 800

/-- Where a call of `listSwapOffers` stands. -/
inductive ListPhase where
  /-- The clock is read, no statement has run. -/
  | opened
  /-- With a tag: the next page, and the offers picked so far. -/
  | paging (offset : Nat) (ids : List Nat)
  /-- With a tag: the picked offers are to be loaded. -/
  | loading (ids : List Nat)
  /-- Each offer with the status shown for it. -/
  | answered (shown : List (Nat × SwapOfferStatus))
  deriving DecidableEq

/-- A call of `listSwapOffers`; a call that waits makes one for each time it reads. -/
structure Listing where
  ID : Nat
  request : ListRequest
  /-- The clock of the queries, which the views use as well. -/
  time : Nat
  phase : ListPhase := .opened
  /-- The offers there were at its first statement; no statement reads this. -/
  seen : List BoardOffer := []

instance : Keyed Listing := ⟨Listing.ID⟩

def views (time : Nat) (rows : List BoardOffer) : List (Nat × SwapOfferStatus) :=
  rows.map fun row => (row.ID, effectiveSwapOfferStatus time row.toSwapOffer)

namespace Listing

/-- The page that a statement with an offset selects. -/
def page (listing : Listing) (offset : Nat) (rows : List BoardOffer) : List BoardOffer :=
  ((listing.request.offers listing.time rows).drop offset).take pageLength

/-- The phase after a page. -/
def afterPage (listing : Listing) (offset : Nat) (ids : List Nat) (heads : List BoardOffer) :
    ListPhase :=
  let request := listing.request
  let ids := ids ++
    (Offset.picked (request.limit - ids.length) request.wantsTag heads).map fun head => head.ID
  if ids.length < request.limit ∧ ¬ heads.length < pageLength then
    .paging (offset + pageLength) ids
  else if ids = [] then .answered []
  else .loading ids

/-- The phase after the next statement. -/
def next (listing : Listing) (rows : List BoardOffer) : ListPhase :=
  match listing.phase with
  | .opened =>
    if listing.request.tag = "" then
      .answered (views listing.time
        ((listing.request.offers listing.time rows).take listing.request.limit))
    else listing.afterPage 0 [] (listing.page 0 rows)
  | .paging offset ids => listing.afterPage offset ids (listing.page offset rows)
  | .loading ids =>
    .answered (views listing.time
      (Offset.inOrder (fun row => row.ID) ids (rows.filter fun row => row.ID ∈ ids)))
  | .answered shown => .answered shown

def read (rows : List BoardOffer) : Patch Listing where
  set listing := { listing with
    phase := listing.next rows
    seen := if listing.phase = .opened then rows else listing.seen }

end Listing

/-! ## The board -/

structure SwapBoard where
  now : Nat
  offers : Table BoardOffer
  retirements : Table Retirement
  fillings : Table Filling
  listings : Table Listing

inductive BoardEvent where
  | timePasses (time : Nat)
  | postSwapOffer (offer : BoardOffer)
  | expireSwapOffers
  /-- A landed swap closes the offer it names. -/
  | fillById (offerId : Nat) (txHash : Option String)
  | closeSwapOffersByNullifiers (ID : Nat) (landed : List String) (txHash : Option String)
  | closeNext (ID : Nat)
  | loadSwapOffer (ID offerId : Nat) (userId : String) (grantId : Option Nat)
  | closeSwapOffer (ID : Nat)
  | reload (ID : Nat)
  | answer (ID : Nat)
  | listSwapOffers (ID : Nat) (request : ListRequest)
  /-- The next statement of a listing. -/
  | readOffers (ID : Nat)

namespace SwapBoard

/-- What the clock makes of an offer that is retired. -/
def retiredStatus (now : Nat) (row : SwapOffer) : SwapOfferStatus :=
  if isSwapOfferOpen now row then .retired else .expired

def closeSwapOffer (s : SwapBoard) (offerId : Nat) (status : SwapOfferStatus)
    (txHash : Option String) : SwapBoard :=
  { s with offers :=
      s.offers.update offerId BoardOffer.isOpenRow (BoardOffer.close s.now status txHash) }

def setRetirement (s : SwapBoard) (id : Nat) (phase : RetirePhase) : SwapBoard :=
  { s with retirements := s.retirements.update id (fun _ => true) (Retirement.moveTo phase) }

/-- `isPoster`. -/
def isPoster (row : BoardOffer) (userId : String) (grantId : Option Nat) : Bool :=
  row.posterUserId = userId && row.posterGrantId = grantId

def hits (s : SwapBoard) (landed : List String) : List Nat :=
  (s.offers.rows.filter fun row =>
    row.isOpenRow && row.nullifiers.any fun nullifier => nullifier ∈ landed).map fun row => row.ID

def step (s : SwapBoard) : BoardEvent → SwapBoard
  | .timePasses time => { s with now := s.now + time }
  | .postSwapOffer offer =>
    { s with offers := s.offers.insert { offer with
        status := .listed, closedAt := none, filledTxHash := none
        createdAt := s.now, modifiedAt := s.now } }
  | .expireSwapOffers =>
    let isOver (row : BoardOffer) : Bool := row.isOpenRow && row.expiresAt.any (· < s.now)
    { s with offers := s.offers.updateWhere isOver (BoardOffer.close s.now .expired none) }
  | .fillById offerId txHash => s.closeSwapOffer offerId .filled txHash
  | .closeSwapOffersByNullifiers ID landed txHash =>
    { s with fillings := s.fillings.insert { ID, txHash, offerIds := s.hits landed } }
  | .closeNext id =>
    match s.fillings.find? id with
    | some filling =>
      match filling.offerIds with
      | offerId :: _ =>
        { s.closeSwapOffer offerId .filled filling.txHash with
          fillings := s.fillings.update id (fun _ => true) Filling.next }
      | [] => s
    | none => s
  | .loadSwapOffer ID offerId userId grantId =>
    let phase :=
      match s.offers.find? offerId with
      | none => RetirePhase.refused
      | some row => if isPoster row userId grantId then .loaded row else .refused
    { s with retirements := s.retirements.insert { ID, offerId, phase } }
  | .closeSwapOffer id =>
    match s.retirements.find? id with
    | some retirement =>
      match retirement.phase with
      | .loaded row =>
        if s.offers.affects row.ID BoardOffer.isOpenRow then
          (s.closeSwapOffer row.ID (retiredStatus s.now row.toSwapOffer) none).setRetirement
            id (.closed row s.now)
        else s.setRetirement id (.lost row)
      | _ => s
    | none => s
  | .reload id =>
    match s.retirements.find? id with
    | some retirement =>
      match retirement.phase with
      | .lost row => s.setRetirement id (.reloaded ((s.offers.find? row.ID).getD row))
      | _ => s
    | none => s
  | .answer id =>
    match s.retirements.find? id with
    | some retirement =>
      match retirement.phase with
      | .closed row _ => s.setRetirement id (.answered (retiredStatus s.now row.toSwapOffer))
      | .reloaded row =>
        s.setRetirement id (.answered (effectiveSwapOfferStatus s.now row.toSwapOffer))
      | _ => s
    | none => s
  | .listSwapOffers ID request =>
    { s with listings := s.listings.insert { ID, request, time := s.now } }
  | .readOffers id =>
    { s with listings :=
        s.listings.update id (fun _ => true) (Listing.read s.offers.rows) }

/-- A row that is closed stays as it is, and its expiry never changes. -/
def Closing (row later : BoardOffer) : Prop :=
  later.expiresAt = row.expiresAt ∧ (row.status ≠ .listed → later = row)

theorem closing_refl (row : BoardOffer) : Closing row row := ⟨rfl, fun _ => rfl⟩

theorem closing_close {now : Nat} {status : SwapOfferStatus} {txHash : Option String}
    {row : BoardOffer} (isOpen : row.isOpenRow = true) :
    Closing row ((BoardOffer.close now status txHash).set row) := by
  refine ⟨rfl, ?_⟩
  intro isClosed
  exact absurd (of_decide_eq_true isOpen) isClosed

theorem closeSwapOffer_evolves (s : SwapBoard) (offerId : Nat) (status : SwapOfferStatus)
    (txHash : Option String) :
    s.offers.Evolves Closing (s.closeSwapOffer offerId status txHash).offers :=
  Table.evolves_update closing_refl fun _ _ isOpen => closing_close isOpen

theorem step_evolves (s : SwapBoard) (event : BoardEvent) :
    s.offers.Evolves Closing (s.step event).offers := by
  have same := Table.Evolves.refl closing_refl s.offers
  cases event with
  | timePasses | loadSwapOffer | closeSwapOffersByNullifiers | listSwapOffers | readOffers =>
    exact same
  | postSwapOffer offer => exact Table.evolves_insert closing_refl _
  | expireSwapOffers =>
    apply Table.evolves_updateWhere closing_refl
    intro row isMatch
    rw [Bool.and_eq_true] at isMatch
    exact closing_close isMatch.1
  | fillById offerId txHash => exact closeSwapOffer_evolves s _ _ _
  | closeNext id =>
    simp only [step]
    split
    · split
      · exact closeSwapOffer_evolves s _ _ _
      · exact same
    · exact same
  | closeSwapOffer id =>
    simp only [step]
    split
    · split
      · split
        · exact closeSwapOffer_evolves s _ _ _
        · exact same
      · exact same
    · exact same
  | reload id | answer id =>
    simp only [step]
    split
    · split <;> exact same
    · exact same

theorem retiredStatus_ne (now : Nat) (row : SwapOffer) : retiredStatus now row ≠ .listed := by
  unfold retiredStatus
  split <;> simp

theorem effectiveSwapOfferStatus_congr {now : Nat} {left right : SwapOffer}
    (status : left.status = right.status) (expiresAt : left.expiresAt = right.expiresAt) :
    effectiveSwapOfferStatus now left = effectiveSwapOfferStatus now right := by
  simp only [effectiveSwapOfferStatus, status, expiresAt]

/-- What a retirement under way knows of its offer. -/
def RetirementSound (offers : Table BoardOffer) (retirement : Retirement) : Prop :=
  match retirement.phase with
  | .refused => True
  | .loaded row => row.ID = retirement.offerId ∧
      ∃ stored, offers.find? retirement.offerId = some stored
  | .closed row time => row.ID = retirement.offerId ∧
      ∃ stored, offers.find? retirement.offerId = some stored ∧
        stored.status = retiredStatus time row.toSwapOffer
  | .lost row => row.ID = retirement.offerId ∧
      ∃ stored, offers.find? retirement.offerId = some stored ∧ stored.status ≠ .listed
  | .reloaded row => row.status ≠ .listed ∧ offers.find? retirement.offerId = some row
  | .answered status =>
    ∃ stored, offers.find? retirement.offerId = some stored ∧ stored.status = status ∧
      status ≠ .listed

/-- What a page shows of an offer. -/
def head (row : BoardOffer) : Nat × List String := (row.ID, row.tags)

/-- The next statement of a listing finds what its first statement would have found. -/
def Undisturbed (offers : Table BoardOffer) (listing : Listing) : Prop :=
  match listing.phase with
  | .paging offset _ =>
    (listing.page offset offers.rows).map head = (listing.page offset listing.seen).map head
  | .loading ids =>
    ∀ row ∈ listing.seen, row.ID ∈ ids →
      (offers.find? row.ID).map (fun stored => stored.status) = some row.status
  | .opened | .answered _ => True

instance (offers : Table BoardOffer) (listing : Listing) :
    Decidable (Undisturbed offers listing) := by
  unfold Undisturbed
  cases listing.phase <;> dsimp only <;> infer_instance

/-- What is picked so far, loaded and answered, over the offers seen at first. -/
def PhaseSound (listing : Listing) : ListPhase → Prop
  | .opened => True
  | .paging offset ids =>
    ids = (Offset.picked listing.request.limit listing.request.wantsTag
      ((listing.request.offers listing.time listing.seen).take offset)).map fun row => row.ID
  | .loading ids => ids = (listing.request.owed listing.time listing.seen).map fun row => row.ID
  | .answered shown => shown = views listing.time (listing.request.owed listing.time listing.seen)

structure ListingSound (offers : Table BoardOffer) (listing : Listing) : Prop where
  seen : ∀ row ∈ listing.seen, ∃ stored, offers.find? row.ID = some stored ∧
    stored.expiresAt = row.expiresAt
  distinct : (listing.seen.map Keyed.key).Nodup
  phase : PhaseSound listing listing.phase

theorem RetirementSound.later {offers after : Table BoardOffer} {retirement : Retirement}
    (sound : RetirementSound offers retirement) (evolves : offers.Evolves Closing after) :
    RetirementSound after retirement := by
  unfold RetirementSound at sound ⊢
  split at sound
  · trivial
  · rcases sound with ⟨same, stored, found⟩
    rcases evolves _ stored found with ⟨later, isLater, _⟩
    exact ⟨same, later, isLater⟩
  next row time _ =>
    rcases sound with ⟨same, stored, found, isStatus⟩
    rcases evolves _ stored found with ⟨later, isLater, closing⟩
    have kept := closing.2 (isStatus ▸ retiredStatus_ne time row.toSwapOffer)
    subst kept
    exact ⟨same, later, isLater, isStatus⟩
  · rcases sound with ⟨same, stored, found, isClosed⟩
    rcases evolves _ stored found with ⟨later, isLater, closing⟩
    have kept := closing.2 isClosed
    subst kept
    exact ⟨same, later, isLater, isClosed⟩
  next row _ =>
    rcases sound with ⟨isClosed, found⟩
    rcases evolves _ row found with ⟨later, isLater, closing⟩
    have kept := closing.2 isClosed
    subst kept
    exact ⟨isClosed, isLater⟩
  next status _ =>
    rcases sound with ⟨stored, found, isStatus, isClosed⟩
    rcases evolves _ stored found with ⟨later, isLater, closing⟩
    have kept := closing.2 (isStatus ▸ isClosed)
    subst kept
    exact ⟨later, isLater, isStatus, isClosed⟩

theorem ListingSound.later {offers after : Table BoardOffer} {listing : Listing}
    (sound : ListingSound offers listing) (evolves : offers.Evolves Closing after) :
    ListingSound after listing where
  seen row listed := by
    rcases sound.seen row listed with ⟨stored, found, sameExpiry⟩
    rcases evolves _ stored found with ⟨later, isLater, closing⟩
    exact ⟨later, isLater, closing.1.trans sameExpiry⟩
  distinct := sound.distinct
  phase := sound.phase

section Reading

variable {listing : Listing} {offers : Table BoardOffer}

/-- A page shows what is picked from it. -/
theorem picked_congr {heads others : List BoardOffer} {limit : Nat} {request : ListRequest}
    (same : heads.map head = others.map head) :
    (Offset.picked limit request.wantsTag heads).map (fun row => row.ID) =
      (Offset.picked limit request.wantsTag others).map fun row => row.ID := by
  have byHead : ∀ rows : List BoardOffer,
      (Offset.picked limit request.wantsTag rows).map (fun row => row.ID) =
        (((rows.map head).filter fun shown => request.tag = "" || request.tag ∈ shown.2).take
          limit).map Prod.fst := by
    intro rows
    rw [List.filter_map, ← List.map_take, List.map_map]
    rfl
  rw [byHead, byHead, same]

theorem afterPage_sound {offset : Nat} {ids : List Nat} {rows : List BoardOffer}
    (sameHeads : (listing.page offset rows).map head = (listing.page offset listing.seen).map head)
    (sound : PhaseSound listing (.paging offset ids)) :
    PhaseSound listing (listing.afterPage offset ids (listing.page offset rows)) := by
  have isPicked : ids ++ (Offset.picked (listing.request.limit - ids.length)
      listing.request.wantsTag (listing.page offset rows)).map (fun row => row.ID) =
        (Offset.picked listing.request.limit listing.request.wantsTag
          ((listing.request.offers listing.time listing.seen).take
            (offset + pageLength))).map fun row => row.ID := by
    have sound : ids = _ := sound
    have length := congrArg List.length sound
    rw [List.length_map] at length
    rw [Offset.picked_page, List.map_append, ← sound, ← length, picked_congr sameHeads]
    rfl
  have sameLength :
      (listing.page offset rows).length = (listing.page offset listing.seen).length := by
    simpa using congrArg List.length sameHeads
  unfold Listing.afterPage
  simp only [isPicked]
  split
  · rfl
  next isEnd =>
    -- either enough is picked or the page was the last one
    have isWhole : Offset.picked listing.request.limit listing.request.wantsTag
        ((listing.request.offers listing.time listing.seen).take (offset + pageLength)) =
          listing.request.owed listing.time listing.seen := by
      rw [ListRequest.owed_eq]
      by_cases isLast : (listing.page offset rows).length < pageLength
      · rw [sameLength] at isLast
        rw [Offset.take_of_last isLast]
      · apply Offset.picked_of_full
        rw [List.length_map] at isEnd
        by_contra notFull
        exact isEnd ⟨by omega, isLast⟩
    rw [isWhole]
    split
    next isEmpty => rw [PhaseSound, List.map_eq_nil_iff.mp isEmpty, views, List.map_nil]
    · rfl

/-- What is loaded is shown as it was when it was picked. -/
theorem views_loaded {ids : List Nat} (sound : ListingSound offers listing)
    (picked : ids = (listing.request.owed listing.time listing.seen).map fun row => row.ID)
    (undisturbed : ∀ row ∈ listing.seen, row.ID ∈ ids →
      (offers.find? row.ID).map (fun stored => stored.status) = some row.status) :
    views listing.time (Offset.inOrder (fun row => row.ID) ids
      (offers.rows.filter fun row => row.ID ∈ ids)) =
        views listing.time (listing.request.owed listing.time listing.seen) := by
  have once : ids.Nodup := by
    rw [picked]
    exact ListRequest.nodup_owed sound.distinct
  have isOwed : ∀ id ∈ ids, ∃ row ∈ listing.seen, row.ID = id := by
    intro id isId
    rw [picked] at isId
    rcases List.mem_map.mp isId with ⟨row, listed, rfl⟩
    exact ⟨row, (ListRequest.of_mem_owed listed).1, rfl⟩
  have loaded : ((offers.rows.filter fun row => row.ID ∈ ids).map fun row => row.ID).Perm ids := by
    refine (List.perm_ext_iff_of_nodup
      ((List.filter_sublist.map Keyed.key).nodup offers.distinct) once).mpr ?_
    intro id
    constructor
    · intro isLoaded
      rcases List.mem_map.mp isLoaded with ⟨row, inFilter, rfl⟩
      exact of_decide_eq_true (List.mem_filter.mp inFilter).2
    · intro isId
      rcases isOwed id isId with ⟨row, isSeen, rfl⟩
      rcases sound.seen row isSeen with ⟨stored, found, _⟩
      have sameId : stored.ID = row.ID := Table.key_of_find? found
      refine List.mem_map.mpr ⟨stored, ?_, sameId⟩
      exact List.mem_filter.mpr ⟨Table.mem_of_find? found, decide_eq_true (sameId ▸ isId)⟩
  have keys : (Offset.inOrder (fun row => row.ID) ids
      (offers.rows.filter fun row => row.ID ∈ ids)).map (fun row => row.ID) =
        (listing.request.owed listing.time listing.seen).map fun row => row.ID :=
    (Offset.map_inOrder once loaded).trans picked
  -- an offer has one expiry, and its status is still the one it was picked with
  have sameStatus : ∀ stored ∈ Offset.inOrder (fun row : BoardOffer => row.ID) ids
      (offers.rows.filter fun row => row.ID ∈ ids),
      ∀ row ∈ listing.request.owed listing.time listing.seen, stored.ID = row.ID →
        effectiveSwapOfferStatus listing.time stored.toSwapOffer =
          effectiveSwapOfferStatus listing.time row.toSwapOffer := by
    intro stored isLoaded row listed sameId
    have inFilter := List.mem_filter.mp (Offset.mem_inOrder.mp isLoaded)
    have found : offers.find? row.ID = some stored := sameId ▸ Table.find?_of_mem inFilter.1
    have isSeen := (ListRequest.of_mem_owed listed).1
    have status := undisturbed row isSeen (sameId ▸ of_decide_eq_true inFilter.2)
    rcases sound.seen row isSeen with ⟨later, isLater, sameExpiry⟩
    rw [found] at isLater status
    cases isLater
    exact effectiveSwapOfferStatus_congr (Option.some.inj status) sameExpiry
  exact Offset.map_congr_keys keys fun stored isLoaded row listed sameId =>
    Prod.ext sameId (sameStatus stored isLoaded row listed sameId)

/-- A statement that finds what the first one would have found keeps to the first one. -/
theorem ListingSound.read (sound : ListingSound offers listing)
    (undisturbed : Undisturbed offers listing) :
    ListingSound offers ((Listing.read offers.rows).set listing) := by
  have held := sound.phase
  unfold Undisturbed at undisturbed
  simp only [Listing.read, Listing.next]
  cases phase : listing.phase with
  | opened =>
    refine ⟨fun row isRow => ⟨row, Table.find?_of_mem isRow, rfl⟩, offers.distinct, ?_⟩
    simp only [if_true]
    split
    next noTag =>
      have every : ∀ row, listing.request.wantsTag row = true := by
        intro row
        simp [ListRequest.wantsTag, noTag]
      rw [PhaseSound, ListRequest.owed_eq, Offset.picked,
        List.filter_eq_self.mpr fun row _ => every row]
    · have first : PhaseSound { listing with seen := offers.rows } (.paging 0 []) := by
        simp [PhaseSound, Offset.picked]
      exact afterPage_sound rfl first
  | paging offset ids =>
    rw [phase] at held undisturbed
    exact ⟨sound.seen, sound.distinct, afterPage_sound undisturbed held⟩
  | loading ids =>
    rw [phase] at held undisturbed
    exact ⟨sound.seen, sound.distinct, views_loaded sound held undisturbed⟩
  | answered shown =>
    rw [phase] at held
    exact ⟨sound.seen, sound.distinct, held⟩

end Reading

structure Sound (s : SwapBoard) : Prop where
  retirements : s.retirements.All (RetirementSound s.offers)
  listings : s.listings.All (ListingSound s.offers)

/-- An offer does not expire between the update that retires it and the answer, and the offers a
listing asks for stay as they are from its first statement to its last. -/
def AnswersInTime (s : SwapBoard) : BoardEvent → Prop
  | .answer id =>
    ∀ retirement ∈ s.retirements.find? id, ∀ row ∈ retirement.phase.closedRow?,
      isSwapOfferOpen s.now row.1.toSwapOffer = isSwapOfferOpen row.2 row.1.toSwapOffer
  | .readOffers id => ∀ listing ∈ s.listings.find? id, Undisturbed s.offers listing
  | _ => True

instance (s : SwapBoard) (event : BoardEvent) : Decidable (s.AnswersInTime event) := by
  cases event <;> unfold AnswersInTime <;> infer_instance

section Steps

variable {s : SwapBoard}

theorem Sound.later (sound : s.Sound) {after : SwapBoard}
    (evolves : s.offers.Evolves Closing after.offers)
    (retirements : after.retirements = s.retirements) (listings : after.listings = s.listings) :
    after.Sound where
  retirements := by
    rw [retirements]
    exact sound.retirements.imp fun _ held => held.later evolves
  listings := by
    rw [listings]
    exact sound.listings.imp fun _ held => held.later evolves

variable {retirement : Retirement} {id : Nat}

section Sound

variable (sound : s.Sound)

include sound

theorem Sound.setRetirement {phase : RetirePhase}
    (found : s.retirements.find? id = some retirement)
    (held : RetirementSound s.offers { retirement with phase }) :
    (s.setRetirement id phase).Sound where
  retirements := by
    apply sound.retirements.update
    intro row isRow _ _
    rw [found] at isRow
    cases isRow
    exact held
  listings := sound.listings

theorem Sound.closeSwapOffer (offerId : Nat) (status : SwapOfferStatus)
    (txHash : Option String) : (s.closeSwapOffer offerId status txHash).Sound :=
  sound.later (closeSwapOffer_evolves s offerId status txHash) rfl rfl

theorem Sound.retireClose
    (found : s.retirements.find? id = some retirement) {row : BoardOffer}
    (loaded : retirement.phase = .loaded row) : (s.step (.closeSwapOffer id)).Sound := by
  have held := sound.retirements id retirement found
  simp only [RetirementSound, loaded] at held
  rcases held with ⟨same, stored, isStored⟩
  simp only [step, found, loaded]
  split
  next affected =>
    apply (sound.closeSwapOffer row.ID _ none).setRetirement found
    rcases Table.find?_update_of_affects affected with ⟨before, _, _, after⟩
    rw [same] at after
    refine ⟨same, (BoardOffer.close s.now (retiredStatus s.now row.toSwapOffer) none).set before,
      ?_, rfl⟩
    rw [SwapBoard.closeSwapOffer, same]
    exact after
  next unaffected =>
    apply sound.setRetirement found
    refine ⟨same, stored, isStored, ?_⟩
    intro isOpen
    apply unaffected
    rw [Table.affects_iff, same]
    exact ⟨stored, isStored, decide_eq_true isOpen⟩

theorem Sound.reload (found : s.retirements.find? id = some retirement)
    {row : BoardOffer} (lost : retirement.phase = .lost row) : (s.step (.reload id)).Sound := by
  have held := sound.retirements id retirement found
  simp only [RetirementSound, lost] at held
  rcases held with ⟨same, stored, isStored, isClosed⟩
  simp only [step, found, lost, same, isStored, Option.getD_some]
  exact sound.setRetirement found ⟨isClosed, isStored⟩

theorem Sound.answer
    (found : s.retirements.find? id = some retirement) (inTime : s.AnswersInTime (.answer id)) :
    (s.step (.answer id)).Sound := by
  have held := sound.retirements id retirement found
  simp only [step, found]
  split
  next row time isClosed =>
    simp only [RetirementSound, isClosed] at held
    rcases held with ⟨_, stored, isStored, isStatus⟩
    have sameClock := inTime retirement found (row, time) (by rw [isClosed]; rfl)
    have sameStatus : retiredStatus s.now row.toSwapOffer = retiredStatus time row.toSwapOffer := by
      unfold retiredStatus
      rw [sameClock]
    apply sound.setRetirement found
    exact ⟨stored, isStored, isStatus.trans sameStatus.symm, retiredStatus_ne _ _⟩
  next row isReloaded =>
    simp only [RetirementSound, isReloaded] at held
    have shown : effectiveSwapOfferStatus s.now row.toSwapOffer = row.status := by
      unfold effectiveSwapOfferStatus
      rw [if_pos held.1]
    apply sound.setRetirement found
    exact ⟨row, held.2, shown.symm, shown ▸ held.1⟩
  · exact sound

theorem Sound.readOffers (inTime : s.AnswersInTime (.readOffers id)) :
    (s.step (.readOffers id)).Sound where
  retirements := sound.retirements
  listings := sound.listings.update fun listing found held _ =>
    held.read (inTime listing found)

end Sound

theorem step_sound (event : BoardEvent) (sound : s.Sound) (inTime : s.AnswersInTime event) :
    (s.step event).Sound := by
  have evolves := step_evolves s event
  cases event with
  | timePasses | postSwapOffer | expireSwapOffers | fillById | closeSwapOffersByNullifiers =>
    exact sound.later evolves rfl rfl
  | closeNext id =>
    simp only [step] at evolves ⊢
    split
    · split
      · exact sound.later (closeSwapOffer_evolves s _ _ _) rfl rfl
      · exact sound
    · exact sound
  | loadSwapOffer ID offerId userId grantId =>
    refine ⟨sound.retirements.insert ?_, sound.listings⟩
    unfold RetirementSound
    cases isFound : s.offers.find? offerId with
    | none => trivial
    | some row =>
      cases isPoster : isPoster row userId grantId with
      | false => simp [isPoster]
      | true =>
        simp only [isPoster, if_true]
        exact ⟨Table.key_of_find? isFound, row, rfl⟩
  | closeSwapOffer id =>
    cases found : s.retirements.find? id with
    | none =>
      simp only [step, found]
      exact sound
    | some retirement =>
      cases phase : retirement.phase with
      | loaded row => exact sound.retireClose found phase
      | refused | closed | lost | reloaded | answered =>
        simp only [step, found, phase]
        exact sound
  | reload id =>
    cases found : s.retirements.find? id with
    | none =>
      simp only [step, found]
      exact sound
    | some retirement =>
      cases phase : retirement.phase with
      | lost row => exact sound.reload found phase
      | refused | closed | loaded | reloaded | answered =>
        simp only [step, found, phase]
        exact sound
  | answer id =>
    cases found : s.retirements.find? id with
    | none =>
      simp only [step, found]
      exact sound
    | some retirement => exact sound.answer found inTime
  | listSwapOffers ID request =>
    exact ⟨sound.retirements, sound.listings.insert ⟨nofun, List.nodup_nil, trivial⟩⟩
  | readOffers id => exact sound.readOffers inTime

end Steps

/-! ## Runs -/

/-- The first statement of a listing finds the offers of a board. -/
structure FirstRead (board : SwapBoard) (listing : Listing) : Prop where
  opened : ∃ before, board.listings.find? listing.ID = some before ∧ before.phase = .opened ∧
    before.request = listing.request ∧ before.time = listing.time
  seen : listing.seen = board.offers.rows

/-- Every listing that has begun to read had its first statement somewhere in the run. -/
def Begun (s : SwapBoard) (past : List BoardEvent) (state : SwapBoard) : Prop :=
  state = run step s past ∧ state.listings.All fun listing => listing.phase ≠ .opened →
    ∃ before after, past = before ++ after ∧ FirstRead (run step s before) listing

/-- A listing is opened, or one statement of a listing runs; nothing else changes one. -/
theorem step_listings (s : SwapBoard) (event : BoardEvent) :
    (∃ opened : Listing, opened.phase = .opened ∧
      (s.step event).listings = s.listings.insert opened) ∨
    (∃ id, event = .readOffers id) ∨ (s.step event).listings = s.listings := by
  cases event with
  | listSwapOffers ID request => exact .inl ⟨{ ID, request, time := s.now }, rfl, rfl⟩
  | readOffers id => exact .inr (.inl ⟨id, rfl⟩)
  | timePasses | postSwapOffer | expireSwapOffers | fillById | closeSwapOffersByNullifiers
  | loadSwapOffer => exact .inr (.inr rfl)
  | closeNext id | reload id | answer id =>
    refine .inr (.inr ?_)
    simp only [step]
    split
    · split <;> rfl
    · rfl
  | closeSwapOffer id =>
    refine .inr (.inr ?_)
    simp only [step]
    split
    · split
      · split <;> rfl
      · rfl
    · rfl

theorem Begun.step {s state : SwapBoard} {past : List BoardEvent} (begun : Begun s past state)
    (event : BoardEvent) : Begun s (past ++ [event]) (state.step event) := by
  have reached : state.step event = run SwapBoard.step s (past ++ [event]) := by
    rw [run_append, ← begun.1]
    rfl
  have kept : state.listings.All fun listing => listing.phase ≠ .opened →
      ∃ before after, past ++ [event] = before ++ after ∧
        FirstRead (run SwapBoard.step s before) listing := by
    refine begun.2.imp ?_
    intro listing held hasBegun
    rcases held hasBegun with ⟨before, after, rfl, first⟩
    exact ⟨before, after ++ [event], List.append_assoc _ _ _, first⟩
  refine ⟨reached, ?_⟩
  rcases step_listings state event with ⟨opened, isOpened, isNew⟩ | ⟨id, rfl⟩ | same
  · rw [isNew]
    exact kept.insert (absurd isOpened)
  · apply kept.update
    intro listing found held _ _
    cases phase : listing.phase with
    | opened =>
      have sameId : listing.ID = id := Table.key_of_find? found
      refine ⟨past, [.readOffers id], rfl, ?_, ?_⟩
      · rw [← begun.1]
        exact ⟨listing, sameId ▸ found, phase, rfl, rfl⟩
      · rw [← begun.1]
        exact if_pos phase
    | paging | loading | answered =>
      rcases held (by rw [phase]; nofun) with ⟨before, after, isRun, first⟩
      refine ⟨before, after, isRun, first.opened, ?_⟩
      rw [← first.seen]
      exact if_neg (by rw [phase]; nofun)
  · rwa [same]

end SwapBoard

end Nightgate.Submission
