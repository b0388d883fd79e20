import Nightgate.Submission.DisclosureProjection
import Nightgate.Submission.SwapOffers

/-!
# Rows of landed transactions

Once a transaction has landed its hash is written to the rows it is about: documents, disclosure
grants, attestations, the token types the platform knows, the lists of a grant, swap offers. Each
writer here is one function of the source; the columns are those the writers set and match on.
-/

namespace Nightgate.Submission

open Library

/-- `text.trim()`. -/
def trimText (text : String) : String := String.ofList (trim text.toList)

/-- `text.toLowerCase()`. -/
def lowerText (text : String) : String := String.ofList (text.toList.map toLowerCase)

/-- `HEX64_RE`. -/
def isLowerHex64 (text : String) : Bool :=
  text.toList.length = 64 && text.toList.all fun c => decide ('0' ≤ c ∧ c ≤ '9' ∨ 'a' ≤ c ∧ c ≤ 'f')

/-- `text.replace(/^0x/i, '')`. -/
def dropHexPrefix : List Char → List Char
  | '0' :: 'x' :: rest | '0' :: 'X' :: rest => rest
  | text => text

def bareHex (value : String) : String :=
  lowerText (String.ofList (dropHexPrefix (trim value.toList)))

theorem char_of_raw {type : String} (raw : isLowerHex64 type = true) {c : Char}
    (listed : c ∈ type.toList) : isSpace c = false ∧ toLowerCase c = c ∧ c ≠ 'x' ∧ c ≠ 'X' := by
  rw [isLowerHex64, Bool.and_eq_true, List.all_eq_true] at raw
  have hex := of_decide_eq_true (raw.2 c listed)
  have bounds : 48 ≤ c.toNat ∧ c.toNat ≤ 57 ∨ 97 ≤ c.toNat ∧ c.toNat ≤ 102 := hex
  have notUpper : ¬('A' ≤ c ∧ c ≤ 'Z') := by
    rintro ⟨atLeast, atMost⟩
    have atLeast : 65 ≤ c.toNat := atLeast
    have atMost : c.toNat ≤ 90 := atMost
    omega
  have notKelvin : c ≠ Char.ofNat 0x212A := by
    rintro rfl
    exact absurd bounds (by decide)
  refine ⟨?_, ?_, ?_, ?_⟩
  · simp only [isSpace, Bool.or_eq_false_iff, Bool.and_eq_false_iff, decide_eq_false_iff_not]
    omega
  · rw [toLowerCase, if_neg notUpper, if_neg notKelvin]
  · rintro rfl
    exact absurd bounds (by decide)
  · rintro rfl
    exact absurd bounds (by decide)

@[simp] theorem bareHex_of_raw {type : String} (raw : isLowerHex64 type = true) :
    bareHex type = type := by
  have dropped : dropHexPrefix type.toList = type.toList := by
    rw [dropHexPrefix.eq_def]
    split
    next isText => exact absurd rfl (char_of_raw raw (isText ▸ by simp)).2.2.1
    next isText => exact absurd rfl (char_of_raw raw (isText ▸ by simp)).2.2.2
    · rfl
  have lowered : type.toList.map toLowerCase = type.toList :=
    (List.map_congr_left fun c listed => (char_of_raw raw listed).2.1).trans (List.map_id _)
  rw [bareHex, trim_of_none fun c listed => (char_of_raw raw listed).1, dropped, lowerText,
    String.toList_ofList, lowered, String.ofList_toList]

/-- Valid token types, in their order, each once. -/
def normalizeTokenTypes (types : List String) : List String :=
  ((types.map bareHex).filter isLowerHex64).eraseDups

/-- The ID of a row, which is never empty. -/
@[ext] structure RowId where
  text : String
  given : text ≠ ""

instance : DecidableEq RowId := fun _ _ => decidable_of_iff _ RowId.ext_iff.symm

/-- Rewrites the rows that match. -/
def updateRows {Row : Type} (matching : Row → Bool) (set : Row → Row) (rows : List Row) :
    List Row :=
  rows.map fun row => if matching row then set row else row

structure Document where
  ID : String
  anchoredTxHash : Option String
  anchoredAt : Option Nat
  modifiedAt : Nat

/-- `midnight.PredicateAttestations`, with the columns a landed proof sets. -/
structure AttestationMark where
  ID : String
  provenTxHash : Option String
  provenAt : Option Nat
  modifiedAt : Nat

structure LearnedTokenType where
  tokenType : String
  grantId : Option String
  sponsorSessionId : Option String
  txHash : Option String

/-- `midnight.AgentGrants`, with the lists that landed transactions extend. -/
structure GrantLists where
  ID : String
  deployedContracts : List String
  mintedTokenTypes : List String

/-- `midnight.SwapOffers`, with the columns that closing reads and sets. -/
structure OfferRow where
  ID : String
  status : SwapOfferStatus
  nullifiers : List String
  filledTxHash : Option String
  closedAt : Option Nat

structure LandedRows where
  documents : List Document
  disclosureGrants : DisclosureGrants
  attestations : List AttestationMark
  learnedTokenTypes : List LearnedTokenType
  grants : List GrantLists
  offers : List OfferRow

def LandedRows.blank : LandedRows where
  documents := []
  disclosureGrants := Table.empty
  attestations := []
  learnedTokenTypes := []
  grants := []
  offers := []

def anchored (txHash : String) (changedAt : Nat) (row : Document) : Document :=
  { row with anchoredTxHash := some txHash, anchoredAt := some changedAt, modifiedAt := changedAt }

def proven (txHash : String) (provenAt : Nat) (row : AttestationMark) : AttestationMark :=
  { row with provenTxHash := some txHash, provenAt := some provenAt, modifiedAt := provenAt }

/-- The write of `recordProven`: the attestations of a workflow are proven. -/
def recordProven (predicateAttestationIds : List String) (txHash : String) (provenAt : Nat)
    (rows : LandedRows) : LandedRows :=
  { rows with
    attestations := updateRows (fun row => row.ID ∈ predicateAttestationIds)
      (proven txHash provenAt) rows.attestations }

@[simp] theorem recordProven_nil (txHash : String) (provenAt : Nat) (rows : LandedRows) :
    recordProven [] txHash provenAt rows = rows := by
  simp [recordProven, updateRows]

def MAX_LEARNED_TOKEN_TYPES : Nat := 256

def MAX_POLICY_ENTRIES : Nat := 256

structure PlatformMintOrigin where
  grantId : Option RowId
  sponsorSessionId : Option String
  txHash : Option String

def recordLearnedTokenTypes (types : List String) (origin : PlatformMintOrigin)
    (known : List LearnedTokenType) : List LearnedTokenType :=
  let added := (normalizeTokenTypes types).filter fun type =>
    !known.any fun row => lowerText row.tokenType = type
  if added = [] then known
  else if known.length + added.length > MAX_LEARNED_TOKEN_TYPES then known
  else known ++ added.map fun tokenType =>
    ⟨tokenType, origin.grantId.map RowId.text, origin.sponsorSessionId, origin.txHash⟩

/-- The types of a mint that a grant has not listed yet. -/
def freshMints (types : List String) : List String :=
  ((types.map fun type => lowerText (trimText type)).filter isLowerHex64).eraseDups

/-- The types that are new behind the list, unless it would grow too long. -/
def mergeMints (current fresh : List String) : List String :=
  let added := fresh.filter fun type => !current.contains type
  if added = [] then current
  else if current.length + added.length > MAX_POLICY_ENTRIES then current
  else current ++ added

def GrantLists.mint (types : List String) (grant : GrantLists) : GrantLists :=
  { grant with mintedTokenTypes := mergeMints grant.mintedTokenTypes (freshMints types) }

def recordMintedTokenTypes (grantId : RowId) (types : List String) (grants : List GrantLists) :
    List GrantLists :=
  updateRows (fun grant => grant.ID = grantId.text) (GrantLists.mint types) grants

def recordPlatformMint (types : List String) (origin : PlatformMintOrigin) (rows : LandedRows) :
    LandedRows :=
  if types = [] then rows
  else
    { rows with
      learnedTokenTypes := recordLearnedTokenTypes types origin rows.learnedTokenTypes
      grants :=
        match origin.grantId with
        | some grantId => recordMintedTokenTypes grantId types rows.grants
        | none => rows.grants }

/-- `merged`: the addresses that are new, behind the list. -/
def mergeAddresses (current fresh : List String) : List String :=
  fresh.foldl (fun merged address =>
    if merged.contains address then merged else merged ++ [address]) current

def freshAddresses (addresses : List String) : List String :=
  (addresses.map trimText).filter (· ≠ "")

/-- An empty address is dropped anyway. -/
theorem freshAddresses_filter (addresses : List String) :
    freshAddresses (addresses.filter (· ≠ "")) = freshAddresses addresses := by
  induction addresses with
  | nil => rfl
  | cons address rest ih =>
    by_cases empty : address = ""
    · subst empty
      exact ih
    · have kept : (address :: rest).filter (· ≠ "") = address :: rest.filter (· ≠ "") :=
        List.filter_cons_of_pos (by simpa using empty)
      unfold freshAddresses at *
      rw [kept, List.map_cons, List.map_cons, List.filter_cons, List.filter_cons, ih]

def GrantLists.deploy (addresses : List String) (grant : GrantLists) : GrantLists :=
  { grant with
    deployedContracts := mergeAddresses grant.deployedContracts (freshAddresses addresses) }

theorem GrantLists.deploy_filter (addresses : List String) :
    GrantLists.deploy (addresses.filter (· ≠ "")) = GrantLists.deploy addresses := by
  funext grant
  simp only [deploy, freshAddresses_filter]

def recordDeployedContracts (grantId : RowId) (addresses : List String) (rows : LandedRows) :
    LandedRows :=
  { rows with
    grants := updateRows (fun grant => grant.ID = grantId.text) (GrantLists.deploy addresses)
      rows.grants }

/-! ## Swap offers -/

/-- What closing sets. An empty hash leaves the column alone. -/
def OfferRow.close (status : SwapOfferStatus) (txHash : String) (now : Nat) (row : OfferRow) :
    OfferRow :=
  { row with
    status, closedAt := some now
    filledTxHash := if txHash = "" then row.filledTxHash else some txHash }

/-- Closes an offer that is open. -/
def closeOffer (offerId : String) (status : SwapOfferStatus) (txHash : String) (now : Nat)
    (offers : List OfferRow) : List OfferRow :=
  updateRows (fun row => row.ID = offerId && row.status = .listed)
    (OfferRow.close status txHash now) offers

/-- The nullifiers that are valid. -/
def landedNullifiers (nullifiers : List String) : List String :=
  (nullifiers.map fun nullifier => lowerText (trimText nullifier)).filter isLowerHex64

/-- The open offers that use one of the inputs. -/
def offersSpending (landed : List String) (offers : List OfferRow) : List String :=
  (offers.filter fun row =>
    row.status = .listed && row.nullifiers.any fun nullifier => lowerText nullifier ∈ landed).map
      OfferRow.ID

/-- Closes every open offer that uses an input of a landed transaction. -/
def closeOffersByNullifiers (nullifiers : List String) (txHash : String) (now : Nat)
    (offers : List OfferRow) : List OfferRow :=
  if landedNullifiers nullifiers = [] then offers
  else (offersSpending (landedNullifiers nullifiers) offers).foldl
    (fun offers offerId => closeOffer offerId .filled txHash now offers) offers

/-- Closes the offer a swap names. -/
def closeNamedOffer (offerId : Option RowId) (txHash : String) (now : Nat)
    (offers : List OfferRow) : List OfferRow :=
  match offerId with
  | some offerId => closeOffer offerId.text .filled txHash now offers
  | none => offers

/-- The offers a landed transaction fills: the one it names, and those that share an input. -/
def closeSwapOffersOf (offerId : Option RowId) (nullifiers : List String) (txHash : String)
    (now : Nat) (rows : LandedRows) : LandedRows :=
  { rows with
    offers := closeOffersByNullifiers nullifiers txHash now
      (closeNamedOffer offerId txHash now rows.offers) }

theorem updateRows_comm {Row : Type} {matching matching' : Row → Bool} {set set' : Row → Row}
    (rows : List Row) (keeps : ∀ row, matching (set' row) = matching row)
    (keeps' : ∀ row, matching' (set row) = matching' row)
    (commute : ∀ row, set (set' row) = set' (set row)) :
    updateRows matching set (updateRows matching' set' rows) =
      updateRows matching' set' (updateRows matching set rows) := by
  simp only [updateRows, List.map_map]
  apply List.map_congr_left
  intro row _
  simp only [Function.comp_apply]
  cases first : matching row <;> cases second : matching' row <;>
    simp [first, second, keeps, keeps', commute]

/-- Minting and deploying extend different lists of a grant. -/
theorem GrantLists.deploy_mint (addresses types : List String) (grant : GrantLists) :
    (grant.mint types).deploy addresses = (grant.deploy addresses).mint types := rfl

theorem recordDeployed_mint (addresses types : List String) (grantId : RowId)
    (origin : PlatformMintOrigin) (rows : LandedRows) :
    recordDeployedContracts grantId addresses (recordPlatformMint types origin rows) =
      recordPlatformMint types origin (recordDeployedContracts grantId addresses rows) := by
  unfold recordPlatformMint
  split
  · rfl
  · cases isGrant : origin.grantId with
    | none => simp only [recordDeployedContracts]
    | some minter =>
      simp only [recordDeployedContracts, recordMintedTokenTypes, LandedRows.mk.injEq, true_and,
        and_true]
      apply updateRows_comm
      · intro grant
        rfl
      · intro grant
        rfl
      · exact GrantLists.deploy_mint addresses types

theorem recordDeployed_close (addresses : List String) (grantId : RowId) (offerId : Option RowId)
    (nullifiers : List String) (txHash : String) (now : Nat) (rows : LandedRows) :
    recordDeployedContracts grantId addresses
        (closeSwapOffersOf offerId nullifiers txHash now rows) =
      closeSwapOffersOf offerId nullifiers txHash now
        (recordDeployedContracts grantId addresses rows) := rfl

/-- Without a valid nullifier no offer is closed for one. -/
theorem closeOffersByNullifiers_none {nullifiers : List String}
    (invalid : landedNullifiers nullifiers = []) (txHash : String) (now : Nat)
    (offers : List OfferRow) : closeOffersByNullifiers nullifiers txHash now offers = offers := by
  unfold closeOffersByNullifiers
  rw [if_pos invalid]

@[simp] theorem closeOffersByNullifiers_nil (txHash : String) (now : Nat) (offers : List OfferRow) :
    closeOffersByNullifiers [] txHash now offers = offers :=
  closeOffersByNullifiers_none rfl txHash now offers

@[simp] theorem recordPlatformMint_offers (types : List String) (origin : PlatformMintOrigin)
    (rows : LandedRows) : (recordPlatformMint types origin rows).offers = rows.offers := by
  unfold recordPlatformMint
  split <;> rfl

@[simp] theorem recordDeployedContracts_offers (grantId : RowId) (addresses : List String)
    (rows : LandedRows) :
    (recordDeployedContracts grantId addresses rows).offers = rows.offers := rfl

/-- An ID that is not the one given. -/
def otherId (offerId : Option RowId) : String := (offerId.elim "" RowId.text).push '_'

theorem closeNamedOffer_other {offerId : Option RowId} {row : OfferRow}
    (other : row.ID = otherId offerId) (txHash : String) (now : Nat) :
    closeNamedOffer offerId txHash now [row] = [row] := by
  cases offerId with
  | none => rfl
  | some offerId =>
    have differs : row.ID ≠ offerId.text := by
      rw [other]
      intro same
      have lengths := congrArg String.length same
      simp [otherId] at lengths
    simp [closeNamedOffer, closeOffer, updateRows, differs]

/-- A row with an input of the landed transaction does not stay open. -/
theorem closeOffersByNullifiers_hit {nullifiers : List String} {nullifier : String}
    (lands : lowerText nullifier ∈ landedNullifiers nullifiers) (ID txHash : String) (now : Nat) :
    closeOffersByNullifiers nullifiers txHash now [⟨ID, .listed, [nullifier], none, none⟩] =
      [OfferRow.close .filled txHash now ⟨ID, .listed, [nullifier], none, none⟩] := by
  have some : landedNullifiers nullifiers ≠ [] := List.ne_nil_of_mem lands
  unfold closeOffersByNullifiers
  rw [if_neg some]
  simp [offersSpending, lands, closeOffer, updateRows]

end Nightgate.Submission
