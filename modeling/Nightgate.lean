import Nightgate.Submission.ChainEndings
import Nightgate.Submission.AdmissionAnswers
import Nightgate.Submission.SchedulerRuns
import Nightgate.Submission.WalletSnapshots
import Nightgate.Midnight.IntentHandshake
import Nightgate.Midnight.OneWorker
import Nightgate.Sessions.GrantBudgets
import Nightgate.Sessions.ValuePerJob
import Nightgate.Submission.SwapBoard
import Nightgate.Midnight.PlannedRestart
import Nightgate.Submission.OutcomeProjections
import Nightgate.Submission.BatchAgreement
import Nightgate.Submission.ArtifactPinning
import Nightgate.Scripts.MigrationLaw
import Nightgate.Midnight.BatchCausality
import Nightgate.Midnight.BackingExclusion
import Nightgate.Submission.LostBroadcasts
import Nightgate.Keys.AccountKeyRuns
import Nightgate.Midnight.RpcSettlement
import Nightgate.Runtime.LeaseTakeover
import Nightgate.Submission.LaneExclusion
import Nightgate.Midnight.MintedValue
import Nightgate.Midnight.UnshieldedAccounts
import Nightgate.Midnight.DustFees
import Nightgate.Crawler.ForkPoint
import Nightgate.Submission.SponsorPolicyFile
import Nightgate.Crawler.ScaleExtrinsics
import Nightgate.Crawler.LedgerParameters
import Nightgate.Runtime.RateLimiter
import Nightgate.TxBuilder.SwapCoins
import Nightgate.TxBuilder.SwapTerms
import Nightgate.Submission.ArgCoercion
import Nightgate.Keys.EnvelopeRoundTrip
import Nightgate.Midnight.SavedParts
import Nightgate.Midnight.DustSaves
import Nightgate.Midnight.FacadeEndings
import Nightgate.Midnight.StateExports
import Nightgate.Sessions.EvictionRuns
import Nightgate.Midnight.DustCollapse
import Nightgate.Runtime.KeyedLock
import Nightgate.Midnight.SessionLocks
import Nightgate.Submission.JobScan
import Nightgate.Submission.OfferEncodings
import Nightgate.Crawler.Redecode
import Nightgate.Submission.AgentOutputs
