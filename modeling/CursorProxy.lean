import CursorProxy.SandAbandonment
import CursorProxy.SandOwnership
import CursorProxy.EosCuts
import CursorProxy.UsageReports
import CursorProxy.ConversationRollback
import CursorProxy.TerminalReaders
import CursorProxy.PiEditRuns
import CursorProxy.CodexRecords
import CursorProxy.GenerationGate
import CursorProxy.ResumeAdmissions
import CursorProxy.ResumeBatches
import CursorProxy.ChunkCuts
import CursorProxy.SandRequestSoundness
import CursorProxy.SandOpenAdmission
import CursorProxy.SandToolReassembly
import CursorProxy.FailoverRuns
import CursorProxy.PolicyGateRuns
import CursorProxy.ResponsesLife
import CursorProxy.SandCollectedStreams
import CursorProxy.SandBudget
import CursorProxy.SessionRuns
import CursorProxy.KimiAgreement
import CursorProxy.GrokRuns
import CursorProxy.GrokAgreement
import CursorProxy.LiveCatalogRuns
import CursorProxy.PromptIdentity
import CursorProxy.SandReplay
import CursorProxy.ContinuationTotals
import CursorProxy.ConversationQueue
import CursorProxy.LedgerLimits
import CursorProxy.HostedWebFetch
import CursorProxy.FableThinking
import CursorProxy.RegistryRuns
import CursorProxy.ErrorCase
import CursorProxy.ReasoningSignatures
import CursorProxy.SseRoundTrip
import CursorProxy.FetchGate
import CursorProxy.PartialArgs
import CursorProxy.ToolUseHistory
import CursorProxy.AdaptedInputs
import CursorProxy.CodexSearches
import CursorProxy.H2Circuit
import CursorProxy.GenerationBudget
import CursorProxy.OperationKeys
import CursorProxy.GrokFrames
import CursorProxy.RoutingExcerpts
import CursorProxy.DeferredStarts
import CursorProxy.DeltaCoalescers
import CursorProxy.ToolResultBatches
import CursorProxy.KimiRequests
import CursorProxy.Http1Append
import CursorProxy.GlobMatching
import CursorProxy.QuotaEvidence
import CursorProxy.StrictSchemas
import CursorProxy.HtmlTexts
import CursorProxy.EmptyEnds
import CursorProxy.UsageCache
