import SeekTalent.Foundation.Machine
import SeekTalent.SourcePort.DispatchExclusion
import SeekTalent.SourcePort.BrowserEffect
import SeekTalent.RuntimeControl.RunRecords
import SeekTalent.RuntimeControl.FailedOutcome
import SeekTalent.RuntimeControl.RunStore
import SeekTalent.RuntimeControl.Recovery
import SeekTalent.Foundation.Programs
import SeekTalent.RuntimeControl.Transactions
import SeekTalent.RuntimeControl.LeaseHistory
import SeekTalent.RuntimeControl.LifecycleCommands
import SeekTalent.RuntimeControl.PendingRequests
import SeekTalent.RuntimeControl.FinalOutcome
import SeekTalent.Foundation.Tables
import SeekTalent.RuntimeControl.LedgerRecords
import SeekTalent.Foundation.Dicts
import SeekTalent.RuntimeControl.ExecutorFencing
import SeekTalent.SourceLanes.IdentitySignals
import SeekTalent.SourceLanes.IdentityIndex
import SeekTalent.SourceLanes.IndexInvariant
import SeekTalent.SourceLanes.IndexUpsert
import SeekTalent.Foundation.Links
import SeekTalent.SourceLanes.IdentityClasses
import SeekTalent.SourceLanes.RunState
import SeekTalent.SourceLanes.IdentityRebuild
import SeekTalent.SourceLanes.MatchingOrder
import SeekTalent.SourceLanes.EvidenceOrder
import SeekTalent.SourceLanes.RebuiltIdentities
import SeekTalent.SourceLanes.IdentityOrder
import SeekTalent.SourceLanes.LaneResults
import SeekTalent.Foundation.Json
import SeekTalent.SourcePort.StrictJson
import SeekTalent.SourcePort.FrameSession
import SeekTalent.SourcePort.FrameStream
import SeekTalent.SourcePort.FrameAuthenticity
import SeekTalent.SourcePort.LiepinSourceFrames
import SeekTalent.SourcePort.FrameQueue
import SeekTalent.SourcePort.FrameDelivery
import SeekTalent.SourcePort.PendingTables
import SeekTalent.SourcePort.SourceLink
import SeekTalent.SourcePort.HonestEndpoints
import SeekTalent.Foundation.JsonRoundTrip
import SeekTalent.SourcePort.EndpointAgreement
import SeekTalent.Foundation.Sha256
import SeekTalent.SourcePort.ReferenceAdapter
import SeekTalent.LiepinStore.ComplianceGate
import SeekTalent.LiepinStore.ConnectionStore
import SeekTalent.LiepinStore.GateBinding
import SeekTalent.RequirementDrafts.RequirementSheet
import SeekTalent.RequirementDrafts.DraftService
import SeekTalent.RequirementDrafts.DraftContents
import SeekTalent.RequirementDrafts.DraftHistory
import SeekTalent.RequirementDrafts.ConfirmedSheets
import SeekTalent.RequirementDrafts.DraftChain
import SeekTalent.Wtscli.DaemonCustody
import SeekTalent.Wtscli.DaemonSupervision
import SeekTalent.Wtscli.LifecycleSupervisor
import SeekTalent.Wtscli.SidecarCustody
import SeekTalent.Wtscli.SidecarSupervision
import SeekTalent.CandidateStores.CandidateMerge
import SeekTalent.CandidateStores.CandidateWrites
import SeekTalent.CandidateStores.StoreCoherence
import SeekTalent.SourcePort.FrameChunks
import SeekTalent.Foundation.CanonicalOrder
import SeekTalent.SourcePort.CanonicalObjects
import SeekTalent.SourcePort.HistoryQueries
import SeekTalent.SourcePort.HistorySelection
import SeekTalent.SourcePort.HistoryAnswers
import SeekTalent.SourcePort.ExactReplay
import SeekTalent.Foundation.Courses
import SeekTalent.RuntimeControl.CommandRequests
import SeekTalent.RuntimeControl.SafeBoundary
import SeekTalent.Foundation.JsonCauses
import SeekTalent.SourcePort.SidecarHandshake
import SeekTalent.SourcePort.HandshakeContainment
import SeekTalent.Foundation.JsonGrammar
import SeekTalent.SourcePort.StrictJsonTotality
import SeekTalent.RuntimeControl.EventPaging
import SeekTalent.CandidateStores.Attribution
import SeekTalent.CandidateStores.MergeSymmetry
import SeekTalent.CandidateStores.EvidenceFolding
import SeekTalent.Foundation.Matchings
import SeekTalent.ResumeVersions.ContentVersions
import SeekTalent.ResumeVersions.TimelineConsistency
import SeekTalent.ResumeVersions.CanonicalSelection
import SeekTalent.SourceLanes.KeptSignals
import SeekTalent.CandidateStores.EvidenceUpserts
import SeekTalent.CandidateStores.CandidateReplay
import SeekTalent.CandidateStores.LaneReplay
import SeekTalent.Foundation.FirstClaims
import SeekTalent.Rounds.FirstPageExpansion
import SeekTalent.Rounds.ExpansionMerge
import SeekTalent.Rounds.ExpansionAccounting
import SeekTalent.Foundation.Rankings
import SeekTalent.Rounds.TopPool
import SeekTalent.PrivacyErasure.ArtifactErasure
import SeekTalent.PrivacyErasure.ErasureRuns
import SeekTalent.Foundation.Renames
import SeekTalent.PrivacyErasure.ArtifactMoves
import SeekTalent.PrivacyErasure.DocumentFrame
import SeekTalent.PrivacyErasure.ErasureRollback
import SeekTalent.PrivacyErasure.ErasureFrame
import SeekTalent.PrivacyErasure.ErasureSteps
import SeekTalent.PrivacyErasure.OtherPeople
import SeekTalent.Foundation.RoundRobin
import SeekTalent.QueryPlanning.LocationPlans
import SeekTalent.Foundation.PrefixCodes
import SeekTalent.QueryPlanning.KeywordQueries
import SeekTalent.QueryPlanning.QueryIdentity
import SeekTalent.Rounds.QueryOutcomes
import SeekTalent.Diagnostics.DiagnosticsRedaction
import SeekTalent.Diagnostics.RedactionPrivacy
import SeekTalent.Diagnostics.RedactionSoundness
import SeekTalent.RoundSearch.RoundSearch
import SeekTalent.RoundSearch.SearchPages
import SeekTalent.BrowserLane.LaneGuards
