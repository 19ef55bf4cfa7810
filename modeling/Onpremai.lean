import Onpremai.Preprocessor.MetadataBoundary
import Onpremai.Gateway.Answers
import Onpremai.Gateway.Accounting
import Onpremai.Gateway.BudgetMark
import Onpremai.Assistant.Coherence
import Onpremai.MemoryService.SkillHistory
import Onpremai.MemoryService.DecisionInterleaving
import Onpremai.Preprocessor.SkipHistory
import Onpremai.Preprocessor.WebhookRuns
import Onpremai.Gateway.HealthHistory
import Onpremai.Gateway.AdapterHistory
import Onpremai.Gateway.CanaryStatistics
import Onpremai.Gateway.TwoApplications
import Onpremai.Gateway.Thresholds
import Onpremai.Gateway.LlmClient
import Onpremai.Gateway.RequestQueue
import Onpremai.Gateway.BudgetHistory
import Onpremai.Gateway.AdapterAgreement
import Onpremai.Conversation.Tenants
import Onpremai.Conversation.Broadcasts
import Onpremai.AgentEval.JobRuns
import Onpremai.Conversation.SkillSelection
import Onpremai.Conversation.Reflections
import Onpremai.Conversation.TenantSkills
import Onpremai.Observer.BreakerPipeline
import Onpremai.Observer.GatewayChanges
import Onpremai.Observer.ChangeBook
import Onpremai.Observer.AutonomyRuns
import Onpremai.Observer.LogWriter
import Onpremai.Observer.IngestorJobs
import Onpremai.Preprocessor.CriteriaReview
import Onpremai.Preprocessor.CriteriaWeights
import Onpremai.Preprocessor.ObligationPrompts
import Onpremai.Preprocessor.MergedGraphs
import Onpremai.Preprocessor.DocumentCoverage
import Onpremai.Preprocessor.SoaCoverage
import Onpremai.Preprocessor.SoaAgreement
import Onpremai.SandboxService.ExecutionRuns
import Onpremai.SandboxService.LocalFiles
import Onpremai.Observer.GatewayPayloads
import Onpremai.Common.TenantContext
import Onpremai.Common.ClientContracts
import Onpremai.MemoryService.TenantKeys
import Onpremai.AgentEval.FreshnessRuns
import Onpremai.Conversation.MessageCounts
import Onpremai.AgentEval.AnalysisRuns
import Onpremai.AgentEval.AnswerCuts
import Onpremai.AgentEval.AddedEvidence
import Onpremai.MemoryService.DecisionLists
import Onpremai.MemoryService.FactMemory
import Onpremai.AgentEval.EvidenceTexts
import Onpremai.Gateway.FirstCalls
import Onpremai.Gateway.ConfidenceTexts
import Onpremai.Gateway.ReactRoundTrip
import Onpremai.Preprocessor.SchemaDetector
import Onpremai.Preprocessor.JoinDetector
import Onpremai.Observer.DriftDetector
import Onpremai.MemoryService.AgentRegistry
