import ApiCenter.Library.Codec
import ApiCenter.Library.Coherence
import ApiCenter.Library.Fields
import ApiCenter.Library.JsonText
import ApiCenter.Library.Runs
import ApiCenter.Library.Histories
import ApiCenter.Library.Tables
import ApiCenter.Library.WriteBehind
import ApiCenter.Library.Retries
import ApiCenter.Library.Versions
import ApiCenter.Library.Shares
import ApiCenter.Library.Urls
import ApiCenter.Model.Values
import ApiCenter.Model.Errors
import ApiCenter.Model.Json
import ApiCenter.Model.Types
import ApiCenter.Model.Semver
import ApiCenter.Model.Kafka
import ApiCenter.Model.Redis
import ApiCenter.Model.Manifest
import ApiCenter.Model.Registry
import ApiCenter.Model.Registration
import ApiCenter.Model.Lifecycle
import ApiCenter.Model.Access
import ApiCenter.Model.Reconciliation
import ApiCenter.Model.Cluster
import ApiCenter.Model.Node
import ApiCenter.Model.Instance
import ApiCenter.Model.Overlap
import ApiCenter.Model.HealthMonitor
import ApiCenter.Model.Auth
import ApiCenter.Model.AuthController
import ApiCenter.Model.DevJwt
import ApiCenter.Model.Throttler
import ApiCenter.Model.ThrottlerStorage
import ApiCenter.Model.RedisThrottler
import ApiCenter.Model.ThrottlerCluster
import ApiCenter.Model.CircuitBreaker
import ApiCenter.Model.Traffic
import ApiCenter.Model.External
import ApiCenter.Model.ProxyHandler
import ApiCenter.Model.Gateway
import ApiCenter.Model.RegistryRun
import ApiCenter.Model.Schemas
import ApiCenter.Model.TribeClient
import ApiCenter.Model.Keycloak
import ApiCenter.Model.ExceptionFilter
import ApiCenter.Model.ExternalController
import ApiCenter.Model.Interceptors
import ApiCenter.Model.Config
import ApiCenter.Model.ServiceSecrets
import ApiCenter.Model.JsonText
import ApiCenter.Model.EntryText
import ApiCenter.Model.RedisTexts
import ApiCenter.Model.KafkaService
import ApiCenter.Model.TokenExchange
import ApiCenter.Model.RegistryController
import ApiCenter.Model.ExternalMonitor
import ApiCenter.Model.Platform
import ApiCenter.Model.Upstream
import ApiCenter.Proofs.Calls
import ApiCenter.Proofs.Statuses
import ApiCenter.Proofs.Reachability
import ApiCenter.Proofs.Atomicity
import ApiCenter.Proofs.Versions
import ApiCenter.Proofs.Retirement
import ApiCenter.Proofs.Reload
import ApiCenter.Proofs.Restart
import ApiCenter.Proofs.Convergence
import ApiCenter.Proofs.Durability
import ApiCenter.Proofs.Acknowledged
import ApiCenter.Proofs.Overlapping
import ApiCenter.Proofs.Automaton
import ApiCenter.Proofs.HealthResults
import ApiCenter.Proofs.Tokens
import ApiCenter.Proofs.Buckets
import ApiCenter.Proofs.MemoryThrottler
import ApiCenter.Proofs.Fallback
import ApiCenter.Proofs.DistributedLimit
import ApiCenter.Proofs.HitExpiry
import ApiCenter.Proofs.Mediation
import ApiCenter.Proofs.Routability
import ApiCenter.Proofs.ProxyTargets
import ApiCenter.Proofs.Deprecation
import ApiCenter.Proofs.Catalogue
import ApiCenter.Proofs.BreakerTrail
import ApiCenter.Proofs.FailFast
import ApiCenter.Proofs.Thresholds
import ApiCenter.Proofs.Probes
import ApiCenter.Proofs.Interfaces
import ApiCenter.Proofs.Messages
import ApiCenter.Proofs.HealthTrail
import ApiCenter.Proofs.Gauge
import ApiCenter.Proofs.ConsumerViews
import ApiCenter.Proofs.VersionHistory
import ApiCenter.Proofs.PreviousVersions
import ApiCenter.Proofs.EventSchemas
import ApiCenter.Proofs.RegistryMap
import ApiCenter.Proofs.RetryPolicy
import ApiCenter.Proofs.Authority
import ApiCenter.Proofs.SecretKeys
import ApiCenter.Proofs.ConfigBoot
import ApiCenter.Proofs.ExternalCalls
import ApiCenter.Proofs.ExternalRoute
import ApiCenter.Proofs.Unavailable
import ApiCenter.Proofs.AuditTrail
import ApiCenter.Proofs.JsonRoundTrip
import ApiCenter.Proofs.StoredTexts
import ApiCenter.Proofs.Delivery
import ApiCenter.Proofs.SdkTokens
import ApiCenter.Proofs.RegistryAnswers
import ApiCenter.Proofs.RegistryAccess
import ApiCenter.Proofs.ClusterAgreement
import ApiCenter.Proofs.Isolation
import ApiCenter.Proofs.OpenUpstreams
import ApiCenter.Proofs.SerialRegistration
import ApiCenter.Proofs.ExternalStatus
import ApiCenter.Proofs.NoisyNeighbours
import ApiCenter.Proofs.ReconciliationJob
import ApiCenter.Proofs.Showback
import ApiCenter.Proofs.Sweeps
import ApiCenter.Proofs.EventMirror
import ApiCenter.Proofs.SdkDelivery
