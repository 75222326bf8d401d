import ImageJobs.Calendar.Date
import ImageJobs.Calendar.Instant
import ImageJobs.Calendar.TimeReader
import ImageJobs.Calendar.TimeWriter
import ImageJobs.Cluster.Job
import ImageJobs.Cluster.Meta
import ImageJobs.Cluster.Node
import ImageJobs.Cluster.Pod
import ImageJobs.Decimal.Double
import ImageJobs.Decimal.Numeral
import ImageJobs.Decimal.Shortest
import ImageJobs.Document.Fault
import ImageJobs.Document.Reading
import ImageJobs.Document.Record
import ImageJobs.Engine
import ImageJobs.Event
import ImageJobs.Image.PullDecision
import ImageJobs.Image.PullPolicy
import ImageJobs.Image.Reference
import ImageJobs.ImageCache.Basic
import ImageJobs.ImageCache.Definition
import ImageJobs.ImageCache.Schema
import ImageJobs.ImageCache.Spec
import ImageJobs.ImageCache.Status
import ImageJobs.Json.Pointer
import ImageJobs.Json.Reader
import ImageJobs.Json.Value
import ImageJobs.Json.Writer
import ImageJobs.Problem
import ImageJobs.Proofs.CacheDocument
import ImageJobs.Proofs.CacheSchema
import ImageJobs.Proofs.CalendarCount
import ImageJobs.Proofs.DeclaredInputs
import ImageJobs.Proofs.EmptySettings
import ImageJobs.Proofs.FolderPath
import ImageJobs.Proofs.HostFolder
import ImageJobs.Proofs.ImageText
import ImageJobs.Proofs.JobSkeleton
import ImageJobs.Proofs.MissingInput
import ImageJobs.Proofs.Occurrence
import ImageJobs.Proofs.OpenApiSchema
import ImageJobs.Proofs.PodParts
import ImageJobs.Proofs.PolicyAgreement
import ImageJobs.Proofs.PolicyForms
import ImageJobs.Proofs.RecordMembers
import ImageJobs.Proofs.RecordRewriting
import ImageJobs.Proofs.RecordShapes
import ImageJobs.Proofs.ReferenceGrammar
import ImageJobs.Proofs.RegistryPort
import ImageJobs.Proofs.RemovalIdentity
import ImageJobs.Proofs.RemovalScript
import ImageJobs.Proofs.RemovalSocket
import ImageJobs.Proofs.ResidencySearch
import ImageJobs.Proofs.SchemaReading
import ImageJobs.Proofs.SettingsOverlay
import ImageJobs.Proofs.SharedFolder
import ImageJobs.Proofs.SpecRewriting
import ImageJobs.Proofs.SpelledTexts
import ImageJobs.Proofs.StatusTimes
import ImageJobs.Proofs.TimeTexts
import ImageJobs.Proofs.Timestamps
import ImageJobs.Proofs.TruthfulLog
import ImageJobs.Proofs.UnheldImages
import ImageJobs.Proofs.WrittenDocument
import ImageJobs.Proofs.WrittenNumbers
import ImageJobs.Proofs.WrittenTokens
import ImageJobs.Settings
import ImageJobs.Synthesis.Assignment
import ImageJobs.Synthesis.Placement
import ImageJobs.Synthesis.Removal
import ImageJobs.Synthesis.Strategy
import ImageJobs.Text.Basic
import ImageJobs.Text.Map
import ImageJobs.Text.Plain
import ImageJobs.Text.Quoted
