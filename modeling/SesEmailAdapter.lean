import SesEmailAdapter.Email.TenantAlignment
import SesEmailAdapter.Database.SignalRows
import SesEmailAdapter.Calendar.RsvpSafety
import SesEmailAdapter.Forwarding.TargetSafety
import SesEmailAdapter.Calendar.SignalLookup
import SesEmailAdapter.Api.AliasTotals
import SesEmailAdapter.Api.QuarantineApproval
import SesEmailAdapter.Resource.DateProvenance
import SesEmailAdapter.Resource.ResourceApi
import SesEmailAdapter.Notifier.SendEnvelopes
import SesEmailAdapter.Processor.GroupingKeys
import SesEmailAdapter.Jobs.StatsSnapshots
import SesEmailAdapter.Exchanges.ExchangeLifecycle
import SesEmailAdapter.Calendar.CardPartition
import SesEmailAdapter.Calendar.RecordCollapse
import SesEmailAdapter.Processor.UnknownSenders
import SesEmailAdapter.Processor.SharedFallback
import SesEmailAdapter.Processor.CriticalEffects
import SesEmailAdapter.Jobs.ReindexWorker
import SesEmailAdapter.Database.StaleReads
import SesEmailAdapter.Database.ActiveThreads
import SesEmailAdapter.Notifier.BounceReverts
import SesEmailAdapter.Classifier.TypedRecords
import SesEmailAdapter.Api.InlineImages
import SesEmailAdapter.Api.CalendarFiles
import SesEmailAdapter.Email.Mailboxes
import SesEmailAdapter.Processor.MessageIds
import SesEmailAdapter.Email.MimeRoundTrip
import SesEmailAdapter.Processor.Identifiers
import SesEmailAdapter.Processor.LinkBuckets
import SesEmailAdapter.Scheduler.DayOfReminders
import SesEmailAdapter.Resource.CollapseConservation
import SesEmailAdapter.Email.UnsubscribeTokens
import SesEmailAdapter.Database.RuleOverrides
import SesEmailAdapter.Isolated.DeliveryStatus
import SesEmailAdapter.Isolated.AstValidator
import SesEmailAdapter.Isolated.AttachmentTypes
import SesEmailAdapter.Classifier.PromptFence
import SesEmailAdapter.Isolated.HiddenElements
import SesEmailAdapter.Isolated.CssUrls
import SesEmailAdapter.Isolated.RawEmailDisplay
import SesEmailAdapter.Messaging.SignalQueue
import SesEmailAdapter.Resource.ResourceIds
import SesEmailAdapter.Processor.RecipientDomains
import SesEmailAdapter.Email.SendTags
import SesEmailAdapter.Notifier.DeviceStore
import SesEmailAdapter.Processor.TemplateFunctions
import SesEmailAdapter.Api.EnsuredAliases
import SesEmailAdapter.Forwarding.TargetPaths
import SesEmailAdapter.Exchanges.EmxInboundWorker
import SesEmailAdapter.Exchanges.JmapRenewal
import SesEmailAdapter.Isolated.LoopGuards
import SesEmailAdapter.Processor.IngestIsolation
