import Slate.Foundation.Rows
import Slate.Foundation.Transaction
import Slate.Foundation.Delivery
import Slate.Foundation.LastWriter
import Slate.Foundation.LatestRows
import Slate.Foundation.SlotWrites
import Slate.Foundation.Serial
import Slate.Foundation.Json
import Slate.Foundation.SlotFold
import Slate.Foundation.Watermark
import Slate.Foundation.Text
import Slate.Foundation.Reader
import Slate.Foundation.SocketAddr
import Slate.Foundation.SocketAddrText
import Slate.Foundation.Delimited
import Slate.Foundation.Failover
import Slate.Foundation.SharedTable
import Slate.Storage.Records
import Slate.Storage.AppDomains
import Slate.Storage.Database
import Slate.Storage.Operations
import Slate.Storage.SyncObjects
import Slate.Storage.PlainScheme
import Slate.Storage.EnvelopeMetadata
import Slate.Storage.ObjectJson
import Slate.Storage.Membership
import Slate.Storage.MembershipAuthority
import Slate.Storage.MembershipScope
import Slate.Storage.MembershipEpochs
import Slate.Storage.MembershipRoster
import Slate.Storage.MembershipReplay
import Slate.Storage.SettingsLog
import Slate.Storage.Runs
import Slate.Storage.LastWriterWins
import Slate.Storage.LocalWrites
import Slate.Storage.History
import Slate.Storage.SnapshotMerge
import Slate.Storage.SnapshotState
import Slate.Storage.SnapshotCollisions
import Slate.Storage.TypedProjection
import Slate.Storage.BookmarkProjection
import Slate.Storage.ProfileFrame
import Slate.Storage.TrustedObjects
import Slate.Storage.Publication
import Slate.Storage.SettingsPulls
import Slate.Storage.Recorded
import Slate.Storage.PullScope
import Slate.Storage.Compaction
import Slate.Storage.CandidatePulls
import Slate.Storage.DomainWatcher
import Slate.Storage.WatcherDelivery
import Slate.Foundation.MaxRegister
import Slate.Storage.CursorRaces
import Slate.ProfileSync.ObjectStore
import Slate.ProfileSync.Publisher
import Slate.ProfileSync.Receiver
import Slate.ProfileSync.Envelopes
import Slate.ProfileSync.Publications
import Slate.ProfileSync.ManifestBuilders
import Slate.ProfileSync.PublisherSteps
import Slate.ProfileSync.Reception
import Slate.ProfileSync.HeadOwnership
import Slate.ProfileSync.Ledger
import Slate.ProfileSync.Quiescence
import Slate.ProfileSync.DisabledDomains
import Slate.ProfileSync.MembershipLog
import Slate.ProfileSync.LogExchange
import Slate.ProfileSync.LogPropagation
import Slate.ProfileSync.MembershipRoots
import Slate.ProfileSync.MembershipPulls
import Slate.ProfileSync.Rollback
import Slate.ProfileSync.SkippedTails
import Slate.ProfileSync.Acceptance
import Slate.Browser.Navigation
import Slate.Browser.OnionAddresses
import Slate.Browser.AddressRules
import Slate.Browser.EnteredAgain
import Slate.Browser.BrowserState
import Slate.Browser.TabCoherence
import Slate.Browser.InternalAddresses
import Slate.Rendering.SearchPage
import Slate.Broadwebd.Http
import Slate.Broadwebd.Downloads
import Slate.Broadwebd.DownloadOwnership
import Slate.Broadwebd.DownloadNames
import Slate.Broadwebd.AttachmentNames
import Slate.Broadwebd.IpfsGateway
import Slate.Broadwebd.GatewayRuns
import Slate.Broadwebd.OnionRouting
import Slate.Broadwebd.KuboNode
import Slate.Broadwebd.KuboProfileSync
import Slate.Broadwebd.ProfileIsolation
import Slate.Foundation.Statements
import Slate.Foundation.ByteStream
import Slate.Storage.SyncSecret
import Slate.Storage.DerivedSecrets
import Slate.Storage.SecretActivation
import Slate.Storage.AccountAuthority
import Slate.Storage.SecretEnrollment
import Slate.Storage.ActivationEffects
import Slate.Storage.Untimed
import Slate.Storage.LocalActivation
import Slate.Storage.PlainSecretScheme
import Slate.Storage.SecretHandoff
import Slate.Storage.RepeatedActivation
import Slate.Storage.FreshDatabase
import Slate.Storage.ActivationDowngrades
import Slate.Storage.HandoffEnrollment
import Slate.Storage.Reopening
import Slate.Chrome.ProfileSyncPreview
import Slate.Chrome.ProfileSyncRuns
import Slate.Chrome.LoadedKey
import Slate.Chrome.ShortcutGrammar
import Slate.Chrome.KeyBindingRestart
import Slate.Chrome.EnrollmentKey
import Slate.Broadwebd.LocalProfileSync
import Slate.Broadwebd.LocalFixture
import Slate.Broadwebd.LocalRuns
import Slate.Broadwebd.RootHealth
import Slate.Broadwebd.PeerAdvertisement
import Slate.Broadwebd.Endpoint
import Slate.Broadwebd.EndpointText
import Slate.Broadwebd.EndpointClassification
import Slate.Broadwebd.EndpointRewriting
import Slate.Broadwebd.ServiceFrame
import Slate.Broadwebd.FrameRoundTrip
import Slate.Broadwebd.FramedDispatch
import Slate.Broadwebd.PeerDiscovery
import Slate.Broadwebd.LanDiscovery
import Slate.ProfileSync.DiscoveryTrust
import Slate.ProfileSync.DiscoveryFilter
import Slate.ProfileSync.ComposedDiscovery
import Slate.Foundation.Limit
import Slate.Broadwebd.LocalStatements
import Slate.Broadwebd.LocalCapacity
import Slate.Broadwebd.StoreCapacity
import Slate.Broadwebd.ObjectAddressing
import Slate.Foundation.Utf8
import Slate.Foundation.UrlStandard
import Slate.Rendering.AddressRouting
import Slate.Rendering.DocumentBase
import Slate.Foundation.Occurrence
import Slate.Foundation.ParseInt
import Slate.Broadwebd.ContentTypes
import Slate.Broadwebd.ChunkedBody
import Slate.Broadwebd.ChunkGrammar
import Slate.Broadwebd.TorResponse
import Slate.Broadwebd.TorAddress
import Slate.Broadwebd.TorRedirects
import Slate.Foundation.UrlPaths
import Slate.Foundation.PercentCoding
import Slate.Broadwebd.GatewayPlaces
import Slate.Broadwebd.KuboContent
import Slate.Foundation.UrlReadBack
import Slate.Broadwebd.TorNormalForm
import Slate.Broadwebd.TorAgreement
import Slate.Broadwebd.IpfsAddress
import Slate.Broadwebd.GatewayRotation
import Slate.Foundation.SeenList
import Slate.Foundation.WriteStamps
import Slate.Storage.BrowsingData
import Slate.Chrome.Windows
import Slate.ProfileSync.RetentionSelection
import Slate.ProfileSync.StoredRetention
import Slate.ProfileSync.EndpointMaterialization
import Slate.ProfileSync.CycleRetention
import Slate.ProfileSync.RetainedHeads
import Slate.Broadwebd.IpnsDiscovery
import Slate.ProfileSync.DeadSources
