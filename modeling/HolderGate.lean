import HolderGate.Access.Feature
import HolderGate.Access.Holdings
import HolderGate.Access.Notification
import HolderGate.Access.Transfer
import HolderGate.Access.Watch
import HolderGate.Auth.Account
import HolderGate.Auth.Caller
import HolderGate.Auth.Challenge
import HolderGate.Auth.Claims
import HolderGate.Auth.Denial
import HolderGate.Auth.Session
import HolderGate.Auth.Signature
import HolderGate.Auth.Token
import HolderGate.Bytes
import HolderGate.Chain.Abi
import HolderGate.Chain.Address
import HolderGate.Chain.Event
import HolderGate.Chain.Node
import HolderGate.Chain.Token
import HolderGate.Chain.Word
import HolderGate.Crypto.Keccak
import HolderGate.Crypto.Secp256k1
import HolderGate.Crypto.Sha256
import HolderGate.Http.Endpoint
import HolderGate.Http.Headers
import HolderGate.Http.MediaType
import HolderGate.Http.Query
import HolderGate.Http.Request
import HolderGate.Http.Response
import HolderGate.Identity.Records
import HolderGate.Identity.Supply
import HolderGate.Identity.Wallet
import HolderGate.Json.Codec
import HolderGate.Json.Container
import HolderGate.Json.Number
import HolderGate.Json.Reader
import HolderGate.Json.Scalar
import HolderGate.Json.Skip
import HolderGate.Json.Text
import HolderGate.Json.Writer
import HolderGate.Net.Domain
import HolderGate.Net.Domain.Barred
import HolderGate.Net.Domain.Direction
import HolderGate.Net.Domain.Marks
import HolderGate.Net.Host
import HolderGate.Net.IpAddress
import HolderGate.Net.Punycode
import HolderGate.Net.Url
import HolderGate.Proofs.AccountHistory
import HolderGate.Proofs.AccountIndex
import HolderGate.Proofs.AddressText
import HolderGate.Proofs.AlignedChanges
import HolderGate.Proofs.AuditLog
import HolderGate.Proofs.AuditRecord
import HolderGate.Proofs.AuditedHeaders
import HolderGate.Proofs.AuditedRequests
import HolderGate.Proofs.BatchTransfer
import HolderGate.Proofs.BlockTransfers
import HolderGate.Proofs.ByteOrder
import HolderGate.Proofs.CalendarDay
import HolderGate.Proofs.CallEffect
import HolderGate.Proofs.ChainTotals
import HolderGate.Proofs.ConsumedNonce
import HolderGate.Proofs.CountDefinition
import HolderGate.Proofs.CountOrder
import HolderGate.Proofs.EmittedTransfer
import HolderGate.Proofs.Except
import HolderGate.Proofs.FeatureGate
import HolderGate.Proofs.FoldedChanges
import HolderGate.Proofs.FreshChallenge
import HolderGate.Proofs.FullCount
import HolderGate.Proofs.GatedOperation
import HolderGate.Proofs.GuardedWrites
import HolderGate.Proofs.HeardNotices
import HolderGate.Proofs.HexText
import HolderGate.Proofs.HoldingsChange
import HolderGate.Proofs.IncrementalCount
import HolderGate.Proofs.IndexedDocuments
import HolderGate.Proofs.InstantText
import HolderGate.Proofs.JsonForms
import HolderGate.Proofs.JsonRecord
import HolderGate.Proofs.JsonText
import HolderGate.Proofs.ListenerTurn
import HolderGate.Proofs.LiveDocument
import HolderGate.Proofs.MalformedSignature
import HolderGate.Proofs.MirroredAccounts
import HolderGate.Proofs.MissingHoldings
import HolderGate.Proofs.NewestFirst
import HolderGate.Proofs.NonceHistory
import HolderGate.Proofs.NonceInterleaving
import HolderGate.Proofs.NotifyAnswer
import HolderGate.Proofs.NumeralText
import HolderGate.Proofs.PoolDrain
import HolderGate.Proofs.PoolFloor
import HolderGate.Proofs.PoolSchedule
import HolderGate.Proofs.QueueDrained
import HolderGate.Proofs.QueueRoom
import HolderGate.Proofs.RelativeChanges
import HolderGate.Proofs.SegmentText
import HolderGate.Proofs.SessionCheck
import HolderGate.Proofs.SessionHistory
import HolderGate.Proofs.SessionLifetime
import HolderGate.Proofs.SessionTurnover
import HolderGate.Proofs.SignatureCheck
import HolderGate.Proofs.SignatureVerdict
import HolderGate.Proofs.SignedEffects
import HolderGate.Proofs.SignedToken
import HolderGate.Proofs.SortedMap
import HolderGate.Proofs.StandingChallenge
import HolderGate.Proofs.StoredDocument
import HolderGate.Proofs.StreamAddress
import HolderGate.Proofs.TransferOrder
import HolderGate.Proofs.TransferReport
import HolderGate.Proofs.TransferStep
import HolderGate.Proofs.UnrecordedUsers
import HolderGate.Proofs.WalletText
import HolderGate.Proofs.WatchedTransfer
import HolderGate.Proofs.WithheldDetail
import HolderGate.Proofs.WordLayout
import HolderGate.Service
import HolderGate.Settings
import HolderGate.SortedMap
import HolderGate.Store.Basic
import HolderGate.Store.Error
import HolderGate.Store.Load
import HolderGate.Store.Newest
import HolderGate.Store.Seed
import HolderGate.Sync.Bus
import HolderGate.Sync.Listener
import HolderGate.Sync.Pool
import HolderGate.Sync.Queue
import HolderGate.Sync.Recount
import HolderGate.Text.Base64Url
import HolderGate.Text.Blank
import HolderGate.Text.Hex
import HolderGate.Text.Lossy
import HolderGate.Text.Numeral
import HolderGate.Text.Percent
import HolderGate.Text.Split
import HolderGate.Time.Calendar
import HolderGate.Time.Rfc3339
import HolderGate.Time.Timestamp
