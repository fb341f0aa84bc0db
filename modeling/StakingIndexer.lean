import StakingIndexer.Address
import StakingIndexer.AddressMap
import StakingIndexer.Aggregate.Delta
import StakingIndexer.Aggregate.Fold
import StakingIndexer.Aggregate.State
import StakingIndexer.Amount
import StakingIndexer.Bytes
import StakingIndexer.Bytes.Lemmas
import StakingIndexer.Chain
import StakingIndexer.Codec.Basic
import StakingIndexer.Configuration.Arguments
import StakingIndexer.Configuration.Basic
import StakingIndexer.Configuration.Check
import StakingIndexer.Configuration.Option
import StakingIndexer.Contract.Abi
import StakingIndexer.Contract.Client
import StakingIndexer.Contract.Log
import StakingIndexer.Contract.Node
import StakingIndexer.Contract.Snapshot
import StakingIndexer.Database.Column
import StakingIndexer.Database.Command
import StakingIndexer.Database.Connection
import StakingIndexer.Database.Price
import StakingIndexer.Database.Row
import StakingIndexer.Database.Tables
import StakingIndexer.Decimal.Basic
import StakingIndexer.Decimal.Integer
import StakingIndexer.Decimal.Nearest
import StakingIndexer.Decimal.Shortest
import StakingIndexer.Document.Aggregate
import StakingIndexer.Document.Basic
import StakingIndexer.Document.Command
import StakingIndexer.Document.Configuration
import StakingIndexer.Document.Conversion
import StakingIndexer.Document.Database
import StakingIndexer.Document.Error
import StakingIndexer.Document.Indexer
import StakingIndexer.Document.Ledger
import StakingIndexer.Document.Node
import StakingIndexer.Document.Row
import StakingIndexer.Document.Settings
import StakingIndexer.Document.Snapshot
import StakingIndexer.Document.Store
import StakingIndexer.Endpoint.Command
import StakingIndexer.Endpoint.Pool
import StakingIndexer.Event
import StakingIndexer.Gauge
import StakingIndexer.Hash.Blake2b
import StakingIndexer.Hash.Keccak
import StakingIndexer.Hash.XxHash
import StakingIndexer.Indexer.Run
import StakingIndexer.Indexer.Setup
import StakingIndexer.Json
import StakingIndexer.Json.Parser
import StakingIndexer.Ledger
import StakingIndexer.Main
import StakingIndexer.Metrics
import StakingIndexer.Proofs.Address
import StakingIndexer.Proofs.AddressMap
import StakingIndexer.Proofs.Aggregate.Composition
import StakingIndexer.Proofs.Aggregate.Conservation
import StakingIndexer.Proofs.Aggregate.Holders
import StakingIndexer.Proofs.Aggregate.Partition
import StakingIndexer.Proofs.Aggregate.Replay
import StakingIndexer.Proofs.Aggregate.Totals
import StakingIndexer.Proofs.Codec.Compact
import StakingIndexer.Proofs.Contract.EventLogs
import StakingIndexer.Proofs.Database.Contents
import StakingIndexer.Proofs.Database.Entries
import StakingIndexer.Proofs.Database.Reading
import StakingIndexer.Proofs.Database.Reports
import StakingIndexer.Proofs.Database.RoundTrip
import StakingIndexer.Proofs.Database.Row
import StakingIndexer.Proofs.Database.Truncation
import StakingIndexer.Proofs.Decimal.Integer
import StakingIndexer.Proofs.Endpoint.Fairness
import StakingIndexer.Proofs.Endpoint.HealthGauge
import StakingIndexer.Proofs.Endpoint.History
import StakingIndexer.Proofs.Endpoint.Rotation
import StakingIndexer.Proofs.Endpoint.Slots
import StakingIndexer.Proofs.EventOrder
import StakingIndexer.Proofs.Metrics.AverageApr
import StakingIndexer.Proofs.Metrics.InflationBounds
import StakingIndexer.Proofs.Reader.Answers
import StakingIndexer.Proofs.Reader.Attempts
import StakingIndexer.Proofs.Reader.Cut
import StakingIndexer.Proofs.Reader.Failover
import StakingIndexer.Proofs.Reader.Requests
import StakingIndexer.Proofs.Relay.BlockContent
import StakingIndexer.Proofs.Relay.EraSearch
import StakingIndexer.Proofs.Relay.Records
import StakingIndexer.Proofs.Relay.Ss58
import StakingIndexer.Proofs.Relay.Ss58Grammar
import StakingIndexer.Proofs.Relay.StakeFigures
import StakingIndexer.Proofs.Relay.StashViews
import StakingIndexer.Proofs.Scan.AppliedOnly
import StakingIndexer.Proofs.Scan.Backoff
import StakingIndexer.Proofs.Scan.EraMemory
import StakingIndexer.Proofs.Scan.EventsWorld
import StakingIndexer.Proofs.Scan.Loops
import StakingIndexer.Proofs.Scan.ManyWriters
import StakingIndexer.Proofs.Scan.Progress
import StakingIndexer.Proofs.Scan.Recovery
import StakingIndexer.Proofs.Scan.Reload
import StakingIndexer.Proofs.Scan.Restart
import StakingIndexer.Proofs.Scan.SingleWriter
import StakingIndexer.Proofs.Scan.StepCalls
import StakingIndexer.Proofs.Scan.StoredHolders
import StakingIndexer.Proofs.Store.CommitOnce
import StakingIndexer.Proofs.Store.Overflow
import StakingIndexer.Proofs.Store.Refinement
import StakingIndexer.Proofs.Store.ValidatorsSet
import StakingIndexer.Proofs.Text.Base58
import StakingIndexer.Protocol
import StakingIndexer.Reader.Basic
import StakingIndexer.Reader.Events
import StakingIndexer.Reader.LocalChain
import StakingIndexer.Relay.Account
import StakingIndexer.Relay.Client
import StakingIndexer.Relay.EraStart
import StakingIndexer.Relay.Node
import StakingIndexer.Relay.Snapshot
import StakingIndexer.Relay.Ss58
import StakingIndexer.Relay.Staking
import StakingIndexer.Relay.Storage
import StakingIndexer.Rpc.Basic
import StakingIndexer.Saturating
import StakingIndexer.Scan.Basic
import StakingIndexer.Scan.ChainSources
import StakingIndexer.Scan.EventsTarget
import StakingIndexer.Scan.LocalIndexer
import StakingIndexer.Scan.LocalNodes
import StakingIndexer.Scan.ParachainStateTarget
import StakingIndexer.Scan.RelayStateTarget
import StakingIndexer.Scan.Scanner
import StakingIndexer.Scan.ValidatorsInfoTarget
import StakingIndexer.Store.Basic
import StakingIndexer.Store.Command
import StakingIndexer.Store.Memory
import StakingIndexer.Text.Base58
import StakingIndexer.Text.HexNumber
import StakingIndexer.Text.Invisible
import StakingIndexer.Text.Quoted
