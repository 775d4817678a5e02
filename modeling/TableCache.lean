import TableCache.History.Cells
import TableCache.History.Exporter
import TableCache.History.Recency
import TableCache.History.Recorder
import TableCache.History.Store
import TableCache.Json.Number
import TableCache.Main
import TableCache.Session.Basic
import TableCache.Proofs.RecentUse
import TableCache.Proofs.Retention
import TableCache.Proofs.Freshness
import TableCache.Proofs.Bookkeeping
import TableCache.Proofs.System.Sessions
import TableCache.Proofs.Fates
import TableCache.Proofs.Orphans
import TableCache.Proofs.Eviction
import TableCache.Proofs.Interference
import TableCache.Proofs.Passes
import TableCache.Proofs.Exporter
import TableCache.Proofs.Soak.Balance
import TableCache.Proofs.Observers
import TableCache.Proofs.Recency.Ranking
import TableCache.Proofs.Demotion
import TableCache.Proofs.Protection
import TableCache.Proofs.Emission
import TableCache.Proofs.GivingUp
import TableCache.Proofs.Memory.Resumption
import TableCache.Proofs.Composition
import TableCache.Proofs.Registration
import TableCache.Proofs.Occupancy
import TableCache.Proofs.Drains
import TableCache.Proofs.Soak.Rounds
import TableCache.Proofs.Soak.Thread
import TableCache.Proofs.Custody
import TableCache.Proofs.Handles
