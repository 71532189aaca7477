import GostManager.Lists.Proofs.MarkedProofs
import GostManager.Effects.Proofs.MachineProofs
import GostManager.Effects.Proofs.PoolProofs
import GostManager.Watchdog.Proofs.ConsistencyProofs
import GostManager.Watchdog.Proofs.WriteAheadProofs
import GostManager.Watchdog.Proofs.OutcomesProofs
import GostManager.Watchdog.Proofs.StopRuleProofs
import GostManager.Watchdog.Proofs.StartRuleProofs
import GostManager.Watchdog.Proofs.TurnsProofs
import GostManager.Watchdog.Proofs.OperatorsProofs
import GostManager.Watchdog.Proofs.ConcurrencyProofs
import GostManager.Watchdog.Proofs.CrashesProofs
import GostManager.Firewall.Transition
import GostManager.Firewall.Proofs.RulesProofs
import GostManager.Firewall.Proofs.TransitionProofs
import GostManager.Firewall.Proofs.PacketsProofs
import GostManager.Watchdog.Proofs.ModeChangeProofs
import GostManager.Lists.Proofs.GroupsProofs
import GostManager.Monitoring.Proofs.PointsProofs
import GostManager.Monitoring.Proofs.RollupsProofs
import GostManager.Monitoring.Proofs.RetentionProofs
import GostManager.Monitoring.Proofs.SummariesProofs
import GostManager.Monitoring.Proofs.AgreementProofs
import GostManager.Monitoring.Proofs.PlansProofs
import GostManager.Monitoring.Proofs.CyclesProofs
import GostManager.Texts.Strings
import GostManager.Lists.Proofs.DictionaryProofs
import GostManager.Monitoring.Metrics
import GostManager.Monitoring.CounterReaders
import GostManager.Monitoring.ServiceReaders
import GostManager.Monitoring.Collection
import GostManager.Monitoring.Ranges
import GostManager.Monitoring.Proofs.RangesProofs
import GostManager.Monitoring.Proofs.CollectionProofs
import GostManager.Monitoring.Proofs.BindingProofs
import GostManager.Lists.Proofs.StepsProofs
import GostManager.Monitoring.Proofs.CategoricalProofs
import GostManager.Monitoring.Proofs.MeansProofs
import GostManager.Lists.Proofs.AveragesProofs
import GostManager.Monitoring.Proofs.BoundsProofs
import GostManager.Monitoring.Exports
import GostManager.Monitoring.Proofs.ExportsProofs
import GostManager.Texts.Addresses
import GostManager.Monitoring.Caches
import GostManager.Monitoring.Measurements
import GostManager.Texts.Proofs.StringsProofs
import GostManager.Monitoring.Proofs.CachesProofs
import GostManager.Monitoring.Daemon
import GostManager.Monitoring.Proofs.DaemonProofs
import GostManager.Watchdog.History
import GostManager.Watchdog.Proofs.HistoryProofs
import GostManager.Profiles.Environment
import GostManager.Profiles.Readers
import GostManager.Texts.Proofs.LinesProofs
import GostManager.Profiles.Proofs.EnvironmentProofs
import GostManager.Profiles.Proofs.ReadersProofs
import GostManager.Profiles.Proofs.VisibilityProofs
import GostManager.Profiles.Host
import GostManager.Profiles.Manager
import GostManager.Profiles.Operations
import GostManager.Profiles.Proofs.PortsProofs
import GostManager.Profiles.Proofs.OperationsProofs
import GostManager.Watchdog.Probes
import GostManager.Watchdog.Proofs.ProbesProofs
import GostManager.Watchdog.Daemon
import GostManager.Watchdog.Proofs.DaemonProofs
import GostManager.Watchdog.SetMode
import GostManager.Watchdog.Proofs.SetModeProofs
import GostManager.Watchdog.Rearming
import GostManager.Watchdog.Proofs.RearmingProofs
import GostManager.Monitoring.Totals
import GostManager.Monitoring.Proofs.TotalsProofs
import GostManager.Monitoring.Proofs.HealthProofs
import GostManager.Firewall.Mutation
import GostManager.Firewall.Proofs.MutationProofs
import GostManager.Effects.Proofs.ExceptProofs
import GostManager.Watchdog.Configuration
import GostManager.Watchdog.Proofs.ConfigurationProofs
import GostManager.Watchdog.Edits
import GostManager.Watchdog.Proofs.EditsProofs
import GostManager.Watchdog.Discovery
import GostManager.Watchdog.Proofs.DiscoveryProofs
import GostManager.Lists.Firsts
import GostManager.Lists.Proofs.FirstsProofs
import GostManager.Monitoring.Incidents
import GostManager.Monitoring.Proofs.IncidentsProofs
import GostManager.Lists.Recorders
import GostManager.Lists.Proofs.RecordersProofs
import GostManager.Monitoring.EventLogs
import GostManager.Monitoring.Proofs.EventLogsProofs
import GostManager.Monitoring.Proofs.SeedsProofs
import GostManager.Monitoring.Proofs.ExportFilesProofs
import GostManager.Profiles.Mappings
import GostManager.Profiles.Proofs.MappingsProofs
import GostManager.Lists.Canonical
import GostManager.Lists.Proofs.CanonicalProofs
import GostManager.Texts.Networks
import GostManager.Texts.Proofs.NetworksProofs
import GostManager.Profiles.Sources
import GostManager.Profiles.Proofs.SourcesProofs
import GostManager.Profiles.Proofs.SyntaxProofs
import GostManager.Profiles.Changes
import GostManager.Profiles.Proofs.ChangesProofs
import GostManager.Numbers.Grids
import GostManager.Numbers.Proofs.GridsProofs
import GostManager.Monitoring.Ticks
import GostManager.Monitoring.Proofs.TicksProofs
import GostManager.Numbers.Shares
import GostManager.Numbers.Proofs.SharesProofs
import GostManager.Monitoring.CpuReaders
import GostManager.Monitoring.Proofs.CpuReadersProofs
import GostManager.Numbers.Quantiles
import GostManager.Numbers.Proofs.QuantilesProofs
import GostManager.Monitoring.Proofs.PercentilesProofs
import GostManager.Tables.Upserts
import GostManager.Tables.Proofs.UpsertsProofs
import GostManager.Watchdog.Rows
import GostManager.Watchdog.Proofs.RowsProofs
import GostManager.Lists.Tallies
import GostManager.Lists.Proofs.TalliesProofs
import GostManager.Monitoring.SourceErrors
import GostManager.Monitoring.Proofs.SourceErrorsProofs
import GostManager.Lists.Completions
import GostManager.Lists.Proofs.CompletionsProofs
import GostManager.Monitoring.Sockets
import GostManager.Monitoring.Proofs.SocketsProofs
import GostManager.Texts.Patterns
import GostManager.Texts.Json
import GostManager.Monitoring.Sanitizing
import GostManager.Effects.Transactions
import GostManager.Effects.Proofs.TransactionsProofs
import GostManager.Tables.Sequences
import GostManager.Tables.Proofs.SequencesProofs
import GostManager.Monitoring.Databases
import GostManager.Monitoring.Migration
import GostManager.Monitoring.Proofs.MigrationProofs
import GostManager.Texts.Paths
import GostManager.Texts.Proofs.PathsProofs
import GostManager.Monitoring.Configuration
import GostManager.Monitoring.Proofs.ConfigurationProofs
import GostManager.Monitoring.Proofs.AdministrationProofs
import GostManager.Effects.Locks
import GostManager.Effects.Proofs.LocksProofs
import GostManager.Monitoring.Administration
import GostManager.Monitoring.Purges
import GostManager.Monitoring.Proofs.PurgesProofs
import GostManager.Monitoring.RuntimeLocks
import GostManager.Monitoring.Proofs.RuntimeLocksProofs
