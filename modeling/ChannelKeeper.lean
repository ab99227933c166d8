import ChannelKeeper.Deployment.Shell
import ChannelKeeper.Files.Memory
import ChannelKeeper.Logging
import ChannelKeeper.Main
import ChannelKeeper.Proofs.Backup.DryRun
import ChannelKeeper.Proofs.Backup.Reimport
import ChannelKeeper.Proofs.Backup.SavedFirst
import ChannelKeeper.Proofs.Backup.Snapshots
import ChannelKeeper.Proofs.Backup.TwoStores
import ChannelKeeper.Proofs.Batch.Channels
import ChannelKeeper.Proofs.Batch.Permits
import ChannelKeeper.Proofs.Batch.Verdicts
import ChannelKeeper.Proofs.Command.CleanedTables
import ChannelKeeper.Proofs.Command.Consent
import ChannelKeeper.Proofs.Command.MaskedOutput
import ChannelKeeper.Proofs.Command.SelectedTypes
import ChannelKeeper.Proofs.Csv
import ChannelKeeper.Proofs.Dsn.Credentials
import ChannelKeeper.Proofs.Dsn.NormalForm
import ChannelKeeper.Proofs.FailedItems
import ChannelKeeper.Proofs.Gemini.Request
import ChannelKeeper.Proofs.Key.Listed
import ChannelKeeper.Proofs.Key.Refusal
import ChannelKeeper.Proofs.Key.Testable
import ChannelKeeper.Proofs.Model.Convergence
import ChannelKeeper.Proofs.Probe.InTurn
import ChannelKeeper.Proofs.Probe.Ranking
import ChannelKeeper.Proofs.Sql.Backslashes
import ChannelKeeper.Proofs.Sql.Dump
import ChannelKeeper.Proofs.Store.FilteredRows
import ChannelKeeper.Proofs.Store.ReadBack
import ChannelKeeper.Proofs.Store.WrittenInfos
import ChannelKeeper.Proofs.Table.DumpFiles
import ChannelKeeper.Proofs.Table.Stats
import ChannelKeeper.Store.Memory
import ChannelKeeper.World
