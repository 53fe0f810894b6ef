import IngestConsole.CommandLine.Run
import IngestConsole.Main
import IngestConsole.Polling.NamedJobs
import IngestConsole.Service.InMemory
import IngestConsole.Proofs.CommandLine.Credentials
import IngestConsole.Proofs.CommandLine.TaskConfiguration
import IngestConsole.Proofs.CommandLine.TaskTable
import IngestConsole.Proofs.Dashboard.DataLaw
import IngestConsole.Proofs.Dashboard.Timetable
import IngestConsole.Proofs.Polling.SnapshotLaw
import IngestConsole.Proofs.Polling.SoleTimer
import IngestConsole.Proofs.Service.Targets
import IngestConsole.Proofs.Json.Layouts
import IngestConsole.Proofs.Numeral.IntegerRounding
import IngestConsole.Proofs.Table.Arrangement
import IngestConsole.Proofs.Table.FilterPatches
import IngestConsole.Proofs.Table.PageInvariant
import IngestConsole.Proofs.Table.PagePartition
import IngestConsole.Proofs.Table.SavedView
import IngestConsole.Proofs.Wire.ReadsBack
import IngestConsole.Proofs.Wire.Tolerance
import IngestConsole.Proofs.Calendar.DayNumbers
import IngestConsole.Proofs.Numeral.Padding
import IngestConsole.Proofs.Table.FilterReadings
import IngestConsole.Proofs.Calendar.ClockTexts
import IngestConsole.Proofs.Display.Moments
import IngestConsole.Proofs.Dashboard.Dumps
import IngestConsole.Proofs.Display.Timestamps
import IngestConsole.Proofs.Service.Connection
import IngestConsole.Proofs.Table.Navigation
import IngestConsole.Proofs.CommandLine.LogWindow
import IngestConsole.Proofs.CommandLine.ReloadCount
import IngestConsole.Proofs.Display.Amounts
import IngestConsole.Proofs.Display.Counters
import IngestConsole.Proofs.Display.Sizes
import IngestConsole.Proofs.Table.UpdateTimes
import IngestConsole.Proofs.Table.Columns
import IngestConsole.Proofs.Display.Configuration
import IngestConsole.Proofs.CommandLine.TaskArguments
