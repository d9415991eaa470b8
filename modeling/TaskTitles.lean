import TaskTitles.Cycle
import TaskTitles.Main
import TaskTitles.Proofs.Almanac.Archive
import TaskTitles.Proofs.Almanac.ShortDates
import TaskTitles.Proofs.Calendar.Noons
import TaskTitles.Proofs.Calendar.Shifts
import TaskTitles.Proofs.Catalog.Lookups
import TaskTitles.Proofs.CommandLine.Options
import TaskTitles.Proofs.Cycle.DryRuns
import TaskTitles.Proofs.Cycle.Interleaving
import TaskTitles.Proofs.Normalize.Agreement
import TaskTitles.Proofs.Normalize.DueDates
import TaskTitles.Proofs.Normalize.Footprint
import TaskTitles.Proofs.Normalize.Idempotence
import TaskTitles.Proofs.Normalize.Pinning
import TaskTitles.Proofs.Normalize.Reordering
import TaskTitles.Proofs.Normalize.Restoring
import TaskTitles.Proofs.Normalize.Unpinned
import TaskTitles.Proofs.Note.Decoding
import TaskTitles.Proofs.Note.Recording
import TaskTitles.Proofs.Note.Upkeep
import TaskTitles.Proofs.Report.Titles
import TaskTitles.Proofs.Settings.Discovery
import TaskTitles.Proofs.Settings.FileView
import TaskTitles.Proofs.Snapshot.Sessions
import TaskTitles.Proofs.Task.Spellings
import TaskTitles.Proofs.Title.CleanTokens
import TaskTitles.Proofs.Title.Conservation
import TaskTitles.Proofs.Title.Grammar
import TaskTitles.Proofs.Title.Markers
import TaskTitles.Source.Memory
