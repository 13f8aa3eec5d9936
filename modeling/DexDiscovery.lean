import DexDiscovery.Main
import DexDiscovery.Proofs.Accounting
import DexDiscovery.Proofs.ArchiveFaults
import DexDiscovery.Proofs.ArchiveImages
import DexDiscovery.Proofs.Attribution
import DexDiscovery.Proofs.BadPaths
import DexDiscovery.Proofs.CodePointOrder
import DexDiscovery.Proofs.DiskAndMemory
import DexDiscovery.Proofs.Escapes
import DexDiscovery.Proofs.Failures
import DexDiscovery.Proofs.FileRuns
import DexDiscovery.Proofs.History
import DexDiscovery.Proofs.ImageEntries
import DexDiscovery.Proofs.InflateRoom
import DexDiscovery.Proofs.Namelessness
import DexDiscovery.Proofs.Skipping
import DexDiscovery.Proofs.Truncation
import DexDiscovery.Proofs.DefinitionOrder
import DexDiscovery.Proofs.AtomicScans
import DexDiscovery.Proofs.PassReports
import DexDiscovery.Proofs.PassCount
import DexDiscovery.Proofs.RunLog
import DexDiscovery.Proofs.Mutf8Faults
import DexDiscovery.Proofs.VarintDigits
import DexDiscovery.Proofs.ImageLayout
import DexDiscovery.Proofs.Outputs
import DexDiscovery.Proofs.ScanMonotonicity
import DexDiscovery.Proofs.ClassNameForms
import DexDiscovery.Proofs.EntryOrder
import DexDiscovery.Proofs.CursorRuns
