import ShellDocs.Block.Printer
import ShellDocs.Block.Reader
import ShellDocs.CommandLine.Generator
import ShellDocs.CommandLine.Server
import ShellDocs.Config.Load
import ShellDocs.Files.Listing
import ShellDocs.Files.Snapshot
import ShellDocs.Generate
import ShellDocs.Main
import ShellDocs.Page.Plan
import ShellDocs.Preview.Server
import ShellDocs.Preview.Target
import ShellDocs.Proofs.Block.RoundTrip
import ShellDocs.Proofs.Block.Wrapping
import ShellDocs.Proofs.CommandLine.Settings
import ShellDocs.Proofs.Files.Linkless
import ShellDocs.Proofs.Generate.Again
import ShellDocs.Proofs.Generate.Completion
import ShellDocs.Proofs.Generate.Failure
import ShellDocs.Proofs.Generate.SameDocuments
import ShellDocs.Proofs.Generate.SameScripts
import ShellDocs.Proofs.Generate.Success
import ShellDocs.Proofs.Generate.Writer
import ShellDocs.Proofs.Page.Change
import ShellDocs.Proofs.Page.Codes
import ShellDocs.Proofs.Page.Contents
import ShellDocs.Proofs.Page.Destinations
import ShellDocs.Proofs.Page.FileOwner
import ShellDocs.Proofs.Page.Insertion
import ShellDocs.Proofs.Page.Installation
import ShellDocs.Proofs.Page.Links
import ShellDocs.Proofs.Page.Scripts
import ShellDocs.Proofs.Page.Shown
import ShellDocs.Proofs.Preview.Confinement
import ShellDocs.Proofs.Preview.Escape
import ShellDocs.Proofs.Preview.HeadingId
import ShellDocs.Proofs.Preview.Normalization
import ShellDocs.Proofs.Preview.PageName
import ShellDocs.Proofs.Preview.Publication
import ShellDocs.Proofs.Preview.Traffic
import ShellDocs.Proofs.Scan.Collect
import ShellDocs.Proofs.Watch.Coverage
import ShellDocs.Proofs.Watch.Edit
import ShellDocs.Proofs.Watch.Spacing
import ShellDocs.Watch.Change
import ShellDocs.Watch.Regenerate
