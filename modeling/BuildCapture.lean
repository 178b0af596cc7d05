import BuildCapture.Octets.Hex
import BuildCapture.Digest.Crc32
import BuildCapture.Digest.Blake3
import BuildCapture.Json.Number
import BuildCapture.Json.Text
import BuildCapture.Json.Tree
import BuildCapture.Json.Schema
import BuildCapture.SourcePath
import BuildCapture.ContentKey
import BuildCapture.Module.Id
import BuildCapture.Module.Version
import BuildCapture.Record.OrderedMap
import BuildCapture.Record.Options
import BuildCapture.Module.Info
import BuildCapture.Record
import BuildCapture.Failure
import BuildCapture.Module.Image
import BuildCapture.Module.Index
import BuildCapture.Archive.Manifest
import BuildCapture.Archive.Diagnostic
import BuildCapture.Configuration
import BuildCapture.Hash.Invocation
import BuildCapture.Extension.Resolution
import BuildCapture.Digest.XxHash64
import BuildCapture.Zstd.Huffman
import BuildCapture.Zstd.Compress
import BuildCapture.FileSystem
import BuildCapture.Container
import BuildCapture.Replay
import BuildCapture.Archive.Capture
import BuildCapture.Zstd.Encoder
import BuildCapture.Proofs.Container.Opening
import BuildCapture.Proofs.Digest.Crc32
import BuildCapture.Proofs.Container.Damage
import BuildCapture.Proofs.Container.DirectoryCodec
import BuildCapture.Proofs.Container.Sealing
import BuildCapture.Proofs.FileSystem
import BuildCapture.Proofs.Container.Operations
import BuildCapture.Proofs.Container.Soundness
import BuildCapture.Proofs.Container.Workbench
import BuildCapture.Proofs.Container.Pendings
import BuildCapture.Proofs.Decimal
import BuildCapture.Proofs.Json.Text
import BuildCapture.Proofs.Json.Token
import BuildCapture.Proofs.Json.Printing
import BuildCapture.Proofs.Json.Reading
import BuildCapture.Proofs.Json.Schema
import BuildCapture.Proofs.Record.Options
import BuildCapture.Proofs.Record.Parts
import BuildCapture.Proofs.Record.Codec
import BuildCapture.Proofs.Archive.Documents
import BuildCapture.Proofs.Container.Settled
import BuildCapture.Proofs.Pool.Operations
import BuildCapture.Proofs.Pool.Blobs
import BuildCapture.Proofs.Pool.Modules
import BuildCapture.Proofs.Archive.Operations
import BuildCapture.Proofs.Archive.Journal
import BuildCapture.Proofs.Archive.Recorder
import BuildCapture.Proofs.Archive.Inputs
import BuildCapture.Proofs.Archive.Runs
import BuildCapture.Proofs.Archive.Opening
import BuildCapture.Proofs.Archive.Fidelity
import BuildCapture.Proofs.Container.Frozen
import BuildCapture.Proofs.Extension.Session
import BuildCapture.Proofs.Replay.Crew
import BuildCapture.Proofs.Replay.Independence
import BuildCapture.Proofs.Hash.Relocation
import BuildCapture.Proofs.Json.Distinct
import BuildCapture.Proofs.Hash.Documents
import BuildCapture.Proofs.Hash.Binding
import BuildCapture.Proofs.Hash.Order
import BuildCapture.Proofs.Archive.Calls
import BuildCapture.Proofs.Container.Tiling
import BuildCapture.Proofs.Archive.Inventory
import BuildCapture.Proofs.Archive.Storage
import BuildCapture.Proofs.Container.Twins
import BuildCapture.Proofs.Pool.Twins
import BuildCapture.Proofs.Archive.Alongside
import BuildCapture.Proofs.Archive.Concurrence
import BuildCapture.Proofs.Archive.Transparency
import BuildCapture.Proofs.Container.Exhaustion
import BuildCapture.Proofs.Pool.Exhaustion
import BuildCapture.Proofs.Archive.Causes
import BuildCapture.Proofs.Archive.Attempts
import BuildCapture.Proofs.Archive.Isolation
import BuildCapture.Proofs.Archive.Verdicts
import BuildCapture.Proofs.Archive.Room
import BuildCapture.Proofs.Container.Listing
import BuildCapture.Proofs.Container.Streams
import BuildCapture.Proofs.Container.Names
import BuildCapture.Proofs.Container.Truncation
import BuildCapture.Proofs.FileSystem.Neighbours
import BuildCapture.Proofs.Container.Temporary
import BuildCapture.Proofs.Archive.Progress
import BuildCapture.Proofs.Archive.Lifecycle
import BuildCapture.Proofs.Extension.Plan
import BuildCapture.Proofs.Extension.Agreement
import BuildCapture.Proofs.Json.Evolution
import BuildCapture.Proofs.Json.Exactness
import BuildCapture.Proofs.Json.Settling
import BuildCapture.Proofs.Record.Evolution
import BuildCapture.Proofs.Container.Guarded
import BuildCapture.Proofs.Container.Safety
import BuildCapture.Proofs.Container.Lengths
import BuildCapture.Proofs.Container.DirectoryExactness
import BuildCapture.Proofs.Container.Ledger
import BuildCapture.Proofs.Pool.Storeroom
import BuildCapture.Proofs.Pool.Correspondence
import BuildCapture.Proofs.Pool.Agreement
import BuildCapture.Proofs.Pool.Verdicts
import BuildCapture.Proofs.Module.Image
import BuildCapture.Proofs.SourcePath.Project
import BuildCapture.Proofs.SourcePath.Remainder
import BuildCapture.Proofs.SourcePath.Words
import BuildCapture.Proofs.Hash.Aliases
import BuildCapture.Proofs.Hash.Paths
import BuildCapture.Proofs.Record.OrderedMap
import BuildCapture.Proofs.Extension.Shelves
import BuildCapture.Proofs.Extension.Output
import BuildCapture.Proofs.Archive.Completeness
import BuildCapture.Proofs.Archive.Versions
import BuildCapture.Proofs.FileSystem.Freshness
import BuildCapture.Proofs.Extension.FileNames
import BuildCapture.Proofs.Extension.Premises
import BuildCapture.Proofs.Extension.Sites
import BuildCapture.Proofs.Extension.Containment
import BuildCapture.Proofs.Container.Prefixes
import BuildCapture.Proofs.Container.Publication
import BuildCapture.Proofs.Module.Damage
import BuildCapture.Proofs.Pool.Catalogue
import BuildCapture.Proofs.Module.VersionText
import BuildCapture.Proofs.Archive.Register
import BuildCapture.Proofs.Archive.Collisions
