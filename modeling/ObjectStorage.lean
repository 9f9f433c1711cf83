import ObjectStorage.ByteQueue
import ObjectStorage.CommandLine.Invocation
import ObjectStorage.ContentType
import ObjectStorage.Decimal.Reading
import ObjectStorage.Main
import ObjectStorage.Memory.Script
import ObjectStorage.Program
import ObjectStorage.Proofs.ByteQueue
import ObjectStorage.Proofs.CommandLine.Running
import ObjectStorage.Proofs.CommandLine.Unusable
import ObjectStorage.Proofs.Fleet
import ObjectStorage.Proofs.Mirror
import ObjectStorage.Proofs.Settings.Normal
import ObjectStorage.Proofs.Storage.Chunking
import ObjectStorage.Proofs.Storage.Credentials
import ObjectStorage.Proofs.Storage.Ledger
import ObjectStorage.Proofs.Storage.Streaming
import ObjectStorage.Proofs.Storage.WholeOrParts
import ObjectStorage.Proofs.Upload.Accounting
import ObjectStorage.Proofs.Upload.Interruption
import ObjectStorage.Proofs.Upload.Layout
import ObjectStorage.Proofs.Upload.Lifecycle
import ObjectStorage.Proofs.Upload.Protocol
import ObjectStorage.Proofs.Upload.Release
import ObjectStorage.Settings.Loading
import ObjectStorage.Storage.Facade
import ObjectStorage.Upload.Operations
import ObjectStorage.Yaml.Document
