import CodePrint.Base64
import CodePrint.Batch
import CodePrint.ByteRange
import CodePrint.Digest.Sha2
import CodePrint.Digest.Sha256
import CodePrint.Digest.Sha512
import CodePrint.Failure
import CodePrint.Fingerprint
import CodePrint.Json.Reader
import CodePrint.Json.Writer
import CodePrint.Language
import CodePrint.Language.Profile
import CodePrint.Log.Entry
import CodePrint.Log.Event
import CodePrint.Log.Journal
import CodePrint.Log.Level
import CodePrint.Moment
import CodePrint.Number.Binary64
import CodePrint.Number.Shortest
import CodePrint.Options
import CodePrint.Path
import CodePrint.Proofs.Accounting
import CodePrint.Proofs.Adaptation
import CodePrint.Proofs.Alike
import CodePrint.Proofs.Assembly
import CodePrint.Proofs.BatchIsolation
import CodePrint.Proofs.Checks
import CodePrint.Proofs.CommentStripping
import CodePrint.Proofs.Composition
import CodePrint.Proofs.Containment
import CodePrint.Proofs.ContentAddress
import CodePrint.Proofs.Copies
import CodePrint.Proofs.Correlation
import CodePrint.Proofs.CursorBuild
import CodePrint.Proofs.Decoding
import CodePrint.Proofs.Delivery
import CodePrint.Proofs.Draining
import CodePrint.Proofs.EncodingErrors
import CodePrint.Proofs.Fields
import CodePrint.Proofs.FingerprintText
import CodePrint.Proofs.Frontier
import CodePrint.Proofs.Idempotence
import CodePrint.Proofs.KindIndependence
import CodePrint.Proofs.KindOrder
import CodePrint.Proofs.Locality
import CodePrint.Proofs.Locating
import CodePrint.Proofs.Mirror
import CodePrint.Proofs.Nesting
import CodePrint.Proofs.Normalization
import CodePrint.Proofs.PartialParse
import CodePrint.Proofs.PathText
import CodePrint.Proofs.Precedence
import CodePrint.Proofs.Rechecking
import CodePrint.Proofs.RecordFaults
import CodePrint.Proofs.RecordKinds
import CodePrint.Proofs.RegionRanges
import CodePrint.Proofs.Regions
import CodePrint.Proofs.Reports
import CodePrint.Proofs.RequestOrder
import CodePrint.Proofs.SpaceCollapsing
import CodePrint.Proofs.Spacing
import CodePrint.Proofs.StreamProtocol
import CodePrint.Proofs.Tiling
import CodePrint.Proofs.ValidOctets
import CodePrint.Proofs.Walk
import CodePrint.Proofs.WellFormed
import CodePrint.Record
import CodePrint.Region
import CodePrint.Region.Locate
import CodePrint.Registry
import CodePrint.ScanError
import CodePrint.Session
import CodePrint.Settings
import CodePrint.Settings.Check
import CodePrint.Settings.Environment
import CodePrint.Settings.Load
import CodePrint.Settings.Merge
import CodePrint.Source
import CodePrint.Stream
import CodePrint.Syntax.Node
import CodePrint.Syntax.RawTree
import CodePrint.Syntax.Span
import CodePrint.Syntax.Tree
import CodePrint.Text.Blank
import CodePrint.Text.Lower
import CodePrint.Text.LowerTable
import CodePrint.Text.Printable
import CodePrint.Text.Quoted
import CodePrint.Text.Utf8
import CodePrint.Value
import CodePrint.Value.Text
import CodePrint.Variant
import CodePrint.Variant.Render
import CodePrint.Yaml.BlockText
import CodePrint.Yaml.Cursor
import CodePrint.Yaml.Node
import CodePrint.Yaml.Property
import CodePrint.Yaml.Reader
import CodePrint.Yaml.Scalar
import CodePrint.Yaml.Tag
import CodePrint.Yaml.Timestamp
