import NamedSql.Code.Accessors
import NamedSql.Code.Layout
import NamedSql.CommandLine.Arguments
import NamedSql.CommandLine.Color
import NamedSql.CommandLine.Program
import NamedSql.Files.Error
import NamedSql.Files.File
import NamedSql.Files.FileSystem
import NamedSql.Files.Listing
import NamedSql.Files.Mode
import NamedSql.Files.Reach
import NamedSql.Files.Resolve
import NamedSql.Output.Sink
import NamedSql.Path
import NamedSql.Query.Catalog
import NamedSql.Query.Collect
import NamedSql.Query.Discover
import NamedSql.Query.Name
import NamedSql.Query.Query
import NamedSql.Report
import NamedSql.Session
import NamedSql.Sql.Byte
import NamedSql.Sql.Compile
import NamedSql.Sql.Dialect
import NamedSql.Sql.Reference
import NamedSql.Sql.Region
import NamedSql.Sql.Token
import NamedSql.Text.Alphanumeric
import NamedSql.Text.CellWidth
import NamedSql.Text.CodePoint
import NamedSql.Text.LetterCase
import NamedSql.Text.Printable
import NamedSql.Text.Utf8
import NamedSql.Text.Words
import NamedSql.Main
import NamedSql.Proofs.Extent
import NamedSql.Proofs.Lexing
import NamedSql.Proofs.Encoding
import NamedSql.Proofs.Scanning
import NamedSql.Proofs.Numbering
import NamedSql.Proofs.Rewriting
import NamedSql.Proofs.Placeholder
import NamedSql.Proofs.Rereading
import NamedSql.Proofs.Recompiling
import NamedSql.Proofs.Binding
import NamedSql.Proofs.Regions
import NamedSql.Proofs.Separators
import NamedSql.Proofs.Words
import NamedSql.Proofs.Naming
import NamedSql.Proofs.Grouping
import NamedSql.Proofs.Keys
import NamedSql.Proofs.Layout
import NamedSql.Proofs.Literals
import NamedSql.Proofs.CodeLines
import NamedSql.Proofs.CatalogLines
import NamedSql.Proofs.Decoding
import NamedSql.Proofs.Modules
import NamedSql.Proofs.Reading
import NamedSql.Proofs.Containment
import NamedSql.Proofs.Renaming
import NamedSql.Proofs.SkippedText
import NamedSql.Proofs.Directories
import NamedSql.Proofs.Resolving
import NamedSql.Proofs.Relisting
import NamedSql.Proofs.Walking
import NamedSql.Proofs.Searching
import NamedSql.Proofs.Irrelevance
import NamedSql.Proofs.Writing
import NamedSql.Proofs.Running
import NamedSql.Proofs.Rerunning
import NamedSql.Proofs.Discovery
import NamedSql.Proofs.Partition
import NamedSql.Proofs.Lines
import NamedSql.Proofs.OpenRegions
import NamedSql.Proofs.Slices
import NamedSql.Proofs.Cursor
import NamedSql.Proofs.Lookup
import NamedSql.Proofs.Permissions
import NamedSql.Proofs.Suffixes
import NamedSql.Proofs.Identifiers
import NamedSql.Proofs.Contents
import NamedSql.Proofs.Problems
import NamedSql.Proofs.Nesting
import NamedSql.Proofs.SnakeCase
import NamedSql.Proofs.CarriageReturns
import NamedSql.Proofs.SourceLines
import NamedSql.Proofs.Reports
