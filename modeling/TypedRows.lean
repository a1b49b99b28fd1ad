import TypedRows.Main
import TypedRows.Proofs.Annotation.WordFree
import TypedRows.Proofs.Generation.Answer
import TypedRows.Proofs.Script.Concatenation
import TypedRows.Proofs.Script.DialectLexing
import TypedRows.Shell.Machine
import TypedRows.Proofs.Schema.LastDefinition
import TypedRows.Proofs.Code.Declaration
import TypedRows.Proofs.Code.Index
import TypedRows.Proofs.Code.Comments
import TypedRows.Proofs.Code.Models
import TypedRows.Proofs.Csv.Inference
import TypedRows.Proofs.Csv.Sample
import TypedRows.Proofs.Definition.Rejection
import TypedRows.Proofs.Generation.Classes
import TypedRows.Proofs.Generation.Files
import TypedRows.Proofs.Generation.Names
import TypedRows.Proofs.Generation.References
import TypedRows.Proofs.Generation.Session
import TypedRows.Proofs.Generation.Storage
import TypedRows.Proofs.Generation.Workers
import TypedRows.Proofs.Annotation.Prefixed
import TypedRows.Proofs.Code.Literal
import TypedRows.Proofs.Definition.Building
import TypedRows.Proofs.Generation.Statements
import TypedRows.Proofs.Csv.Widening
import TypedRows.Proofs.Dialect.IntegerRange
import TypedRows.Proofs.Dialect.Labels
import TypedRows.Proofs.Dialect.Decimal
import TypedRows.Proofs.Dialect.OpenColumns
import TypedRows.Proofs.Naming.Validity
import TypedRows.Proofs.Schema.Additions
import TypedRows.Proofs.Script.Rejoining
import TypedRows.Proofs.Generation.Fields
import TypedRows.Proofs.Code.Imports
import TypedRows.Proofs.Naming.Shadowing
import TypedRows.Proofs.Script.Scan
import TypedRows.Proofs.Dialect.Entries
import TypedRows.Proofs.Generation.Batch
import TypedRows.Proofs.Text.Comment
import TypedRows.Proofs.Naming.Cleaning
import TypedRows.Proofs.Files.Glob
