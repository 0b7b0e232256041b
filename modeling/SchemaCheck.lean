import SchemaCheck.CommandLine
import SchemaCheck.Config
import SchemaCheck.Decimal.Binary64
import SchemaCheck.Decimal.Power
import SchemaCheck.Decimal.Shortest
import SchemaCheck.Document
import SchemaCheck.Document.Check
import SchemaCheck.Document.Encode
import SchemaCheck.Document.Keyword
import SchemaCheck.Document.Nodes
import SchemaCheck.Document.Reader
import SchemaCheck.Entries
import SchemaCheck.Fault
import SchemaCheck.FileFaults
import SchemaCheck.FileTree
import SchemaCheck.FileTree.Walk
import SchemaCheck.Guarded
import SchemaCheck.Identifier
import SchemaCheck.IoError
import SchemaCheck.Json.Fault
import SchemaCheck.Json.Read
import SchemaCheck.Json.Tree
import SchemaCheck.Loader
import SchemaCheck.Log
import SchemaCheck.Main
import SchemaCheck.Path
import SchemaCheck.Pattern
import SchemaCheck.Pattern.Bracket
import SchemaCheck.Pattern.Escape
import SchemaCheck.Pattern.Expr
import SchemaCheck.Pattern.Flags
import SchemaCheck.Pattern.Reader
import SchemaCheck.Pattern.Size
import SchemaCheck.Registry
import SchemaCheck.Registry.Nodes
import SchemaCheck.Schema
import SchemaCheck.SourceFormat
import SchemaCheck.Text.Blank
import SchemaCheck.Text.CaseFold
import SchemaCheck.Text.Category
import SchemaCheck.Text.Category.Letters
import SchemaCheck.Text.Category.Marks
import SchemaCheck.Text.Category.Numbers
import SchemaCheck.Text.Category.Others
import SchemaCheck.Text.Category.Signs
import SchemaCheck.Text.CharSet
import SchemaCheck.Text.Hex
import SchemaCheck.Text.Printable
import SchemaCheck.Text.Property
import SchemaCheck.Text.Property.Table
import SchemaCheck.Text.Quoted
import SchemaCheck.Text.Ranges
import SchemaCheck.Text.Script
import SchemaCheck.Text.Script.AToK
import SchemaCheck.Text.Script.Entry
import SchemaCheck.Text.Script.LToZ
import SchemaCheck.Value
import SchemaCheck.Value.Dump
import SchemaCheck.Yaml.Cursor
import SchemaCheck.Yaml.Node
import SchemaCheck.Yaml.Node.Parser
import SchemaCheck.Yaml.Plain
import SchemaCheck.Yaml.Read
import SchemaCheck.Yaml.Token
import SchemaCheck.Yaml.Token.Lexer
import SchemaCheck.Yaml.Token.Scalar
import SchemaCheck.Proofs.Parts
import SchemaCheck.Proofs.Storing
import SchemaCheck.Proofs.FaultList
import SchemaCheck.Proofs.Accounting
import SchemaCheck.Proofs.Documents
import SchemaCheck.Proofs.LoadOrder
import SchemaCheck.Proofs.Loading
import SchemaCheck.Proofs.CleanRun
import SchemaCheck.Proofs.Calls
import SchemaCheck.Proofs.Preorder
import SchemaCheck.Proofs.Representation
import SchemaCheck.Proofs.Validation
import SchemaCheck.Proofs.Visited
import SchemaCheck.Proofs.CleanRegistry
import SchemaCheck.Proofs.Collisions
import SchemaCheck.Proofs.Reading
import SchemaCheck.Proofs.FaultTable
import SchemaCheck.Proofs.Spelling
import SchemaCheck.Proofs.FileTrees
import SchemaCheck.Proofs.Listing
import SchemaCheck.Proofs.Growth
import SchemaCheck.Proofs.Reingestion
import SchemaCheck.Proofs.SourceOrder
import SchemaCheck.Proofs.Permanence
import SchemaCheck.Proofs.Reloading
import SchemaCheck.Proofs.ReportLines
import SchemaCheck.Proofs.LinkedDirectories
import SchemaCheck.Proofs.Refusals
import SchemaCheck.Proofs.Footprint
import SchemaCheck.Proofs.Scan
import SchemaCheck.Proofs.WrongTypes
import SchemaCheck.Proofs.Subtrees
import SchemaCheck.Proofs.Annotations
import SchemaCheck.Proofs.FaultOrder
import SchemaCheck.Proofs.StatusReport
import SchemaCheck.Proofs.EncodedData
import SchemaCheck.Proofs.EncodedDocuments
import SchemaCheck.Proofs.Guards
import SchemaCheck.Proofs.JsonPlaces
import SchemaCheck.Proofs.JsonValues
import SchemaCheck.Proofs.TypeValues
