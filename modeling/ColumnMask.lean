import ColumnMask.Anonymize
import ColumnMask.Columns
import ColumnMask.Digest
import ColumnMask.Extract
import ColumnMask.Failure
import ColumnMask.Json.Reader
import ColumnMask.Json.Value
import ColumnMask.Main
import ColumnMask.Mapping
import ColumnMask.Program.Arguments
import ColumnMask.Program.Run
import ColumnMask.Program.Table
import ColumnMask.Quoting
import ColumnMask.Rewrite
import ColumnMask.Serialize
import ColumnMask.Service.Request
import ColumnMask.Service.Session
import ColumnMask.Sql.Decode
import ColumnMask.Sql.Encode
import ColumnMask.Sql.Form
import ColumnMask.Sql.Grammar.Basic
import ColumnMask.Sql.Grammar.Calls
import ColumnMask.Sql.Grammar.Changes
import ColumnMask.Sql.Grammar.Columns
import ColumnMask.Sql.Grammar.Constraints
import ColumnMask.Sql.Grammar.Definitions
import ColumnMask.Sql.Grammar.Expressions
import ColumnMask.Sql.Grammar.Names
import ColumnMask.Sql.Grammar.Objects
import ColumnMask.Sql.Grammar.Operators
import ColumnMask.Sql.Grammar.Patterns
import ColumnMask.Sql.Grammar.Phrases
import ColumnMask.Sql.Grammar.Queries
import ColumnMask.Sql.Grammar.Rows
import ColumnMask.Sql.Grammar.Selects
import ColumnMask.Sql.Grammar.Sessions
import ColumnMask.Sql.Grammar.Statements
import ColumnMask.Sql.Grammar.Tables
import ColumnMask.Sql.Grammar.Times
import ColumnMask.Sql.Grammar.Types
import ColumnMask.Sql.Ident
import ColumnMask.Sql.Keyword
import ColumnMask.Sql.Lexer
import ColumnMask.Sql.Parser
import ColumnMask.Sql.Printer
import ColumnMask.Sql.Sites
import ColumnMask.Sql.Token
import ColumnMask.Sql.Tree
import ColumnMask.Sql.Walk
import ColumnMask.Store.Basic
import ColumnMask.Store.File
import ColumnMask.Store.Memory
import ColumnMask.Text.Alphabet
import ColumnMask.Text.Width
import ColumnMask.Proofs.Visits
import ColumnMask.Proofs.Settled
import ColumnMask.Proofs.TargetLists
import ColumnMask.Proofs.Outcome
import ColumnMask.Proofs.Alike
import ColumnMask.Proofs.Counterparts
import ColumnMask.Proofs.Renaming
import ColumnMask.Proofs.InnerTargets
import ColumnMask.Proofs.Joining
import ColumnMask.Proofs.Subterms
import ColumnMask.Proofs.Occurrence
import ColumnMask.Proofs.AlikeLaws
import ColumnMask.Proofs.SameText
import ColumnMask.Proofs.Masking
import ColumnMask.Proofs.Composition
import ColumnMask.Proofs.ByteOrder
import ColumnMask.Proofs.FirstWrite
import ColumnMask.Proofs.FirstPairs
import ColumnMask.Proofs.Listing
import ColumnMask.Proofs.UnitOfWork
import ColumnMask.Proofs.OnRows
import ColumnMask.Proofs.Handles
import ColumnMask.Proofs.CommandLine
import ColumnMask.Proofs.Causes
import ColumnMask.Proofs.Sameness
import ColumnMask.Proofs.AlikeNodes
import ColumnMask.Proofs.QuotesAndDigests
import ColumnMask.Proofs.QuotedPlaces
import ColumnMask.Proofs.Declarations
import ColumnMask.Proofs.Entering
import ColumnMask.Proofs.Blocks
import ColumnMask.Proofs.OneRun
import ColumnMask.Proofs.NoText
import ColumnMask.Proofs.JsonText
import ColumnMask.Proofs.TreeJson
import ColumnMask.Proofs.JsonOutput
import ColumnMask.Proofs.DefaultWord
import ColumnMask.Proofs.ListingOrder
import ColumnMask.Proofs.PairText
import ColumnMask.Proofs.ColumnCalls
import ColumnMask.Proofs.SiteChanges
import ColumnMask.Proofs.SecureHash
import ColumnMask.Proofs.DigestText
