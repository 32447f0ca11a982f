import TableQuery.Binary64.Arithmetic
import TableQuery.Binary64.Basic
import TableQuery.Binary64.Decimal
import TableQuery.Binary64.Format
import TableQuery.Binary64.Order
import TableQuery.Binary64.Rounding
import TableQuery.Binary64.Shortest
import TableQuery.Delimited.Basic
import TableQuery.Delimited.Reader
import TableQuery.Delimited.Writer
import TableQuery.Error
import TableQuery.NameMap
import TableQuery.Plan.Basic
import TableQuery.Plan.OfStatement
import TableQuery.Plan.Run
import TableQuery.Proofs.Atomicity
import TableQuery.Proofs.CanonicalText
import TableQuery.Proofs.ClauseKeywords
import TableQuery.Proofs.Comparisons
import TableQuery.Proofs.Cutting
import TableQuery.Proofs.DebugTexts
import TableQuery.Proofs.DeleteSelect
import TableQuery.Proofs.DelimitedRoundTrip
import TableQuery.Proofs.DistinctGroups
import TableQuery.Proofs.ExactArithmetic
import TableQuery.Proofs.Faults
import TableQuery.Proofs.FileRoundTrip
import TableQuery.Proofs.Grammar
import TableQuery.Proofs.GroupCells
import TableQuery.Proofs.GroupParts
import TableQuery.Proofs.InnerJoins
import TableQuery.Proofs.InsertSelect
import TableQuery.Proofs.InsertedRows
import TableQuery.Proofs.IntegerColumns
import TableQuery.Proofs.IntegerLiterals
import TableQuery.Proofs.JoinPruning
import TableQuery.Proofs.JoinedNames
import TableQuery.Proofs.JoinedRows
import TableQuery.Proofs.KeptRecords
import TableQuery.Proofs.LimitedRows
import TableQuery.Proofs.Names
import TableQuery.Proofs.NearestNumbers
import TableQuery.Proofs.NormalText
import TableQuery.Proofs.NumberTexts
import TableQuery.Proofs.OperatorTokens
import TableQuery.Proofs.Outcome
import TableQuery.Proofs.OuterJoins
import TableQuery.Proofs.Parallel
import TableQuery.Proofs.ParsedStatement
import TableQuery.Proofs.PatternCuts
import TableQuery.Proofs.ReadBack
import TableQuery.Proofs.ReadPhrases
import TableQuery.Proofs.Render
import TableQuery.Proofs.RenderedTokens
import TableQuery.Proofs.RepeatedRows
import TableQuery.Proofs.ResultColumns
import TableQuery.Proofs.ResultRows
import TableQuery.Proofs.RowsAgree
import TableQuery.Proofs.SelectSteps
import TableQuery.Proofs.SeparateAggregates
import TableQuery.Proofs.ShortestDigits
import TableQuery.Proofs.SortedRows
import TableQuery.Proofs.Spelling
import TableQuery.Proofs.StatementEffect
import TableQuery.Proofs.StatementRoundTrip
import TableQuery.Proofs.StoreAgreement
import TableQuery.Proofs.TableFiles
import TableQuery.Proofs.TableHistory
import TableQuery.Proofs.UnknownFields
import TableQuery.Proofs.ValueOrder
import TableQuery.Proofs.WholeNumbers
import TableQuery.Proofs.WholeTable
import TableQuery.Query.Aggregate
import TableQuery.Query.Condition
import TableQuery.Query.Group
import TableQuery.Query.Join
import TableQuery.Query.Pattern
import TableQuery.Query.Projection
import TableQuery.Query.Sort
import TableQuery.Row
import TableQuery.Session
import TableQuery.Statement.Basic
import TableQuery.Statement.Clause
import TableQuery.Statement.Phrase
import TableQuery.Statement.Reader
import TableQuery.Store.Basic
import TableQuery.Store.Disk
import TableQuery.Store.File
import TableQuery.Store.Memory
import TableQuery.Table
import TableQuery.Text.Alphabetic
import TableQuery.Text.Blank
import TableQuery.Text.Capitals
import TableQuery.Text.CaseFold
import TableQuery.Text.Digits
import TableQuery.Text.Hidden
import TableQuery.Text.Numeric
import TableQuery.Text.Quoted
import TableQuery.Text.Ranges
import TableQuery.Text.Split
import TableQuery.Text.Utf8
import TableQuery.Token.Basic
import TableQuery.Token.Scan
import TableQuery.Value.Basic
import TableQuery.Value.Literal
import TableQuery.Value.Order
