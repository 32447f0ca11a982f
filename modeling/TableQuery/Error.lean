import TableQuery.Token.Basic

/-!
What can go wrong, as causes, and the one place where the messages are worded.

`Fault` is a plain failure. `Error` is what a caller sees: a session marks the
failure of a statement as one of its execution, once, however often it is marked.
-/

namespace TableQuery

/-! ## Causes -/

/-- A statement text, or a statement, that has no meaning. -/
inductive ParseFault
  | unclosedText
  | endOfInput
  | unexpected (token : Token)
  | unexpectedExpression (token : Token)
  | unexpectedLiteral (token : Token)
  | expectedToken (expected found : Token)
  | expectedIdent (found : Token)
  | expectedQualified (column : String)
  | unknownFunction (name : String)
  /-- No number of 64 bits after `LIMIT`, but this token or nothing. -/
  | badLimit (found : Option Token)
  | orderByAll
  | emptyCondition
  | badCondition (tokens : List Token)
  /-- A join that no supported kind introduces, but this token or nothing. -/
  | unsupportedJoin (found : Option Token)
  | countMismatch
  | notSelect
  | notInsert
  | notDelete
  | groupedAll
  | ungroupedColumn (name : String)
  /-- A pattern that could not be prepared, with the reason given. No pattern below the
  size limit of the matcher is one, so nothing here reports it. -/
  | badPattern (reason : String)
  /-- A failure that is known by its wording only. -/
  | reported (wording : String)
deriving DecidableEq

/-- A name without a column. -/
inductive FieldFault
  | unknown (name : String)
  | unknownInTable (column table : String)
  | oneSidedJoin (left right base other : String)
  | reported (wording : String)
deriving DecidableEq

/-- A table file that cannot be read or written. -/
inductive FileFault
  | missing
  | isFolder
  /-- Something that a path goes through is not a folder. -/
  | notFolder
  /-- A record with another number of cells than the header. The place of a record
  is its number, its line and its first byte. -/
  | unequalLengths (record line byte found expected : Nat)
  /-- A cell that is not a UTF-8 text from some byte of it on. -/
  | notUtf8 (record line byte cell valid : Nat)
deriving DecidableEq

/-- A statement that cannot be carried out. -/
inductive InternalFault
  | noTable (name : String)
  | notNumeric (operand : String)
  | unknownAggregate (name : String)
  | countMismatch
  | notRows
  | reported (wording : String)
deriving DecidableEq

/-- A plain failure. -/
inductive Fault
  | parse (fault : ParseFault)
  | field (fault : FieldFault)
  | operator (text : String)
  | file (path : String) (fault : FileFault)
  /-- A failure of storage that is known by its wording only. -/
  | storage (wording : String)
  | internal (fault : InternalFault)
deriving DecidableEq

/-- A failure as a caller sees it. -/
inductive Error
  | plain (fault : Fault)
  | execution (fault : Fault)
deriving DecidableEq

/-! ## Messages -/

/-- The tokens of a clause as a message shows them. -/
def Token.displayAll (tokens : List Token) : String :=
  " ".intercalate (tokens.map Token.display)

/-- The wording of a parse fault. -/
def ParseFault.message : ParseFault → String
  | unclosedText => "[Lexer] Unexpected end of string"
  | endOfInput => "[Parser] Unexpected end of input"
  | unexpected token => "[Parser] Unexpected token " ++ token.display
  | unexpectedExpression token => "[Parser] Unexpected expression token " ++ token.display
  | unexpectedLiteral token => "[Parser] Unexpected literal token " ++ token.display
  | expectedToken expected found =>
    "[Parser] Expected token " ++ expected.display ++ ", got " ++ found.display
  | expectedIdent found => "[Parser] Expected ident, got token " ++ found.display
  | expectedQualified column =>
    "[Parser] Expected qualified column table.column, got " ++ column
  | unknownFunction name => "[Parser] Unknown function " ++ name
  | badLimit none => "[Parser] LIMIT expects a non-negative integer"
  | badLimit (some token) =>
    "[Parser] LIMIT expects a non-negative integer, got " ++ token.display
  | orderByAll => "[Parser] Cannot order by *"
  | emptyCondition => "[Parser] WHERE clause expects a condition"
  | badCondition tokens =>
    "[Parser] Invalid WHERE clause format: " ++ Token.displayAll tokens
  | unsupportedJoin found =>
    "[Parser] Unsupported join type " ++ (found.map Token.display).getD ""
  | countMismatch => "[Parser] columns and values num mismatch"
  | notSelect => "[Parser] Expected a SELECT statement"
  | notInsert => "[Parser] Expected an INSERT statement"
  | notDelete => "[Parser] Expected a DELETE statement"
  | groupedAll => "[Planner] Cannot select * with GROUP BY"
  | ungroupedColumn name =>
    "[Planner] Column " ++ name ++ " must appear in the GROUP BY clause"
  | badPattern reason => "invalid LIKE pattern: " ++ reason
  | reported wording => wording

/-- The wording of a field fault. -/
def FieldFault.message : FieldFault → String
  | unknown name => "column " ++ name ++ " not found"
  | unknownInTable column table => "column " ++ column ++ " not found in table " ++ table
  | oneSidedJoin left right base other =>
    "join condition " ++ left ++ " = " ++ right ++ " must reference both " ++ base ++
      " and " ++ other
  | reported wording => wording

/-- The wording of a file fault. -/
def FileFault.message : FileFault → String
  | missing => "No such file or directory (os error 2)"
  | isFolder => "Is a directory (os error 21)"
  | notFolder => "Not a directory (os error 20)"
  | unequalLengths record line byte found expected =>
    "CSV error: record " ++ toString record ++ " (line: " ++ toString line ++ ", byte: " ++
      toString byte ++ "): found record with " ++ toString found ++
      " fields, but the previous record has " ++ toString expected ++ " fields"
  | notUtf8 record line byte cell valid =>
    "CSV parse error: record " ++ toString record ++ " (line " ++ toString line ++
      ", field: " ++ toString cell ++ ", byte: " ++ toString byte ++
      "): invalid utf-8: invalid UTF-8 in field " ++ toString cell ++
      " near byte index " ++ toString valid

/-- The wording of an internal fault. -/
def InternalFault.message : InternalFault → String
  | noTable name => "table " ++ name ++ " does not exist"
  | notNumeric operand => "can not calc column " ++ operand
  | unknownAggregate name => "unknown aggregate function " ++ name
  | countMismatch => "columns and values num mismatch"
  | notRows => "Unexpected result set"
  | reported wording => wording

/-- The wording of a plain failure. -/
def Fault.message : Fault → String
  | parse fault => "parse error: " ++ fault.message
  | field fault => "invalid field: " ++ fault.message
  | operator text => "unsupported operator: " ++ text
  | file path fault => "io error: " ++ path ++ ": " ++ fault.message
  | storage wording => "io error: " ++ wording
  | internal fault => "internal error: " ++ fault.message

namespace Error

/-- The failure behind an error. -/
def fault : Error → Fault
  | plain fault => fault
  | execution fault => fault

/-- Marks a failure as one of execution; what is marked stays as it is. -/
def executing (error : Error) : Error :=
  execution error.fault

/-- The wording of an error. -/
def message : Error → String
  | plain fault => fault.message
  | execution fault => "Error executing query: " ++ fault.message

/-- Marking twice is marking once. -/
@[simp] theorem executing_executing (error : Error) :
    error.executing.executing = error.executing := rfl

end Error

end TableQuery
