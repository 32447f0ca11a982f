import TableQuery.Text.Capitals

/-!
The tokens of a statement and their texts.

A keyword is an identifier whose capital form is one of a fixed list of words.
-/

namespace TableQuery

/-! ## Keywords -/

/-- The reserved words. -/
inductive Keyword
  | select | distinct | from | where | and | or | like | inner | left | right | join | on
  | group | order | by | asc | desc | limit | insert | into | values | delete | null
deriving DecidableEq

namespace Keyword

/-- Every keyword. -/
def all : List Keyword :=
  [select, distinct, .from, .where, and, or, like, inner, left, right, join, on, group,
    order, .by, asc, desc, limit, insert, into, values, delete, null]

/-- The keyword as it is shown. -/
def word : Keyword → String
  | select => "SELECT"
  | distinct => "DISTINCT"
  | .from => "FROM"
  | .where => "WHERE"
  | and => "AND"
  | or => "OR"
  | like => "LIKE"
  | inner => "INNER"
  | left => "LEFT"
  | right => "RIGHT"
  | join => "JOIN"
  | on => "ON"
  | group => "GROUP"
  | order => "ORDER"
  | .by => "BY"
  | asc => "ASC"
  | desc => "DESC"
  | limit => "LIMIT"
  | insert => "INSERT"
  | into => "INTO"
  | values => "VALUES"
  | delete => "DELETE"
  | null => "NULL"

/-- The keyword that an identifier is, if any, in whatever case it is written. -/
def ofIdent? (name : String) : Option Keyword :=
  all.find? fun keyword => keyword.word == Text.capitals name

end Keyword

/-! ## Tokens -/

/-- A token of a statement. -/
inductive Token
  | keyword (k : Keyword)
  | ident (name : String)
  /-- A quoted text, without its quotes. -/
  | text (s : String)
  /-- A number as it is written. -/
  | number (digits : String)
  | openParen
  | closeParen
  | comma
  | semicolon
  | period
  | asterisk
  | minus
  | equal
  | notEqual
  | greater
  | greaterOrEqual
  | less
  | lessOrEqual
  /-- A character that starts no other token. -/
  | other (c : Char)
deriving DecidableEq

/-- The token as it is shown in messages. -/
def Token.display : Token → String
  | keyword k => k.word
  | ident name => name
  | text s => "'" ++ s ++ "'"
  | number digits => digits
  | openParen => "("
  | closeParen => ")"
  | comma => ","
  | semicolon => ";"
  | period => "."
  | asterisk => "*"
  | minus => "-"
  | equal => "="
  | notEqual => "!="
  | greater => ">"
  | greaterOrEqual => ">="
  | less => "<"
  | lessOrEqual => "<="
  | other c => c.toString

end TableQuery
