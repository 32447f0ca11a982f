import TableQuery.Error
import TableQuery.Row
import TableQuery.Statement.Basic

/-!
The phrases of a statement, read from the head of a token list.

A phrase is a name, a column, an expression, a literal and so on. Reading one gives
it together with the tokens after it, or the fault at the token where it breaks.
-/

namespace TableQuery.Phrase

/-! ## Single tokens -/

/-- Fails at the head of the tokens that are left, if there is one. -/
def finish : List Token → Except Fault Unit
  | [] => .ok ()
  | token :: _ => .error (.parse (.unexpected token))

/-- Reads the given token. -/
def expect (expected : Token) : List Token → Except Fault (List Token)
  | [] => .error (.parse .endOfInput)
  | token :: rest =>
    if token = expected then .ok rest
    else .error (.parse (.expectedToken expected token))

/-- Reads a name. -/
def ident : List Token → Except Fault (String × List Token)
  | [] => .error (.parse .endOfInput)
  | .ident name :: rest => .ok (name, rest)
  | token :: _ => .error (.parse (.expectedIdent token))

/-! ## Columns and expressions -/

/-- Reads what may follow the first name of a column: a dot and a second name. -/
def columnEnd (first : String) : List Token → Except Fault (String × List Token)
  | .period :: rest => do
    let (second, rest) ← ident rest
    return (qualified first second, rest)
  | rest => .ok (first, rest)

/-- Reads a column, bare or qualified. -/
def column (tokens : List Token) : Except Fault (String × List Token) := do
  let (first, rest) ← ident tokens
  columnEnd first rest

/-- Reads a qualified column. -/
def qualifiedColumn (tokens : List Token) : Except Fault (String × List Token) := do
  let (name, rest) ← column tokens
  if name.toList.contains '.' then return (name, rest)
  else .error (.parse (.expectedQualified name))

/-- Reads the operand of an aggregate function. -/
def operand : List Token → Except Fault (String × List Token)
  | .asterisk :: rest => .ok ("*", rest)
  | tokens => column tokens

/-- Reads an expression: `*`, a column, or an aggregate function with its operand. -/
def expression : List Token → Except Fault (Expression × List Token)
  | [] => .error (.parse .endOfInput)
  | .asterisk :: rest => .ok (.all, rest)
  | .ident name :: .openParen :: rest =>
    if (AggregateFunction.ofName? name).isNone then
      .error (.parse (.unknownFunction name))
    else do
      let (operand, rest) ← operand rest
      let rest ← expect .closeParen rest
      return (.call name operand, rest)
  | .ident name :: rest => do
    let (column, rest) ← columnEnd name rest
    return (.column column, rest)
  | token :: _ => .error (.parse (.unexpectedExpression token))

/-! ## Literals -/

/-- Reads the literal of a condition: a quoted text, a number with an optional
minus, or a bare word. -/
def literal : List Token → Except Fault (String × List Token)
  | [] => .error (.parse .endOfInput)
  | .text s :: rest => .ok (s, rest)
  | .number digits :: rest => .ok (digits, rest)
  | .ident name :: rest => .ok (name, rest)
  | .keyword k :: rest => .ok (k.word, rest)
  | .minus :: .number digits :: rest => .ok ("-" ++ digits, rest)
  | .minus :: token :: _ => .error (.parse (.unexpected token))
  | [.minus] => .error (.parse .endOfInput)
  | token :: _ => .error (.parse (.unexpectedLiteral token))

/-- Reads a literal of an insert statement: a number with an optional minus, a
quoted text, or `NULL`. -/
def constant : List Token → Except Fault (Constant × List Token)
  | [] => .error (.parse .endOfInput)
  | .number digits :: rest => .ok (.number digits, rest)
  | .minus :: .number digits :: rest => .ok (.number ("-" ++ digits), rest)
  | .minus :: token :: _ => .error (.parse (.unexpected token))
  | [.minus] => .error (.parse .endOfInput)
  | .text s :: rest => .ok (.text s, rest)
  | .keyword .null :: rest => .ok (.null, rest)
  | token :: _ => .error (.parse (.unexpectedExpression token))

/-! ## Lists -/

/-- A reader of phrases that takes at least one token for each of them. -/
def Consumes {α : Type} (phrase : List Token → Except Fault (α × List Token)) : Prop :=
  ∀ {tokens rest : List Token} {a : α}, phrase tokens = .ok (a, rest) →
    rest.length < tokens.length

/-- Reads one phrase and further ones as long as a comma follows. -/
def separated {α : Type} (phrase : List Token → Except Fault (α × List Token))
    (consumes : Consumes phrase) (tokens : List Token) :
    Except Fault (List α × List Token) :=
  match read : phrase tokens with
  | .error fault => .error fault
  | .ok (first, .comma :: rest) =>
    have : rest.length < tokens.length := Nat.lt_of_succ_lt (consumes read)
    match separated phrase consumes rest with
    | .error fault => .error fault
    | .ok (more, rest) => .ok (first :: more, rest)
  | .ok (first, rest) => .ok ([first], rest)
termination_by tokens.length

/-- Reads a list of phrases in parentheses. -/
def parenthesized {α : Type} (phrase : List Token → Except Fault (α × List Token))
    (consumes : Consumes phrase) (tokens : List Token) :
    Except Fault (List α × List Token) := do
  let rest ← expect .openParen tokens
  let (phrases, rest) ← separated phrase consumes rest
  match rest with
  | [] => .error (.parse .endOfInput)
  | .closeParen :: rest => return (phrases, rest)
  | token :: _ => .error (.parse (.unexpected token))

/-! ## Phrases take at least one token -/

theorem ident_consumes : Consumes ident := by
  intro tokens rest name read
  unfold ident at read
  split at read <;> cases read
  simp

theorem columnEnd_length {first : String} {tokens rest : List Token} {name : String}
    (read : columnEnd first tokens = .ok (name, rest)) : rest.length ≤ tokens.length := by
  unfold columnEnd at read
  split at read
  · rename_i after
    cases second : ident after with
    | error fault => simp [second, bind, Except.bind] at read
    | ok found =>
      simp only [second, bind, Except.bind, pure, Except.pure] at read
      cases read
      exact Nat.le_succ_of_le (Nat.le_of_lt (ident_consumes second))
  · cases read
    exact Nat.le_refl _

theorem column_consumes : Consumes column := by
  intro tokens rest name read
  unfold column at read
  cases first : ident tokens with
  | error fault => simp [first, bind, Except.bind] at read
  | ok found =>
    simp only [first, bind, Except.bind] at read
    exact Nat.lt_of_le_of_lt (columnEnd_length read) (ident_consumes first)

theorem operand_consumes : Consumes operand := by
  intro tokens rest name read
  unfold operand at read
  split at read
  · cases read
    simp
  · exact column_consumes read

theorem expect_length {expected : Token} {tokens rest : List Token}
    (read : expect expected tokens = .ok rest) : rest.length < tokens.length := by
  unfold expect at read
  split at read
  · cases read
  · split at read <;> cases read
    simp

theorem expression_consumes : Consumes expression := by
  intro tokens rest item read
  unfold expression at read
  split at read
  · cases read
  · cases read
    simp
  · rename_i name after
    split at read
    · cases read
    · cases inner : operand after with
      | error fault => simp [inner, bind, Except.bind] at read
      | ok found =>
        simp only [inner, bind, Except.bind] at read
        cases closed : expect .closeParen found.2 with
        | error fault => simp [closed] at read
        | ok final =>
          simp only [closed, pure, Except.pure] at read
          cases read
          have := operand_consumes inner
          have := expect_length closed
          simp only [List.length_cons]
          omega
  · rename_i name after _
    cases whole : columnEnd name after with
    | error fault => simp [whole, bind, Except.bind] at read
    | ok found =>
      simp only [whole, bind, Except.bind, pure, Except.pure] at read
      cases read
      exact Nat.lt_succ_of_le (columnEnd_length whole)
  · cases read

theorem constant_consumes : Consumes constant := by
  intro tokens rest value read
  unfold constant at read
  split at read <;> cases read <;> simp only [List.length_cons] <;> omega

end TableQuery.Phrase
