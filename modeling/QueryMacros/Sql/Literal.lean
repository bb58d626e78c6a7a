import QueryMacros.Text.Basic

/-!
# Literals of SQL

A text literal stands between single quotes. Inside it a backslash takes the
next character literally and a doubled quote stands for one quote, so both are
written twice, and no text can end the literal that holds it.
-/
namespace QueryMacros.Sql

/-- The condition that always holds. It stands in for a filter that has nothing
to filter by. -/
def always : Text := "1=1"

/-- One character inside a literal. -/
def quoteCharacter (c : Char) : Text :=
  if c = '\\' then ['\\', '\\'] else if c = '\'' then ['\'', '\''] else [c]

/-- The literal of a text. -/
def quote (text : Text) : Text := '\'' :: text.flatMap quoteCharacter ++ ['\'']

end QueryMacros.Sql
