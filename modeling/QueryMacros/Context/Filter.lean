import QueryMacros.Text.Character

/-!
# Ad-hoc filters

A filter compares a column with a value. The column may be qualified by its
table. A filter without a value compares with NULL.
-/
namespace QueryMacros

/-- The comparisons that a filter can make. -/
inductive FilterOperator where
  | equal
  | notEqual
  | less
  | greater
  | lessOrEqual
  | greaterOrEqual
  | like
  | notLike
deriving DecidableEq, Repr

namespace FilterOperator

/-- The sign of an operator. -/
def symbol : FilterOperator → Text
  | .equal => "="
  | .notEqual => "!="
  | .less => "<"
  | .greater => ">"
  | .lessOrEqual => "<="
  | .greaterOrEqual => ">="
  | .like => "=~"
  | .notLike => "!~"

/-- The name of an operator, as contexts are shown with it. -/
def name : FilterOperator → Text
  | .equal => "Eq"
  | .notEqual => "NotEq"
  | .less => "Lt"
  | .greater => "Gt"
  | .lessOrEqual => "LtEq"
  | .greaterOrEqual => "GtEq"
  | .like => "Like"
  | .notLike => "NotLike"

/-- Every operator. -/
def all : List FilterOperator :=
  [.equal, .notEqual, .less, .greater, .lessOrEqual, .greaterOrEqual, .like, .notLike]

/-- The operator of a sign. -/
def ofSymbol? (symbol : Text) : Option FilterOperator :=
  all.find? fun operator => operator.symbol == symbol

/-- Reads an operator with blanks around its sign. What is no sign is handed back
without the blanks. -/
def read (text : Text) : Except Text FilterOperator :=
  let symbol := Text.trim text
  match ofSymbol? symbol with
  | some operator => .ok operator
  | none => .error symbol

/-- The wording of a fault in an operator. -/
def unknownMessage (symbol : Text) : Text := "unknown filter operator: " ++ symbol

/-- Every operator is read back from its symbol, so no two share one. -/
theorem ofSymbol?_symbol (operator : FilterOperator) :
    ofSymbol? operator.symbol = some operator := by
  cases operator <;> decide

end FilterOperator

/-- A filter: its key, its operator, and its value unless that is NULL. -/
structure AdHocFilter where
  key : Text
  operator : FilterOperator
  value : Option Text
deriving DecidableEq, Repr

end QueryMacros
