import DiagramEditor.Programs.Records.Number

/-! Scripts over records: rules, each of which has actions for the records that it selects. -/
namespace DiagramEditor.Records

inductive Operation where
  | add | subtract | multiply | divide | remainder | power
deriving DecidableEq, Repr

inductive Comparison where
  | less | atMost | equal | unequal | greater | atLeast
deriving DecidableEq, Repr

/-- The functions that every script has. -/
inductive Builtin where
  | length | substring | index | format | whole | toLower | toUpper
deriving DecidableEq, Repr

inductive Expr where
  | number (value : Number)
  | text (content : Raw)
  /-- A regular expression, which as a value says whether it is found in the record. -/
  | pattern (source : Raw)
  | named (name : Raw)
  | field (index : Expr)
  /-- What stands between parentheses. -/
  | group (body : Expr)
  | assign (operation? : Option Operation) (place value : Expr)
  /-- Adds to a place; the value is that behind the addition, or that before it. -/
  | step (before : Bool) (amount : Int) (place : Expr)
  | choice (condition yes no : Expr)
  | both (first second : Expr)
  | either (first second : Expr)
  | negate (body : Expr)
  | sign (negative : Bool) (body : Expr)
  | calculate (operation : Operation) (left right : Expr)
  | concatenate (left right : Expr)
  | compare (comparison : Comparison) (left right : Expr)
  | isFound (negated : Bool) (text pattern : Expr)
  | apply (function : Builtin) (arguments : List Expr)
deriving Inhabited

/-- Whether something can be assigned to. -/
def Expr.isPlace : Expr → Bool
  | named _ | field _ => true
  | _ => false

inductive Statement where
  | nothing
  | evaluate (body : Expr)
  | print (items : List Expr)
  | format (items : List Expr)
  | sequence (first second : Statement)
  | choice (condition : Expr) (yes no : Statement)
  /-- A loop whose condition is looked at first, with what happens behind each round. -/
  | loop (condition? : Option Expr) (step body : Statement)
  | nextRecord
  | exit (code? : Option Expr)
  | leave
  | goOn
deriving Inhabited

/-- A rule selects all records, or those for which a condition holds. -/
structure Rule where
  condition? : Option Expr
  action : Statement

structure Script where
  before : List Statement := []
  rules : List Rule := []
  behind : List Statement := []

end DiagramEditor.Records
