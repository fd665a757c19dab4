import DiagramEditor.Syntax.Category
import DiagramEditor.Text.Basic

/-! The rules that hold anywhere on a line: connectors, brackets, quoted strings,
qualified names and numbers. The matcher takes the longest match over all rules.
It reads a name in one pass without going back: once it has read past a run of
digits in the hope of a qualified name that then fails, it reports a failure, and
the digits are taken as a number in a second try. -/
namespace DiagramEditor.Syntax

/-- The characters of words: ASCII letters, digits and the underscore. -/
def isWordChar (c : Char) : Bool := c.isAlphanum || c = '_'

theorem isWordChar_of_isDigit {c : Char} (digit : c.isDigit) : isWordChar c := by
  simp [isWordChar, Char.isAlphanum, digit]

/-- The characters after the colon of a qualified name. -/
def isQualifiedChar (c : Char) : Bool := isWordChar c || c = '-'

/-- The delimiters that open and close a string. -/
inductive Quote where
  | double | single | backtick
deriving DecidableEq, Repr, Inhabited

def Quote.delimiter : Quote → Char
  | double => '"'
  | single => '\''
  | backtick => '`'

inductive Rule where
  | operator | bracket | quoted (quote : Quote) | qualifiedName | number
deriving DecidableEq, Repr, Inhabited

namespace Rule

def category : Rule → Category
  | operator => .operator
  | bracket => .bracket
  | quoted _ => .string
  | qualifiedName => .identifier
  | number => .number

/-- The rules in their order of precedence. -/
def all : List Rule :=
  [operator, bracket, quoted .double, quoted .single, quoted .backtick, qualifiedName, number]

/-- The connectors between nodes. None is the beginning of another. -/
def connectors : List Text :=
  [['-', '.', '-', '>'], ['-', '-', '>'], ['-', '-', '-'], ['=', '=', '>'], ['|']]

def brackets : Text := ['[', ']', '(', ')', '\x7b', '\x7d']

/-- A connector that begins the text. -/
def connector? (rest : Text) : Option Text :=
  connectors.find? (·.isPrefixOf rest)

/-- The body and the delimiters of a string that opens at once and closes at the
first following delimiter. -/
def quotedLength? (delimiter : Char) : Text → Option Nat
  | [] => none
  | c :: rest =>
    let body := rest.takeWhile (· ≠ delimiter)
    if c = delimiter ∧ body.length < rest.length then some (body.length + 2) else none

/-- A word, a colon and a nonempty run of word characters and hyphens. -/
def qualifiedLength? (rest : Text) : Option Nat :=
  let scope := rest.takeWhile isWordChar
  match rest.dropWhile isWordChar with
  | ':' :: more =>
    let name := more.takeWhile isQualifiedChar
    if scope.isEmpty || name.isEmpty then none else some (scope.length + 1 + name.length)
  | _ => none

/-- The length of the digit run that begins the text, if there is one. -/
def digitLength? (rest : Text) : Option Nat :=
  let digits := rest.takeWhile Char.isDigit
  if digits.isEmpty then none else some digits.length

/-- How many characters at the start of the text the rule matches. -/
def length? (rule : Rule) (rest : Text) : Option Nat :=
  match rule with
  | operator => (connector? rest).map List.length
  | bracket => if rest.head?.any (brackets.contains ·) then some 1 else none
  | quoted quote => quotedLength? quote.delimiter rest
  | qualifiedName => qualifiedLength? rest
  | number => digitLength? rest

end Rule

/-- A rule together with the number of characters it matches. -/
structure RuleMatch where
  rule : Rule
  length : Nat
deriving DecidableEq, Repr

/-- The candidate if it is longer than the best match before it, else that match. -/
def RuleMatch.longer? (best : Option RuleMatch) (candidate : RuleMatch) : Option RuleMatch :=
  match best with
  | some found => if found.length < candidate.length then some candidate else best
  | none => some candidate

/-- The match that is strictly longer than every match before it and no shorter
than every match after it. -/
def longestMatch? (rest : Text) : Option RuleMatch :=
  (Rule.all.filterMap fun rule => (rule.length? rest).map (⟨rule, ·⟩)).foldl
    RuleMatch.longer? none

/-- The match of the first rule, in the order of precedence, that holds at all. -/
def firstMatch? (rest : Text) : Option RuleMatch :=
  Rule.all.findSome? fun rule => (rule.length? rest).map (⟨rule, ·⟩)

/-- What one pass of the matcher ends with. -/
inductive MatchOutcome where
  | exhausted
  | matched (found : RuleMatch)
  | failed
deriving DecidableEq, Repr

/-- The matcher has read past the digits at the start of the text: a word goes on
there, or the colon of a qualified name stands there. -/
def readsPastDigits (rest : Text) : Bool :=
  (rest.dropWhile Char.isDigit).head?.any fun c => isWordChar c || c = ':'

/-- One pass of the matcher over the start of a text. -/
def MatchOutcome.of (rest : Text) : MatchOutcome :=
  if rest.isEmpty then .exhausted
  else
    match longestMatch? rest with
    | some found =>
      if found.rule = .number ∧ readsPastDigits rest then .failed else .matched found
    | none => .failed

/-- The rule that holds at the start of a text. -/
def matchRule? (rest : Text) : Option RuleMatch :=
  match MatchOutcome.of rest with
  | .exhausted => none
  | .matched found => some found
  | .failed => (Rule.digitLength? rest).map (⟨.number, ·⟩)

end DiagramEditor.Syntax
