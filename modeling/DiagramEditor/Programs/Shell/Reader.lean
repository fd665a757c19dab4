import DiagramEditor.Programs.Shell.Script

/-! Reading scripts. A script is read command by command, each up to the end of its line, so
that what stands before a fault can still run. Words are cut into their pieces, and
what has to be put in is read along with them. -/
namespace DiagramEditor.Shell

inductive Token where
  | endOfText
  | newline
  | sign (text : String)
  | redirect (stream? : Option Nat) (sign : String)
  | word (word : Word)
  | reserved (name : String)

/-- The words that begin and end commands where a command may stand. -/
def reservedWords : List String :=
  ["!", "case", "do", "done", "elif", "else", "esac", "fi", "for", "if", "in", "then", "until",
    "while", "\x7b", "\x7d"]

def quotedName (name : String) : String := "\"" ++ name ++ "\""

namespace Token

/-- How a token is named in a complaint. -/
def name : Token → String
  | endOfText => "end of file"
  | newline => "newline"
  | sign text => quotedName text
  | redirect _ _ => "redirection"
  | word _ => "word"
  | reserved name => quotedName name

/-- The token as one that stands where a command may. -/
def atCommand (token : Token) : Token :=
  match token with
  | word pieces =>
    match plainText? pieces with
    | some text =>
      let name := String.ofList text
      if reservedWords.contains name then reserved name else token
    | none => token
  | _ => token

/-- Whether a list of commands ends in front of the token. -/
def endsList : Token → Bool
  | endOfText => true
  | sign text => text = ")" || text = ";;"
  | reserved name =>
    ["do", "done", "elif", "else", "esac", "fi", "then", "\x7d"].contains name
  | _ => false

end Token

/-- What is left of a script, with the number of the line, the lines that here-documents
take behind it, and a token that was read too early. -/
structure Source where
  rest : Raw
  line : Nat := 1
  skipped : Nat := 0
  pushed? : Option Token := none

abbrev Reader := StateT Source (Except SyntaxError)

/-- Where a row of pieces stands, which decides where it ends and what quotes mean. -/
inductive Place where
  | word
  | doubleQuoted
  | braces (quoted : Bool)
  /-- Between double quotes in braces that are themselves between double quotes. -/
  | quotedInBraces
  | arithmetic
  | hereDocument
deriving DecidableEq, Repr

def Place.isQuoted : Place → Bool
  | word => false
  | braces quoted => quoted
  | _ => true

/-- The characters that end a word unless they are quoted. -/
def isMeta (c : Char) : Bool := " \t\n;&|<>()".toList.contains c

def backquote : Char := '\x60'

/-- Puts a piece in front of others. Texts that are quoted alike become one. -/
def join (piece : Piece) (pieces : Word) : Word :=
  match piece, pieces with
  | .text quoted front, .text quoted' back :: rest =>
    if quoted = quoted' then .text quoted (front ++ back) :: rest else piece :: pieces
  | _, _ => piece :: pieces

namespace Reader

def fault {α : Type} (fault : SyntaxFault) : Reader α := do
  throw ⟨(← get).line, fault⟩

def unexpected {α : Type} (token : Token) (expected? : Option String) : Reader α :=
  fault (.unexpected token.name expected?)

def peek? : Reader (Option Char) := return (← get).rest.head?

def skip (count : Nat) : Reader Unit :=
  modify fun source => { source with rest := source.rest.drop count }

def nextLine : Reader Unit :=
  modify fun source => { source with line := source.line + 1 + source.skipped, skipped := 0 }

def push (token : Token) : Reader Unit :=
  modify fun source => { source with pushed? := some token }

/-- Takes the characters that a test admits. -/
def takeWhile (admits : Char → Bool) : Reader Raw := do
  let text := (← get).rest.takeWhile admits
  skip text.length
  return text

/-- Skips backslashes that hide the end of a line. -/
def skipHiddenEnds : (fuel : Nat) → Reader Unit
  | 0 => return
  | fuel + 1 => do
    match (← get).rest with
    | '\\' :: '\n' :: _ => skip 2; nextLine; skipHiddenEnds fuel
    | _ => return

/-- Skips blanks and comments. -/
def skipBlanks : (fuel : Nat) → Reader Unit
  | 0 => return
  | fuel + 1 => do
    match (← get).rest with
    | ' ' :: _ | '\t' :: _ => skip 1; skipBlanks fuel
    | '\\' :: '\n' :: _ => skip 2; nextLine; skipBlanks fuel
    | '#' :: _ => discard <| takeWhile (· ≠ '\n')
    | _ => return

/-- Reads up to a closing single quote. The opening one is behind us. -/
def singleQuoted : Reader Raw := do
  let text ← takeWhile (· ≠ '\'')
  modify fun source => { source with line := source.line + text.count '\n' }
  if (← peek?).isNone then fault .openQuote
  else
    skip 1
    return text

/-- Reads up to a closing backquote; backslashes are taken off before backquotes, dollar
signs and backslashes. The opening one is behind us. -/
def backquoted (quoted : Bool) : (fuel : Nat) → Reader Raw
  | 0 => fault .openBackquote
  | fuel + 1 => do
    match (← get).rest with
    | [] => fault .openBackquote
    | '\\' :: c :: _ =>
      skip 2
      if c = '\\' || c = '$' || c = backquote || (quoted && c = '"') then
        return c :: (← backquoted quoted fuel)
      else return '\\' :: c :: (← backquoted quoted fuel)
    | c :: _ =>
      skip 1
      if c = backquote then return []
      else
        if c = '\n' then nextLine
        return c :: (← backquoted quoted fuel)

/-- Takes the lines up to the one that closes a here-document out of what is left, from
behind the current line on. -/
def hereLines (stripTabs : Bool) (closing : Raw) : Reader Raw := do
  let source ← get
  let current := source.rest.takeWhile (· ≠ '\n')
  let (body, behind, count) :=
    go (source.rest.length + 1) (source.rest.drop (current.length + 1))
  set { source with rest := current ++ '\n' :: behind, skipped := source.skipped + count }
  return body
where
  /-- The body, what is left behind it, and the number of the lines taken. -/
  go : Nat → Raw → Raw × Raw × Nat
    | 0, rest => ([], rest, 0)
    | _, [] => ([], [], 0)
    | fuel + 1, rest =>
      let whole := rest.takeWhile (· ≠ '\n')
      let line := if stripTabs then whole.dropWhile (· = '\t') else whole
      let behind := rest.drop (whole.length + 1)
      if line = closing then ([], behind, 1)
      else
        let (body, last, count) := go fuel behind
        let ending := if whole.length < rest.length then ['\n'] else []
        (line ++ ending ++ body, last, count + 1)

/-- The text of a word without its quotes, and whether it had any. -/
def closingWord (word : Word) : Raw × Bool :=
  word.foldr (fun piece (text, quoted) =>
    match piece with
    | .text isQuoted content => (content ++ text, quoted || isQuoted)
    | _ => (text, quoted)) ([], false)

/-- Whether a piece stands for all arguments, each as a field of its own. -/
def isArguments : Piece → Bool
  | .parameter _ ['@'] _ => true
  | _ => false

/-- The first sign that stands here. -/
def sign? (signs : List String) : Reader (Option String) := do
  let rest := (← get).rest
  return signs.find? fun sign => sign.toList.isPrefixOf rest

/-- Reads the name of a parameter; no name is empty. -/
def parameterName : Reader Raw := do
  match ← peek? with
  | some c =>
    if isNameStart c then takeWhile isNameChar
    else if c.isDigit then takeWhile Char.isDigit
    else if "$?#@*!-".toList.contains c then
      skip 1
      return [c]
    else return []
  | none => return []

mutual

/-- Reads pieces up to the end that belongs to their place. `depth` counts the open
parentheses of an expression. -/
def pieces : (fuel : Nat) → Place → (depth : Nat) → Reader Word
  | 0, _, _ => fault .openQuote
  | fuel + 1, place, depth => do
    let quoted := place.isQuoted
    let literal (text : Raw) : Reader Word :=
      return join (.text quoted text) (← pieces fuel place depth)
    match (← get).rest with
    | [] =>
      match place with
      | .word | .hereDocument => return []
      | .doubleQuoted | .braces true | .quotedInBraces => fault .openQuote
      | .braces false => fault (.missing "\x7d")
      | .arithmetic => fault (.missing "))")
    | c :: rest =>
      if c = '\\' then
        match rest with
        | [] => skip 1; literal ['\\']
        | '\n' :: _ => skip 2; nextLine; pieces fuel place depth
        | d :: _ =>
          skip 2
          let escaped : Bool := !quoted || d = '\\' || d = '$' || d = backquote ||
            (d = '"' && place ≠ .hereDocument) ||
            (d = '\x7d' && (place = .braces true || place = .quotedInBraces))
          if escaped then return join (.text true [d]) (← pieces fuel place depth)
          else literal ['\\', d]
      else if c = '$' then
        skip 1
        let piece ← dollar fuel quoted
        return join piece (← pieces fuel place depth)
      else if c = backquote then
        skip 1
        let text ← backquoted quoted (rest.length + 1)
        match (list fuel true).run { rest := text } with
        | .error error => throw error
        | .ok (script, _) => return join (.output quoted script) (← pieces fuel place depth)
      else if c = '\'' && !quoted then
        skip 1
        let text ← singleQuoted
        return join (.text true text) (← pieces fuel place depth)
      else if c = '"' && place ≠ .hereDocument then
        skip 1
        match place with
        | .doubleQuoted => return []
        | .arithmetic => literal [c]
        | .braces true => pieces fuel .quotedInBraces depth
        | .quotedInBraces => pieces fuel (.braces true) depth
        | _ =>
          let inner ← pieces fuel .doubleQuoted 0
          let marked := if inner.any isArguments then inner else join (.text true []) inner
          return marked.foldr join (← pieces fuel place depth)
      else if place = .word && isMeta c then return []
      else
        skip 1
        if c = '\n' then nextLine
        match place with
        | .braces _ => if c = '\x7d' then return [] else literal [c]
        | .arithmetic =>
          if c = '(' then return join (.text true [c]) (← pieces fuel place (depth + 1))
          else if c = ')' then
            if depth ≠ 0 then return join (.text true [c]) (← pieces fuel place (depth - 1))
            else if (← peek?) = some ')' then
              skip 1
              return []
            else literal [c]
          else literal [c]
        | _ => literal [c]

/-- Reads what a dollar sign puts in. The sign is behind us. -/
def dollar : (fuel : Nat) → (quoted : Bool) → Reader Piece
  | 0, _ => fault .openQuote
  | fuel + 1, quoted => do
    skipHiddenEnds fuel
    match (← get).rest with
    | '(' :: '(' :: _ =>
      skip 2
      return .arithmetic quoted (← pieces fuel .arithmetic 0)
    | '(' :: _ =>
      skip 1
      let script ← list fuel true
      expect fuel (.sign ")")
      return .output quoted script
    | '\x7b' :: _ => skip 1; braced fuel quoted
    | c :: _ =>
      if isNameStart c then return .parameter quoted (← takeWhile isNameChar) .value
      else if c.isDigit || "$?#@*!-".toList.contains c then
        skip 1
        return .parameter quoted [c] .value
      else return .text quoted ['$']
    | [] => return .text quoted ['$']

/-- Reads a parameter in braces. The opening brace is behind us. -/
def braced : (fuel : Nat) → (quoted : Bool) → Reader Piece
  | 0, _ => fault (.missing "\x7d")
  | fuel + 1, quoted => do
    match (← get).rest with
    | '#' :: c :: d :: _ =>
      if c ≠ '\x7d' && (isNameChar c || d = '\x7d') then
        skip 1
        let name ← parameterName
        if !name.isEmpty && (← peek?) = some '\x7d' then
          skip 1
          return .parameter quoted name .length
        else bad fuel quoted
      else parameterUse fuel quoted (← parameterName)
    | _ => parameterUse fuel quoted (← parameterName)

/-- Reads what becomes of the value, up to the closing brace. -/
def parameterUse : (fuel : Nat) → (quoted : Bool) → (name : Raw) → Reader Piece
  | 0, _, _ => fault (.missing "\x7d")
  | fuel + 1, quoted, name => do
    if name.isEmpty then
      if (← peek?) ≠ some '\x7d' then skip 1
      bad fuel quoted
    else
      let word (count : Nat) (use : Word → ParameterUse) : Reader Piece := do
        skip count
        return .parameter quoted name (use (← pieces fuel (.braces quoted) 0))
      let pattern (count : Nat) (use : Word → ParameterUse) : Reader Piece := do
        skip count
        return .parameter quoted name (use (← pieces fuel (.braces false) 0))
      match (← get).rest with
      | '\x7d' :: _ =>
        skip 1
        return .parameter quoted name .value
      | ':' :: '-' :: _ => word 2 (.default .unsetOrEmpty)
      | ':' :: '=' :: _ => word 2 (.assign .unsetOrEmpty)
      | ':' :: '?' :: _ => word 2 (.fail .unsetOrEmpty)
      | ':' :: '+' :: _ => word 2 (.instead .unsetOrEmpty)
      | '-' :: _ => word 1 (.default .unset)
      | '=' :: _ => word 1 (.assign .unset)
      | '?' :: _ => word 1 (.fail .unset)
      | '+' :: _ => word 1 (.instead .unset)
      | '#' :: '#' :: _ => pattern 2 (.dropStart true)
      | '#' :: _ => pattern 1 (.dropStart false)
      | '%' :: '%' :: _ => pattern 2 (.dropEnd true)
      | '%' :: _ => pattern 1 (.dropEnd false)
      | ':' :: _ => skip 2; bad fuel quoted
      | _ => skip 1; bad fuel quoted

/-- Reads what no parameter in braces can be, up to the closing brace. -/
def bad : (fuel : Nat) → (quoted : Bool) → Reader Piece
  | 0, _ => fault (.missing "\x7d")
  | fuel + 1, quoted => do
    discard <| pieces fuel (.braces quoted) 0
    return .badSubstitution

/-- Reads a token. -/
def token : (fuel : Nat) → Reader Token
  | 0 => return .endOfText
  | fuel + 1 => do
    let source ← get
    match source.pushed? with
    | some token =>
      set { source with pushed? := none }
      return token
    | none =>
      skipBlanks (source.rest.length + 1)
      match (← get).rest with
      | [] => return .endOfText
      | '\n' :: _ => skip 1; nextLine; return .newline
      | rest =>
        match ← sign? ["&&", "||", ";;", ";", "&", "|", "(", ")"] with
        | some sign => skip sign.length; return .sign sign
        | none =>
          let stream? : Option Nat := match rest with
            | c :: d :: _ =>
              if c.isDigit && (d = '<' || d = '>') then some (c.toNat - 48) else none
            | _ => none
          if stream?.isSome then skip 1
          match ← sign? ["<<-", "<<", "<&", "<>", "<", ">>", ">&", ">|", ">"] with
          | some sign => skip sign.length; return .redirect stream? sign
          | none => return .word (← pieces fuel .word 0)

/-- Reads a token where a command may stand, behind newlines if `skipNewlines`. -/
def commandToken : (fuel : Nat) → (skipNewlines : Bool) → Reader Token
  | 0, _ => return .endOfText
  | fuel + 1, skipNewlines => do
    let token ← token fuel
    match token with
    | .newline => if skipNewlines then commandToken fuel true else return token
    | _ => return token.atCommand

/-- Reads the token that has to come next. -/
def expect : (fuel : Nat) → Token → Reader Unit
  | 0, _ => return
  | fuel + 1, expected => do
    let token ← commandToken fuel false
    if token.name = expected.name then return else unexpected token expected.name

/-- Reads commands up to a token that ends them. There may be none only if `canBeEmpty`. -/
def list : (fuel : Nat) → (canBeEmpty : Bool) → Reader Script
  | 0, _ => return .nothing
  | fuel + 1, canBeEmpty => do
    let token ← commandToken fuel true
    push token
    if token.name = Token.endOfText.name || (canBeEmpty && token.endsList) then return .nothing
    else
      let first ← chain fuel
      let behind ← Reader.token fuel
      match behind with
      | .sign "&" => return .sequence (.background first) (← list fuel true)
      | .sign ";" | .newline => return .sequence first (← list fuel true)
      | _ => push behind; return first

/-- Reads the commands of a line. -/
def line : (fuel : Nat) → Reader Script
  | 0 => return .nothing
  | fuel + 1 => do
    let token ← commandToken fuel false
    match token with
    | .newline => return .nothing
    | .endOfText => push token; return .nothing
    | _ =>
      push token
      let first ← chain fuel
      let behind ← Reader.token fuel
      match behind with
      | .sign "&" => return .sequence (.background first) (← line fuel)
      | .sign ";" => return .sequence first (← line fuel)
      | .newline | .endOfText => push behind; return .sequence first (← line fuel)
      | _ => unexpected behind none

/-- Reads commands joined by success and failure. -/
def chain : (fuel : Nat) → Reader Script
  | 0 => return .nothing
  | fuel + 1 => do joined fuel (← pipeline fuel false)

/-- Reads what is joined to the commands read so far. -/
def joined : (fuel : Nat) → Script → Reader Script
  | 0, first => return first
  | fuel + 1, first => do
    let token ← token fuel
    match token with
    | .sign "&&" => joined fuel (.both first (← pipeline fuel true))
    | .sign "||" => joined fuel (.either first (← pipeline fuel true))
    | _ => push token; return first

/-- Reads commands joined by pipes, with a sign of negation in front. -/
def pipeline : (fuel : Nat) → (skipNewlines : Bool) → Reader Script
  | 0, _ => return .nothing
  | fuel + 1, skipNewlines => do
    let token ← commandToken fuel skipNewlines
    match token with
    | .reserved "!" => return .negate (← piped fuel)
    | _ => push token; piped fuel

/-- Reads a command and those that its output goes to. -/
def piped : (fuel : Nat) → Reader Script
  | 0 => return .nothing
  | fuel + 1 => do
    let first ← command fuel
    let token ← token fuel
    match token with
    | .sign "|" =>
      push (← commandToken fuel true)
      return .pipe first (← piped fuel)
    | _ => push token; return first

/-- Reads one command. -/
def command : (fuel : Nat) → Reader Script
  | 0 => return .nothing
  | fuel + 1 => do
    let token ← commandToken fuel false
    let line := (← get).line
    let finish (closing : Token) (script : Script) : Reader Script := do
      expect fuel closing
      let redirects ← redirects fuel
      return if redirects.isEmpty then script else .redirected line script redirects
    match token with
    | .reserved "if" => finish (.reserved "fi") (← choice fuel)
    | .reserved "while" =>
      let (condition, body) ← loopParts fuel
      finish (.reserved "done") (.loop false condition body)
    | .reserved "until" =>
      let (condition, body) ← loopParts fuel
      finish (.reserved "done") (.loop true condition body)
    | .reserved "for" => finish (.reserved "done") (← forLoop fuel line)
    | .reserved "case" =>
      let subject ← Reader.token fuel
      match subject with
      | .word subject =>
        let opening ← commandToken fuel true
        if opening.name = quotedName "in" then
          finish (.reserved "esac") (.select line subject (← branches fuel))
        else unexpected opening (quotedName "in")
      | _ => unexpected subject "word"
    | .sign "(" => finish (.sign ")") (.subshell line (← list fuel false))
    | .reserved "\x7b" => finish (.reserved "\x7d") (← list fuel false)
    | .word _ | .redirect _ _ =>
      push token
      simple fuel (← get).line [] [] []
    | _ => unexpected token none

/-- Reads a choice behind its first word, up to what ends it. -/
def choice : (fuel : Nat) → Reader Script
  | 0 => return .nothing
  | fuel + 1 => do
    let condition ← list fuel false
    expect fuel (.reserved "then")
    let yes ← list fuel false
    let token ← commandToken fuel false
    match token with
    | .reserved "elif" => return .choice condition yes (← choice fuel)
    | .reserved "else" => return .choice condition yes (← list fuel false)
    | _ => push token; return .choice condition yes .nothing

/-- Reads the condition and the body of a loop. -/
def loopParts : (fuel : Nat) → Reader (Script × Script)
  | 0 => return (.nothing, .nothing)
  | fuel + 1 => do
    let condition ← list fuel false
    expect fuel (.reserved "do")
    return (condition, ← list fuel false)

/-- Reads a loop over words behind its first word. -/
def forLoop : (fuel : Nat) → (line : Nat) → Reader Script
  | 0, _ => return .nothing
  | fuel + 1, line => do
    let name? : Option Raw := match ← token fuel with
      | .word word => (plainText? word).filter isName
      | _ => none
    match name? with
    | none => fault .badLoopVariable
    | some name =>
      let token ← commandToken fuel true
      let words? : Option (List Word) ← match token with
        | .reserved "in" => some <$> words fuel
        | .sign ";" => pure none
        | _ => push token; pure none
      let opening ← commandToken fuel true
      if opening.name = quotedName "do" then return .each line name words? (← list fuel false)
      else unexpected opening (quotedName "do")

/-- Reads the words of a loop to the end of their line. -/
def words : (fuel : Nat) → Reader (List Word)
  | 0 => return []
  | fuel + 1 => do
    let token ← token fuel
    match token with
    | .word word => return word :: (← words fuel)
    | .newline | .sign ";" => return []
    | _ => unexpected token none

/-- Reads the branches of a selection, up to the word that ends it. -/
def branches : (fuel : Nat) → Reader (List (List Word × Script))
  | 0 => return []
  | fuel + 1 => do
    let token ← commandToken fuel true
    match token with
    | .reserved "esac" => push token; return []
    | _ =>
      match token with
      | .sign "(" => pure ()
      | _ => push token
      let alternatives ← alternatives fuel
      let body ← list fuel true
      let token ← commandToken fuel true
      match token with
      | .sign ";;" => return (alternatives, body) :: (← branches fuel)
      | .reserved "esac" => push token; return [(alternatives, body)]
      | _ => unexpected token (quotedName ";;")

/-- Reads the patterns of a branch up to the parenthesis behind them. What is no word is
an empty pattern, and only what follows it can be wrong. -/
def alternatives : (fuel : Nat) → Reader (List Word)
  | 0 => return []
  | fuel + 1 => do
    let token ← token fuel
    let pattern : Word := match token with
      | .word word => word
      | .reserved name => [.text false name.toList]
      | _ => []
    let behind ← Reader.token fuel
    match behind with
    | .sign "|" => return pattern :: (← alternatives fuel)
    | .sign ")" => return [pattern]
    | _ => unexpected behind (quotedName ")")

/-- Reads the redirections behind a command. -/
def redirects : (fuel : Nat) → Reader (List Redirect)
  | 0 => return []
  | fuel + 1 => do
    let token ← commandToken fuel false
    match token with
    | .redirect stream? sign =>
      let first ← redirect fuel stream? sign
      return first :: (← redirects fuel)
    | _ => push token; return []

/-- Reads the target of a redirection. -/
def redirect : (fuel : Nat) → (stream? : Option Nat) → (sign : String) → Reader Redirect
  | 0, _, _ => fault .openQuote
  | fuel + 1, stream?, sign => do
    let token ← token fuel
    match token with
    | .word word =>
      match sign with
      | "<<" | "<<-" =>
        let (closing, quoted) := closingWord word
        let body ← hereLines (sign = "<<-") closing
        if quoted then return .fromText (stream?.getD 0) [.text true body]
        else
          match (pieces fuel .hereDocument 0).run { rest := body, line := (← get).line } with
          | .error error => throw error
          | .ok (content, _) => return .fromText (stream?.getD 0) content
      | "<&" => return .duplicate (stream?.getD 0) word
      | ">&" => return .duplicate (stream?.getD 1) word
      | "<" | "<>" => return .fromFile (stream?.getD 0) word
      | _ => return .toFile (stream?.getD 1) (sign = ">>") word
    | _ => unexpected token none

/-- Reads a simple command, or the definition of a function. -/
def simple : (fuel : Nat) → (line : Nat) → List (Raw × Word) → List Word → List Redirect →
    Reader Script
  | 0, _, _, _, _ => return .nothing
  | fuel + 1, line, assignments, words, redirects => do
    let token ← token fuel
    match token with
    | .word word =>
      match if words.isEmpty then assignment? word else none with
      | some assignment => simple fuel line (assignments ++ [assignment]) words redirects
      | none => simple fuel line assignments (words ++ [word]) redirects
    | .redirect stream? sign =>
      let redirect ← redirect fuel stream? sign
      simple fuel line assignments words (redirects ++ [redirect])
    | .sign "(" =>
      match words, assignments, redirects with
      | [word], [], [] =>
        expect fuel (.sign ")")
        match (plainText? word).filter isName with
        | none => fault .badFunctionName
        | some name =>
          push (← commandToken fuel true)
          return .define name (← command fuel)
      | _, _, _ => push token; return .simple line assignments words redirects
    | _ => push token; return .simple line assignments words redirects

end

/-- Reads the next command of a script; none at its end. -/
def next? : Reader (Option Script) := do
  let fuel := 16 * (← get).rest.length + 64
  let token ← commandToken fuel false
  match token with
  | .endOfText => return none
  | .newline => return some .nothing
  | _ =>
    push token
    return some (← line fuel)

end Reader
end DiagramEditor.Shell
