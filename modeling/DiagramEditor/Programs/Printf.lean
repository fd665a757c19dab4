import DiagramEditor.Programs.Printf.Floating

/-! Formatted output after the manner of `printf`. The format is used again for as long as
arguments are left, if it takes any; a missing argument is empty or zero. There are two
manners, that of the program and that of the shell, which differ in what they take for a
fault. -/
namespace DiagramEditor.Printf

inductive Manner where
  | program
  | shell
deriving DecidableEq, Repr

def Manner.escapes : Manner → Escapes
  | program => { hex := true, codePoints := true }
  | shell => {}

/-- The numbers that a manner calculates with. -/
def Manner.binary : Manner → Binary
  | program => .extended
  | shell => .double

/-- What is wrong with a use of a format. -/
inductive Fault where
  | notNumber (argument : Raw)
  | notWhole (argument : Raw)
  | outOfRange (argument : Raw)
  | behindCharacter (ignored : Raw)
  | excess (argument : Raw)
  | badWidth (argument : Raw)
  | badPrecision (argument : Raw)
  | badDirective (directive : Raw)
  | noConversion
  | badEscape (fault : EscapeFault)
deriving DecidableEq, Repr

/-- A fault that is no more than mentioned. -/
def Fault.isWarning : Fault → Bool
  | behindCharacter _ | excess _ => true
  | _ => false

/-- A fault that ends all output. -/
def Fault.isFinal : Fault → Bool
  | badWidth _ | badPrecision _ | badDirective _ | noConversion | badEscape _ => true
  | _ => false

/-- How a conversion lays its text out. -/
structure Layout where
  left : Bool := false
  zero : Bool := false
  plus : Bool := false
  blank : Bool := false
  marked : Bool := false
  width : Nat := 0
  precision? : Option Nat := none
deriving DecidableEq, Repr

def Layout.pad (layout : Layout) (text : Raw) : Raw :=
  let fill := layout.width - text.length
  if layout.left then text ++ List.replicate fill ' ' else List.replicate fill ' ' ++ text

/-- As much of a text as the precision allows, filled up to the width. -/
def Layout.text (layout : Layout) (text : Raw) : Raw :=
  layout.pad (match layout.precision? with
    | some precision => text.take precision
    | none => text)

/-- A number with its sign, filled up with zeros to its precision or its width. -/
def Layout.number (layout : Layout) (sign digits : Raw) : Raw :=
  let digits := List.replicate (layout.precision?.getD 0 - digits.length) '0' ++ digits
  if layout.zero && !layout.left && layout.precision?.isNone then
    sign ++ List.replicate (layout.width - sign.length - digits.length) '0' ++ digits
  else layout.pad (sign ++ digits)

/-- The digits of a number. Of zero there are none if the precision is zero. -/
def Layout.digits (layout : Layout) (base value : Nat) : Raw :=
  if value = 0 && layout.precision? = some 0 then [] else Nat.toDigits base value

def Layout.signOf (layout : Layout) (negative : Bool) : Raw :=
  if negative then ['-'] else if layout.plus then ['+'] else if layout.blank then [' '] else []

/-- The text of a number without a sign. A marked one shows its base. -/
def Layout.unsigned (layout : Layout) (conversion : Char) (value : Nat) : Raw :=
  match conversion with
  | 'o' =>
    let digits := layout.digits 8 value
    let padded := List.replicate (layout.precision?.getD 0 - digits.length) '0' ++ digits
    layout.number []
      (if layout.marked && padded.head? ≠ some '0' then '0' :: digits else digits)
  | 'x' => layout.number (if layout.marked && value ≠ 0 then ['0', 'x'] else [])
      (layout.digits 16 value)
  | 'X' => layout.number (if layout.marked && value ≠ 0 then ['0', 'X'] else [])
      ((layout.digits 16 value).map Char.toUpper)
  | _ => layout.number [] (layout.digits 10 value)

/-- The text of a floating-point number. -/
def Layout.floating (layout : Layout) (conversion : Char) (negative : Bool) (value : Floating) :
    Raw :=
  let sign := layout.signOf negative
  let places := layout.precision?.getD 6
  let inCase (text : Raw) : Raw := if conversion.isUpper then text.map Char.toUpper else text
  match value with
  | .infinite => layout.pad (sign ++ inCase ['i', 'n', 'f'])
  | .notNumber => layout.pad (sign ++ inCase ['n', 'a', 'n'])
  | .finite numerator denominator =>
    let text := match conversion.toLower with
      | 'f' => positional places layout.marked (numerator, denominator)
      | 'e' => scientific places layout.marked (numerator, denominator)
      | _ => general places layout.marked (numerator, denominator)
    { layout with precision? := none }.number sign (inCase text)

/-- The code of a character behind a quote, and what is wrong with that. -/
def codeOf? (manner : Manner) (argument : Raw) : Option (Nat × List Fault) :=
  if argument.head? = some '\'' || argument.head? = some '"' then
    some (match manner, argument.tail with
      | .shell, [] => (0, [])
      | .shell, c :: _ => (c.toNat, [])
      | .program, [] => (0, [.notNumber argument])
      | .program, c :: ignored =>
        (c.toNat, if ignored.isEmpty then [] else [.behindCharacter ignored]))
  else none

/-- What is wrong with an argument of which a rest was not understood. -/
def faultsOf (manner : Manner) (argument rest : Raw) (range : Bool) : List Fault :=
  let range := if range then [Fault.outOfRange argument] else []
  let form := if rest.isEmpty then []
    else [if rest = argument then Fault.notNumber argument else Fault.notWhole argument]
  match manner with
  | .program => (range ++ form).take 1
  | .shell => (form ++ range).take 1

/-- The number that an argument stands for in a word, and what is wrong with that. -/
def numberOf (manner : Manner) (word : Word) (argument : Raw) : Int × List Fault :=
  match codeOf? manner argument with
  | some (code, faults) => (code, faults)
  | none =>
    let (value, rest) := integer argument
    (word.ofInt value, faultsOf manner argument rest !word.holds value)

/-- The floating-point number that an argument stands for, whether it is negative, and what is
wrong with it. -/
def floatingOf (manner : Manner) (argument : Raw) : Bool × Floating × List Fault :=
  match codeOf? manner argument with
  | some (code, faults) => (false, .finite code 1, faults)
  | none =>
    let (negative, digits) := splitSign (argument.dropWhile isBlank)
    match manner.binary.read? digits with
    | some (value, range, rest) => (negative, value, faultsOf manner argument rest range)
    | none => (false, .finite 0 1, faultsOf manner argument argument false)

/-- What a format says before the letter of a conversion, and what it leaves. -/
structure Directive where
  flags : Raw
  layout : Layout
  hasPrecision : Bool := false
  faults : List Fault := []
  arguments : List Raw
  rest : Raw

/-- A number of the format: digits, or an asterisk for an argument. The shell keeps half a word
of it. -/
def count (manner : Manner) (rest : Raw) (arguments : List Raw) :
    Int × List Fault × List Raw × Raw :=
  match rest with
  | '*' :: behind =>
    match arguments with
    | [] => (0, [], [], behind)
    | argument :: more =>
      let (value, faults) := numberOf manner .signed argument
      (if manner = .shell then Int.bmod value 0x100000000 else value, faults, more, behind)
  | _ => (digitsValue 10 (rest.takeWhile Char.isDigit), [], arguments, rest.dropWhile Char.isDigit)

/-- The greatest width and precision. -/
def maxCount : Nat := 0x7FFFFFFF

/-- Reads the flags, the width and the precision of a conversion. -/
def readDirective (manner : Manner) (rest : Raw) (arguments : List Raw) : Directive :=
  let isFlag (c : Char) : Bool :=
    "-0+ #".toList.contains c || manner = .program && (c = '\'' || c = 'I')
  let flags := rest.takeWhile isFlag
  let (width, widthFaults, afterWidth, behind) :=
    count manner (rest.dropWhile isFlag) arguments
  let widthFaults := widthFaults ++
    if maxCount < width.natAbs && manner = .program then
      [Fault.badWidth (arguments.headD [])] else []
  let layout : Layout :=
    { left := flags.contains '-' || width < 0, zero := flags.contains '0'
      plus := flags.contains '+', blank := flags.contains ' ', marked := flags.contains '#'
      width := width.natAbs }
  match behind with
  | '.' :: more =>
    let (precision, faults, afterPrecision, behind) := count manner more afterWidth
    let faults := faults ++
      if maxCount < precision && manner = .program then
        [Fault.badPrecision (afterWidth.headD [])] else []
    { flags := flags
      layout := { layout with precision? := if precision < 0 then none else some precision.toNat }
      hasPrecision := true
      faults := widthFaults ++ if widthFaults.any Fault.isFinal then [] else faults
      arguments := afterPrecision
      rest := behind }
  | _ =>
    { flags := flags, layout := layout, faults := widthFaults, arguments := afterWidth
      rest := behind }

/-- Whether there is a conversion of a letter behind such a directive. -/
def Directive.accepts (manner : Manner) (directive : Directive) (conversion : Char) : Bool :=
  let refuses (flag : Char) (conversions : String) : Bool :=
    directive.flags.contains flag && conversions.toList.contains conversion
  match manner with
  | .shell => "scbdiuoxXfFeEgG".toList.contains conversion
  | .program =>
    "scdiuoxXfFeEgG".toList.contains conversion && !refuses '#' "cdisu" && !refuses '0' "cs" &&
      !refuses '\'' "cosxXeE" && !refuses 'I' "cosxXeE" &&
      !(directive.hasPrecision && conversion = 'c')

/-- What one use of the format writes. -/
structure Pass where
  output : Raw := []
  faults : List Fault := []
  arguments : List Raw := []
  ending? : Option Ending := none

/-- A pass that goes on with another one, unless it has ended all output. -/
def Pass.andThen (pass next : Pass) : Pass :=
  if pass.ending?.isSome then pass
  else { next with output := pass.output ++ next.output, faults := pass.faults ++ next.faults }

/-- The end of all output by a fault. -/
def Pass.failed (fault : Fault) : Pass := { faults := [fault], ending? := some .complete }

/-- The text of a conversion with its faults, and how it ends. -/
def convert (manner : Manner) (layout : Layout) (conversion : Char) (argument : Raw) : Pass :=
  match conversion with
  | 's' => { output := layout.text argument }
  | 'c' => { output := layout.pad [argument.headD '\x00'] }
  | 'b' =>
    let (text, ending) := unescape manner.escapes (argument.length + 1) argument
    { output := layout.text text
      faults := match ending with
        | .faulty fault => [.badEscape fault]
        | _ => []
      ending? := if ending = .complete then none else some ending }
  | 'd' | 'i' =>
    let (value, faults) := numberOf manner .signed argument
    { output := layout.number (layout.signOf (value < 0)) (layout.digits 10 value.natAbs)
      faults := faults }
  | 'f' | 'F' | 'e' | 'E' | 'g' | 'G' =>
    let (negative, value, faults) := floatingOf manner argument
    { output := layout.floating conversion negative value, faults := faults }
  | _ =>
    let (value, faults) := numberOf manner .unsigned argument
    { output := layout.unsigned conversion value.natAbs, faults := faults }

/-- Uses the format once. -/
def formatOnce (manner : Manner) : (fuel : Nat) → Raw → List Raw → Pass
  | 0, _, arguments => { arguments := arguments }
  | _, [], arguments => { arguments := arguments }
  | fuel + 1, '\\' :: rest, arguments =>
    if manner = .program && rest.head? = some 'c' then { ending? := some .stopped }
    else
      match escape manner.escapes rest with
      | .error fault => .failed (.badEscape fault)
      | .ok (text, behind) =>
        Pass.andThen { output := text } (formatOnce manner fuel behind arguments)
  | fuel + 1, '%' :: '%' :: rest, arguments =>
    Pass.andThen { output := ['%'] } (formatOnce manner fuel rest arguments)
  | fuel + 1, '%' :: rest, arguments =>
    if manner = .program && rest.head? = some 'b' then
      (convert manner {} 'b' (arguments.headD [])).andThen
        (formatOnce manner fuel rest.tail arguments.tail)
    else
      let directive := readDirective manner rest arguments
      let isModifier (c : Char) : Bool := manner = .program && "lLhjtz".toList.contains c
      let left := directive.rest.dropWhile isModifier
      let text := '%' :: rest.take (rest.length - left.length + 1)
      let pass : Pass := { faults := directive.faults }
      if directive.faults.any Fault.isFinal then { pass with ending? := some .complete }
      else
        match left with
        | [] =>
          let fault := if manner = .program then Fault.badDirective text else .noConversion
          pass.andThen (.failed fault)
        | conversion :: behind =>
          if directive.accepts manner conversion then
            (pass.andThen
              (convert manner directive.layout conversion (directive.arguments.headD []))).andThen
                (formatOnce manner fuel behind directive.arguments.tail)
          else pass.andThen (.failed (.badDirective text))
  | fuel + 1, c :: rest, arguments =>
    Pass.andThen { output := [c] } (formatOnce manner fuel rest arguments)

/-- All that a format writes for its arguments, what is wrong with them, and whether an escape
ended it. -/
def format (manner : Manner) (text : Raw) (arguments : List Raw) : Raw × List Fault × Bool :=
  go (arguments.length + 1) arguments
where
  /-- Uses the format once more, as long as that takes arguments. -/
  go : Nat → List Raw → Raw × List Fault × Bool
    | 0, _ => ([], [], false)
    | fuel + 1, arguments =>
      let pass := formatOnce manner (text.length + 1) text arguments
      if pass.ending?.isSome || pass.arguments.isEmpty then
        (pass.output, pass.faults, pass.ending? = some .stopped)
      else if pass.arguments.length = arguments.length then
        (pass.output,
          pass.faults ++ if manner = .program then (arguments.take 1).map .excess else [], false)
      else
        let (output, faults, stopped) := go fuel pass.arguments
        (pass.output ++ output, pass.faults ++ faults, stopped)

end DiagramEditor.Printf
