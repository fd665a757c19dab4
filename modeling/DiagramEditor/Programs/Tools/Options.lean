import DiagramEditor.Programs.Raw

/-! The arguments of programs: options by a letter or a word, some of them with a value, and
operands. Letters can be written in clusters, words can be cut short. -/
namespace DiagramEditor.Tools

/-- The options that were given, each with its value if it takes one, and the operands. A fault
is the first thing that is wrong with them. -/
structure Options where
  given : List (String × Raw) := []
  operands : List Raw := []
  fault? : Option String := none

namespace Options

def has (options : Options) (key : String) : Bool := (options.given.lookup key).isSome

/-- The options with others behind them. -/
def andThen (options others : Options) : Options :=
  { given := options.given ++ others.given
    operands := options.operands ++ others.operands
    fault? := options.fault? <|> others.fault? }

end Options

/-- The options that a program knows. The key of one is its letter. -/
structure KnownOptions where
  /-- Letters that stand alone. -/
  flags : String := ""
  /-- Letters behind which a value stands. -/
  valued : String := ""
  /-- Words and the letters that they stand for. -/
  words : List (String × String) := []
  /-- Whether the first operand ends the options. -/
  stopsEarly : Bool := false

namespace KnownOptions

/-- Reads the options of a cluster, and what is left of the arguments. -/
def readCluster (known : KnownOptions) : Raw → List Raw → Options × List Raw
  | [], rest => ({}, rest)
  | c :: more, rest =>
    let key := c.toString
    if known.valued.toList.contains c then
      match more, rest with
      | _ :: _, rest => ({ given := [(key, more)] }, rest)
      | [], value :: rest => ({ given := [(key, value)] }, rest)
      | [], [] => ({ fault? := some s!"option requires an argument -- '{key}'" }, [])
    else if known.flags.toList.contains c then
      let (others, behind) := known.readCluster more rest
      (Options.andThen { given := [(key, [])] } others, behind)
    else ({ fault? := some s!"invalid option -- '{key}'" }, rest)

/-- Reads an option by its word, or the beginning of one. -/
def readWord (known : KnownOptions) (argument : Raw) (rest : List Raw) : Options × List Raw :=
  let name := argument.takeWhile (· ≠ '=')
  let value := argument.drop (name.length + 1)
  let hasValue := name.length < argument.length
  let fits := known.words.filter fun (word, _) => name.isPrefixOf word.toList
  let failed (text : String) : Options × List Raw := ({ fault? := some text }, rest)
  match fits, rest with
  | [], _ => failed s!"unrecognized option '--{argument.readable}'"
  | (word, key) :: others, rest =>
    if others.any (·.2 ≠ key) then failed s!"option '--{argument.readable}' is ambiguous"
    else if !known.valued.toList.any (·.toString = key) then
      if hasValue then failed s!"option '--{word}' doesn't allow an argument"
      else ({ given := [(key, [])] }, rest)
    else if hasValue then ({ given := [(key, value)] }, rest)
    else
      match rest with
      | next :: rest => ({ given := [(key, next)] }, rest)
      | [] => failed s!"option '--{word}' requires an argument"

/-- Reads the arguments of a program. Behind a double dash there are only operands. -/
def read (known : KnownOptions) (args : List Raw) : Options :=
  go (args.length + 1) args
where
  go : Nat → List Raw → Options
    | 0, _ => {}
    | _, [] => {}
    | fuel + 1, argument :: rest =>
      match argument with
      | ['-', '-'] => { operands := rest }
      | '-' :: '-' :: word =>
        let (options, behind) := known.readWord word rest
        options.andThen (go fuel behind)
      | '-' :: c :: more =>
        let (options, behind) := known.readCluster (c :: more) rest
        options.andThen (go fuel behind)
      | _ =>
        if known.stopsEarly then { operands := argument :: rest }
        else Options.andThen { operands := [argument] } (go fuel rest)

end KnownOptions
end DiagramEditor.Tools
