import DiagramEditor.Programs.CharacterSet
import DiagramEditor.Programs.Printf.Escape
import DiagramEditor.Programs.Tools.Basic

/-! Exchanging, dropping and squeezing characters. The sets are written with escapes, ranges
and classes. -/
namespace DiagramEditor.Tools

open Work

namespace Translation

/-- The characters of a set as it is written; those behind a backslash are quoted. -/
def glyphs : (fuel : Nat) → Raw → List Glyph
  | 0, _ | _, [] => []
  | fuel + 1, '\\' :: rest =>
    match Printf.escape {} rest with
    | .ok ([c], behind) => ⟨c, true⟩ :: glyphs fuel behind
    | _ => ⟨'\\', false⟩ :: glyphs fuel rest
  | fuel + 1, c :: rest => ⟨c, false⟩ :: glyphs fuel rest

def allCharacters : List Char := (List.range 256).map Char.ofNat

/-- The characters that a set stands for, or what is wrong with it. -/
def characters : (fuel : Nat) → List Glyph → Except String (List Char)
  | 0, _ | _, [] => .ok []
  | fuel + 1, low :: ⟨'-', false⟩ :: high :: rest =>
    if high.char < low.char then
      .error (s!"range-endpoints of '{low.char}-{high.char}' are in reverse collating " ++
        "sequence order")
    else
      let range := allCharacters.filter fun c => low.char ≤ c && c ≤ high.char
      (characters fuel rest).map (range ++ ·)
  | fuel + 1, ⟨'[', false⟩ :: ⟨':', false⟩ :: rest =>
    match CharacterSet.className? rest with
    | some (name, behind) =>
      (characters fuel behind).map (allCharacters.filter (inCharacterClass name) ++ ·)
    | none => (characters fuel (⟨':', false⟩ :: rest)).map ('[' :: ·)
  | fuel + 1, glyph :: rest => (characters fuel rest).map (glyph.char :: ·)

def read (text : Raw) : Except String (List Char) :=
  let all := glyphs (text.length + 1) text
  characters (all.length + 1) all

/-- What a character becomes. The last target stands for all that are missing. -/
def exchange (sources targets : List Char) (c : Char) : Char :=
  match sources.idxOf? c with
  | some place => targets.getD place (targets.getLastD c)
  | none => c

/-- A text with each run of a character from a set cut down to one. -/
def squeeze (set : List Char) (text : Raw) : Raw :=
  (text.foldl (fun done c =>
    if done.head? = some c && set.contains c then done else c :: done) []).reverse

end Translation

open Translation

def trOptions : KnownOptions where
  flags := "cCds"
  words := [("complement", "c"), ("delete", "d"), ("squeeze-repeats", "s")]
  stopsEarly := true

/-- What is wrong with the number of operands. -/
def operandFault? (deletes squeezes : Bool) (operands : List Raw) : Option String :=
  let least := if deletes = squeezes then 2 else 1
  let most := if deletes && !squeezes then 1 else 2
  match operands, operands[most]? with
  | [], _ => some "missing operand"
  | _, some extra => some s!"extra operand {extra.shellQuoted}"
  | first :: _, none =>
    if operands.length < least then some s!"missing operand after {first.shellQuoted}" else none

def tr : Tool := fun args => do
  let given ← readOptions "tr" 1 trOptions args
  let deletes := given.has "d"
  let squeezes := given.has "s"
  match operandFault? deletes squeezes given.operands with
  | some fault => abortOfUse "tr" fault 1
  | none => pure ()
  let sets : List (List Char) ← given.operands.mapM fun operand => do
    match read operand with
    | .ok set => return set
    | .error fault => abort "tr" fault 1
  let named := sets.headD []
  let complements := given.has "c" || given.has "C"
  let sources := if complements then allCharacters.filter (!named.contains ·) else named
  match ← takeInput, sets[1]? with
  | .error error, _ => fail "tr" s!"read error: {shortMessage error}" 1
  | .ok text, targets? =>
    if deletes then
      let kept := text.filter (!sources.contains ·)
      put (if squeezes then squeeze (targets?.getD []) kept else kept)
    else
      match targets? with
      | some targets =>
        let translated := text.map (exchange sources targets)
        put (if squeezes then squeeze targets translated else translated)
      | none => put (squeeze sources text)

end DiagramEditor.Tools
