import DiagramEditor.Programs.Pattern
import DiagramEditor.Programs.Tools.Basic

/-! Fields: what words become when all that has to be put in is put in. Only what was put in
without quotes is cut at the separators; separators that are blanks count once however
many there are, each other one ends a field. -/
namespace DiagramEditor.Shell

/-- A part of a word that is expanded. -/
inductive Item where
  /-- A character; `splits` if it was put in and is not quoted. -/
  | char (glyph : Glyph) (splits : Bool)
  /-- Quotes without anything between them: the field exists. -/
  | mark
  /-- The place between two arguments. -/
  | gap
deriving DecidableEq, Repr

namespace Item

def ofText (quoted splits : Bool) (text : Raw) : List Item :=
  if text.isEmpty && quoted then [.mark] else text.map fun c => .char ⟨c, quoted⟩ splits

/-- The text of items; arguments are parted by blanks. -/
def text (items : List Item) : Raw :=
  items.filterMap fun item =>
    match item with
    | .char glyph _ => some glyph.char
    | .mark => none
    | .gap => some ' '

/-- The characters of items, for a pattern. -/
def glyphs (items : List Item) : List Glyph :=
  items.filterMap fun item =>
    match item with
    | .char glyph _ => some glyph
    | .mark => none
    | .gap => some ⟨' ', false⟩

end Item

def isBlank (c : Char) : Bool := c = ' ' || c = '\t' || c = '\n'

/-- Fields that are being put together, the newest first. The open one is none between
fields; `afterBlank` if a blank has ended the last one and no other separator came. -/
structure Fields where
  done : List (List Glyph) := []
  open? : Option (List Glyph) := none
  afterBlank : Bool := false

namespace Fields

def close (fields : Fields) : Fields :=
  match fields.open? with
  | some field => { done := field.reverse :: fields.done, afterBlank := true }
  | none => fields

def add (separators : List Char) (fields : Fields) (item : Item) : Fields :=
  match item with
  | .mark => { fields with open? := some (fields.open?.getD []), afterBlank := false }
  | .gap => { fields.close with afterBlank := false }
  | .char glyph splits =>
    if splits && separators.contains glyph.char then
      if isBlank glyph.char then fields.close
      else if fields.open?.isSome then { fields.close with afterBlank := false }
      else if fields.afterBlank then { fields with afterBlank := false }
      else { fields with done := [] :: fields.done }
    else { fields with open? := some (glyph :: fields.open?.getD []), afterBlank := false }

/-- Cuts items into fields. -/
def split (separators : List Char) (items : List Item) : List (List Glyph) :=
  (items.foldl (add separators) {}).close.done.reverse

end Fields

/-- Whether an item is one of the separators. -/
def Item.separates (separators : List Char) : Item → Bool
  | .char glyph splits => splits && separators.contains glyph.char
  | _ => false

/-- Whether an item is one of the separators and a blank. -/
def Item.isBlank (separators : List Char) : Item → Bool
  | .char glyph splits =>
    splits && separators.contains glyph.char && Shell.isBlank glyph.char
  | _ => false

/-- What stands behind the separators at the start: blanks, and at most one other one. -/
def dropSeparator (separators : List Char) (items : List Item) : List Item :=
  let rest := items.dropWhile (·.isBlank separators)
  if rest.head?.any (·.separates separators) then
    rest.tail.dropWhile (·.isBlank separators)
  else rest

/-- What `read` gives to its names: a field each, and to the last one all that is left,
without the separators behind it. -/
def readFields (separators : List Char) : (count : Nat) → List Item → List Raw
  | 0, _ => []
  | count + 1, items =>
    let start := items.dropWhile (·.isBlank separators)
    let field := start.takeWhile (!·.separates separators)
    let behind := dropSeparator separators (start.drop field.length)
    if count = 0 && !behind.isEmpty then
      [Item.text (start.reverse.dropWhile (·.isBlank separators)).reverse]
    else Item.text field :: readFields separators count behind

/-- Cuts the glyphs of a path at its slashes. -/
def splitPath (glyphs : List Glyph) : List (List Glyph) :=
  glyphs.foldr (fun glyph parts =>
    if glyph.char = '/' then [] :: parts
    else
      match parts with
      | part :: rest => (glyph :: part) :: rest
      | [] => [[glyph]]) [[]]

/-- The paths that a pattern stands for, name by name; `done` is the path so far, with the
slash behind it. -/
def pathsFrom (files : FileSystem) (done : Raw) : List (List Glyph) → List Raw
  | [] => [done]
  | part :: rest =>
    let ending : Raw := if rest.isEmpty then [] else ['/']
    if part.any Pattern.isSpecial then
      let pattern := Pattern.ofGlyphs part
      let directory := if done.isEmpty then "." else done.readable
      let names := match files.locate directory with
        | .ok location => Tools.namesIn files location
        | .error _ => []
      let hidden := part.head?.any fun glyph => glyph.char = '.'
      let admitted := names.filter fun name =>
        (hidden || name.head? ≠ some '.') && pattern.isMatch name
      admitted.flatMap fun name => pathsFrom files (done ++ name ++ ending) rest
    else
      let path := done ++ part.map (·.char) ++ ending
      if rest.isEmpty && !files.pathExists path.readable then [] else pathsFrom files path rest

/-- The paths that a field stands for; the field itself if there are none. -/
def paths (files : FileSystem) (field : List Glyph) : List Raw :=
  let found := if field.any Pattern.isSpecial then pathsFrom files [] (splitPath field) else []
  if found.isEmpty then [field.map (·.char)] else found

end DiagramEditor.Shell
