import DiagramEditor.Proofs.Host.FileSystem
import DiagramEditor.Proofs.Host.Path

/-! Files beside a path. Where a sibling of a path names a place for a file, the path leads
elsewhere, and what happens at that place alone does not change where the path leads or what it
finds there. -/
namespace DiagramEditor.FileSystem

variable {fs behind : FileSystem} {location directory : Location} {path sibling : Path}
  {name : String} {rest : List String}

/-- What is left of a path behind a directory does not meet the given name in it. -/
theorem walk_of_leadsAside (aside : Path.LeadsAside name rest)
    (holds : fs.lookup? directory = some .directory)
    (same : behind.erase (directory ++ [name]) = fs.erase (directory ++ [name])) :
    behind.walk directory rest = fs.walk directory rest ∧
      fs.walk directory rest ≠ .ok (directory ++ [name]) := by
  have deeper : directory ≠ directory ++ [name] := by simp
  have holds' : behind.lookup? directory = some .directory := by
    rw [lookup?_of_erase_eq same deeper, holds]
  cases aside with
  | nowhere idle =>
    rw [walk_of_idle idle holds, walk_of_idle idle holds']
    exact ⟨rfl, fun met => deeper (Except.ok.inj met)⟩
  | @aside gap tail own before after busy down apart =>
    -- Only `own` leads on from the directory, and what is there is not at stake.
    rw [walk_append_of_ok (walk_of_idle before holds),
      walk_append_of_ok (walk_of_idle before holds'), walk_cons holds, walk_cons holds', entered?,
      busy, if_neg Bool.false_ne_true, if_neg down]
    split
    · rename_i next enters
      split at enters
      · cases enters
      · obtain rfl : directory ++ [own] = next := Option.some.inj enters
        have beside : directory ++ [own] ≠ directory ++ [name] := by simpa using apart
        refine ⟨walk_idle_congr after (lookup?_of_erase_eq same beside), fun met => ?_⟩
        exact beside (eq_of_walk_idle after met).symm
    · refine ⟨rfl, fun met => ?_⟩
      cases met

/-- The place that a sibling names is none to which the path leads, or on its way there. -/
theorem locate_of_isSibling (beside : path.IsSibling sibling name)
    (place : fs.FilePlace sibling location) (same : behind.erase location = fs.erase location) :
    behind.locate path = fs.locate path ∧ fs.locate path ≠ .ok location := by
  obtain ⟨origin, way, rest, goes, row, aside⟩ := beside
  obtain ⟨-, way', directory, last, goes', there, holds, -, -, rfl⟩ :=
    locateTarget_eq_entry.mp place.found
  obtain ⟨rfl, rfl⟩ : way' = way ∧ last = name :=
    List.append_singleton_inj.mp (goes'.symm.trans goes)
  have kept := keepsDirectories_of_erase_eq same place.noDirectory
  have start : fs.origin sibling = fs.origin path := by
    rw [FileSystem.origin, FileSystem.origin, origin]
  have start' : behind.origin path = fs.origin path := by
    rw [FileSystem.origin, FileSystem.origin, kept.workingDirectory]
  rw [start] at there
  rw [locate, locate]
  cases checkPath path with
  | error error =>
    refine ⟨rfl, fun met => ?_⟩
    cases met
  | ok =>
    simp only [start', row, walk_append_of_ok there,
      walk_append_of_ok (walk_of_keepsDirectories kept there)]
    exact walk_of_leadsAside aside holds same

theorem stat_of_isSibling (beside : path.IsSibling sibling name)
    (place : fs.FilePlace sibling location) (same : behind.erase location = fs.erase location) :
    behind.stat path = fs.stat path := by
  obtain ⟨alike, elsewhere⟩ := locate_of_isSibling beside place same
  rw [stat, stat, alike]
  cases leads : fs.locate path with
  | error error => rfl
  | ok found =>
    have apart : found ≠ location := fun met => elsewhere (met ▸ leads)
    simp only [lookup?_of_erase_eq same apart]

end DiagramEditor.FileSystem
