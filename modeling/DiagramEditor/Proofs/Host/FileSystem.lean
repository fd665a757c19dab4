import DiagramEditor.Host.FileSystem

/-! What the calls on a file system do. An entry that is put in place is found there, and
every other location is as it was. A path is followed through directories only; so it leads
to the same location wherever these are kept. Files are written, moved and removed at places that
hold no directory, so these calls keep them all. -/
namespace DiagramEditor.FileSystem

variable {fs behind written moved : FileSystem} {location other start : Location}
  {entry : Entry} {name last : String} {front back : List String} {path source target : Path}
  {content : Bytes}

section Entries

variable {entries : List (Location × Entry)}

theorem lookup_filter_location (keep : Location → Bool) :
    (entries.filter fun old => keep old.1).lookup other =
      if keep other then entries.lookup other else none := by
  induction entries with
  | nil => simp
  | cons old more ih =>
    obtain ⟨key, value⟩ := old
    rw [List.filter_cons, List.lookup_cons]
    by_cases same : other = key
    · subst same
      cases kept : keep other <;> simp [ih, kept]
    · have missed : (other == key) = false := beq_eq_false_iff_ne.mpr same
      cases keep key <;> simp [List.lookup_cons, missed, ih]

theorem lookup_overwrite_self (present : (entries.lookup location).isSome) :
    (entries.map fun old => if old.1 = location then (location, entry) else old).lookup location =
      some entry := by
  induction entries with
  | nil => exact absurd present nofun
  | cons old more ih =>
    obtain ⟨key, value⟩ := old
    rw [List.map_cons]
    by_cases same : key = location
    · rw [if_pos same, List.lookup_cons_self]
    · have missed : (location == key) = false := beq_eq_false_iff_ne.mpr (Ne.symm same)
      rw [List.lookup_cons, missed] at present
      rw [if_neg same, List.lookup_cons, missed]
      exact ih present

theorem lookup_overwrite_of_ne (apart : other ≠ location) :
    (entries.map fun old => if old.1 = location then (location, entry) else old).lookup other =
      entries.lookup other := by
  induction entries with
  | nil => rfl
  | cons old more ih =>
    obtain ⟨key, value⟩ := old
    rw [List.map_cons]
    by_cases same : key = location
    · have missed : (other == location) = false := beq_eq_false_iff_ne.mpr apart
      rw [if_pos same, same, List.lookup_cons, List.lookup_cons, missed]
      exact ih
    · rw [if_neg same, List.lookup_cons, List.lookup_cons, ih]

theorem overwrite_overwrite {old : Entry} :
    ((entries.map fun held => if held.1 = location then (location, old) else held).map
      fun held => if held.1 = location then (location, entry) else held) =
      entries.map fun held => if held.1 = location then (location, entry) else held := by
  rw [List.map_map]
  refine List.map_congr_left fun held _ => ?_
  by_cases same : held.1 = location <;> simp [same]

theorem overwrite_of_lookup_eq_none (absent : entries.lookup location = none) :
    (entries.map fun held => if held.1 = location then (location, entry) else held) = entries := by
  refine (List.map_congr_left fun held member => ?_).trans (List.map_id entries)
  have apart := List.lookup_eq_none_iff.mp absent held member
  rw [if_neg (by simpa using Ne.symm (by simpa using apart)), id]

theorem filter_overwrite :
    (entries.map fun held => if held.1 = location then (location, entry) else held).filter
      (·.1 ≠ location) = entries.filter (·.1 ≠ location) := by
  induction entries with
  | nil => rfl
  | cons held more ih =>
    rw [List.map_cons, List.filter_cons, List.filter_cons, ih]
    by_cases same : held.1 = location <;> simp [same]

end Entries

theorem lookup?_put_self (inside : location ≠ []) :
    (fs.put location entry).lookup? location = some entry := by
  have below : location.isEmpty = false := by simpa using inside
  rw [lookup?, below, if_neg Bool.false_ne_true, put]
  by_cases present : (fs.entries.lookup location).isSome
  · rw [if_pos present]
    exact lookup_overwrite_self present
  · rw [if_neg present, List.lookup_append, Option.not_isSome_iff_eq_none.mp present]
    exact List.lookup_cons_self

theorem lookup?_put_of_ne (apart : other ≠ location) :
    (fs.put location entry).lookup? other = fs.lookup? other := by
  have missed : (other == location) = false := beq_eq_false_iff_ne.mpr apart
  simp only [lookup?, put]
  split
  · rfl
  · split
    · exact lookup_overwrite_of_ne apart
    · simp [List.lookup_append, List.lookup_cons, missed]

theorem lookup?_erase_of_ne (apart : other ≠ location) :
    (fs.erase location).lookup? other = fs.lookup? other := by
  have kept : (fs.entries.filter (·.1 ≠ location)).lookup other = fs.entries.lookup other := by
    rw [lookup_filter_location (· ≠ location), if_pos (by simpa using apart)]
  simp only [lookup?, erase, kept]

theorem lookup?_erase_self (inside : location ≠ []) :
    (fs.erase location).lookup? location = none := by
  have below : location.isEmpty = false := by simpa using inside
  rw [lookup?, below, if_neg Bool.false_ne_true, erase,
    lookup_filter_location (· ≠ location)]
  simp

theorem erase_of_lookup?_eq_none (absent : fs.lookup? location = none) :
    fs.erase location = fs := by
  have missed : fs.entries.lookup location = none := by
    rw [lookup?] at absent
    split at absent
    · cases absent
    · exact absent
  have kept : fs.entries.filter (·.1 ≠ location) = fs.entries := by
    refine List.filter_eq_self.mpr fun old member => ?_
    have other := List.lookup_eq_none_iff.mp missed old member
    simpa using Ne.symm (by simpa using other)
  rw [erase, kept]

@[simp] theorem erase_put : (fs.put location entry).erase location = fs.erase location := by
  simp only [erase, put]
  congr 1
  split
  · exact filter_overwrite
  · simp

@[simp] theorem erase_erase : (fs.erase location).erase location = fs.erase location := by
  simp only [erase, List.filter_filter, Bool.and_self]

@[simp] theorem put_put {old : Entry} :
    (fs.put location old).put location entry = fs.put location entry := by
  by_cases present : (fs.entries.lookup location).isSome
  · have again : ((fs.entries.map fun held =>
        if held.1 = location then (location, old) else held).lookup location).isSome := by
      rw [lookup_overwrite_self present, Option.isSome_some]
    simp only [put, if_pos present, if_pos again, overwrite_overwrite]
  · have absent := Option.not_isSome_iff_eq_none.mp present
    have again : ((fs.entries ++ [(location, old)]).lookup location).isSome := by
      rw [List.lookup_append, absent, Option.none_or, List.lookup_cons_self, Option.isSome_some]
    simp only [put, if_neg present, if_pos again, List.map_append,
      overwrite_of_lookup_eq_none absent, List.map_singleton, if_true]

theorem lookup?_of_erase_eq (same : behind.erase location = fs.erase location)
    (apart : other ≠ location) : behind.lookup? other = fs.lookup? other := by
  rw [← lookup?_erase_of_ne apart, same, lookup?_erase_of_ne apart]

section Walk

/-- Where a name leads from a directory. -/
def entered? (start : Location) (name : String) : Option Location :=
  if Path.isIdle name then some start
  else if name = ".." then some start.dropLast
  else if maxNameSize < name.utf8ByteSize then none
  else some (start ++ [name])

theorem walk_cons {more : List String} (directory : fs.lookup? start = some .directory) :
    fs.walk start (name :: more) =
      match entered? start name with
      | some next => fs.walk next more
      | none => .error .nameTooLong := by
  rw [walk, directory, entered?]
  grind

theorem walk_cons_eq_ok {more : List String} :
    fs.walk start (name :: more) = .ok location ↔
      fs.lookup? start = some .directory ∧
        ∃ next, entered? start name = some next ∧ fs.walk next more = .ok location := by
  by_cases directory : fs.lookup? start = some .directory
  · rw [walk_cons directory]
    grind
  · rw [walk]
    grind

theorem walk_append_eq_ok :
    fs.walk start (front ++ back) = .ok location ↔
      ∃ middle, fs.walk start front = .ok middle ∧ fs.walk middle back = .ok location := by
  induction front generalizing start with
  | nil => simp [walk]
  | cons name more ih =>
    rw [List.cons_append, walk_cons_eq_ok]
    simp only [ih, walk_cons_eq_ok]
    grind

theorem walk_append_of_ok (leads : fs.walk start front = .ok location) :
    fs.walk start (front ++ back) = fs.walk location back := by
  induction front generalizing start with
  | nil =>
    obtain rfl : start = location := Except.ok.inj leads
    rfl
  | cons name more ih =>
    obtain ⟨directory, next, enters, leads⟩ := walk_cons_eq_ok.mp leads
    rw [List.cons_append, walk_cons directory, enters]
    exact ih leads

theorem walk_append_empty_eq_ok :
    fs.walk start (front ++ [""]) = .ok location ↔
      fs.walk start front = .ok location ∧ fs.lookup? location = some .directory := by
  have stays (middle : Location) : fs.walk middle [""] = .ok location ↔
      middle = location ∧ fs.lookup? location = some .directory := by
    have enters : entered? middle "" = some middle := rfl
    rw [walk_cons_eq_ok, enters]
    simp only [Option.some.injEq, exists_eq_left', walk, Except.ok.injEq]
    grind
  simp only [walk_append_eq_ok, stays]
  grind

theorem walk_of_idle {gap : List String} (idle : ∀ name ∈ gap, Path.isIdle name)
    (directory : fs.lookup? start = some .directory) : fs.walk start gap = .ok start := by
  induction gap with
  | nil => rfl
  | cons name more ih =>
    obtain ⟨first, rest⟩ := List.forall_mem_cons.mp idle
    rw [walk_cons directory, entered?, if_pos first]
    exact ih rest

/-- Names that lead nowhere are followed only as far as where they start is a directory. -/
theorem walk_idle_congr {gap : List String} (idle : ∀ name ∈ gap, Path.isIdle name)
    (same : behind.lookup? start = fs.lookup? start) :
    behind.walk start gap = fs.walk start gap := by
  cases gap with
  | nil => rfl
  | cons name more =>
    by_cases directory : fs.lookup? start = some .directory
    · rw [walk_of_idle idle directory, walk_of_idle idle (same.trans directory)]
    · rw [walk, walk, same]
      grind

theorem eq_of_walk_idle {gap : List String} (idle : ∀ name ∈ gap, Path.isIdle name)
    (leads : fs.walk start gap = .ok location) : location = start := by
  cases gap with
  | nil => exact (Except.ok.inj leads).symm
  | cons name more =>
    obtain ⟨directory, -⟩ := walk_cons_eq_ok.mp leads
    rw [walk_of_idle idle directory] at leads
    exact (Except.ok.inj leads).symm

/-- All directories of the first are directories of the second, and paths start from the same
one. -/
structure KeepsDirectories (fs behind : FileSystem) : Prop where
  directory : ∀ location,
    fs.lookup? location = some .directory → behind.lookup? location = some .directory
  workingDirectory : behind.workingDirectory = fs.workingDirectory

theorem walk_of_keepsDirectories (kept : fs.KeepsDirectories behind) {names : List String}
    (leads : fs.walk start names = .ok location) : behind.walk start names = .ok location := by
  induction names generalizing start with
  | nil => exact leads
  | cons name more ih =>
    obtain ⟨directory, next, enters, leads⟩ := walk_cons_eq_ok.mp leads
    exact walk_cons_eq_ok.mpr ⟨kept.directory _ directory, next, enters, ih leads⟩

theorem dropWhile_isEmpty_eq_cons {names outer : List String} :
    (names.dropWhile String.isEmpty = last :: outer ∧ names.head?.any String.isEmpty = false) ↔
      names = last :: outer ∧ last.isEmpty = false := by
  cases names with
  | nil => simp
  | cons name more =>
    rw [List.dropWhile_cons]
    cases empty : name.isEmpty <;> grind

/-- A path that names a file: its last name leads to an entry of the directory to which the
others lead. -/
theorem locateTarget_eq_entry :
    fs.locateTarget path = .ok (.entry location false) ↔
      checkPath path = .ok () ∧ ∃ way directory last, path.names = way ++ [last] ∧
        fs.walk (fs.origin path) way = .ok directory ∧ fs.lookup? directory = some .directory ∧
        Path.isIdle last = false ∧ last ≠ ".." ∧ location = directory ++ [last] := by
  rw [locateTarget]
  cases checked : checkPath path with
  | error error => simp
  | ok =>
    simp only [true_and]
    constructor
    · intro found
      split at found
      · cases found
      · rename_i last outer dropped
        split at found
        · cases found
        · rename_i directory leads
          split at found
          · cases found
          · rename_i elsewhere
            obtain ⟨rfl, flag⟩ : directory ++ [last] = location ∧ _ = false :=
              Target.entry.inj (Except.ok.inj found)
            obtain ⟨reversed, present⟩ := dropWhile_isEmpty_eq_cons.mp ⟨dropped, flag⟩
            obtain ⟨there, holds⟩ := walk_append_empty_eq_ok.mp leads
            have named : last ≠ "." ∧ last ≠ ".." := by simpa using elsewhere
            refine ⟨outer.reverse, directory, last, ?_, there, holds, ?_, named.2, rfl⟩
            · rw [← List.reverse_cons, ← reversed, List.reverse_reverse]
            · rw [Path.isIdle, present, decide_eq_false named.1, Bool.or_self]
    · rintro ⟨way, directory, last, row, there, holds, busy, down, rfl⟩
      have named : last.isEmpty = false ∧ last ≠ "." := by simpa [Path.isIdle] using busy
      have reversed : path.names.reverse = last :: way.reverse := by simp [row]
      obtain ⟨dropped, flag⟩ := dropWhile_isEmpty_eq_cons.mpr ⟨reversed, named.1⟩
      have leads := walk_append_empty_eq_ok.mpr ⟨there, holds⟩
      simp only [dropped, List.reverse_reverse, leads, named.2, down, decide_false, Bool.or_self,
        Bool.false_eq_true, if_false, flag]

theorem locateTarget_of_keepsDirectories (kept : fs.KeepsDirectories behind)
    (found : fs.locateTarget path = .ok (.entry location false)) :
    behind.locateTarget path = .ok (.entry location false) := by
  obtain ⟨checked, way, directory, last, row, there, holds, named⟩ :=
    locateTarget_eq_entry.mp found
  have same : behind.origin path = fs.origin path := by
    rw [origin, origin, kept.workingDirectory]
  refine locateTarget_eq_entry.mpr
    ⟨checked, way, directory, last, row, ?_, kept.directory _ holds, named⟩
  rw [same]
  exact walk_of_keepsDirectories kept there

theorem lookupTarget?_eq_ok {held? : Option Entry} :
    fs.lookupTarget? location = .ok held? ↔
      location.getLast?.any (maxNameSize < ·.utf8ByteSize) = false ∧
        fs.lookup? location = held? := by
  rw [lookupTarget?]
  grind

/-- A path names a place at which a file stands or could stand. -/
structure FilePlace (fs : FileSystem) (path : Path) (location : Location) : Prop where
  found : fs.locateTarget path = .ok (.entry location false)
  short : location.getLast?.any (maxNameSize < ·.utf8ByteSize) = false
  noDirectory : fs.lookup? location ≠ some .directory

theorem FilePlace.lookupTarget? (place : fs.FilePlace path location) :
    fs.lookupTarget? location = .ok (fs.lookup? location) :=
  lookupTarget?_eq_ok.mpr ⟨place.short, rfl⟩

theorem FilePlace.ne_nil (place : fs.FilePlace path location) : location ≠ [] := by
  obtain ⟨-, way, directory, last, -, -, -, -, -, rfl⟩ := locateTarget_eq_entry.mp place.found
  exact List.append_ne_nil_of_right_ne_nil directory (List.cons_ne_nil last [])

theorem FilePlace.unique (first : fs.FilePlace path location) (second : fs.FilePlace path other) :
    location = other := by
  have same := first.found.symm.trans second.found
  injections

theorem FilePlace.locate (place : fs.FilePlace path location) :
    fs.locate path = .ok location := by
  obtain ⟨found, short, -⟩ := place
  obtain ⟨checked, way, directory, last, row, there, holds, busy, down, rfl⟩ :=
    locateTarget_eq_entry.mp found
  have fits : ¬maxNameSize < last.utf8ByteSize := by simpa using short
  have enters : entered? directory last = some (directory ++ [last]) := by
    simp [entered?, busy, down, fits]
  rw [FileSystem.locate, checked, row]
  exact walk_append_eq_ok.mpr ⟨directory, there, walk_cons_eq_ok.mpr ⟨holds, _, enters, rfl⟩⟩

theorem FilePlace.stat (place : fs.FilePlace path location)
    (holds : fs.lookup? location = some entry) : fs.stat path = .ok entry := by
  rw [FileSystem.stat, place.locate]
  simp only [holds]

/-- A place for a file stays one while other directories are kept. -/
theorem FilePlace.of_keepsDirectories (place : fs.FilePlace path location)
    (kept : fs.KeepsDirectories behind) (noDirectory : behind.lookup? location ≠ some .directory) :
    behind.FilePlace path location where
  found := locateTarget_of_keepsDirectories kept place.found
  short := place.short
  noDirectory := noDirectory

end Walk

section Calls

/-- What happens at one location, where no directory is, leaves all directories. -/
theorem keepsDirectories_of_erase_eq (same : behind.erase location = fs.erase location)
    (noDirectory : fs.lookup? location ≠ some .directory) : fs.KeepsDirectories behind where
  directory other found := by
    have apart : other ≠ location := fun same => noDirectory (same ▸ found)
    rw [lookup?_of_erase_eq same apart, found]
  workingDirectory := by
    change (behind.erase location).workingDirectory = (fs.erase location).workingDirectory
    rw [same]

theorem FilePlace.put (place : fs.FilePlace path location) (content : Bytes) :
    (fs.put location (.file content)).FilePlace path location := by
  refine place.of_keepsDirectories (keepsDirectories_of_erase_eq erase_put place.noDirectory) ?_
  rw [lookup?_put_self place.ne_nil]
  exact nofun

theorem create_eq_ok {opened : FileSystem} :
    fs.create path = .ok (location, opened) ↔
      fs.FilePlace path location ∧ opened = fs.put location (.file []) := by
  constructor
  · intro success
    rw [create] at success
    split at success
    · cases success
    · cases success
    · rename_i place flag found
      cases flag with
      | true => cases success
      | false =>
        simp only [Bool.false_eq_true, if_false] at success
        split at success
        · cases success
        · cases success
        · rename_i old noDirectory looked
          cases success
          obtain ⟨short, rfl⟩ := lookupTarget?_eq_ok.mp looked
          exact ⟨⟨found, short, noDirectory⟩, rfl⟩
  · rintro ⟨place, rfl⟩
    have noDirectory := place.noDirectory
    simp only [create, place.found, place.lookupTarget?]
    grind

theorem append_put {held : Bytes} (inside : location ≠ []) :
    (fs.put location (.file held)).append location content =
      fs.put location (.file (held ++ content)) := by
  rw [append, lookup?_put_self inside]
  exact put_put

/-- A write gets through, or ends behind a front piece of the content. -/
theorem write_cases (fs : FileSystem) (location : Location) (content : Bytes) :
    fs.write location content = .ok (fs.append location content) ∨
      ∃ piece left error, piece ++ left = content ∧
        fs.write location content = .error (error, fs.append location piece) := by
  rw [write]
  cases fs.writeFault? with
  | none => exact .inl rfl
  | some fault =>
    obtain ⟨size, error⟩ := fault
    dsimp only
    split
    · exact .inr ⟨_, _, error, content.take_append_drop size, rfl⟩
    · exact .inl rfl

theorem filePlace_of_writeFile (success : fs.writeFile path content = .ok written) :
    ∃ location, fs.FilePlace path location ∧ written = fs.put location (.file content) := by
  rw [writeFile] at success
  split at success
  · cases success
  · rename_i location opened created
    obtain ⟨place, rfl⟩ := create_eq_ok.mp created
    refine ⟨location, place, ?_⟩
    rcases write_cases (fs.put location (.file [])) location content with
      through | ⟨piece, left, error, -, failed⟩
    · obtain rfl := Except.ok.inj (success.symm.trans through)
      rw [append_put place.ne_nil, List.nil_append]
    · cases success.symm.trans failed

theorem removeFile_eq_ok {removed : FileSystem} :
    fs.removeFile path = .ok removed ↔
      ∃ location, fs.FilePlace path location ∧
        (∃ held, fs.lookup? location = some (.file held)) ∧ removed = fs.erase location := by
  constructor
  · intro success
    rw [removeFile] at success
    split at success
    · cases success
    · cases success
    · rename_i location flag found
      split at success
      · cases success
      · rename_i held looked
        cases flag with
        | true => cases success
        | false =>
          obtain ⟨short, holds⟩ := lookupTarget?_eq_ok.mp looked
          refine ⟨location, ⟨found, short, ?_⟩, ⟨held, holds⟩, (Except.ok.inj success).symm⟩
          simp [holds]
      · cases success
      · cases success
  · rintro ⟨location, place, ⟨held, holds⟩, rfl⟩
    simp [removeFile, place.found, place.lookupTarget?, holds]

/-- The file that is removed is the one that was put at the place. -/
theorem FilePlace.removeFile_put {held : Bytes} {removed : FileSystem}
    (place : fs.FilePlace path location)
    (success : (fs.put location (.file held)).removeFile path = .ok removed) :
    removed = fs.erase location := by
  obtain ⟨other, place', -, rfl⟩ := removeFile_eq_ok.mp success
  rw [← (place.put held).unique place', erase_put]

theorem renameFile_eq_ok (success : fs.renameFile source target = .ok moved) :
    ∃ origin goal content, fs.FilePlace source origin ∧ fs.FilePlace target goal ∧
      fs.lookup? origin = some (.file content) ∧
      moved = if origin = goal then fs else (fs.erase origin).put goal (.file content) := by
  rw [renameFile] at success
  split at success
  · cases success
  · cases success
  · cases success
  · cases success
  · rename_i origin sourceFlag goal targetFlag found there
    split at success
    · cases success
    · cases success
    · cases success
    · rename_i content old held looked
      split at success
      · cases success
      · rename_i flags
        split at success
        · cases success
        · rename_i noDirectory
          obtain ⟨rfl, rfl⟩ : sourceFlag = false ∧ targetFlag = false := by simpa using flags
          obtain ⟨sourceShort, holds⟩ := lookupTarget?_eq_ok.mp held
          obtain ⟨targetShort, rfl⟩ := lookupTarget?_eq_ok.mp looked
          rw [← apply_ite Except.ok, Except.ok.injEq] at success
          exact ⟨origin, goal, content, ⟨found, sourceShort, by simp [holds]⟩,
            ⟨there, targetShort, noDirectory⟩, holds, success.symm⟩
    · cases success

theorem readFile_eq_ok : fs.readFile path = .ok content ↔ fs.stat path = .ok (.file content) := by
  rw [readFile]
  grind

/-- A file that has left its own place is found where it was put. -/
theorem stat_put_erase (place : fs.FilePlace source location) (there : fs.FilePlace target other)
    (apart : location ≠ other) :
    ((fs.erase location).put other (.file content)).stat target = .ok (.file content) := by
  have away : fs.KeepsDirectories (fs.erase location) :=
    keepsDirectories_of_erase_eq erase_erase place.noDirectory
  have noDirectory : (fs.erase location).lookup? other ≠ some .directory := by
    rw [lookup?_erase_of_ne apart.symm]
    exact there.noDirectory
  exact ((there.of_keepsDirectories away noDirectory).put content).stat
    (lookup?_put_self there.ne_nil)

theorem stat_renameFile (place : fs.FilePlace source location)
    (held : fs.lookup? location = some (.file content))
    (moving : fs.renameFile source target = .ok moved) :
    moved.stat target = .ok (.file content) := by
  obtain ⟨origin, goal, held', place', there, holds, rfl⟩ := renameFile_eq_ok moving
  obtain rfl : location = origin := place.unique place'
  obtain rfl : content = held' := by
    have same := held.symm.trans holds
    injections
  by_cases same : location = goal
  · subst same
    rw [if_pos rfl]
    exact there.stat held
  · rw [if_neg same]
    exact stat_put_erase place there same

end Calls

end DiagramEditor.FileSystem
