import DiagramEditor.Host.Path
import DiagramEditor.Proofs.Text.Lines

/-! Paths as rows of names. A path is its names with slashes between them. A path whose file
name was replaced goes the same way as before, and at the end of it to another name; names
that lead nowhere may be left out at the end, but the rest of the old path leads nowhere
else, or to its own file name. -/
namespace DiagramEditor.Path

variable {path : Path} {name last own : String} {row outer gap tail : List String}

/-- The path with the given names between its slashes. -/
def ofNames (row : List String) : Path :=
  String.ofList (Text.join '/' (row.map String.toList))

theorem names_ofList (text : Text) :
    names (String.ofList text) = (text.split '/').map String.ofList := by
  rw [names, String.toList_ofList]

theorem slash_not_mem (member : name ∈ path.names) : '/' ∉ name.toList := by
  obtain ⟨piece, cut, rfl⟩ := List.mem_map.mp member
  rw [String.toList_ofList]
  exact Text.not_mem_of_mem_split cut

theorem names_ofNames (nonempty : row ≠ []) (clean : ∀ name ∈ row, '/' ∉ name.toList) :
    (ofNames row).names = row := by
  have pieces : ∀ piece ∈ row.map String.toList, '/' ∉ piece := by
    intro piece member
    obtain ⟨name, listed, rfl⟩ := List.mem_map.mp member
    exact clean name listed
  rw [ofNames, names_ofList, Text.split_join (by simpa using nonempty) pieces, List.map_map]
  simp [Function.comp_def]

theorem getLast?_names_eq_empty_iff :
    path.names.getLast? = some "" ↔ path = "" ∨ path.toList.getLast? = some '/' := by
  have cut := Text.getLast?_split_eq_nil_iff '/' path.toList
  rw [String.toList_eq_nil_iff] at cut
  rw [← cut, names, List.getLast?_map, Option.map_eq_some_iff]
  simp

theorem names_child (clean : '/' ∉ name.toList) (path : Path) :
    (path.child name).names =
      (if path.names.getLast? = some "" then path.names.dropLast else path.names) ++ [name] := by
  have condition : (path.isEmpty || path.toList.getLast? = some '/') = true ↔
      path.names.getLast? = some "" := by
    rw [getLast?_names_eq_empty_iff]
    simp
  rw [child]
  by_cases ends : path.names.getLast? = some ""
  · rw [if_pos (condition.mpr ends), if_pos ends]
    have empty : (Text.split '/' path.toList).getLast? = some [] := by
      rw [Text.getLast?_split_eq_nil_iff, String.toList_eq_nil_iff]
      exact getLast?_names_eq_empty_iff.mp ends
    rw [names, String.toList_append, Text.split_append_of_not_mem _ clean, empty, names]
    simp
  · have behind : (path ++ "/" ++ name).toList = path.toList ++ '/' :: name.toList := by simp
    rw [if_neg (mt condition.mp ends), if_neg ends, names, behind, Text.split_append_cons,
      List.map_append, Text.split_of_not_mem clean, List.map_singleton, String.ofList_toList]
    rfl

theorem isAbsolute_iff : path.isAbsolute ↔ path.names.head? = some "" ∧ path.names ≠ [""] := by
  rw [isAbsolute, names]
  cases path.toList with
  | nil => simp [Text.split]
  | cons c more =>
    by_cases slash : c = '/'
    · subst slash
      have others := Text.split_ne_nil '/' more
      simp [Text.split, others]
    · cases pieces : Text.split '/' more with
      | nil => exact absurd pieces (Text.split_ne_nil _ _)
      | cons piece others => simp [Text.split, pieces, slash]

theorem isAbsolute_child (clean : '/' ∉ name.toList) (path : Path) :
    (path.child name).isAbsolute = path.isAbsolute := by
  cases text : path.toList with
  | nil =>
    obtain rfl := String.toList_eq_nil_iff.mp text
    cases piece : name.toList with
    | nil => simp [child, isAbsolute, piece]
    | cons c more =>
      rw [piece] at clean
      have other : c ≠ '/' := by
        rintro rfl
        exact clean List.mem_cons_self
      simp [child, isAbsolute, piece, other]
  | cons c more =>
    simp only [child, isAbsolute, text]
    split <;> simp [text]

/-- The dot at the start of a relative path counts only where nothing else does. -/
theorem getLast?_components (path : Path) :
    path.components.getLast? = (path.names.filter (!isIdle ·)).getLast? ∨
      path.names.filter (!isIdle ·) = [] ∧ path.components.getLast? = some "." := by
  unfold components
  split
  · rename_i more row
    have dropped : path.names.filter (!isIdle ·) = more.filter (!isIdle ·) := by
      rw [row, List.filter_cons_of_neg (by decide)]
    rw [dropped]
    cases more.filter (!isIdle ·) with
    | nil => exact .inr ⟨rfl, rfl⟩
    | cons name others => exact .inl List.getLast?_cons_cons
  · exact .inl rfl

theorem fileName?_eq_filter :
    path.fileName? = some own ↔
      (path.names.filter (!isIdle ·)).getLast? = some own ∧ own ≠ ".." := by
  rw [fileName?]
  rcases getLast?_components path with same | ⟨empty, dot⟩
  · rw [same]
    cases last : (path.names.filter (!isIdle ·)).getLast? with
    | none => simp
    | some name =>
      have busy : isIdle name = false := by
        simpa using (List.mem_filter.mp (List.mem_of_getLast? last)).2
      have notHere : name ≠ "." := by
        rintro rfl
        exact absurd busy (by decide)
      simp only [notHere, decide_false, Bool.false_or, decide_eq_true_eq, Option.some.injEq]
      grind
  · rw [empty, dot]
    simp

/-- The file name is the last name that leads elsewhere, if it leads down. -/
theorem fileName?_eq_some :
    path.fileName? = some own ↔ ∃ tail outer, path.names.reverse = tail ++ own :: outer ∧
      (∀ idle ∈ tail, isIdle idle) ∧ isIdle own = false ∧ own ≠ ".." := by
  rw [fileName?_eq_filter, List.getLast?_filter, List.find?_eq_some_iff_append]
  simp only [Bool.not_not, Bool.not_eq_true']
  grind

theorem stops_cons_of_idle (idle : isIdle name) (present : row ≠ []) :
    stops (name :: row) = stops row := by
  have passed : name.isEmpty || name = "." && !row.isEmpty := by
    simpa [isIdle, present] using idle
  rw [stops, if_pos passed]

theorem stops_idle_append (idle : ∀ name ∈ gap, isIdle name) (present : row ≠ []) :
    stops (gap ++ row) = stops row := by
  induction gap with
  | nil => rfl
  | cons name more ih =>
    obtain ⟨first, rest⟩ := List.forall_mem_cons.mp idle
    have behind : more ++ row ≠ [] := List.append_ne_nil_of_right_ne_nil more present
    rw [List.cons_append, stops_cons_of_idle first behind, ih rest]

/-- Names that lead nowhere, from a root if there are any, have no stop. Otherwise the first one
is the beginning that is left without the idle names at the end. -/
theorem stops_cases (row : List String) :
    ((∀ idle ∈ row, isIdle idle) ∧ (∀ first, row.getLast? = some first → first = "") ∧
      stops row = []) ∨
      ∃ gap last outer more, row = gap ++ last :: outer ∧ (∀ idle ∈ gap, isIdle idle) ∧
        last ≠ "" ∧ stops row = (last :: outer).reverse :: more := by
  induction row with
  | nil => exact .inl ⟨nofun, nofun, rfl⟩
  | cons name others ih =>
    by_cases passed : name.isEmpty || name = "." && !others.isEmpty
    · have idle : isIdle name := by
        simp only [isIdle, Bool.or_eq_true, Bool.and_eq_true] at passed ⊢
        exact passed.imp_right And.left
      have skipped : stops (name :: others) = stops others := by rw [stops, if_pos passed]
      rw [skipped]
      rcases ih with ⟨idles, root, none⟩ | ⟨gap, last, outer, more, rfl, idles, present, first⟩
      · refine .inl ⟨List.forall_mem_cons.mpr ⟨idle, idles⟩, ?_, none⟩
        intro first found
        cases others with
        | nil =>
          obtain rfl : name = first := by simpa using found
          simpa using passed
        | cons next more =>
          rw [List.getLast?_cons_cons] at found
          exact root first found
      · refine .inr ⟨name :: gap, last, outer, more, rfl, ?_, present, first⟩
        exact List.forall_mem_cons.mpr ⟨idle, idles⟩
    · refine .inr ⟨[], name, others, stops others, rfl, nofun, ?_, ?_⟩
      · rintro rfl
        exact passed rfl
      · rw [stops, if_neg passed]

/-- What is left of a path leads nowhere else, or to one name that is not the given one. -/
inductive LeadsAside (name : String) : List String → Prop where
  | nowhere {gap : List String} : (∀ idle ∈ gap, isIdle idle) → LeadsAside name gap
  | aside {gap tail : List String} {own : String} : (∀ idle ∈ gap, isIdle idle) →
      (∀ idle ∈ tail, isIdle idle) → isIdle own = false → own ≠ ".." → own ≠ name →
      LeadsAside name (gap ++ own :: tail)

/-- Two paths go the same way; then the second goes to a name, and the first does not. -/
structure IsSibling (path sibling : Path) (name : String) : Prop where
  origin : sibling.isAbsolute = path.isAbsolute
  way : ∃ way rest, sibling.names = way ++ [name] ∧ path.names = way ++ rest ∧
    LeadsAside name rest

/-- A name below a path is a sibling of what the path leads to nowhere else. -/
theorem isSibling_child (clean : '/' ∉ name.toList) (path : Path) :
    path.IsSibling (path.child name) name where
  origin := isAbsolute_child clean path
  way := by
    rw [names_child clean]
    by_cases ends : path.names.getLast? = some ""
    · obtain ⟨front, row⟩ := List.getLast?_eq_some_iff.mp ends
      refine ⟨front, [""], ?_, row, .nowhere (by decide)⟩
      rw [if_pos ends, row, List.dropLast_concat]
    · exact ⟨path.names, [], by rw [if_neg ends], (List.append_nil _).symm, .nowhere nofun⟩

/-- The directory that holds a file goes by the first stop before its name; where there is no
stop, by the root or by nothing. -/
theorem parent?_eq (row : path.names.reverse = tail ++ own :: outer)
    (idle : ∀ name ∈ tail, isIdle name) (busy : isIdle own = false) :
    path.parent? = some (match stops outer with
      | kept :: _ => ofNames kept
      | [] => if path.isAbsolute then "/" else "") := by
  have stop : stops (own :: outer) = (own :: outer).reverse :: stops outer := by
    rw [stops, if_neg]
    simp only [isIdle, Bool.or_eq_false_iff] at busy
    simp [busy]
  rw [parent?, outward, row, stops_idle_append idle (List.cons_ne_nil _ _), stop]
  cases stops outer with
  | nil => cases path.isAbsolute <;> rfl
  | cons kept more => simp [ofNames]

theorem isSibling_of_idle (clean : '/' ∉ name.toList) (row : path.names = gap ++ own :: tail)
    (idle : ∀ idle ∈ gap, isIdle idle) (root : ∀ first, gap.head? = some first → first = "")
    (named : own ≠ "")
    (aside : ∀ gap : List String, (∀ idle ∈ gap, isIdle idle) →
      LeadsAside name (gap ++ own :: tail)) :
    path.IsSibling (child (if path.isAbsolute then "/" else "") name) name := by
  have absolute : path.isAbsolute ↔ path.names.head? = some "" ∧ path.names ≠ [""] :=
    isAbsolute_iff
  rw [row] at absolute
  cases gap with
  | nil =>
    have relative : path.isAbsolute = false := by simpa [named] using absolute
    rw [relative, if_neg Bool.false_ne_true]
    refine ⟨(isAbsolute_child clean "").trans relative.symm, [], own :: tail, ?_, row,
      aside [] idle⟩
    rw [names_child clean]
    rfl
  | cons first others =>
    obtain rfl : first = "" := root first rfl
    obtain ⟨-, later⟩ := List.forall_mem_cons.mp idle
    have rooted : path.isAbsolute = true := absolute.mpr ⟨rfl, by simp⟩
    rw [rooted, if_pos rfl]
    refine ⟨(isAbsolute_child clean "/").trans rooted.symm, [""], others ++ own :: tail, ?_, row,
      aside others later⟩
    rw [names_child clean]
    rfl

theorem isSibling_ofNames {way rest : List String} (clean : '/' ∉ name.toList)
    (row : path.names = way ++ rest) (ends : way.getLast? = some last) (present : last ≠ "")
    (aside : LeadsAside name rest) : path.IsSibling (child (ofNames way) name) name := by
  have nonempty : way ≠ [] := by
    rintro rfl
    cases ends
  have names : (ofNames way).names = way := by
    apply names_ofNames nonempty
    intro name member
    exact slash_not_mem (row ▸ List.mem_append_left _ member)
  have closed : way.getLast? ≠ some "" := by
    rw [ends]
    simpa using present
  refine ⟨?_, way, rest, ?_, row, aside⟩
  · have same : (way ++ rest).head? = way.head? := by
      cases way with
      | nil => exact absurd rfl nonempty
      | cons name more => rfl
    have single : way ≠ [""] := by
      rintro rfl
      exact closed rfl
    have longer : way ++ rest ≠ [""] := by
      rw [ne_eq, List.append_eq_singleton_iff]
      simp [nonempty, single]
    rw [isAbsolute_child clean, Bool.eq_iff_iff, isAbsolute_iff, isAbsolute_iff, names, row, same]
    exact and_congr_right fun _ => iff_of_true single longer
  · rw [names_child clean, names, if_neg closed]

/-- A path with its file name replaced is a sibling of the path itself. -/
theorem isSibling_withFileName (clean : '/' ∉ name.toList) (fresh : path.fileName? ≠ some name) :
    path.IsSibling (path.withFileName name) name := by
  rw [withFileName]
  cases named : path.fileName? with
  | none => exact isSibling_child clean path
  | some own =>
    obtain ⟨tail, outer, turned, behind, busy, down⟩ := fileName?_eq_some.mp named
    have aside : ∀ gap : List String, (∀ idle ∈ gap, isIdle idle) →
        LeadsAside name (gap ++ own :: tail.reverse) := by
      intro gap idle
      refine .aside idle (by simpa using behind) busy down ?_
      rintro rfl
      exact fresh named
    dsimp only
    -- The parent is the first stop before the file name; idle names behind it are left out.
    rw [parent?_eq turned behind busy, Option.getD_some]
    rw [List.reverse_eq_iff] at turned
    rcases stops_cases outer with
      ⟨idle, root, none⟩ | ⟨gap, last, way, more, rfl, idle, present, first⟩
    · have row : path.names = outer.reverse ++ own :: tail.reverse := by simpa using turned
      have present : own ≠ "" := by
        rintro rfl
        exact absurd busy (by decide)
      rw [none]
      exact isSibling_of_idle clean row (by simpa using idle) (by simpa using root) present aside
    · have row : path.names =
          (last :: way).reverse ++ (gap.reverse ++ own :: tail.reverse) := by simpa using turned
      rw [first]
      exact isSibling_ofNames clean row (by simp) present (aside _ (by simpa using idle))

end DiagramEditor.Path
