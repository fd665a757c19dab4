import DiagramEditor.Proofs.Text.Run
import DiagramEditor.Proofs.Toml.Field

/-! Reading a document gives back the tables that were written into it. A line is read as
one statement, the lines of a table as a header with the assignments below it, and these
build the table at the end of the draft. Names have to be bare keys and different
from each other; the texts of strings may be any. -/
namespace DiagramEditor.Toml

variable {fuel : Nat} {key : String} {rest : Text}

/-! ### Lines as statements -/

/-- A key that is read without quotes. -/
structure IsBareKey (key : String) : Prop where
  nonempty : key.toList ≠ []
  bare : ∀ c ∈ key.toList, isBareKeyChar c

instance (key : String) : Decidable (IsBareKey key) :=
  decidable_of_iff (key.toList ≠ [] ∧ key.toList.all isBareKeyChar)
    ⟨fun ⟨nonempty, bare⟩ => ⟨nonempty, List.all_eq_true.mp bare⟩,
      fun ⟨nonempty, bare⟩ => ⟨nonempty, List.all_eq_true.mpr bare⟩⟩

theorem toNat_lt_of_isBareKeyChar {c : Char} (bare : isBareKeyChar c) : c.toNat < 0x80 := by
  simp only [isBareKeyChar, Bool.or_eq_true, decide_eq_true_eq] at bare
  rcases bare with (alphanumeric | rfl) | rfl
  · obtain ⟨-, below⟩ := Text.bounds_of_isAlphanum alphanumeric
    omega
  · decide
  · decide

theorem isVisible_of_isBareKeyChar {c : Char} (bare : isBareKeyChar c) : isVisible c := by
  have small : ∀ n < 0x80, isBareKeyChar (Char.ofNat n) → isVisible (Char.ofNat n) := by decide
  have visible := small c.toNat (toNat_lt_of_isBareKeyChar bare)
  rw [Char.ofNat_toNat] at visible
  exact visible bare

theorem IsBareKey.exists_cons (bare : IsBareKey key) :
    ∃ c more, key.toList = c :: more ∧ isBareKeyChar c := by
  obtain ⟨c, more, chars⟩ := List.exists_cons_of_ne_nil bare.nonempty
  exact ⟨c, more, chars, bare.bare c (chars ▸ List.mem_cons_self)⟩

theorem IsBareKey.append_ne_cons (bare : IsBareKey key) {mark : Char}
    (special : isBareKeyChar mark = false) (rest behind : Text) :
    key.toList ++ rest ≠ mark :: behind := by
  obtain ⟨c, more, chars, first⟩ := bare.exists_cons
  rw [chars, List.cons_append]
  rintro same
  obtain rfl := (List.cons.inj same).1
  cases special.symm.trans first

theorem IsBareKey.skipBlanks_append (bare : IsBareKey key) (rest : Text) :
    skipBlanks (key.toList ++ rest) = key.toList ++ rest := by
  obtain ⟨c, more, chars, first⟩ := bare.exists_cons
  have visible := isVisible_of_isBareKeyChar first
  simp only [isVisible, Bool.and_eq_true, Bool.not_eq_true'] at visible
  rw [chars, List.cons_append, skipBlanks_of_not_isBlank visible.1.1]

theorem simpleKey?_bare (bare : IsBareKey key) (stop : rest.head?.any isBareKeyChar = false) :
    simpleKey? (key.toList ++ rest) = some (key, rest) := by
  have noQuote : Quoted.oneLine? (key.toList ++ rest) = none := by
    unfold Quoted.oneLine?
    split
    · rename_i same
      exact absurd same (bare.append_ne_cons rfl rest _)
    · rename_i same
      exact absurd same (bare.append_ne_cons rfl rest _)
    · rfl
  have word : (key.toList ++ rest).takeWhile isBareKeyChar = key.toList :=
    Text.takeWhile_run bare.bare stop
  have behind : (key.toList ++ rest).dropWhile isBareKeyChar = rest :=
    Text.dropWhile_run bare.bare stop
  simp only [simpleKey?, noQuote, word, behind, List.isEmpty_eq_false_iff.mpr bare.nonempty,
    String.ofList_toList, Bool.false_eq_true, if_false]

theorem keyPath?_bare (bare : IsBareKey key) (stop : rest.head?.any isBareKeyChar = false)
    (noDot : (skipBlanks rest).head? ≠ some '.') :
    keyPath? (key.toList ++ rest) = some (⟨[], key⟩, skipBlanks rest) := by
  change dottedKeys? (79 + 1) _ = _
  rw [dottedKeys?, simpleKey?_bare bare stop]
  simp only [Option.bind_eq_bind, Option.bind_some]
  split
  · rename_i dot
    rw [dot] at noDot
    exact absurd rfl noDot
  · rfl

theorem statement?_header (bare : IsBareKey key) (rest : Text) :
    statement? fuel ('[' :: (key.toList ++ ']' :: rest)) = some (.table ⟨[], key⟩, rest) := by
  have behind : skipBlanks (']' :: rest) = ']' :: rest := skipBlanks_of_not_isBlank (by decide) rest
  have path : keyPath? (key.toList ++ ']' :: rest) = some (⟨[], key⟩, skipBlanks (']' :: rest)) :=
    keyPath?_bare bare rfl (by simp [behind])
  rw [statement?]
  · rw [bare.skipBlanks_append, path, behind]
    rfl
  · exact bare.append_ne_cons rfl _

theorem statement?_assignment (bare : IsBareKey key) {field : Field} (fits : field.Fits)
    (enough : (field.write ++ '\n' :: rest).length < fuel) :
    statement? fuel (key.toList ++ ' ' :: '=' :: ' ' :: (field.write ++ '\n' :: rest)) =
      some (.assign ⟨[], key⟩ field.toValue, '\n' :: rest) := by
  have sign (tail : Text) : skipBlanks (' ' :: '=' :: tail) = '=' :: tail := rfl
  have path : keyPath? (key.toList ++ ' ' :: '=' :: ' ' :: (field.write ++ '\n' :: rest)) =
      some (⟨[], key⟩, '=' :: ' ' :: (field.write ++ '\n' :: rest)) :=
    keyPath?_bare bare rfl (by simp [sign])
  have equals : equals? ('=' :: ' ' :: (field.write ++ '\n' :: rest)) =
      some (field.write ++ '\n' :: rest) := by
    have blank : skipBlanks (' ' :: (field.write ++ '\n' :: rest)) =
        skipBlanks (field.write ++ '\n' :: rest) := rfl
    rw [equals?, skipBlanks_of_not_isBlank (by decide)]
    simp only [blank, skipBlanks_writeField]
  rw [statement?]
  · rw [path]
    simp only [Option.bind_eq_bind, Option.bind_some, equals, maxNesting,
      value?_writeField fits rest enough]
  · exact fun behind => bare.append_ne_cons rfl _ ('[' :: behind)
  · exact bare.append_ne_cons rfl _

/-! ### Texts as rows of statements -/

/-- The reader finds these statements in a text once its fuel exceeds the characters. -/
def ReadsAs (text : Text) (statements : List Statement) : Prop :=
  ∀ fuel, text.length < fuel → statements? fuel text = some statements

variable {statement : Statement} {below : List Statement}

theorem ReadsAs.nil : ReadsAs [] [] := by
  intro fuel enough
  obtain ⟨fuel, rfl⟩ : ∃ less, fuel = less + 1 := Nat.exists_eq_succ_of_ne_zero (by omega)
  rw [statements?, skipLines_nil]

theorem ReadsAs.emptyLine (reads : ReadsAs rest below) : ReadsAs ('\n' :: rest) below := by
  intro fuel enough
  rw [List.length_cons] at enough
  obtain ⟨fuel, rfl⟩ : ∃ less, fuel = less + 1 := Nat.exists_eq_succ_of_ne_zero (by omega)
  rw [statements?, skipLines_newline, ← statements?]
  exact reads (fuel + 1) (by omega)

/-- A line that begins with a visible character and holds one statement. -/
theorem ReadsAs.line {line : Text} {c : Char} {more : Text} (start : line = c :: more)
    (visible : isVisible c) (reads : ReadsAs rest below)
    (read : ∀ fuel, (line ++ '\n' :: rest).length ≤ fuel →
      statement? fuel (line ++ '\n' :: rest) = some (statement, '\n' :: rest)) :
    ReadsAs (line ++ '\n' :: rest) (statement :: below) := by
  intro fuel enough
  obtain ⟨fuel, rfl⟩ : ∃ less, fuel = less + 1 := Nat.exists_eq_succ_of_ne_zero (by omega)
  have found := read fuel (by omega)
  have shorter : rest.length < fuel := by
    simp only [start, List.length_append, List.length_cons] at enough
    omega
  have finished : finishLine? ('\n' :: rest) = some rest := rfl
  rw [start, List.cons_append] at found ⊢
  rw [statements?, skipLines_of_isVisible visible]
  simp only [found, Option.bind_eq_bind, Option.bind_some, finished, reads fuel shorter,
    Option.map_some]

/-! ### Tables -/

/-- The statements that a table is written as. -/
def Section.statements (table : Section) : List Statement :=
  .table ⟨[], table.name⟩ :: table.fields.map fun (key, field) => .assign ⟨[], key⟩ field.toValue

/-- The entries of a table. -/
def Section.entries (table : Section) : List (String × Value) :=
  table.fields.map fun (key, field) => (key, field.toValue)

/-- A table whose names are bare keys, no two of them the same, and whose integers fit. -/
structure Section.IsPlain (table : Section) : Prop where
  name : IsBareKey table.name
  keys : ∀ key ∈ table.fields.map Prod.fst, IsBareKey key
  fits : ∀ field ∈ table.fields, field.2.Fits
  distinct : (table.fields.map Prod.fst).Nodup

theorem ReadsAs.header (bare : IsBareKey key) (reads : ReadsAs rest below) :
    ReadsAs ('[' :: (key.toList ++ [']']) ++ '\n' :: rest) (.table ⟨[], key⟩ :: below) := by
  refine ReadsAs.line rfl (by decide) reads fun fuel _ => ?_
  have shape (behind : Text) :
      '[' :: (key.toList ++ [']']) ++ behind = '[' :: (key.toList ++ ']' :: behind) := by simp
  rw [shape]
  exact statement?_header bare _

theorem ReadsAs.assignment (bare : IsBareKey key) {field : Field} (fits : field.Fits)
    (reads : ReadsAs rest below) :
    ReadsAs (key.toList ++ " = ".toList ++ field.write ++ '\n' :: rest)
      (.assign ⟨[], key⟩ field.toValue :: below) := by
  obtain ⟨c, more, chars, first⟩ := bare.exists_cons
  refine ReadsAs.line (by rw [chars]; rfl) (isVisible_of_isBareKeyChar first) reads ?_
  intro fuel enough
  have shape : key.toList ++ " = ".toList ++ field.write ++ '\n' :: rest =
      key.toList ++ ' ' :: '=' :: ' ' :: (field.write ++ '\n' :: rest) := by simp
  rw [shape] at enough ⊢
  refine statement?_assignment bare fits ?_
  simp only [List.length_append, List.length_cons] at enough ⊢
  omega

theorem ReadsAs.fields {fields : List (String × Field)}
    (bare : ∀ key ∈ fields.map Prod.fst, IsBareKey key) (fits : ∀ field ∈ fields, field.2.Fits)
    (reads : ReadsAs rest below) :
    ReadsAs
      ((fields.flatMap fun (key, field) => key.toList ++ " = ".toList ++ field.write ++ ['\n']) ++
        rest)
      ((fields.map fun (key, field) => .assign ⟨[], key⟩ field.toValue) ++ below) := by
  induction fields with
  | nil => exact reads
  | cons field fields ih =>
    have behind := ih (fun key member => bare key (List.mem_cons_of_mem _ member))
      (fun field member => fits field (List.mem_cons_of_mem _ member))
    have line := ReadsAs.assignment (bare field.1 List.mem_cons_self)
      (fits field List.mem_cons_self) behind
    simpa using line

theorem ReadsAs.table {table : Section} (plain : table.IsPlain)
    (reads : ReadsAs rest below) :
    ReadsAs (table.write ++ rest) (table.statements ++ below) := by
  have fields := ReadsAs.fields plain.keys plain.fits reads
  have header := ReadsAs.header plain.name fields
  simpa [Section.write, Section.statements] using header

theorem readsAs_writeSections {tables : List Section} (plain : ∀ table ∈ tables, table.IsPlain) :
    ReadsAs (writeSections tables) (tables.flatMap Section.statements) := by
  match tables with
  | [] => exact ReadsAs.nil
  | [table] =>
    have reads := ReadsAs.table (plain table List.mem_cons_self) ReadsAs.nil
    simpa [writeSections] using reads
  | table :: next :: more =>
    have behind := readsAs_writeSections fun table member =>
      plain table (List.mem_cons_of_mem _ member)
    exact ReadsAs.table (plain table List.mem_cons_self) behind.emptyLine

/-! ### Entries by their names -/

section Lookup

variable {α : Type} {name : String} {entries : List (String × α)}

theorem lookup_eq_none_of_not_mem (fresh : name ∉ entries.map Prod.fst) :
    entries.lookup name = none := by
  rw [List.lookup_eq_none_iff]
  intro entry member
  have apart : name ≠ entry.1 := fun same => fresh (same ▸ List.mem_map_of_mem member)
  simpa using apart

theorem lookup_append_self {value : α} (fresh : name ∉ entries.map Prod.fst) :
    (entries ++ [(name, value)]).lookup name = some value := by
  rw [List.lookup_append, lookup_eq_none_of_not_mem fresh, Option.none_or, List.lookup_cons_self]

end Lookup

/-! ### The draft -/

section Draft

variable {done inner : Entries} {name : String} {value : Value}

/-- Only the last entry has the name, so only its value is replaced. -/
theorem Entries.set_append_self {old node : Node} (fresh : name ∉ done.map Prod.fst) :
    Entries.set (done ++ [(name, old)]) name node = done ++ [(name, node)] := by
  have kept : done.map (fun entry => if entry.1 = name then (name, node) else entry) = done := by
    refine (List.map_congr_left fun entry member => ?_).trans (List.map_id done)
    have apart : entry.1 ≠ name := fun same => fresh (same ▸ List.mem_map_of_mem member)
    exact if_neg apart
  rw [Entries.set, List.map_append, kept]
  simp

theorem Draft.add_table (header? : Option KeyPath) (fresh : name ∉ done.map Prod.fst) :
    Draft.add ⟨done, header?⟩ (.table ⟨[], name⟩) =
      some ⟨done ++ [(name, .table .header [])], some ⟨[], name⟩⟩ := by
  simp only [Draft.add, Entries.openTable, Entries.change, lookup_eq_none_of_not_mem fresh,
    Option.map_some]

theorem Draft.add_assign (fresh : name ∉ done.map Prod.fst) (new : key ∉ inner.map Prod.fst) :
    Draft.add ⟨done ++ [(name, .table .header inner)], some ⟨[], name⟩⟩ (.assign ⟨[], key⟩ value) =
      some ⟨done ++ [(name, .table .header (inner ++ [(key, .value value)]))],
        some ⟨[], name⟩⟩ := by
  simp only [Draft.add, List.nil_append, Entries.change, lookup_append_self fresh, Entries.assign,
    lookup_eq_none_of_not_mem new, Entries.set_append_self fresh]
  rfl

/-- The finished nodes of a row of fields. -/
def nodes (fields : List (String × Field)) : Entries :=
  fields.map fun (key, field) => (key, .value field.toValue)

/-- The induction is on the fields, with those before them already in the table. -/
theorem foldlM_add_fields (fresh : name ∉ done.map Prod.fst) (fields : List (String × Field))
    (distinct : (inner.map Prod.fst ++ fields.map Prod.fst).Nodup) :
    (fields.map fun (key, field) => Statement.assign ⟨[], key⟩ field.toValue).foldlM Draft.add
        ⟨done ++ [(name, .table .header inner)], some ⟨[], name⟩⟩ =
      some ⟨done ++ [(name, .table .header (inner ++ nodes fields))], some ⟨[], name⟩⟩ := by
  induction fields generalizing inner with
  | nil => simp [nodes]
  | cons field fields ih =>
    obtain ⟨key, field⟩ := field
    have new : key ∉ inner.map Prod.fst := fun member =>
      (List.nodup_append.mp distinct).2.2 key member key List.mem_cons_self rfl
    rw [List.map_cons, List.foldlM_cons, Draft.add_assign fresh new]
    simp only [Option.bind_eq_bind, Option.bind_some]
    rw [ih (by simpa using distinct)]
    simp [nodes]

/-- The node that a table has become when all its lines are read. -/
def Section.node (table : Section) : String × Node :=
  (table.name, .table .header (nodes table.fields))

theorem Section.foldlM_add {table : Section} (plain : table.IsPlain) (header? : Option KeyPath)
    (fresh : table.name ∉ done.map Prod.fst) :
    table.statements.foldlM Draft.add ⟨done, header?⟩ =
      some ⟨done ++ [table.node], some ⟨[], table.name⟩⟩ := by
  rw [Section.statements, List.foldlM_cons, Draft.add_table header? fresh]
  exact foldlM_add_fields fresh table.fields plain.distinct

/-- The induction is on the tables, with those before them in the draft. -/
theorem foldlM_add_tables {tables : List Section} (plain : ∀ table ∈ tables, table.IsPlain)
    (distinct : (done.map Prod.fst ++ tables.map Section.name).Nodup) (header? : Option KeyPath) :
    ∃ last?, (tables.flatMap Section.statements).foldlM Draft.add ⟨done, header?⟩ =
      some ⟨done ++ tables.map Section.node, last?⟩ := by
  induction tables generalizing done header? with
  | nil => exact ⟨header?, by simp⟩
  | cons table tables ih =>
    have fresh : table.name ∉ done.map Prod.fst := fun member =>
      (List.nodup_append.mp distinct).2.2 table.name member table.name List.mem_cons_self rfl
    have names : ((done ++ [table.node]).map Prod.fst ++ tables.map Section.name).Nodup := by
      simpa [Section.node] using distinct
    obtain ⟨last?, run⟩ := ih (fun next member => plain next (List.mem_cons_of_mem _ member))
      names (some ⟨[], table.name⟩)
    refine ⟨last?, ?_⟩
    rw [List.flatMap_cons, List.foldlM_append,
      Section.foldlM_add (plain table List.mem_cons_self) header? fresh]
    simpa using run

end Draft

/-! ### Documents -/

theorem entriesToValues_eq_map (entries : Entries) :
    entriesToValues entries = entries.map fun (key, node) => (key, node.toValue) := by
  induction entries with
  | nil => rfl
  | cons entry entries ih => rw [entriesToValues, ih, List.map_cons]

theorem toValue_node (table : Section) : table.node.2.toValue = .table table.entries := by
  rw [Section.node, Node.toValue, entriesToValues_eq_map, nodes, List.map_map]
  rfl

theorem dropByteOrderMark_writeSections (tables : List Section) :
    dropByteOrderMark (writeSections tables) = writeSections tables := by
  match tables with
  | [] => rfl
  | [table] => rfl
  | table :: next :: more => rfl

/-- What was written is read back, table by table and field by field. -/
theorem read?_writeSections {tables : List Section} (plain : ∀ table ∈ tables, table.IsPlain)
    (distinct : (tables.map Section.name).Nodup) :
    read? (writeSections tables) =
      some (tables.map fun table => (table.name, .table table.entries)) := by
  have statements := readsAs_writeSections plain _ (Nat.lt_succ_self _)
  have names : (([] : Entries).map Prod.fst ++ tables.map Section.name).Nodup := distinct
  obtain ⟨last?, run⟩ := foldlM_add_tables plain names none
  have values : entriesToValues (tables.map Section.node) =
      tables.map fun table => (table.name, .table table.entries) := by
    rw [entriesToValues_eq_map, List.map_map]
    exact List.map_congr_left fun table _ => congrArg (table.name, ·) (toValue_node table)
  rw [List.nil_append] at run
  simp only [read?, dropByteOrderMark_writeSections, statements, run, Option.bind_eq_bind,
    Option.bind_some, values]

end DiagramEditor.Toml
