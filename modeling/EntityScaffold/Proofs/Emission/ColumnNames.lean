import EntityScaffold.Proofs.Emission.SchemaConstants
import EntityScaffold.Proofs.Runs
import EntityScaffold.Proofs.Source.Layout
import EntityScaffold.Proofs.Source.Literals

/-!
Names of tables and columns in configurations. The name of a table is written as a literal. The name
of a column stands between two marks as it is, so it is lost where it has a mark or a backslash in
it, and wherever the layout of the file changes it.
-/
namespace EntityScaffold.Emission
open Source Text

def bindingOpening (t : Table) : String :=
  "builder." ++ (if t.isView then "ToView" else "ToTable") ++ "("

def columnOpening (col : Column) (property : String) : String :=
  "builder.Property(x => x." ++ property ++ ")" ++
    (if col.isNullable.getD false then "" else ".IsRequired()") ++ ".HasColumnName("

/-- A text shows an opening with a literal behind it and then `rest`, all as it is laid out. -/
def ShowsLiteral (text : String) (opening : String) (literal rest : List Char) : Prop :=
  ∃ before, text.toList = before ++ laidOut opening.toList ++ laidOut literal ++ rest

/-- A name that can stand between two marks as it is. -/
structure PlainName (name : String) : Prop where
  unmarked : literalMark ∉ name.toList
  unescaped : '\\' ∉ name.toList
  laid : laidOut (enclosed name.toList) = enclosed name.toList

/-- The name of a table stands in a text as a literal, which denotes it if the layout leaves it. -/
def NamesTable (text : String) (t : Table) : Prop :=
  ∃ rest, ShowsLiteral text (bindingOpening t) (literalChars t.name.toList) (',' :: rest) ∧
    (laidOut (literalChars t.name.toList) = literalChars t.name.toList →
      readLiteral (laidOut (literalChars t.name.toList) ++ ',' :: rest) =
        some (t.name.toList, ',' :: rest))

/-- The name of a column stands in a text behind its property, and the literal there denotes it, up
to the end of the call, just when it is plain. Otherwise that literal does not denote it, wherever
it ends. -/
def NamesColumn (text : String) (col : Column) (property : String) : Prop :=
  ∃ rest,
    ShowsLiteral text (columnOpening col property) (enclosed col.name.toList) (')' :: rest) ∧
    (PlainName col.name →
      readLiteral (laidOut (enclosed col.name.toList) ++ ')' :: rest) =
        some (col.name.toList, ')' :: rest)) ∧
    ((∃ after, readLiteral (laidOut (enclosed col.name.toList) ++ ')' :: rest) =
      some (col.name.toList, after)) → PlainName col.name)

section literals

variable {cs rest : List Char}

theorem laidOut_enclosed (cs : List Char) :
    ∃ ds, laidOut (enclosed cs) = enclosed ds ∧ shown ds = shown cs := by
  have stop : endsShown [literalMark] = true := by decide
  have start : startsShown [literalMark] = true := by decide
  have single : laidOut [literalMark] = [literalMark] := rfl
  obtain ⟨behind, front⟩ := laidOut_append_of_endsShown stop (cs ++ [literalMark])
  obtain ⟨before, back⟩ := laidOut_append_of_startsShown (literalMark :: cs) start
  replace front : laidOut (enclosed cs) = literalMark :: behind := by rwa [single] at front
  replace back : laidOut (enclosed cs) = before ++ [literalMark] := by rwa [single] at back
  have kept : shown (laidOut (enclosed cs)) = literalMark :: shown cs ++ [literalMark] := by
    rw [shown_laidOut, enclosed, shown_append]
    rfl
  cases before with
  | nil =>
    rw [back] at kept
    have lengths := congrArg List.length kept
    simp [shown, show isBlank literalMark = false by decide] at lengths
  | cons c ds =>
    have first : c = literalMark := (List.cons.inj (back.symm.trans front)).1
    subst first
    refine ⟨ds, back, ?_⟩
    rw [back, List.cons_append, ← List.singleton_append, shown_append, shown_append] at kept
    exact List.append_cancel_right (List.cons.inj kept).2

/-- A name between two marks is read back from the file just when it is plain. -/
theorem plain_of_read_enclosed {name : String} {after : List Char}
    (read : readLiteral (laidOut (enclosed name.toList) ++ rest) = some (name.toList, after)) :
    PlainName name := by
  obtain ⟨ds, laid, same⟩ := laidOut_enclosed name.toList
  rw [laid, readLiteral_enclosed] at read
  have mark : (!isBlank literalMark) = true := by decide
  have escape : (!isBlank '\\') = true := by decide
  obtain ⟨unmarked, unescaped⟩ := plain_of_read mark escape read same.symm
  have whole : ds = name.toList := by
    rw [← readLiteral_enclosed, ← literalChars_of_plain unmarked unescaped,
      readLiteral_literalChars] at read
    exact (Prod.mk.inj (Option.some.inj read)).1
  rw [whole] at laid unmarked unescaped
  exact ⟨unmarked, unescaped, laid⟩

theorem read_enclosed_of_plain {name : String} (plain : PlainName name) (rest : List Char) :
    readLiteral (laidOut (enclosed name.toList) ++ rest) = some (name.toList, rest) := by
  rw [plain.laid, ← literalChars_of_plain plain.unmarked plain.unescaped,
    readLiteral_literalChars]

end literals

section units

variable {line : String}

theorem exists_intercalate (separator : String) {lines : List String} (member : line ∈ lines) :
    ∃ before behind, (separator.intercalate lines).toList = before ++ line.toList ++ behind := by
  obtain ⟨earlier, later, rfl⟩ := List.append_of_mem member
  obtain ⟨before, whole⟩ : ∃ before,
      (separator.intercalate (earlier ++ line :: later)).toList =
      before ++ (separator.intercalate (line :: later)).toList := by
    cases earlier with
    | nil => exact ⟨[], rfl⟩
    | cons first earlier =>
      refine ⟨(separator.intercalate (first :: earlier) ++ separator).toList, ?_⟩
      rw [String.intercalate_append_of_ne_nil (by simp) (by simp), String.toList_append]
  cases later with
  | nil => exact ⟨before, [], by simpa using whole⟩
  | cons next later =>
    refine ⟨before, (separator ++ separator.intercalate (next :: later)).toList, ?_⟩
    rw [whole, String.intercalate_cons_of_ne_nil (by simp)]
    simp

theorem mem_block {header : String} {body : List String} (member : line ∈ body) :
    indented line ∈ block header body := by
  simp only [block, List.mem_cons, List.mem_append, List.mem_map]
  exact .inl (.inr (.inr ⟨line, member, rfl⟩))

theorem body_of_lines (names : UnitNames) (v : EntityConfiguration) (member : line ∈ v.body) :
    indented (indented (indented line)) ∈ v.lines names :=
  List.mem_append_right _ (mem_block (mem_block (mem_block member)))

theorem content_of_artifact {c : Config} {u : SourceUnit} {a : Artifact}
    (made : u.artifact c = .ok a) :
    a.content.toList = laidOut ("\n".intercalate (u.lines c.unitNames)).toList ++ ['\n'] := by
  obtain ⟨_, _, made⟩ := bind_ok.1 made
  rw [← pure_ok.1 made]
  exact String.toList_ofList

theorem shows_of_line {c : Config} {v : EntityConfiguration} {a : Artifact}
    (made : (SourceUnit.entityConfiguration v).artifact c = .ok a) (member : line ∈ v.body)
    {opening : String} {literal rest : List Char} {close : Char}
    (split : line.toList = opening.toList ++ literal ++ close :: rest)
    (opened : startsShown opening.toList = true ∧ endsShown opening.toList = true)
    (closed : startsShown literal = true ∧ endsShown literal = true)
    (last : isBlank close = false) :
    ∃ rest, ShowsLiteral a.content opening literal (close :: rest) := by
  obtain ⟨before, behind, whole⟩ :=
    exists_intercalate "\n" (body_of_lines c.unitNames v member)
  have ending : startsShown [close] = true ∧ endsShown [close] = true := by
    simp [startsShown, endsShown, last]
  have piece : laidOut (opening.toList ++ literal ++ [close]) =
      laidOut opening.toList ++ laidOut literal ++ [close] := by
    have feedless : '\n' ∉ [close] := by
      intro feed
      cases List.mem_singleton.1 feed
      cases last
    rw [laidOut_append (endsShown_append _ closed.2) ending.1, laidOut_append opened.2 closed.1,
      laidOut_line feedless ending.2]
  obtain ⟨first, after, laid⟩ := laidOut_inside
    (startsShown_append (startsShown_append opened.1 literal) [close])
    (endsShown_append (opening.toList ++ literal) ending.2)
    (before ++ ("    " ++ ("    " ++ "    ")).toList) (rest ++ behind)
  refine ⟨after ++ ['\n'], first, ?_⟩
  have text : ("\n".intercalate (v.lines c.unitNames)).toList =
      before ++ ("    " ++ ("    " ++ "    ")).toList ++
        (opening.toList ++ literal ++ [close]) ++ (rest ++ behind) := by
    rw [whole]
    simp [indented, split]
  rw [content_of_artifact made]
  show laidOut ("\n".intercalate (v.lines c.unitNames)).toList ++ ['\n'] = _
  rw [text, laid, piece]
  simp

end units

section names

theorem toList_chain (separator : String) (calls : List String) :
    (chain separator calls).toList = calls.flatMap fun call => separator.toList ++ call.toList := by
  simp [chain, List.flatMap_map]

theorem facetsOf_renamed {col : Column} {property : String} (renamed : property ≠ col.name) :
    ∃ others, facetsOf col property =
      (if col.isNullable.getD false then [] else ["IsRequired()"]) ++
        ["HasColumnName(\x22" ++ col.name ++ "\x22)"] ++ others := by
  rw [facetsOf, if_neg renamed, List.append_assoc, List.append_assoc]
  exact ⟨_, rfl⟩

theorem chain_of_renamed {col : Column} {property : String} (renamed : property ≠ col.name) :
    ∃ others, (chain "." (facetsOf col property)).toList =
      (if col.isNullable.getD false then "" else ".IsRequired()").toList ++
        ".HasColumnName(".toList ++ enclosed col.name.toList ++ ')' :: others := by
  obtain ⟨others, split⟩ := facetsOf_renamed renamed
  refine ⟨others.flatMap fun call => ".".toList ++ call.toList, ?_⟩
  rw [split, toList_chain]
  simp only [List.flatMap_append]
  cases col.isNullable.getD false <;> simp [enclosed, literalMark]

theorem line_of_renamed {col : Column} {property : String} (renamed : property ≠ col.name) :
    ∃ rest, (PropertyFacets.line ⟨property, facetsOf col property⟩).toList =
      (columnOpening col property).toList ++ enclosed col.name.toList ++ ')' :: rest := by
  obtain ⟨others, calls⟩ := chain_of_renamed renamed
  refine ⟨others ++ ";".toList, ?_⟩
  unfold PropertyFacets.line columnOpening
  simp only [String.toList_append, calls, List.append_assoc, List.cons_append]

theorem columnOpening_closed (col : Column) (property : String) :
    startsShown (columnOpening col property).toList = true ∧
      endsShown (columnOpening col property).toList = true := by
  unfold columnOpening
  constructor
  · simp only [String.toList_append]
    iterate 4 apply startsShown_append
    decide
  · rw [String.toList_append]
    exact endsShown_append _ (by decide)

theorem line_of_binding (t : Table) (schema : String) :
    (TableBinding.line ⟨if t.isView then "ToView" else "ToTable", t.name, schema⟩).toList =
      (bindingOpening t).toList ++ literalChars t.name.toList ++
        ',' :: (" " ++ schema ++ ");").toList := by
  unfold TableBinding.line bindingOpening literal
  simp only [String.toList_append, String.toList_ofList, List.append_assoc]
  rfl

theorem bindingOpening_closed (t : Table) :
    startsShown (bindingOpening t).toList = true ∧ endsShown (bindingOpening t).toList = true := by
  unfold bindingOpening
  cases t.isView <;> decide

theorem literalChars_closed (cs : List Char) :
    startsShown (literalChars cs) = true ∧ endsShown (literalChars cs) = true :=
  ⟨rfl, endsShown_append _ (by decide)⟩

theorem enclosed_closed (cs : List Char) :
    startsShown (enclosed cs) = true ∧ endsShown (enclosed cs) = true :=
  ⟨rfl, endsShown_append _ (by decide)⟩

variable {c : Config} {m : ResolvedModel} {v : EntityConfiguration} {a : Artifact}

theorem names_table (made : (SourceUnit.entityConfiguration v).artifact c = .ok a) {t : Table}
    {schema : String}
    (bound : v.binding = some ⟨if t.isView then "ToView" else "ToTable", t.name, schema⟩) :
    NamesTable a.content t := by
  have member : TableBinding.line ⟨if t.isView then "ToView" else "ToTable", t.name, schema⟩ ∈
      v.body := by
    simp [EntityConfiguration.body, bound]
  obtain ⟨rest, shows⟩ := shows_of_line made member (line_of_binding t schema)
    (bindingOpening_closed t) (literalChars_closed t.name.toList) (by decide)
  refine ⟨rest, shows, fun laid => ?_⟩
  rw [laid]
  exact readLiteral_literalChars ..

theorem names_column (made : (SourceUnit.entityConfiguration v).artifact c = .ok a) {col : Column}
    {property : String} (member : ⟨property, facetsOf col property⟩ ∈ v.properties)
    (renamed : property ≠ col.name) : NamesColumn a.content col property := by
  have line : PropertyFacets.line ⟨property, facetsOf col property⟩ ∈ v.body := by
    refine List.mem_append_left _ (List.mem_append_right _ ?_)
    exact List.mem_map_of_mem member
  obtain ⟨rest, split⟩ := line_of_renamed renamed
  obtain ⟨rest, shows⟩ := shows_of_line made line split (columnOpening_closed col property)
    (enclosed_closed col.name.toList) (by decide)
  refine ⟨rest, shows, fun plain => read_enclosed_of_plain plain _, ?_⟩
  rintro ⟨after, read⟩
  exact plain_of_read_enclosed read

theorem facetsFor_ok {t : Table} {y : Correspondence} {p : PropertyFacets}
    (made : facetsFor t y = .ok p) :
    ∃ col, t.columns.find? y.column = some col ∧
      p = ⟨y.property, facetsOf col y.property⟩ := by
  unfold facetsFor at made
  split at made
  · rename_i col found
    cases made
    exact ⟨col, found, rfl⟩
  · cases made

theorem facets_of_configuration {x : Mapping} (made : mappingConfiguration c m x = .ok v) :
    ∃ t schema, m.storage.resolveTable? x.table = some t ∧
      v.binding = some ⟨if t.isView then "ToView" else "ToTable", t.name, schema⟩ ∧
      x.correspondences.mapM (facetsFor t) = .ok v.properties := by
  unfold mappingConfiguration at made
  split at made
  · rename_i t resolved
    simp only [tableConfiguration, tableBinding, bind_ok, pure_ok] at made
    obtain ⟨_, _, properties, walked, binding, ⟨schema, _, rfl⟩, _, _, rfl⟩ := made
    exact ⟨t, schema, resolved, rfl, walked⟩
  · cases made

structure WrittenFor (c : Config) (m : ResolvedModel) (a : Artifact) (x : Mapping) (t : Table) :
    Prop where
  mapping : x ∈ m.mappings
  table : m.storage.resolveTable? x.table = some t
  made : ∃ v, mappingConfiguration c m x = .ok v ∧
    (SourceUnit.entityConfiguration v).artifact c = .ok a

theorem source_of_configuration
    (written : a ∈ (Emitter.mappingConfiguration.artifacts c m).items) :
    (∃ t ∈ m.returnedComplexTypes,
      (SourceUnit.entityConfiguration (complexConfiguration c t)).artifact c = .ok a) ∨
      ∃ x ∈ m.mappings, ∃ v, mappingConfiguration c m x = .ok v ∧
        (SourceUnit.entityConfiguration v).artifact c = .ok a := by
  obtain ⟨u, listed, made⟩ := Trace.mem_items_tryMap written
  rcases Trace.mem_items_append listed with mapped | returned
  · obtain ⟨x, member, path, found⟩ := mem_items_emitMappings mapped
    obtain ⟨v, configured, found⟩ := bind_ok.1 found
    obtain ⟨_, _, same⟩ := bind_ok.1 found
    cases pure_ok.1 same
    exact .inr ⟨x, member, v, configured, made⟩
  · obtain ⟨t, member, own⟩ := Trace.mem_items_forEach returned
    cases Trace.mem_items_one own
    exact .inl ⟨t, member, made⟩

theorem names_shown {x : Mapping} (configured : mappingConfiguration c m x = .ok v)
    (made : (SourceUnit.entityConfiguration v).artifact c = .ok a) :
    ∃ t, m.storage.resolveTable? x.table = some t ∧ NamesTable a.content t ∧
      ∀ y ∈ x.correspondences, ∃ col, t.columns.find? y.column = some col ∧
        (y.property ≠ col.name → NamesColumn a.content col y.property) := by
  obtain ⟨t, schema, resolved, bound, walked⟩ := facets_of_configuration configured
  refine ⟨t, resolved, names_table made bound, fun y member => ?_⟩
  obtain ⟨p, listed, found⟩ := result_of_mapM walked member
  obtain ⟨col, known, rfl⟩ := facetsFor_ok found
  exact ⟨col, known, names_column made listed⟩

/-- In a configuration that is written for a mapping, the name of the table is a literal, and the
name of a column, wherever its property has another one, is read back just when it is plain. -/
theorem column_names_iff (written : a ∈ (Emitter.mappingConfiguration.artifacts c m).items) :
    (∃ t ∈ m.returnedComplexTypes,
      (SourceUnit.entityConfiguration (complexConfiguration c t)).artifact c = .ok a) ∨
      ∃ x t, WrittenFor c m a x t ∧ NamesTable a.content t ∧
        ∀ y ∈ x.correspondences, ∃ col, t.columns.find? y.column = some col ∧
          (y.property ≠ col.name → NamesColumn a.content col y.property) := by
  refine (source_of_configuration written).imp_right ?_
  rintro ⟨x, member, v, configured, made⟩
  obtain ⟨t, resolved, named⟩ := names_shown configured made
  exact ⟨x, t, ⟨member, resolved, v, configured, made⟩, named⟩

/-- Notes with two columns, whose properties have other names. One of the columns has a mark in its
name. -/
def notesDocument : SourceDocument :=
  .ofSections
    ("<EntityType Name=\x22Notes\x22><Property Name=\x22SaidAt\x22 Type=\x22int\x22/>" ++
      "<Property Name=\x22Say&quot;\x22 Type=\x22int\x22/></EntityType>")
    ("<EntityType Name=\x22Note\x22><Property Name=\x22Time\x22 Type=\x22Int32\x22/>" ++
      "<Property Name=\x22Text\x22 Type=\x22Int32\x22/></EntityType>")
    ("<EntitySetMapping TypeName=\x22Note\x22 StoreEntitySet=\x22Notes\x22>" ++
      "<ScalarProperty Name=\x22Time\x22 ColumnName=\x22SaidAt\x22/>" ++
      "<ScalarProperty Name=\x22Text\x22 ColumnName=\x22Say&quot;\x22/></EntitySetMapping>")

def notesMapping : Mapping :=
  ⟨"Notes", "Note", [⟨"SaidAt", "Time"⟩, ⟨"Say\x22", "Text"⟩]⟩

set_option maxRecDepth 100000 in
theorem notes_resolved :
    ∃ r, (resolveDocument (.ofSettings .defaults) notesDocument).outcome = .ok r ∧
      r.mappings = [notesMapping] ∧ r.returnedComplexTypes = [] ∧
      ∃ a ∈ (Emitter.mappingConfiguration.artifacts (.ofSettings .defaults) r).items,
        a.kind = .configuration :=
  ok_of_any (by decide +kernel)

theorem notes_named :
    ∃ r a t col, (resolveDocument (.ofSettings .defaults) notesDocument).outcome = .ok r ∧
      a ∈ (Emitter.mappingConfiguration.artifacts (.ofSettings .defaults) r).items ∧
      WrittenFor (.ofSettings .defaults) r a notesMapping t ∧ NamesTable a.content t ∧
      t.columns.find? "SaidAt" = some col ∧ NamesColumn a.content col "Time" ∧
      PlainName col.name := by
  obtain ⟨r, resolved, mappings, none, a, written, _⟩ := notes_resolved
  rcases column_names_iff written with ⟨t, returned, _⟩ | ⟨x, t, source, table, columns⟩
  · rw [none] at returned
    cases returned
  · have single := source.mapping
    rw [mappings] at single
    cases List.mem_singleton.1 single
    obtain ⟨col, known, named⟩ := columns ⟨"SaidAt", "Time"⟩ (by decide)
    have name : col.name = "SaidAt" := Catalog.key_of_find? known
    have renamed : "Time" ≠ col.name := by
      rw [name]
      decide
    refine ⟨r, a, t, col, resolved, written, source, table, known, named renamed, ?_⟩
    rw [name]
    exact ⟨by decide, by decide, by decide⟩

/-- The literal of the other column ends at the mark in its name. -/
theorem note_misnamed :
    ∃ r a t col rest, (resolveDocument (.ofSettings .defaults) notesDocument).outcome = .ok r ∧
      a ∈ (Emitter.mappingConfiguration.artifacts (.ofSettings .defaults) r).items ∧
      WrittenFor (.ofSettings .defaults) r a notesMapping t ∧
      t.columns.find? "Say\x22" = some col ∧ col.name = "Say\x22" ∧ "Text" ≠ col.name ∧
      ShowsLiteral a.content (columnOpening col "Text") (enclosed col.name.toList) (')' :: rest) ∧
      readLiteral (laidOut (enclosed col.name.toList) ++ ')' :: rest) =
        some ("Say".toList, literalMark :: ')' :: rest) := by
  obtain ⟨r, resolved, mappings, none, a, written, _⟩ := notes_resolved
  rcases source_of_configuration written with
    ⟨t, returned, _⟩ | ⟨x, member, v, configured, made⟩
  · rw [none] at returned
    cases returned
  · have single := member
    rw [mappings] at single
    cases List.mem_singleton.1 single
    obtain ⟨t, table, _, columns⟩ := names_shown configured made
    obtain ⟨col, known, named⟩ := columns ⟨"Say\x22", "Text"⟩ (by decide)
    have name : col.name = "Say\x22" := Catalog.key_of_find? known
    have renamed : "Text" ≠ col.name := by
      rw [name]
      decide
    obtain ⟨rest, shows, _⟩ := named renamed
    refine ⟨r, a, t, col, rest, resolved, written, ⟨member, table, v, configured, made⟩, known,
      name, renamed, shows, ?_⟩
    rw [name]
    rfl

end names

end EntityScaffold.Emission
