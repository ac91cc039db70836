import EntityScaffold.Proofs.Files.Writing
import EntityScaffold.Proofs.Json.RoundTrip
import EntityScaffold.Settings.File

/-!
Settings that are saved and loaded again. Where every value has the form that its key asks for, the
file holds all there is to know about them.
-/
namespace EntityScaffold

namespace FileTree

variable {t : FileTree} {p : Path} {place : Place}

/-- A path that leads to where a file is or may be, and where the device takes all of a content. -/
def Writable (t : FileTree) (p : Path) (content : ByteArray) : Prop :=
  ∃ place, t.place? p = .ok place ∧ t.node? place ≠ some .folder ∧
    t.device.writeEnd t.changes place content = .done

theorem write_of_free (found : t.place? p = .ok place) (free : t.node? place ≠ some .folder)
    {content : ByteArray} (room : t.device.writeEnd t.changes place content = .done) :
    t.write p content = (.ok (), t.put place (.file content)) := by
  have leads : t.filePlace? p = .ok place := by
    rw [filePlace?, found]
    dsimp only
    split
    · rename_i folder
      exact absurd folder free
    · rfl
  rw [write, leads]
  dsimp only
  rw [room]

theorem place?_put (found : t.place? p = .ok place) (free : t.node? place ≠ some .folder)
    (content : ByteArray) : (t.put place (.file content)).place? p = .ok place := by
  refine place?_again (fun q folder => ?_) found
  have apart : q ≠ place := by
    rintro rfl
    exact free folder
  rw [node?_put_of_ne _ apart, folder]

end FileTree

namespace Settings

def textKeys : List SettingKey :=
  [.sourcePath, .destinationRoot, .rootNamespace, .modelName, .fileExtension, .defaultSchema,
    .defaultSchemaName]

def flagKeys : List SettingKey :=
  [.emitContext, .emitDomainModels, .emitRepositories, .emitMappingConfiguration]

def wordKeys : List SettingKey := [.acronyms, .suffixWords]

/-- Every value has the form its key asks for; any text may be missing. -/
structure Typed (s : Settings) : Prop where
  texts : ∀ k ∈ textKeys, s.value k = .null ∨ ∃ text, s.value k = .str text
  flags : ∀ k ∈ flagKeys, ∃ b, s.value k = .bool b
  words : ∀ k ∈ wordKeys, ∃ words : List String, s.value k = .arr (words.map .str)
  overrides : ∃ fixed : List (String × String), (fixed.map Prod.fst).Nodup ∧
    s.value .nameOverrides = .obj (fixed.map fun f => (f.1, .str f.2))

variable {s : Settings}

theorem Typed.textual (typed : s.Typed) (k : SettingKey) : Json.Textual (s.value k) := by
  have text (asked : k ∈ textKeys) : Json.Textual (s.value k) := by
    rcases typed.texts k asked with missing | ⟨text, own⟩
    · exact missing ▸ .null
    · exact own ▸ .str text
  have flag (asked : k ∈ flagKeys) : Json.Textual (s.value k) := by
    obtain ⟨b, own⟩ := typed.flags k asked
    exact own ▸ .bool b
  have list (asked : k ∈ wordKeys) : Json.Textual (s.value k) := by
    obtain ⟨words, own⟩ := typed.words k asked
    rw [own]
    refine .arr fun j listed => ?_
    obtain ⟨word, _, rfl⟩ := List.mem_map.1 listed
    exact .str word
  cases k with
  | sourcePath | destinationRoot | rootNamespace | modelName | fileExtension | defaultSchema
  | defaultSchemaName => exact text (by decide)
  | emitContext | emitDomainModels | emitRepositories | emitMappingConfiguration =>
    exact flag (by decide)
  | acronyms | suffixWords => exact list (by decide)
  | nameOverrides =>
    obtain ⟨fixed, once, own⟩ := typed.overrides
    rw [own]
    refine .obj (by simpa [Function.comp_def] using once) fun f listed => ?_
    obtain ⟨g, _, rfl⟩ := List.mem_map.1 listed
    exact .str g.2

theorem record_names (s : Settings) :
    s.record.fields.map Prod.fst = SettingKey.all.map SettingKey.text := List.map_map

theorem Typed.record_textual (typed : s.Typed) : Json.Textual s.record := by
  have once : (s.record.fields.map Prod.fst).Nodup := by
    rw [record_names]
    decide
  refine .obj once fun f listed => ?_
  obtain ⟨k, _, rfl⟩ := List.mem_map.1 listed
  exact typed.textual k

theorem lookup_record (s : Settings) (k : SettingKey) :
    s.record.fields.lookup k.text = some (s.value k) := by
  have among (keys : List SettingKey) (member : k ∈ keys) :
      (keys.map fun k => (k.text, s.value k)).lookup k.text = some (s.value k) := by
    induction keys with
    | nil => cases member
    | cons first rest ih =>
      rw [List.map_cons, List.lookup_cons]
      by_cases own : k = first
      · simp [own]
      · have apart : (k.text == first.text) = false :=
          beq_eq_false_iff_ne.2 fun same => own (SettingKey.text_injective same)
        rw [apart]
        exact ih (List.mem_of_ne_of_mem own member)
  exact among _ k.mem_all

theorem ofLayers_record (typed : s.Typed) : ofLayers s.record.fields [] = .ok s := by
  have known : unknownNames s.record.fields (given []) = [] := by
    have none : (SettingKey.all.map SettingKey.text).filter (fun n => !SettingKey.isKnown n) =
        [] := by decide
    rw [unknownNames, given, List.filter_nil, List.append_nil, record_names, none]
    rfl
  have merged : (defaults.overlay s.record.fields).overlay (given []) = s := by
    have values : ((defaults.overlay s.record.fields).overlay (given [])).value = s.value :=
      funext fun k => by simp only [overlay, given, List.filter_nil, List.lookup_nil,
        Option.getD_none, lookup_record, Option.getD_some]
    exact congrArg Settings.mk values
  obtain ⟨fixed, _, own⟩ := typed.overrides
  have object : isObject (s.value .nameOverrides) = true := by rw [own]; rfl
  simp only [ofLayers, known, merged, object, ne_eq, not_true_eq_false, ↓reduceIte, Bool.not_true,
    Bool.and_false, Bool.false_eq_true]

theorem readContent_saved (typed : s.Typed) (p : Path) :
    readContent p s.savedText.toUTF8 = .ok s.record.fields := by
  have text : String.fromUTF8? s.savedText.toUTF8 = some s.savedText :=
    dif_pos s.savedText.isValidUTF8
  rw [readContent, text, Option.map_some, savedText, Json.parse_pretty typed.record_textual]
  rfl

/-- Settings whose values have the forms they should have are loaded as they were saved. -/
theorem load_saved (typed : s.Typed) {t : FileTree} {file : String}
    (named : Text.lower (Path.ofString file).suffix = fileSuffix)
    (writable : t.Writable (.ofString file) s.savedText.toUTF8) :
    ∃ u, (s.save file).on t = (.ok (), u) ∧ load u (some file) [] = .ok s := by
  obtain ⟨place, found, free, room⟩ := writable
  let u := t.put place (.file s.savedText.toUTF8)
  have again : u.place? (.ofString file) = .ok place := FileTree.place?_put found free _
  have held : u.node? place = some (.file s.savedText.toUTF8) :=
    FileTree.node?_put_self _ (FileTree.not_standing free)
  refine ⟨u, ?_, ?_⟩
  · rw [save, Disk.on_adapt, Disk.on_writeFile, FileTree.write_of_free found free room]
    rfl
  · have given : file ≠ "" := by
      rintro rfl
      exact absurd named (by decide)
    have kept : u.find? (.ofString file) = .ok (some (.file s.savedText.toUTF8)) := by
      rw [FileTree.find?, again]
      exact congrArg _ held
    have content : u.read (.ofString file) = .ok s.savedText.toUTF8 := by
      rw [FileTree.read, again]
      dsimp only
      rw [held]
    have layer : fileLayer u (some file) = .ok s.record.fields := by
      rw [fileLayer]
      · rw [readFile, kept]
        simp only [named, ne_eq, not_true_eq_false, ↓reduceIte, content]
        exact readContent_saved typed _
      · exact given
    rw [load, layer]
    exact congrArg (Except.mapError Fault.settings) (ofLayers_record typed)

section odd

/-- Settings with quotes, backslashes, control characters, letters of other scripts, and nothing
where a text is asked for. -/
def oddSettings : Settings :=
  defaults.overlay
    [("source_path", .null), ("namespace", .str "a\x22b\\c\n\t\x00\x1f\x7f"), ("model_name", .str ""),
      ("default_schema", .null), ("emit_context", .bool false),
      ("acronyms", .arr [.str "日本", .str "\\u0041", .str "/"]), ("suffix_words", .arr []),
      ("name_overrides", .obj [("\x22", .str "\u2028"), ("", .str "😀")])]

theorem odd_typed : oddSettings.Typed where
  texts := by
    simp [textKeys, oddSettings, overlay, SettingKey.text, List.lookup_cons, defaults,
      SettingKey.default]
  flags := by
    simp [flagKeys, oddSettings, overlay, SettingKey.text, List.lookup_cons, defaults,
      SettingKey.default]
  words := by
    rintro k (_ | ⟨_, _ | ⟨_, ⟨⟩⟩⟩)
    · exact ⟨["日本", "\\u0041", "/"], by decide⟩
    · exact ⟨[], by decide⟩
  overrides := ⟨[("\x22", "\u2028"), ("", "😀")], by decide, by decide⟩

def oneFolder : FileTree := { entries := [(["kept"], .folder)] }

theorem oneFolder_writable (content : ByteArray) :
    oneFolder.Writable (.ofString "kept/odd.Json") content := by
  have found : oneFolder.place? (.ofString "kept/odd.Json") = .ok ["kept", "odd.Json"] := by
    rw [FileTree.place?, String.contains_char_eq]
    rfl
  have empty : oneFolder.node? ["kept", "odd.Json"] = none := rfl
  exact ⟨_, found, by simp [empty], rfl⟩

theorem odd_loaded :
    Text.lower (Path.ofString "kept/odd.Json").suffix = fileSuffix ∧
      ∃ u, (oddSettings.save "kept/odd.Json").on oneFolder = (.ok (), u) ∧
        load u (some "kept/odd.Json") [] = .ok oddSettings :=
  have named : Text.lower (Path.ofString "kept/odd.Json").suffix = fileSuffix := by decide
  ⟨named, load_saved odd_typed named (oneFolder_writable _)⟩

end odd

end Settings

end EntityScaffold
