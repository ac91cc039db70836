import EntityScaffold.Proofs.Json.RoundTrip
import EntityScaffold.Proofs.Lists
import EntityScaffold.Settings.File
import Mathlib.Data.List.Sort

/-!
Settings from their layers. Names that no key has are refused before anything else, all of them at
once and in their order; overrides that are no object come next, and only where they count. Every
value is then the explicit one, else that of the file, else the default.
-/
namespace EntityScaffold.Settings

section layers

/-- What a file adds: nothing where none is asked for, and else the fields of the object in it. -/
inductive FileLayer (t : FileTree) : Option String → SettingLayer → Prop where
  | absent : FileLayer t none []
  | unnamed : FileLayer t (some "") []
  | object {name text : String} {content : ByteArray} {fields : SettingLayer} (named : name ≠ "")
      (suffix : Text.lower (Path.ofString name).suffix = fileSuffix)
      (held : t.read (.ofString name) = .ok content)
      (decoded : String.fromUTF8? content = some text)
      (parsed : Json.parse text = .ok (.obj fields)) : FileLayer t (some name) fields

/-- A name in one of the layers that no key has. An explicit null is in no layer. -/
def Unknown (fields custom : SettingLayer) (name : String) : Prop :=
  (name ∈ fields.map Prod.fst ∨ name ∈ (given custom).map Prod.fst) ∧
    ∀ k : SettingKey, k.text ≠ name

/-- The value that the layers give a key; in the file a null is a value. -/
inductive Decides (fields custom : SettingLayer) (k : SettingKey) : Json → Prop where
  | explicit {v : Json} (found : (given custom).lookup k.text = some v) : Decides fields custom k v
  | file {v : Json} (passed : (given custom).lookup k.text = none)
      (found : fields.lookup k.text = some v) : Decides fields custom k v
  | default (passed : (given custom).lookup k.text = none)
      (missing : fields.lookup k.text = none) : Decides fields custom k k.default

inductive Answer (fields custom : SettingLayer) : Except Fault Settings → Prop where
  | unknown {keys : List String} (some : keys ≠ []) (sorted : keys.Pairwise (· < ·))
      (listed : ∀ name, name ∈ keys ↔ Unknown fields custom name) :
      Answer fields custom (.error (.settings (.unknownKeys keys)))
  | overrides {v : Json} (known : ∀ name, ¬ Unknown fields custom name)
      (value : Decides fields custom .nameOverrides v) (filled : v.truthy = true)
      (other : ∀ members, v ≠ .obj members) :
      Answer fields custom (.error (.settings .overridesNotObject))
  | merged {s : Settings} (known : ∀ name, ¬ Unknown fields custom name)
      (fitting : (s.value .nameOverrides).truthy = false ∨
        ∃ members, s.value .nameOverrides = .obj members)
      (values : ∀ k, Decides fields custom k (s.value k)) : Answer fields custom (.ok s)

variable {t : FileTree} {file : Option String} {fields custom : SettingLayer} {k : SettingKey}
  {v w : Json} {name : String}

theorem Decides.unique (first : Decides fields custom k v) (second : Decides fields custom k w) :
    v = w := by
  cases first <;> cases second <;> simp_all

theorem decides_overlay (fields custom : SettingLayer) (k : SettingKey) :
    Decides fields custom k (((defaults.overlay fields).overlay (given custom)).value k) := by
  simp only [overlay]
  cases explicit : (given custom).lookup k.text with
  | some v => exact .explicit explicit
  | none =>
    cases own : fields.lookup k.text with
    | some v => exact .file explicit own
    | none => exact .default explicit own

theorem isKnown_iff : SettingKey.isKnown name = true ↔ ∃ k : SettingKey, k.text = name := by
  unfold SettingKey.isKnown
  rw [List.any_eq_true]
  constructor
  · intro found
    obtain ⟨k, _, same⟩ := found
    exact ⟨k, by simpa using same⟩
  · intro found
    obtain ⟨k, same⟩ := found
    exact ⟨k, k.mem_all, by simpa using same⟩

theorem mem_unknownNames :
    name ∈ unknownNames fields (given custom) ↔ Unknown fields custom name := by
  unfold unknownNames sortTexts Unknown
  rw [mem_sortBy, List.mem_eraseDups, List.mem_filter, List.map_append, List.mem_append]
  apply and_congr_right
  intro _
  rw [Bool.not_eq_true', ← Bool.not_eq_true, isKnown_iff, not_exists]

theorem unknownNames_sorted (fields custom : SettingLayer) :
    (unknownNames fields custom).Pairwise (· < ·) := by
  have ordered := sortTexts_ordered
    (((fields ++ custom).map Prod.fst).filter fun n => !SettingKey.isKnown n).eraseDups
  have once : (unknownNames fields custom).Nodup := by
    unfold unknownNames sortTexts
    exact (sortBy_perm _ _).nodup_iff.2 (nodup_eraseDups _)
  apply (ordered.and once).imp
  intro a b both
  exact Std.lt_of_le_of_ne both.1 both.2

theorem isObject_iff : isObject v = true ↔ ∃ members, v = .obj members := by
  cases v <;> simp [isObject]

theorem answer_ofLayers (fields custom : SettingLayer) :
    Answer fields custom ((ofLayers fields custom).mapError .settings) := by
  unfold ofLayers
  dsimp only
  split
  · rename_i some
    exact .unknown some (unknownNames_sorted ..) fun name => mem_unknownNames
  · rename_i none
    have known (name : String) : ¬ Unknown fields custom name := by
      rw [← mem_unknownNames, Decidable.not_not.1 none]
      exact List.not_mem_nil
    have value := decides_overlay fields custom .nameOverrides
    split
    · rename_i refused
      rw [Bool.and_eq_true, Bool.not_eq_true'] at refused
      apply Answer.overrides known value refused.1
      intro members same
      rw [isObject_iff.2 ⟨members, same⟩] at refused
      cases refused.2
    · rename_i accepted
      apply Answer.merged known _ (decides_overlay fields custom)
      rw [Bool.and_eq_true, Bool.not_eq_true', not_and_or, Bool.not_eq_true, Bool.not_eq_false,
        isObject_iff] at accepted
      exact accepted

theorem not_known_of_keys {keys : List String} (some : keys ≠ [])
    (listed : ∀ name, name ∈ keys ↔ Unknown fields custom name) :
    ¬ ∀ name, ¬ Unknown fields custom name := by
  intro known
  obtain ⟨name, member⟩ := List.exists_mem_of_ne_nil keys some
  exact known name ((listed name).1 member)

theorem not_fitting_of_overrides (filled : v.truthy = true) (other : ∀ members, v ≠ .obj members) :
    ¬ (v.truthy = false ∨ ∃ members, v = .obj members) := by
  intro fitting
  rcases fitting with empty | object
  · rw [filled] at empty
    cases empty
  · obtain ⟨members, same⟩ := object
    exact other members same

theorem Answer.unique {a b : Except Fault Settings} (first : Answer fields custom a)
    (second : Answer fields custom b) : a = b := by
  cases first with
  | unknown some sorted listed =>
    cases second with
    | unknown _ again same =>
      rw [sorted.eq_of_mem_iff again fun name => (listed name).trans (same name).symm]
    | overrides known => exact absurd known (not_known_of_keys some listed)
    | merged known => exact absurd known (not_known_of_keys some listed)
  | overrides known value filled other =>
    cases second with
    | unknown some _ listed => exact absurd known (not_known_of_keys some listed)
    | overrides => rfl
    | merged _ fitting values =>
      rw [← value.unique (values .nameOverrides)] at fitting
      exact absurd fitting (not_fitting_of_overrides filled other)
  | @merged s known fitting values =>
    cases second with
    | unknown some _ listed => exact absurd known (not_known_of_keys some listed)
    | overrides _ value filled other =>
      rw [← value.unique (values .nameOverrides)] at fitting
      exact absurd fitting (not_fitting_of_overrides filled other)
    | @merged u _ _ again =>
      have same : s.value = u.value := funext fun k => (values k).unique (again k)
      exact congrArg Except.ok (congrArg Settings.mk same)

theorem FileLayer.eq (layer : FileLayer t file fields) : fileLayer t file = .ok fields := by
  cases layer with
  | absent => rfl
  | unnamed => rfl
  | @object name text content fields named suffix held decoded parsed =>
    have there : t.find? (.ofString name) = .ok (some (.file content)) := by
      unfold FileTree.read at held
      unfold FileTree.find?
      split at held
      · cases held
      · rename_i place found
        split at held
        · rename_i own
          cases held
          rw [found]
          exact congrArg Except.ok own
        · cases held
        · cases held
    rw [fileLayer]
    · simp only [readFile, there, suffix, held, readContent, decoded, Option.map_some, parsed,
        ne_eq, not_true_eq_false, ↓reduceIte]
    · exact named

/-- Settings are loaded by the rules of their layers: every name that no key has is refused, in the
order of the names, then overrides that count and are no object; and else every key has its explicit
value, its value of the file, null included, or its default, the first of these that there is. -/
theorem load_answers (layer : FileLayer t file fields) (custom : SettingLayer) :
    (∀ answer, load t file custom = answer ↔ Answer fields custom answer) ∧
      ∀ keys, (Fault.settings (.unknownKeys keys)).message =
        "Unknown configuration keys: " ++ ", ".intercalate keys := by
  have own : load t file custom = (ofLayers fields custom).mapError .settings := by
    rw [load, layer.eq]
    rfl
  constructor
  · intro answer
    rw [own]
    constructor
    · intro same
      exact same ▸ answer_ofLayers fields custom
    · intro other
      exact (answer_ofLayers fields custom).unique other
  · intro keys
    rfl

end layers

section sales

def salesFields : SettingLayer :=
  [("namespace", .str "Sales.File"), ("emit_repositories", .null), ("default_schema", .str "sales"),
    ("name_overrides", .arr [.str "Regla"])]

def salesTree : FileTree where
  entries := [(["sales.Json"], .file ((Json.obj salesFields).pretty 0).toUTF8)]

theorem salesFields_textual : Json.Textual (.obj salesFields) := by
  apply Json.Textual.obj
  · decide
  · simp only [salesFields, List.forall_mem_cons]
    exact ⟨.str _, .null, .str _, .arr (by simpa using .str _), nofun⟩

theorem sales_layer : FileLayer salesTree (some "sales.Json") salesFields := by
  have place : salesTree.place? (.ofString "sales.Json") = .ok ["sales.Json"] := by
    rw [FileTree.place?, String.contains_char_eq]
    rfl
  have held : salesTree.read (.ofString "sales.Json") =
      .ok ((Json.obj salesFields).pretty 0).toUTF8 := by
    rw [FileTree.read, place]
    rfl
  exact .object (by decide) (by decide) held (dif_pos (String.isValidUTF8 _))
    (Json.parse_pretty salesFields_textual)

/-- The explicit overrides hide those of the file, and explicit nulls hide nothing. -/
def salesChoice : SettingLayer :=
  [("namespace", .str "Sales.Line"), ("default_schema", .null), ("tone", .null),
    ("name_overrides", .obj [])]

theorem sales_answered :
    (∃ s, load salesTree (some "sales.Json") salesChoice = .ok s ∧
      s.value .rootNamespace = .str "Sales.Line" ∧ s.value .emitRepositories = .null ∧
      s.value .defaultSchema = .str "sales" ∧ s.value .modelName = .str "AppDb") ∧
    load salesTree (some "sales.Json") [] = .error (.settings .overridesNotObject) ∧
    load salesTree (some "sales.Json") [("tone", .str ""), ("colour", .bool false)] =
      .error (.settings (.unknownKeys ["colour", "tone"])) := by
  have known {custom : SettingLayer} (none : unknownNames salesFields (given custom) = [])
      (name : String) : ¬ Unknown salesFields custom name := by
    rw [← mem_unknownNames, none]
    exact List.not_mem_nil
  refine ⟨⟨(defaults.overlay salesFields).overlay (given salesChoice), ?_, ?_⟩, ?_, ?_⟩
  · apply ((load_answers sales_layer salesChoice).1 _).2
    exact .merged (known (by decide)) (.inl rfl) (decides_overlay salesFields salesChoice)
  · exact ⟨rfl, rfl, rfl, rfl⟩
  · apply ((load_answers sales_layer []).1 _).2
    have overrides : salesFields.lookup SettingKey.nameOverrides.text =
        some (.arr [.str "Regla"]) := rfl
    exact .overrides (known (by decide)) (.file rfl overrides) rfl (fun members => nofun)
  · apply ((load_answers sales_layer _).1 _).2
    have names : unknownNames salesFields (given [("tone", .str ""), ("colour", .bool false)]) =
        ["colour", "tone"] := by decide
    exact .unknown (by decide) (by decide) fun name => by rw [← mem_unknownNames, names]

end sales

end EntityScaffold.Settings
