import EntityScaffold.Proofs.Outcomes
import EntityScaffold.Xml.Element

/-!
Names that have a local part. Whatever is asked of the nodes of a document is answered, unless some
name in the document has no local part; and the elements of an answer are nodes of the document
again.
-/
namespace EntityScaffold.Xml

namespace Element

mutual

theorem nested_within : (root : Element) → ∀ e ∈ root.nested, ∀ x ∈ e.nested, x ∈ root.nested
  | mk _ _ _ cs => by
    rw [nested]
    exact nested_in_forest cs

theorem nested_in_forest : (es : List Element) →
    ∀ e ∈ forest es, ∀ x ∈ e.nested, x ∈ forest es
  | [] => by simp
  | c :: cs => by
    intro e member x inner
    rw [forest_cons, List.mem_cons, List.mem_append] at member ⊢
    rcases member with rfl | below | later
    · exact .inr (.inl inner)
    · exact .inr (.inl (nested_within c e below x inner))
    · exact .inr (.inr (nested_in_forest cs e later x inner))

end

theorem child_nested {e x : Element} (member : x ∈ e.children) : x ∈ e.nested := by
  have inNodes := (List.mem_filter.1 member).1
  rw [nested_eq]
  generalize e.nodes = es at inNodes
  induction es with
  | nil => cases inNodes
  | cons d rest ih =>
    rw [forest_cons, List.mem_cons, List.mem_append]
    rcases List.mem_cons.1 inNodes with rfl | later
    · exact .inl rfl
    · exact .inr (.inr (ih later))

def isWhole (e : Element) : Bool :=
  hasLocalName e.space e.name && e.attributes.all fun a => hasLocalName a.space a.name

def plain (name : String) (attributes : List (String × String)) (children : List Element) :
    Element :=
  .mk none name (attributes.map fun a => ⟨none, a.1, a.2⟩) children

theorem localName_plain {name : String} (whole : hasLocalName none name = true)
    (attributes : List (String × String)) (children : List Element) :
    (plain name attributes children).localName = .ok name :=
  if_pos whole

end Element

open Element

def Misnamed (root : Element) (name : String) : Prop :=
  ∃ e ∈ root.nested, (e.name = name ∧ hasLocalName e.space name = false) ∨
    ∃ a ∈ e.attributes, a.name = name ∧ hasLocalName a.space name = false

def WholeNames (root : Element) : Prop := ∀ e ∈ root.nested, e.isWhole = true

instance (root : Element) : Decidable (WholeNames root) :=
  inferInstanceAs (Decidable (∀ e ∈ root.nested, e.isWhole = true))

theorem not_misnamed {root : Element} (whole : WholeNames root) (name : String) :
    ¬ Misnamed root name := by
  rintro ⟨e, member, broken⟩
  obtain ⟨own, attributes⟩ := Bool.and_eq_true_iff.1 (whole e member)
  rcases broken with ⟨rfl, lost⟩ | ⟨a, inElement, rfl, lost⟩
  · rw [own] at lost
    cases lost
  · rw [List.all_eq_true.1 attributes a inElement] at lost
    cases lost

theorem mem_of_namedIn {name : String} {es found : List Element}
    (answered : namedIn name es = .ok found) : ∀ e ∈ found, e ∈ es := by
  induction es generalizing found with
  | nil =>
    cases answered
    exact fun e member => member
  | cons d rest ih =>
    simp only [namedIn, bind_ok, pure_ok] at answered
    obtain ⟨own, _, others, later, rfl⟩ := answered
    intro e member
    split at member
    · rcases List.mem_cons.1 member with rfl | listed
      · exact List.mem_cons_self ..
      · exact List.mem_cons_of_mem d (ih later e listed)
    · exact List.mem_cons_of_mem d (ih later e member)

theorem mem_of_firstNamed {name : String} {es : List Element} {e : Element}
    (answered : firstNamed name es = .ok (some e)) : e ∈ es := by
  induction es with
  | nil => cases answered
  | cons d rest ih =>
    obtain ⟨own, _, answered⟩ := bind_ok.1 answered
    split at answered
    · cases answered
      exact List.mem_cons_self ..
    · exact List.mem_cons_of_mem d (ih answered)

def IsAskable (name : String) : Prop := (expandedName? name.toList).isSome = true

instance (name : String) : Decidable (IsAskable name) := inferInstanceAs (Decidable (_ = _))

section questions

variable {β : Type} {P : Fault → Prop} {root : Element}
  (misnamed : ∀ name, Misnamed root name → P (.brokenName name))
include misnamed

theorem localName_fails {e : Element} (inside : e ∈ root.nested) : FailsWith P e.localName := by
  unfold localName
  split
  · exact failsWith_ok _
  · rename_i lost
    exact failsWith_error.2 (misnamed _ ⟨e, inside, .inl ⟨rfl, by simpa using lost⟩⟩)

theorem spacedAttribute_fails {name : String} {attributes : List Attribute}
    (known : ∀ a ∈ attributes, hasLocalName a.space a.name = false → Misnamed root a.name) :
    FailsWith P (spacedAttribute name attributes) := by
  induction attributes with
  | nil => exact failsWith_ok _
  | cons a rest ih =>
    have others := ih fun b later => known b (List.mem_cons_of_mem a later)
    rw [spacedAttribute]
    split
    · exact others
    · split
      · rename_i lost
        exact failsWith_error.2 (misnamed _ (known a (by simp) (by simpa using lost)))
      · split
        · exact failsWith_ok _
        · exact others

theorem attribute_fails {e : Element} (inside : e ∈ root.nested) {name : String}
    (askable : IsAskable name) : FailsWith P (e.attribute? name) := by
  unfold attribute?
  split
  · exact failsWith_ok _
  · split
    · rename_i unasked
      rw [IsAskable, unasked] at askable
      cases askable
    · split
      · exact failsWith_ok _
      · refine spacedAttribute_fails misnamed fun a member lost => ?_
        exact ⟨e, inside, .inr ⟨a, member, rfl, lost⟩⟩

theorem attributeD_fails {e : Element} (inside : e ∈ root.nested) {name : String}
    (askable : IsAskable name) : FailsWith P (e.attributeD name) :=
  .bind (attribute_fails misnamed inside askable) fun _ _ => failsWith_ok _

theorem integer_fails {e : Element} (inside : e ∈ root.nested) {name : String}
    (askable : IsAskable name) : FailsWith P (e.integer? name) :=
  .bind (attribute_fails misnamed inside askable) fun _ _ => failsWith_ok _

theorem namedIn_fails {name : String} {es : List Element} (inside : ∀ e ∈ es, e ∈ root.nested) :
    FailsWith P (namedIn name es) := by
  induction es with
  | nil => exact failsWith_ok _
  | cons e rest ih =>
    rw [namedIn]
    refine .bind (localName_fails misnamed (inside e (by simp))) fun _ _ => ?_
    refine .bind (ih fun x later => inside x (List.mem_cons_of_mem e later)) fun _ _ => ?_
    exact failsWith_ok _

theorem firstNamed_fails {name : String} {es : List Element}
    (inside : ∀ e ∈ es, e ∈ root.nested) : FailsWith P (firstNamed name es) := by
  induction es with
  | nil => exact failsWith_ok _
  | cons e rest ih =>
    rw [firstNamed]
    refine .bind (localName_fails misnamed (inside e (by simp))) fun own _ => ?_
    split
    · exact failsWith_ok _
    · exact ih fun x later => inside x (List.mem_cons_of_mem e later)

theorem childrenNamed_fails {e : Element} (inside : e ∈ root.nested) {name : String}
    {next : List Element → Except Fault β}
    (each : ∀ nodes : List Element, (∀ x ∈ nodes, x ∈ root.nested) → FailsWith P (next nodes)) :
    FailsWith P (e.childrenNamed name >>= next) := by
  have within : ∀ x ∈ e.children, x ∈ root.nested := fun x member =>
    nested_within root e inside x (child_nested member)
  refine .bind (namedIn_fails misnamed within) fun nodes answered => each nodes fun x member => ?_
  exact within x (mem_of_namedIn answered x member)

theorem descendants_fails {e : Element} (within : ∀ x ∈ e.nested, x ∈ root.nested) {name : String}
    {next : List Element → Except Fault β}
    (each : ∀ nodes : List Element, (∀ x ∈ nodes, x ∈ root.nested) → FailsWith P (next nodes)) :
    FailsWith P (e.descendants name >>= next) := by
  refine .bind (namedIn_fails misnamed within) fun nodes answered => each nodes fun x member => ?_
  exact within x (mem_of_namedIn answered x member)

theorem first_fails {e : Element} (within : ∀ x ∈ e.nested, x ∈ root.nested) {name : String}
    {next : Option Element → Except Fault β} (missing : FailsWith P (next none))
    (found : ∀ x ∈ root.nested, FailsWith P (next (some x))) :
    FailsWith P (e.first? name >>= next) := by
  refine .bind (firstNamed_fails misnamed within) fun answer answered => ?_
  cases answer with
  | none => exact missing
  | some x => exact found x (within x (mem_of_firstNamed answered))

end questions

section answers

def Element.parts (e : Element) (name : String) : List Element :=
  e.children.filter (·.name = name)

/-- What a node says by an attribute, one without a namespace before all others. -/
def Element.value? (e : Element) (name : String) : Option String :=
  ((e.attributes.find? fun a => a.space == none && a.name == name).or
    (e.attributes.find? fun a => a.space.isSome && a.name == name)).map (·.value)

def Element.valueD (e : Element) (name : String) : String := (e.value? name).getD ""

variable {root e : Element}

theorem part_nested (inside : e ∈ root.nested) {name : String} {x : Element}
    (member : x ∈ e.parts name) : x ∈ root.nested :=
  nested_within root e inside x (child_nested (List.mem_filter.1 member).1)

theorem Element.namedIn_of_names {name : String} {es : List Element}
    (whole : ∀ e ∈ es, e.localName = .ok e.name) :
    namedIn name es = .ok (es.filter (·.name = name)) := by
  induction es with
  | nil => rfl
  | cons e rest ih =>
    rw [namedIn, whole e (by simp), ih fun d later => whole d (by simp [later])]
    by_cases same : e.name = name <;> simp [same, Bind.bind, Except.bind, pure, Except.pure]

theorem Element.localName_of_whole (whole : e.isWhole = true) : e.localName = .ok e.name :=
  if_pos (Bool.and_eq_true_iff.1 whole).1

theorem childrenNamed_of_whole (whole : ∀ x ∈ e.children, x.isWhole = true) (name : String) :
    e.childrenNamed name = .ok (e.parts name) :=
  namedIn_of_names fun x member => localName_of_whole (whole x member)

theorem spacedAttribute_of_whole {attributes : List Attribute}
    (whole : ∀ a ∈ attributes, hasLocalName a.space a.name = true) (name : String) :
    spacedAttribute name attributes =
      .ok ((attributes.find? fun a => a.space.isSome && a.name == name).map (·.value)) := by
  induction attributes with
  | nil => rfl
  | cons a rest ih =>
    rw [spacedAttribute, ih fun b later => whole b (List.mem_cons_of_mem a later),
      whole a (by simp)]
    cases space : a.space with
    | none => simp [space]
    | some s =>
      by_cases same : a.name = name <;> simp [space, same]

def IsBare (name : String) : Prop := expandedName? name.toList = some (none, name.toList)

instance (name : String) : Decidable (IsBare name) := inferInstanceAs (Decidable (_ = _))

theorem attribute_of_whole (whole : e.isWhole = true) (element : e.isNameless = false)
    {name : String} (bare : IsBare name) : e.attribute? name = .ok (e.value? name) := by
  have attributes := List.all_eq_true.1 (Bool.and_eq_true_iff.1 whole).2
  rw [attribute?, element, bare, spacedAttribute_of_whole attributes, value?]
  simp only [Bool.false_eq_true, if_false, Option.map_none, String.ofList_toList]
  cases e.attributes.find? fun a => a.space == none && a.name == name <;> rfl

end answers

end EntityScaffold.Xml
