import EntityScaffold.Xml.Element
import Mathlib.Data.List.Forall2

/-!
Documents that differ in their namespaces. Of a namespace an element is only asked whether its local
name can be told, and an attribute also whether it has one; with everything else about namespaces
taken away, an element answers every question as before.
-/
namespace EntityScaffold.Xml

structure RespacedAttribute (a b : Attribute) : Prop where
  name : a.name = b.name
  value : a.value = b.value
  spaced : a.space.isNone = b.space.isNone
  localName : hasLocalName a.space a.name = hasLocalName b.space b.name

/-- A document with other namespaces, in which every local name is what it was. -/
inductive Respaced : Element → Element → Prop
  | mk {space other : Option String} {name : String} {attributes given : List Attribute}
    {children changed : List Element} :
    hasLocalName space name = hasLocalName other name →
    List.Forall₂ RespacedAttribute attributes given → List.Forall₂ Respaced children changed →
    Respaced (.mk space name attributes children) (.mk other name given changed)

/-- What remains of a namespace: one from which no local name can be told. -/
def bareSpace (space : Option String) (name : String) : Option String :=
  if hasLocalName space name then none else some "\x7d"

def bareAttribute (a : Attribute) : Attribute :=
  { a with space := a.space.map fun s => if hasLocalName (some s) a.name then "" else "\x7d" }

namespace Element

mutual

def bare : Element → Element
  | mk space name attributes children =>
    mk (bareSpace space name) name (attributes.map bareAttribute) (bareForest children)

def bareForest : List Element → List Element
  | [] => []
  | e :: es => bare e :: bareForest es

end

end Element

theorem hasLocalName_bareSpace (space : Option String) (name : String) :
    hasLocalName (bareSpace space name) name = hasLocalName space name := by
  unfold bareSpace
  cases whole : hasLocalName space name with
  | true =>
    have plain := (Bool.and_eq_true_iff.1 whole).1
    simpa [hasLocalName] using plain
  | false => simp [hasLocalName]

theorem hasLocalName_bareAttribute (a : Attribute) :
    hasLocalName (bareAttribute a).space (bareAttribute a).name = hasLocalName a.space a.name := by
  show hasLocalName (bareAttribute a).space a.name = _
  cases known : a.space with
  | none => simp [bareAttribute, known]
  | some s =>
    have made : (bareAttribute a).space =
        some (if hasLocalName (some s) a.name then "" else "\x7d") := by
      simp [bareAttribute, known]
    rw [made]
    cases whole : hasLocalName (some s) a.name with
    | true =>
      have plain := (Bool.and_eq_true_iff.1 whole).1
      simpa [hasLocalName] using plain
    | false => simp [hasLocalName]

section uris

/-- A namespace as documents have it: none, or one without a closing brace. -/
def IsUri (space : Option String) : Prop := (space.any fun s => s.toList.contains '\x7d') = false

instance (space : Option String) : Decidable (IsUri space) := inferInstanceAs (Decidable (_ = _))

theorem hasLocalName_of_uri {space : Option String} (uri : IsUri space) (name : String) :
    hasLocalName space name = hasLocalName none name := by
  rw [hasLocalName, hasLocalName, uri, Option.any_none]

theorem bareSpace_of_uri {space : Option String} (uri : IsUri space) (name : String) :
    bareSpace space name = bareSpace none name := by
  rw [bareSpace, bareSpace, hasLocalName_of_uri uri]

theorem bareAttribute_of_uri {space : String} (uri : IsUri (some space)) (name value : String) :
    bareAttribute ⟨some space, name, value⟩ = bareAttribute ⟨some "", name, value⟩ := by
  have empty : hasLocalName (some "") name = hasLocalName none name :=
    hasLocalName_of_uri (by decide) name
  simp only [bareAttribute, Option.map_some, hasLocalName_of_uri uri, empty]

end uris

theorem bareAttribute_respaced {a b : Attribute} (same : RespacedAttribute a b) :
    bareAttribute a = bareAttribute b := by
  obtain ⟨space, name, value⟩ := a
  obtain ⟨other, name', value'⟩ := b
  obtain ⟨rfl, rfl, spaced, localName⟩ := same
  cases space with
  | none => cases other with
    | none => rfl
    | some s => cases spaced
  | some s => cases other with
    | none => cases spaced
    | some s' =>
      have label : hasLocalName (some s) name = hasLocalName (some s') name := localName
      simp [bareAttribute, label]

theorem respacedAttribute_of_bare {a b : Attribute} (same : bareAttribute a = bareAttribute b) :
    RespacedAttribute a b := by
  have spaces := congrArg (fun a : Attribute => a.space.isNone) same
  have labels := congrArg (fun a : Attribute => hasLocalName a.space a.name) same
  simp only [hasLocalName_bareAttribute] at labels
  simp only [bareAttribute, Option.isNone_map] at spaces
  have name : a.name = b.name := by simpa [bareAttribute] using congrArg Attribute.name same
  have value : a.value = b.value := by simpa [bareAttribute] using congrArg Attribute.value same
  exact ⟨name, value, spaces, labels⟩

mutual

theorem respaced_of_bare : (e d : Element) → e.bare = d.bare → Respaced e d
  | .mk space name attributes children, .mk other name' given changed, same => by
    rw [Element.bare, Element.bare, Element.mk.injEq] at same
    obtain ⟨spaces, rfl, sameAttributes, forests⟩ := same
    refine .mk ?_ ?_ (respaced_of_bareForest children changed forests)
    · rw [← hasLocalName_bareSpace space, spaces, hasLocalName_bareSpace]
    · rw [← List.forall₂_eq_eq_eq, List.forall₂_map_left_iff, List.forall₂_map_right_iff]
        at sameAttributes
      exact sameAttributes.imp fun _ _ => respacedAttribute_of_bare

theorem respaced_of_bareForest : (es ds : List Element) →
    Element.bareForest es = Element.bareForest ds → List.Forall₂ Respaced es ds
  | [], [], _ => .nil
  | [], _ :: _, same => by simp [Element.bareForest] at same
  | _ :: _, [], same => by simp [Element.bareForest] at same
  | e :: es, d :: ds, same => by
    rw [Element.bareForest, Element.bareForest, List.cons.injEq] at same
    exact .cons (respaced_of_bare e d same.1) (respaced_of_bareForest es ds same.2)

end

theorem bare_of_respaced {e d : Element} (same : Respaced e d) : e.bare = d.bare := by
  -- Along the relation, for an element and for the forest below it at once.
  refine @Respaced.rec (fun e d _ => e.bare = d.bare)
    (fun es ds _ => Element.bareForest es = Element.bareForest ds) ?_ rfl ?_ e d same
  · intro space other name attributes given children changed label sameAttributes _ forest
    have bared : attributes.map bareAttribute = given.map bareAttribute := by
      induction sameAttributes with
      | nil => rfl
      | cons own _ ih => rw [List.map_cons, List.map_cons, bareAttribute_respaced own, ih]
    rw [Element.bare, Element.bare, bareSpace, bareSpace, label, bared, forest]
  · intro e d es ds _ _ own rest
    rw [Element.bareForest, Element.bareForest, own, rest]

/-- Documents that differ in their namespaces alone are those that are bare alike. -/
theorem respaced_iff_bare {e d : Element} : Respaced e d ↔ e.bare = d.bare :=
  ⟨bare_of_respaced, respaced_of_bare e d⟩

namespace Element

theorem bareForest_eq (es : List Element) : bareForest es = es.map bare := by
  induction es with
  | nil => rfl
  | cons e es ih => rw [bareForest, ih, List.map_cons]

variable (e : Element)

@[simp] theorem name_bare : e.bare.name = e.name := by
  cases e
  rfl

@[simp] theorem attributes_bare : e.bare.attributes = e.attributes.map bareAttribute := by
  cases e
  rfl

@[simp] theorem nodes_bare : e.bare.nodes = e.nodes.map bare := by
  cases e
  exact bareForest_eq _

@[simp] theorem isNameless_bare : e.bare.isNameless = e.isNameless := by
  rw [isNameless, isNameless, name_bare]

@[simp] theorem localName_bare : e.bare.localName = e.localName := by
  obtain ⟨space, name, attributes, children⟩ := e
  rw [bare, localName, localName, Element.space, Element.name, hasLocalName_bareSpace]
  rfl

@[simp] theorem children_bare : e.bare.children = e.children.map bare := by
  rw [children, children, nodes_bare, List.filter_map]
  simp only [Function.comp_def, isNameless_bare]

theorem spacedAttribute_bare (name : String) (attributes : List Attribute) :
    spacedAttribute name (attributes.map bareAttribute) = spacedAttribute name attributes := by
  induction attributes with
  | nil => rfl
  | cons a rest ih =>
    have spaced : (bareAttribute a).space.isNone = a.space.isNone := by simp [bareAttribute]
    rw [List.map_cons, spacedAttribute, spacedAttribute, hasLocalName_bareAttribute, spaced, ih]
    rfl

def IsPlain (name : String) : Prop := name.toList.head? ≠ some '\x7b'

instance (name : String) : Decidable (IsPlain name) := inferInstanceAs (Decidable (_ ≠ _))

theorem expandedName?_of_plain {name : String} (plain : IsPlain name)
    {space : Option (List Char)} {own : List Char}
    (found : expandedName? name.toList = some (space, own)) : space = none := by
  unfold expandedName? at found
  split at found
  rename_i read _ split
  split at split
  · rename_i rest opened
    exact absurd (congrArg List.head? opened) plain
  · cases split
    split at found
    · cases found
    · cases found
      rfl

theorem attribute?_bare {name : String} (plain : IsPlain name) :
    e.bare.attribute? name = e.attribute? name := by
  unfold attribute?
  rw [isNameless_bare, attributes_bare]
  split
  · rw [List.find?_map, Option.map_map]
    rfl
  · cases expanded : expandedName? name.toList with
    | none => rfl
    | some read =>
      obtain ⟨space, own⟩ := read
      obtain rfl := expandedName?_of_plain plain expanded
      have exact : ((fun a : Attribute => a.space == none && a.name == String.ofList own) ∘
          bareAttribute) = fun a => a.space == none && a.name == String.ofList own := by
        funext a
        cases known : a.space <;> simp [bareAttribute, known]
      simp only [Option.map_none, List.find?_map, exact, spacedAttribute_bare]
      cases e.attributes.find? fun a => a.space == none && a.name == String.ofList own <;> rfl

theorem attributeD_bare {name : String} (plain : IsPlain name) :
    e.bare.attributeD name = e.attributeD name := by
  rw [attributeD, attributeD, attribute?_bare e plain]

theorem integer?_bare {name : String} (plain : IsPlain name) :
    e.bare.integer? name = e.integer? name := by
  rw [integer?, integer?, attribute?_bare e plain]

theorem namedIn_bare (name : String) (es : List Element) :
    namedIn name (es.map bare) = List.map bare <$> namedIn name es := by
  induction es with
  | nil => rfl
  | cons e es ih =>
    rw [List.map_cons, namedIn, namedIn, localName_bare, ih]
    cases e.localName with
    | error f => rfl
    | ok own =>
      cases namedIn name es with
      | error f => rfl
      | ok rest =>
        by_cases same : own = name
        · simp [same, Bind.bind, Except.bind, Functor.map, Except.map, pure, Except.pure]
        · simp [same, Bind.bind, Except.bind, Functor.map, Except.map, pure, Except.pure]

theorem firstNamed_bare (name : String) (es : List Element) :
    firstNamed name (es.map bare) = Option.map bare <$> firstNamed name es := by
  induction es with
  | nil => rfl
  | cons e es ih =>
    rw [List.map_cons, firstNamed, firstNamed, localName_bare, ih]
    cases e.localName with
    | error f => rfl
    | ok own =>
      by_cases same : own = name
      · simp [same, Bind.bind, Except.bind, Functor.map, Except.map, pure, Except.pure]
      · simp [same, Bind.bind, Except.bind]

theorem childrenNamed_bare (name : String) :
    e.bare.childrenNamed name = List.map bare <$> e.childrenNamed name := by
  rw [childrenNamed, childrenNamed, children_bare, namedIn_bare]

mutual

theorem nested_bare : (e : Element) → e.bare.nested = e.nested.map bare
  | mk space name attributes children => by
    rw [bare, nested, nested, forest_bare children]

theorem forest_bare : (es : List Element) → forest (bareForest es) = (forest es).map bare
  | [] => by rw [bareForest, forest_nil, List.map_nil]
  | e :: es => by
    rw [bareForest, forest_cons, forest_cons, List.map_cons, List.map_append, nested_bare e,
      forest_bare es]

end

theorem descendants_bare (name : String) :
    e.bare.descendants name = List.map bare <$> e.descendants name := by
  rw [descendants, descendants, nested_bare, namedIn_bare]

theorem first?_bare (name : String) :
    e.bare.first? name = Option.map bare <$> e.first? name := by
  rw [first?, first?, nested_bare, firstNamed_bare]

end Element

end EntityScaffold.Xml
