import EntityScaffold.Proofs.Registries

/-!
Registrations that replace nothing. They enter their kind, if it is new, and then names for it until
one clashes; what a name stood for before them stays as it was. So dropping the kind undoes all of
them, also a registration that was refused, which leaves its kind and the names before the clash. The
one name that such a call turns over is an alias that becomes a kind.
-/
namespace EntityScaffold

namespace Catalog
open Keyed

variable {α : Type} [Keyed α] {c : Catalog α} {a : α} {p : α → Bool}

theorem filter_replaceIn (lost : p a = false) {entries : List α}
    (old : ∀ b ∈ entries, key b = key a → p b = false) :
    (replaceIn a entries).filter p = entries.filter p := by
  induction entries with
  | nil => rfl
  | cons b rest ih =>
    obtain ⟨own, later⟩ := List.forall_mem_cons.1 old
    have others : (replaceIn a rest).filter p = rest.filter p := ih later
    rw [replaceIn, List.map_cons, ← replaceIn]
    by_cases same : key b = key a
    · rw [if_pos same, List.filter_cons_of_neg (by simp [lost]),
        List.filter_cons_of_neg (by simp [own same]), others]
    · rw [if_neg same, List.filter_cons, List.filter_cons, others]

theorem filter_insert (lost : p a = false) (old : ∀ b ∈ c.entries, key b = key a → p b = false) :
    (c.insert a).filter p = c.filter p := by
  refine ext ?_
  show (c.insert a).entries.filter p = c.entries.filter p
  by_cases present : key a ∈ c.keys
  · rw [entries_insert_of_mem present, filter_replaceIn lost old]
  · rw [entries_insert_of_not_mem present, List.filter_append,
      List.filter_cons_of_neg (by simp [lost]), List.filter_nil, List.append_nil]

theorem filter_insertAll {entries : List α} (lost : ∀ a ∈ entries, p a = false)
    (old : ∀ a ∈ entries, ∀ b ∈ c.entries, key b = key a → p b = false) :
    (c.insertAll entries).filter p = c.filter p := by
  induction entries generalizing c with
  | nil => rfl
  | cons a rest ih =>
    obtain ⟨own, later⟩ := List.forall_mem_cons.1 lost
    obtain ⟨place, places⟩ := List.forall_mem_cons.1 old
    show ((c.insert a).insertAll rest).filter p = c.filter p
    rw [ih later ?_, filter_insert own place]
    intro d member b inserted same
    rcases mem_insert.1 inserted with rfl | ⟨earlier, _⟩
    · exact own
    · exact places d member b earlier same

theorem filter_eq_self (kept : ∀ a ∈ c.entries, p a = true) : c.filter p = c :=
  ext (List.filter_eq_self.2 kept)

end Catalog

namespace Label

theorem letters_ne_registry (l : Label) (flaw : RegistryFlaw) :
    l.letters ≠ .error (.registry flaw) := by
  intro fault
  cases l <;> cases fault

theorem parts_ne_registry (l : Label) (flaw : RegistryFlaw) :
    l.parts ≠ .error (.registry flaw) := by
  intro fault
  cases l <;> cases fault

end Label

namespace Registry

variable {ε : Type}

section entering

variable {r : Registry ε} {kind name : String} {names : List String}

def aliasEntries (kind : String) (names : List String) : List AliasEntry :=
  ((names.map Text.lower).filter (· ≠ kind)).map fun name => ⟨name, kind⟩

def enterAliases (r : Registry ε) (kind : String) (names : List String) : Registry ε :=
  { r with aliases := r.aliases.insertAll (aliasEntries kind names) }

def enterKind (r : Registry ε) (kind : String) (e : ε) : Registry ε :=
  { r with kinds := r.kinds.insert ⟨kind, e⟩ }

def Admits (r : Registry ε) (kind name : String) : Prop :=
  Text.lower name = kind ∨ r.aliasFlaw? kind name = none

theorem mem_aliasEntries {a : AliasEntry} :
    a ∈ aliasEntries kind names ↔
      a.kind = kind ∧ a.name ≠ kind ∧ ∃ name ∈ names, Text.lower name = a.name := by
  simp only [aliasEntries, List.mem_map, List.mem_filter, decide_eq_true_eq]
  constructor
  · rintro ⟨_, ⟨⟨name, member, rfl⟩, other⟩, rfl⟩
    exact ⟨rfl, other, name, member, rfl⟩
  · rintro ⟨rfl, other, name, member, same⟩
    exact ⟨a.name, ⟨⟨name, member, same⟩, other⟩, rfl⟩

theorem enterAliases_cons_own (own : Text.lower name = kind) (names : List String) :
    r.enterAliases kind (name :: names) = r.enterAliases kind names := by
  simp [enterAliases, aliasEntries, own]

theorem enterAliases_cons_other (other : Text.lower name ≠ kind) (names : List String) :
    r.enterAliases kind (name :: names) = (r.addAlias kind name).enterAliases kind names := by
  simp [enterAliases, aliasEntries, other, addAlias, Catalog.insertAll]

theorem aliasFlaw_eq_none :
    r.aliasFlaw? kind name = none ↔ Text.lower name ∉ r.kinds.keys ∧
      ∀ a ∈ r.aliases.entries, a.name = Text.lower name → a.kind = kind := by
  have found (a : AliasEntry) : r.aliases.find? (Text.lower name) = some a ↔
      a ∈ r.aliases.entries ∧ a.name = Text.lower name := Catalog.find?_eq_some_iff
  rw [aliasFlaw?]
  split
  · rename_i known
    exact iff_of_false (by simp) fun free => free.1 (Catalog.contains_iff.1 known)
  · rename_i unknown
    have free := fun known => unknown (Catalog.contains_iff.2 known)
    split
    · rename_i a taken
      obtain ⟨member, named⟩ := (found a).1 taken
      split
      · rename_i own
        refine iff_of_true rfl ⟨free, fun b other same => ?_⟩
        rw [Catalog.eq_of_key_eq other member (same.trans named.symm), own]
      · rename_i other
        exact iff_of_false (by simp) fun none => other (none.2 a member named)
    · rename_i untaken
      refine iff_of_true rfl ⟨free, fun b other same => ?_⟩
      rw [(found b).2 ⟨other, same⟩] at untaken
      cases untaken

theorem aliasFlaw_addAlias (plain : r.aliasFlaw? kind name = none) (other : String) :
    (r.addAlias kind name).aliasFlaw? kind other = r.aliasFlaw? kind other := by
  by_cases same : Text.lower name = Text.lower other
  · obtain ⟨free, own⟩ := aliasFlaw_eq_none.1 plain
    have before : r.aliasFlaw? kind other = none :=
      aliasFlaw_eq_none.2 ⟨same ▸ free, fun a member named => own a member (named.trans same.symm)⟩
    rw [before]
    refine aliasFlaw_eq_none.2 ⟨same ▸ free, fun a member named => ?_⟩
    rcases Catalog.mem_insert.1 member with rfl | ⟨earlier, _⟩
    · rfl
    · exact own a earlier (named.trans same.symm)
  · have kept : (r.addAlias kind name).aliases.find? (Text.lower other) =
        r.aliases.find? (Text.lower other) := by
      rw [addAlias, Catalog.find?_insert]
      exact if_neg same
    rw [aliasFlaw?, kept]
    rfl

theorem find_enterKind_self (r : Registry ε) (kind : String) (e : ε) :
    (r.enterKind kind e).kinds.find? kind = some ⟨kind, e⟩ := by
  rw [enterKind, Catalog.find?_insert]
  exact if_pos rfl

theorem find_enterKind_other (e : ε) (other : name ≠ kind) :
    (r.enterKind kind e).kinds.find? name = r.kinds.find? name := by
  rw [enterKind, Catalog.find?_insert]
  exact if_neg (Ne.symm other)

theorem aliasFlaw_enterKind (e : ε) (other : Text.lower name ≠ kind) :
    (r.enterKind kind e).aliasFlaw? kind name = r.aliasFlaw? kind name := by
  rw [aliasFlaw?, Catalog.contains, find_enterKind_other e other]
  rfl

/-- How entering names for a kind ends: with the last label, or at one that is no text or clashes.
The names are those before it. -/
inductive Enters (r : Registry ε) (kind : String) :
    List Label → List String → Except Fault Unit → Prop where
  | done (names : List String) : Enters r kind (names.map .str) names (.ok ())
  | unread (names : List String) {label : Label} {f : Fault} (rest : List Label)
      (fault : label.letters = .error f) :
      Enters r kind (names.map .str ++ label :: rest) names (.error f)
  | clash (names : List String) {name : String} {flaw : RegistryFlaw} (rest : List Label)
      (other : Text.lower name ≠ kind) (flawed : r.aliasFlaw? kind name = some flaw) :
      Enters r kind (names.map .str ++ .str name :: rest) names (.error (.registry flaw))

variable {labels : List Label} {answer : Except Fault Unit}

theorem Enters.cons (name : String) (enters : Enters r kind labels names answer) :
    Enters r kind (.str name :: labels) (name :: names) answer := by
  cases enters with
  | done => exact .done (name :: names)
  | unread _ rest fault => exact .unread (name :: names) rest fault
  | clash _ rest other flawed => exact .clash (name :: names) rest other flawed

theorem Enters.congr {s : Registry ε}
    (same : ∀ name, Text.lower name ≠ kind → s.aliasFlaw? kind name = r.aliasFlaw? kind name)
    (enters : Enters s kind labels names answer) : Enters r kind labels names answer := by
  cases enters with
  | done => exact .done names
  | unread _ rest fault => exact .unread names rest fault
  | clash _ rest other flawed => exact .clash names rest other (same _ other ▸ flawed)

theorem Admits.congr {s : Registry ε}
    (same : Text.lower name ≠ kind → s.aliasFlaw? kind name = r.aliasFlaw? kind name)
    (admitted : s.Admits kind name) : r.Admits kind name := by
  by_cases own : Text.lower name = kind
  · exact .inl own
  · exact .inr (same own ▸ admitted.resolve_left own)

/-- What entering aliases leaves and answers, where nothing is replaced. -/
theorem addAliases_enters (r : Registry ε) (kind : String) (labels : List Label) :
    ∃ names, (∀ name ∈ names, r.Admits kind name) ∧
      (r.addAliases kind false labels).1 = r.enterAliases kind names ∧
      Enters r kind labels names (r.addAliases kind false labels).2 := by
  -- on the labels, while the registry grows: a name that is entered leaves the flaws of those behind
  induction labels generalizing r with
  | nil => exact ⟨[], by simp, rfl, .done []⟩
  | cons label rest ih =>
    rw [addAliases]
    split
    · rename_i f fault
      exact ⟨[], by simp, rfl, .unread [] rest fault⟩
    · rename_i name text
      obtain rfl : label = .str name := by
        cases label <;> cases text
        rfl
      split
      · rename_i own
        obtain ⟨names, admitted, left, enters⟩ := ih r
        exact ⟨name :: names, List.forall_mem_cons.2 ⟨.inl own, admitted⟩,
          left.trans (enterAliases_cons_own own names).symm, enters.cons name⟩
      · rename_i other
        rw [aliasFault?, if_neg Bool.false_ne_true]
        cases plain : r.aliasFlaw? kind name with
        | some flaw => exact ⟨[], by simp, rfl, .clash [] rest other plain⟩
        | none =>
          obtain ⟨names, admitted, left, enters⟩ := ih (r.addAlias kind name)
          have same (next : String) (_ : Text.lower next ≠ kind) := aliasFlaw_addAlias plain next
          refine ⟨name :: names, List.forall_mem_cons.2 ⟨.inr plain, fun next member => ?_⟩,
            left.trans (enterAliases_cons_other other names).symm, (enters.congr same).cons name⟩
          exact (admitted next member).congr (same next)

theorem addAliases_replacing (r : Registry ε) (kind : String) (labels : List Label)
    (flaw : RegistryFlaw) : (r.addAliases kind true labels).2 ≠ .error (.registry flaw) := by
  induction labels generalizing r with
  | nil => exact fun refused => by cases refused
  | cons label rest ih =>
    rw [addAliases]
    split
    · rename_i f fault
      intro refused
      cases refused
      exact label.letters_ne_registry flaw fault
    · split
      · exact ih r
      · exact ih _

theorem addGivenAliases_replacing (r : Registry ε) (kind : String) (aliases : Label)
    (flaw : RegistryFlaw) :
    (r.addGivenAliases kind true aliases).2 ≠ .error (.registry flaw) := by
  rw [addGivenAliases]
  split
  · split
    · rename_i f unread
      intro refused
      cases refused
      exact aliases.parts_ne_registry flaw unread
    · exact addAliases_replacing r kind _ flaw
  · exact fun refused => by cases refused

end entering

section registering

variable {r : Registry ε} {kind : String} {e : ε} {aliases : Label} {names : List String}

theorem register_known (known : Text.lower kind ∈ r.kinds.keys) (e : ε) (aliases : Label) :
    r.register (.str kind) (some e) aliases false = (r, .ok ()) := by
  simp only [register, Label.letters_str, Catalog.contains_iff.2 known, Bool.not_false,
    Bool.and_true, if_true]

theorem register_new (fresh : Text.lower kind ∉ r.kinds.keys) (e : ε) (aliases : Label)
    (replace : Bool) : r.register (.str kind) (some e) aliases replace =
      (r.enterKind (Text.lower kind) e).addGivenAliases (Text.lower kind) replace aliases := by
  have unlisted : r.kinds.contains (Text.lower kind) = false := by
    rw [Bool.eq_false_iff, Ne, Catalog.contains_iff]
    exact fresh
  simp only [register, Label.letters_str, unlisted, Bool.false_and, Bool.false_eq_true, if_false]
  rfl

theorem register_enters (fresh : Text.lower kind ∉ r.kinds.keys) (e : ε) (aliases : Label) :
    ∃ names, (∀ name ∈ names, r.Admits (Text.lower kind) name) ∧
      (r.register (.str kind) (some e) aliases false).1 =
        (r.enterKind (Text.lower kind) e).enterAliases (Text.lower kind) names ∧
      ∀ flaw, (r.register (.str kind) (some e) aliases false).2 = .error (.registry flaw) →
        ∃ labels, aliases.parts = .ok labels ∧
          Enters r (Text.lower kind) labels names (.error (.registry flaw)) := by
  rw [register_new fresh, addGivenAliases]
  split
  · split
    · rename_i f unread
      refine ⟨[], by simp, rfl, fun flaw refused => ?_⟩
      cases refused
      exact absurd unread (aliases.parts_ne_registry flaw)
    · rename_i labels parts
      have same (name : String) (other : Text.lower name ≠ Text.lower kind) :
          (r.enterKind (Text.lower kind) e).aliasFlaw? (Text.lower kind) name =
            r.aliasFlaw? (Text.lower kind) name := aliasFlaw_enterKind e other
      obtain ⟨names, admitted, left, enters⟩ :=
        addAliases_enters (r.enterKind (Text.lower kind) e) (Text.lower kind) labels
      refine ⟨names, fun name member => (admitted name member).congr (same name), left, ?_⟩
      exact fun flaw refused => ⟨labels, parts, refused ▸ enters.congr same⟩
  · exact ⟨[], by simp, rfl, fun flaw refused => by cases refused⟩

/-- Without replacing, only the registration of a new kind does anything. -/
theorem register_cases (r : Registry ε) (kind : Label) (emitter : Option ε) (aliases : Label) :
    (r.register kind emitter aliases false).1 = r ∨ ∃ name e, kind = .str name ∧
      emitter = some e ∧ Text.lower name ∉ r.kinds.keys := by
  cases emitter with
  | none => exact .inl rfl
  | some e =>
    cases kind with
    | str name =>
      by_cases known : Text.lower name ∈ r.kinds.keys
      · exact .inl (congrArg Prod.fst (register_known known e aliases))
      · exact .inr ⟨name, e, rfl, rfl, known⟩
    | _ => exact .inl rfl

theorem refused_cases {kind : Label} {emitter : Option ε} {replace : Bool}
    {flaw : RegistryFlaw}
    (refused : (r.register kind emitter aliases replace).2 = .error (.registry flaw)) :
    emitter = none ∨ ∃ name e, kind = .str name ∧ emitter = some e ∧ replace = false ∧
      Text.lower name ∉ r.kinds.keys := by
  cases emitter with
  | none => exact .inl rfl
  | some e =>
    right
    cases kind with
    | str name =>
      cases replace with
      | false =>
        refine ⟨name, e, rfl, rfl, rfl, fun known => ?_⟩
        rw [register_known known] at refused
        cases refused
      | true =>
        simp only [register, Label.letters_str, Bool.not_true, Bool.and_false, Bool.false_eq_true,
          if_false] at refused
        exact absurd refused (addGivenAliases_replacing _ _ _ flaw)
    | _ => cases refused

/-- A kind that a registration entered, with the names before the one that stopped it. A further
registration of the kind is passed over. -/
structure HalfRegistered (r : Registry ε) (kind : String) (e : ε) (aliases : Label)
    (flaw : RegistryFlaw) (left : Registry ε) : Prop where
  fresh : Text.lower kind ∉ r.kinds.keys
  stopped : ∃ labels names, aliases.parts = .ok labels ∧
    Enters r (Text.lower kind) labels names (.error (.registry flaw)) ∧
    left = (r.enterKind (Text.lower kind) e).enterAliases (Text.lower kind) names
  passedOver : ∀ other more, left.register (.str kind) (some other) more false = (left, .ok ())

theorem HalfRegistered.ne {flaw : RegistryFlaw} {left : Registry ε}
    (half : HalfRegistered r kind e aliases flaw left) : left ≠ r := by
  rintro rfl
  obtain ⟨labels, names, _, _, form⟩ := half.stopped
  have known := find_enterKind_self left (Text.lower kind) e
  have absent := (Catalog.find?_eq_none_iff _ _).2 half.fresh
  rw [form] at absent
  exact absurd (absent.symm.trans known) (by simp)

/-- A registration that is refused leaves the registry as it was just where it is refused for its
emitter; where it is refused for an alias, the kind and the aliases before that one stay. -/
theorem refused_registrations (r : Registry ε) (kind : Label) (emitter : Option ε)
    (aliases : Label) (replace : Bool) (flaw : RegistryFlaw)
    (refused : (r.register kind emitter aliases replace).2 = .error (.registry flaw)) :
    ((r.register kind emitter aliases replace).1 = r ↔ emitter = none) ∧
      ∀ e, emitter = some e → replace = false ∧ ∃ name, kind = .str name ∧
        HalfRegistered r name e aliases flaw (r.register kind emitter aliases replace).1 := by
  rcases refused_cases refused with rfl | ⟨name, e, rfl, rfl, rfl, fresh⟩
  · exact ⟨iff_of_true rfl rfl, fun e given => by cases given⟩
  · obtain ⟨names, _, left, ends⟩ := register_enters fresh e aliases
    obtain ⟨labels, parts, enters⟩ := ends flaw refused
    have known : Text.lower name ∈
        (r.register (.str name) (some e) aliases false).1.kinds.keys := by
      rw [left]
      exact Catalog.mem_keys_insert.2 (.inl rfl)
    have half : HalfRegistered r name e aliases flaw
        (r.register (.str name) (some e) aliases false).1 :=
      ⟨fresh, ⟨labels, names, parts, enters, left⟩, fun other more => register_known known other more⟩
    refine ⟨iff_of_false half.ne (by simp), fun other given => ?_⟩
    cases given
    exact ⟨rfl, name, rfl, half⟩

def domainCalls : List (RegistryCall Emitter) :=
  [.register (.str "domain") (some .domainModel) (.arr [.str "models"]) false]

def clashingCall : Registry × Except Fault Unit :=
  (after domainCalls).register (.str "context") (some .context)
    (.arr [.str "extra", .str "Models"]) false

theorem clashingCall_refused :
    clashingCall.2 = .error (.registry (.aliasTaken "Models" "domain")) := by decide +kernel

theorem context_half_registered :
    clashingCall.2 = .error (.registry (.aliasTaken "Models" "domain")) ∧
    (clashingCall.1 = after domainCalls ↔ some Emitter.context = none) ∧
    ∀ e, some Emitter.context = some e → false = false ∧ ∃ name, Json.str "context" = .str name ∧
      HalfRegistered (after domainCalls) name e (.arr [.str "extra", .str "Models"])
        (.aliasTaken "Models" "domain") clashingCall.1 :=
  ⟨clashingCall_refused, refused_registrations (after domainCalls) (.str "context") (some .context)
    (.arr [.str "extra", .str "Models"]) false (.aliasTaken "Models" "domain") clashingCall_refused⟩

/-- The kind stays, with the alias before the clash. -/
theorem context_left_behind :
    clashingCall.2 = .error (.registry (.aliasTaken "Models" "domain")) ∧
    (after domainCalls).listKinds = ["domain"] ∧
    clashingCall.1.listKinds = ["context", "domain"] ∧
    clashingCall.1.aliasesOf "context" = ["extra"] ∧
    clashingCall.1 ≠ after domainCalls := by
  have before : (after domainCalls).listKinds = ["domain"] := by decide +kernel
  have left : clashingCall.1.listKinds = ["context", "domain"] := by decide +kernel
  refine ⟨clashingCall_refused, before, left, by decide +kernel, fun same => ?_⟩
  rw [same, before] at left
  exact absurd left (by decide)

/-- An emitter takes a name over: it is entered as a kind of that name, which was none before. -/
structure TakesOver (r : Registry ε) (kind : Label) (emitter : Option ε) (name : String)
    (e : ε) : Prop where
  given : emitter = some e
  named : ∃ text, kind = .str text ∧ Text.lower text = Text.lower name
  fresh : Text.lower name ∉ r.kinds.keys

theorem unentered (admitted : ∀ name ∈ names, r.Admits kind name) {a : AliasEntry}
    (member : a ∈ r.aliases.entries) (other : a.kind ≠ kind) :
    a.name ∉ (aliasEntries kind names).map Keyed.key := by
  intro listed
  obtain ⟨b, entry, same⟩ := List.mem_map.1 listed
  obtain ⟨_, apart, name, given, named⟩ := mem_aliasEntries.1 entry
  have plain := (admitted name given).resolve_left fun own => apart (named.symm.trans own)
  exact other ((aliasFlaw_eq_none.1 plain).2 a member (same.symm.trans named.symm))

theorem find_enterAliases (admitted : ∀ name ∈ names, r.Admits kind name) {a : AliasEntry}
    (member : a ∈ r.aliases.entries) (other : a.kind ≠ kind) :
    (r.enterAliases kind names).aliases.find? a.name = some a := by
  have kept := Catalog.find?_insertAll_of_not_mem r.aliases (unentered admitted member other)
  exact kept.trans (Catalog.find?_of_mem member)

theorem AliasesLead.emitter_entered (lead : r.AliasesLead) (fresh : kind ∉ r.kinds.keys)
    (admitted : ∀ name ∈ names, r.Admits kind name) (e : ε) {name : String}
    (supported : r.supports name = true) :
    ((r.enterKind kind e).enterAliases kind names).emitter name =
      if Text.lower name = kind then .ok e else r.emitter name := by
  have kinds : ((r.enterKind kind e).enterAliases kind names).kinds = (r.enterKind kind e).kinds :=
    rfl
  have aliases : ((r.enterKind kind e).enterAliases kind names).aliases =
      (r.enterAliases kind names).aliases := rfl
  by_cases own : Text.lower name = kind
  · rw [if_pos own, emitter, kinds, own, find_enterKind_self]
  · rw [if_neg own, emitter, emitter, kinds, find_enterKind_other e own, aliases]
    cases known : r.kinds.find? (Text.lower name) with
    | some k => rfl
    | none =>
      obtain ⟨a, through, present⟩ := lead.exists_alias supported known
      obtain ⟨member, named⟩ := Catalog.find?_eq_some_iff.1 through
      have apart : a.kind ≠ kind := fun same => fresh (same ▸ present)
      have kept := find_enterAliases admitted member apart
      rw [show a.name = Text.lower name from named] at kept
      simp only [kept, through, find_enterKind_other e apart]

/-- After any calls, a registration that replaces nothing leaves a name that is supported its
emitter, unless another emitter takes the name over as a kind; then the name has that one. -/
theorem supported_names_keep (calls : List (RegistryCall ε)) (kind : Label) (emitter : Option ε)
    (aliases : Label) (name : String) (supported : (after calls).supports name = true) :
    (((after calls).register kind emitter aliases false).1.emitter name =
        (after calls).emitter name ↔
      ∀ e, TakesOver (after calls) kind emitter name e → (after calls).emitter name = .ok e) ∧
    ∀ e, TakesOver (after calls) kind emitter name e →
      ((after calls).register kind emitter aliases false).1.emitter name = .ok e := by
  have lead := aliasesLead_after calls
  generalize after calls = r at lead supported ⊢
  have taken (e : ε) (takes : TakesOver r kind emitter name e) :
      (r.register kind emitter aliases false).1.emitter name = .ok e := by
    obtain ⟨rfl, ⟨text, rfl, same⟩, fresh⟩ := takes
    rw [← same] at fresh
    obtain ⟨names, admitted, left, _⟩ := register_enters fresh e aliases
    rw [left, lead.emitter_entered fresh admitted e supported, if_pos same.symm]
  refine ⟨⟨fun same e takes => same.symm.trans (taken e takes), fun kept => ?_⟩, taken⟩
  rcases register_cases r kind emitter aliases with idle | ⟨text, e, rfl, rfl, fresh⟩
  · rw [idle]
  · by_cases same : Text.lower text = Text.lower name
    · have takes : TakesOver r (.str text) (some e) name e :=
        ⟨rfl, ⟨text, rfl, same⟩, same ▸ fresh⟩
      rw [taken e takes, kept e takes]
    · obtain ⟨names, admitted, left, _⟩ := register_enters fresh e aliases
      rw [left, lead.emitter_entered fresh admitted e supported, if_neg (Ne.symm same)]

theorem models_kept :
    (after domainCalls).supports "MODELS" = true ∧
    (clashingCall.1.emitter "MODELS" = (after domainCalls).emitter "MODELS" ↔
      ∀ e, TakesOver (after domainCalls) (.str "context") (some .context) "MODELS" e →
        (after domainCalls).emitter "MODELS" = .ok e) ∧
    ∀ e, TakesOver (after domainCalls) (.str "context") (some .context) "MODELS" e →
      clashingCall.1.emitter "MODELS" = .ok e :=
  ⟨by decide +kernel, supported_names_keep domainCalls (.str "context") (some .context)
    (.arr [.str "extra", .str "Models"]) "MODELS" (by decide +kernel)⟩

/-- An alias that becomes a kind has the emitter of that kind. -/
theorem models_taken_over :
    (after domainCalls).emitter "models" = .ok .domainModel ∧
    ((after domainCalls).register (.str "models") (some .context) .null false).2 = .ok () ∧
    ((after domainCalls).register (.str "models") (some .context) .null false).1.emitter "models" =
      .ok .context :=
  ⟨by decide +kernel, by decide +kernel, by decide +kernel⟩

theorem unregister_entered (admitted : ∀ name ∈ names, r.Admits (Text.lower kind) name)
    (e : ε) :
    ((r.enterKind (Text.lower kind) e).enterAliases (Text.lower kind) names).unregister kind =
      r.unregister kind := by
  have kinds : (r.kinds.insert ⟨Text.lower kind, e⟩).filter (fun k => k.kind != Text.lower kind) =
      r.kinds.filter fun k => k.kind != Text.lower kind := by
    refine Catalog.filter_insert (by simp) fun k _ same => ?_
    have own : k.kind = Text.lower kind := same
    simp [own]
  have aliases : (r.aliases.insertAll (aliasEntries (Text.lower kind) names)).filter
      (fun a => a.kind != Text.lower kind) = r.aliases.filter fun a => a.kind != Text.lower kind := by
    refine Catalog.filter_insertAll (fun a entry => ?_) fun a entry b member same => ?_
    · simpa using (mem_aliasEntries.1 entry).1
    · by_contra other
      have listed : b.name ∈ (aliasEntries (Text.lower kind) names).map Keyed.key :=
        List.mem_map.2 ⟨a, entry, same.symm⟩
      exact unentered admitted member (by simpa using other) listed
  rw [unregister, unregister]
  exact congrArg₂ Registry.mk kinds aliases

theorem AliasesLead.unregister_absent (lead : r.AliasesLead)
    (absent : Text.lower kind ∉ r.kinds.keys) : r.unregister kind = r := by
  have kinds : r.kinds.filter (fun k => k.kind != Text.lower kind) = r.kinds := by
    refine Catalog.filter_eq_self fun k member => ?_
    rw [bne_iff_ne]
    exact fun same => absent (same ▸ List.mem_map_of_mem member)
  have aliases : r.aliases.filter (fun a => a.kind != Text.lower kind) = r.aliases := by
    refine Catalog.filter_eq_self fun a member => ?_
    rw [bne_iff_ne]
    exact fun same => absent (same ▸ lead a member)
  rw [Registry.unregister, kinds, aliases]

/-- After any calls, dropping a kind that was not there undoes its registration, whether or not that
was refused, and gives the registry back. -/
theorem unregister_register (calls : List (RegistryCall ε)) (kind spelling : String)
    (emitter : Option ε) (aliases : Label) (same : Text.lower spelling = Text.lower kind)
    (absent : Text.lower kind ∉ (after calls).kinds.keys) :
    (∀ e, emitter = some e →
      ((after calls).register (.str kind) emitter aliases false).1.kinds.find? (Text.lower kind) =
        some ⟨Text.lower kind, e⟩) ∧
    ((after calls).register (.str kind) emitter aliases false).1.unregister spelling =
      after calls := by
  have undone := (aliasesLead_after calls).unregister_absent (same ▸ absent)
  cases emitter with
  | none => exact ⟨fun e given => (by cases given), undone⟩
  | some e =>
    obtain ⟨names, admitted, left, _⟩ := register_enters absent e aliases
    constructor
    · intro other given
      cases given
      rw [left]
      exact find_enterKind_self (after calls) (Text.lower kind) e
    · rw [← same] at admitted left
      rw [left, unregister_entered admitted, undone]

/-- A kind that was an alias before, and whose registration is refused for its last name. -/
theorem models_undone :
    Text.lower "Models" = Text.lower "MODELS" ∧
    Text.lower "MODELS" ∉ (after domainCalls).kinds.keys ∧
    (∀ e, some Emitter.context = some e →
      ((after domainCalls).register (.str "MODELS") (some .context)
        (.arr [.str "Extra", .str "extra", .str "models", .str "Domain"]) false).1.kinds.find?
          (Text.lower "MODELS") = some ⟨Text.lower "MODELS", e⟩) ∧
    ((after domainCalls).register (.str "MODELS") (some .context)
      (.arr [.str "Extra", .str "extra", .str "models", .str "Domain"]) false).1.unregister
        "Models" = after domainCalls :=
  ⟨by decide +kernel, by decide +kernel, unregister_register domainCalls "MODELS" "Models"
    (some .context) (.arr [.str "Extra", .str "extra", .str "models", .str "Domain"])
    (by decide +kernel) (by decide +kernel)⟩

end registering

end Registry

end EntityScaffold
