import EntityScaffold.Proofs.Consoles
import EntityScaffold.Proofs.Emission.Stopping
import EntityScaffold.Proofs.Reading.Faults
import EntityScaffold.Proofs.Runs

/-!
How runs end. A run over a document comes to its end or stops with a fault that a session reports,
unless an acronym of the settings is refused as a replacement or a name of the document has no local
part. Those two faults are not reported, and a session ends with them as they are. A fault that is
reported comes to nothing where the console refuses the report.
-/
namespace EntityScaffold
open Binding CommandLine Emission Naming Reading

/-- The faults that a run over a document may stop with. -/
inductive RunFault (c : Config) (d : SourceDocument) : Fault → Prop
  | reported {f : Fault} (told : f.isReported = true) : RunFault c d f
  | refused {f : Fault} (conversion : ConversionFault c f) : RunFault c d f
  | misnamed {root : Xml.Element} {name : String} (parsed : parseDocument d = .ok root)
      (lost : Xml.Misnamed root name) : RunFault c d (.brokenName name)

section stopping

variable {c : Config} {d : SourceDocument}

theorem reported_of_bindFault {storage : StorageModel} {conceptual : ConceptualModel}
    {mappings : List Mapping} {f : Fault} (fault : BindFault storage conceptual mappings f) :
    f.isReported = true := by
  rcases fault with ⟨⟨_, _, rfl⟩ | ⟨_, _, rfl⟩ | ⟨_, _, _, rfl⟩, _⟩ | ⟨_, naming⟩
  · rfl
  · rfl
  · rfl
  · rcases naming with ⟨⟨_, _, rfl⟩, _⟩ | ⟨⟨_, rfl⟩, _⟩
    · rfl
    · rfl

theorem reported_of_stopsEmission {f : Fault} (stops : StopsEmission f) : f.isReported = true := by
  rcases stops with ⟨_, _, rfl⟩ | ⟨_, _, _, _, rfl⟩ | ⟨_, rfl⟩
  · rfl
  · rfl
  · rfl

theorem readAndBind_fails (texts : c.Texts) {root : Xml.Element}
    (parsed : parseDocument d = .ok root) :
    FailsWith (RunFault c d) (readAndBind c root).outcome := by
  obtain ⟨rules, naming, ruleTexts⟩ := texts.naming
  have admits : Admits (RunFault c d) rules root :=
    ⟨fun _ => .reported, fun _ refused => .refused ⟨rules, naming, refused⟩,
      fun _ => .misnamed parsed⟩
  simp only [readAndBind, Noted.outcome_bind, Noted.outcome_lift, naming]
  refine .bind (failsWith_ok rules) fun _ same => ?_
  cases same
  refine .bind (readStorage_fails admits ruleTexts) fun storage inTables => ?_
  refine .bind (readConceptual_fails admits ruleTexts) fun conceptual inEntities => ?_
  refine .bind (readMappings_fails admits) fun mappings _ => ?_
  refine .bind (readFunctionMappings_fails admits) fun functionMappings _ => ?_
  have storageRead := storage_read ⟨ruleTexts, texts.defaultSchema⟩ inTables
  have read := conceptual_read ruleTexts inEntities
  exact (bind_fails storageRead read).imp fun f fault => .reported (reported_of_bindFault fault)

theorem resolveDocument_fails (texts : c.Texts) :
    FailsWith (RunFault c d) (resolveDocument c d).outcome := by
  rw [resolveDocument, Noted.outcome_bind, Noted.outcome_lift]
  cases parsed : parseDocument d with
  | error f =>
    unfold parseDocument at parsed
    split at parsed
    · cases parsed
    · cases parsed
      exact failsWith_error.2 (.reported rfl)
  | ok root => exact readAndBind_fails texts parsed

theorem runDocument_stops (texts : c.Texts) : (runDocument c d).StopsWith (RunFault c d) := by
  refine .append (Trace.stopsWith_one _) (.after (resolveDocument_fails texts) fun r resolved => ?_)
  obtain ⟨root, _, bound⟩ := resolveDocument_ok.1 resolved
  intro f stopped
  rcases emitModel_stopsWith texts (prepared_of_bound texts bound) f stopped with
    ⟨kind, _⟩ | conversion
  · exact .reported (reported_of_stopsEmission kind)
  · exact .refused conversion

end stopping

section converting

theorem normalized_tables {rules : StorageRules} {root : Xml.Element} {s : StorageModel}
    (read : (readStorage rules root).outcome = .ok s) {name : String}
    (listed : name ∈ s.tables.keys) :
    ∃ isView fixed, rules.naming.normalize name isView = .ok fixed := by
  obtain ⟨schema, _, made⟩ := readStorage_schema read
  obtain ⟨m, associations, parts⟩ := readStorageSchema_parts (freshTable_kept rules) made
  rw [parts.joined, keys_joined] at listed
  obtain ⟨t, member, rfl⟩ := List.mem_map.1 listed
  obtain ⟨before, fixed, _, normalized, rfl⟩ := parts.tables t member
  exact ⟨_, fixed, normalized⟩

theorem normalized_entities {naming : NamingRules} {root : Xml.Element} {s : ConceptualModel}
    (read : (readConceptual naming root).outcome = .ok s) {name : String}
    (listed : name ∈ s.entities.keys) : ∃ fixed, naming.normalize name false = .ok fixed := by
  obtain ⟨e, member, rfl⟩ := List.mem_map.1 listed
  exact ⟨e.fixedName, (readConceptual_named read).entities e member⟩

theorem unrefused_of_resolved {c : Config} {root : Xml.Element} {r : ResolvedModel}
    (resolved : (readAndBind c root).outcome = .ok r) {rules : NamingRules}
    (naming : c.naming = .ok rules) {name : String}
    (listed : name ∈ r.storage.tables.keys ++ r.conceptual.entities.keys)
    (converted : rules.Converts name) (acronym : String) : ¬ rules.Refuses acronym := by
  obtain ⟨_, storage, conceptual, sections⟩ := readAndBind_sections resolved
  cases naming.symm.trans sections.naming
  obtain ⟨_, _, stages⟩ := bind_stages sections.bound
  rw [stages.keys_tables, stages.keys_entities] at listed
  rcases List.mem_append.1 listed with table | entity
  · obtain ⟨isView, fixed, normalized⟩ := normalized_tables sections.readTables table
    exact unrefused_of_normalize converted normalized acronym
  · obtain ⟨fixed, normalized⟩ := normalized_entities sections.readEntities entity
    exact unrefused_of_normalize converted normalized acronym

end converting

/-- Every acronym of the settings has a capital form that can be put in its place. -/
def Config.AcceptsAcronyms (c : Config) : Prop :=
  ∀ rules, c.naming = .ok rules → ∀ a, ¬ rules.Refuses a

theorem Config.accepts_of_unescaped {c : Config} (unescaped : c.Unescaped) : c.AcceptsAcronyms :=
  fun rules naming => not_refused (unescaped rules naming)

/-- All names of a document have a local part, if it can be parsed. -/
def SourceDocument.HasWholeNames (d : SourceDocument) : Prop :=
  ∀ root, parseDocument d = .ok root → Xml.WholeNames root

def reportOf (flags : RunFlags) (s : Session) : Option Fault → List ConsoleLine
  | none => s.successReport flags
  | some f => s.failureReport flags f

/-- A session that follows a run reports its artifacts and ends with 0, or reports the fault that
stopped it and ends with 1. -/
def Answers (flags : RunFlags) (s : Session) (stopped : Option Fault) : Prop :=
  (stopped = none ∧ Session.finish flags (s, stopped) =
      ({ s with lines := s.lines ++ reportOf flags s stopped }, .ok 0)) ∨
    ∃ f, stopped = some f ∧ f.isReported = true ∧ Session.finish flags (s, stopped) =
      ({ s with lines := s.lines ++ reportOf flags s stopped }, .ok 1)

section answering

variable {flags : RunFlags} {s : Session} {stopped : Option Fault}

def IsReported (stopped : Option Fault) : Prop := ∀ f, stopped = some f → f.isReported = true

theorem finish_of_reported (reported : IsReported stopped) (flags : RunFlags) (s : Session) :
    Session.finish flags (s, stopped) =
      (s.tell (reportOf flags s stopped)).close (if stopped = none then 0 else 1) := by
  cases stopped with
  | none => rfl
  | some f => exact if_pos (reported f rfl)

theorem answers_of_heard (reported : IsReported stopped)
    (heard : (s.console.hear s.lines (reportOf flags s stopped)).2 = none) :
    Answers flags s stopped := by
  have told : s.tell (reportOf flags s stopped) =
      ({ s with lines := s.lines ++ reportOf flags s stopped }, none) := by
    rw [Session.tell, Console.hear_taken heard]
  have ended := finish_of_reported reported flags s
  rw [told] at ended
  cases stopped with
  | none => exact .inl ⟨rfl, ended⟩
  | some f => exact .inr ⟨f, rfl, reported f rfl, ended⟩

/-- Where a line of the report is refused, the session ends with the fault of the console. -/
theorem finish_of_refused (reported : IsReported stopped) {f : Fault}
    (refused : (s.console.hear s.lines (reportOf flags s stopped)).2 = some f) :
    (Session.finish flags (s, stopped)).2 = .error f := by
  rw [finish_of_reported reported, Session.tell, refused, Progress.close]

theorem unanswered_of_error {f : Fault}
    (ended : (Session.finish flags (s, stopped)).2 = .error f) : ¬ Answers flags s stopped := by
  rintro (⟨_, same⟩ | ⟨_, _, _, same⟩)
  · rw [same] at ended
    cases ended
  · rw [same] at ended
    cases ended

theorem unanswered {f : Fault} (untold : f.isReported = false) (flags : RunFlags) (s : Session) :
    ¬ Answers flags s (some f) := by
  have ended : Session.finish flags (s, some f) = (s, .error f) := if_neg (by simp [untold])
  exact unanswered_of_error (congrArg Prod.snd ended)

end answering

/-- How a run over a document ends, and what a session makes of it. -/
structure Ends (c : Config) (d : SourceDocument) : Prop where
  stops : (runDocument c d).StopsWith (RunFault c d)
  answers : c.AcceptsAcronyms → d.HasWholeNames → ∀ flags s,
    (s.console.hear s.lines (reportOf flags s (runDocument c d).stopped)).2 = none →
    Answers flags s (runDocument c d).stopped
  refused : c.AcceptsAcronyms → d.HasWholeNames → ∀ flags s f,
    (s.console.hear s.lines (reportOf flags s (runDocument c d).stopped)).2 = some f →
    (Session.finish flags (s, (runDocument c d).stopped)).2 = .error f ∧ f.isReported = false
  accepts : ∀ r rules, (resolveDocument c d).outcome = .ok r → c.naming = .ok rules →
    (∃ name ∈ r.storage.tables.keys ++ r.conceptual.entities.keys, rules.Converts name) →
    c.AcceptsAcronyms

theorem isReported_stopped {c : Config} (texts : c.Texts) {d : SourceDocument}
    (accepts : c.AcceptsAcronyms) (whole : d.HasWholeNames) :
    IsReported (runDocument c d).stopped := by
  intro f stopped
  cases runDocument_stops texts f stopped with
  | reported told => exact told
  | refused conversion =>
    obtain ⟨rules, naming, a, refused, _⟩ := conversion
    exact absurd refused (accepts rules naming a)
  | misnamed parsed lost => exact absurd lost (Xml.not_misnamed (whole _ parsed) _)

/-- A run completes or stops with a fault that is reported wherever the acronyms can be put in place
and the names of the document are whole; a session then answers, unless its console refuses the
report. Where an acronym cannot be put in place, no document resolves in which the name of a table or
an entity is converted. -/
theorem run_ends {c : Config} (texts : c.Texts) (d : SourceDocument) : Ends c d where
  stops := runDocument_stops texts
  answers := fun accepts whole _ _ heard =>
    answers_of_heard (isReported_stopped texts accepts whole) heard
  refused := fun accepts whole _ _ _ refused =>
    ⟨finish_of_refused (isReported_stopped texts accepts whole) refused,
      Console.hear_unreported refused⟩
  accepts := by
    rintro r rules resolved naming ⟨name, listed, converted⟩ known same
    cases naming.symm.trans same
    obtain ⟨root, _, bound⟩ := resolveDocument_ok.1 resolved
    exact unrefused_of_resolved bound naming listed converted

section boxes

set_option maxRecDepth 100000 in
theorem box_parsed : ∃ root, parseDocument boxDocument = .ok root ∧ Xml.WholeNames root :=
  ok_of_any (by decide +kernel)

def markedSession : Session := { tree := .empty, console := .marked }

set_option maxRecDepth 100000 in
theorem box_run_told :
    (markedSession.console.hear markedSession.lines (reportOf {} markedSession
      (runDocument (.ofSettings .defaults) boxDocument).stopped)).2 = none := by
  decide +kernel

/-- Under the default settings every session whose report is heard has an answer for the run over
the boxes, and so has one that has nothing but it to tell. -/
theorem box_run_answered :
    (Config.ofSettings .defaults).Texts ∧ (Config.ofSettings .defaults).AcceptsAcronyms ∧
      boxDocument.HasWholeNames ∧
      (∀ flags s, s.console = .willing →
        Answers flags s (runDocument (.ofSettings .defaults) boxDocument).stopped) ∧
      Answers {} markedSession (runDocument (.ofSettings .defaults) boxDocument).stopped := by
  obtain ⟨root, parsed, names⟩ := box_parsed
  have accepts := Config.accepts_of_unescaped Config.unescaped_defaults
  have whole : boxDocument.HasWholeNames := by
    intro other same
    cases parsed.symm.trans same
    exact names
  have answers := (run_ends Config.texts_defaults boxDocument).answers accepts whole
  refine ⟨Config.texts_defaults, accepts, whole, fun flags s willing => answers flags s ?_,
    answers {} markedSession box_run_told⟩
  rw [willing, Console.hear_willing]

/-- Settings with an acronym that is an escape before a letter. -/
def escapedAcronym : Config :=
  { Config.ofSettings .defaults with naming := .ok (.ofTexts ["\\d"] [] []) }

/-- An element whose prefix is not declared, and after it a namespace that is no whole address: the
last finding, and no error. -/
def unnamedDocument : SourceDocument :=
  .ofText "<Edmx><q:Note/><Schema xmlns=\x22rel\x22/></Edmx>"

/-- A box with a property whose type, shown in a message, turns off a style that is not on. -/
def closingDocument : SourceDocument :=
  .ofSections "<EntityType Name=\x22Boxes\x22/>"
    "<EntityType Name=\x22Box\x22><Property Name=\x22Lid\x22 Type=\x22[/x]\x22/></EntityType>"
    "<EntitySetMapping TypeName=\x22Box\x22 StoreEntitySet=\x22Boxes\x22/>"

theorem texts_escapedAcronym : escapedAcronym.Texts :=
  { Config.texts_defaults with naming := ⟨_, rfl, NamingRules.texts_ofTexts ..⟩ }

set_option maxRecDepth 100000 in
theorem stopped_unanswered :
    (runDocument escapedAcronym boxDocument).stopped = some (.brokenReplacement "\\d") ∧
      (runDocument (.ofSettings .defaults) unnamedDocument).stopped =
        some (.brokenName "q:Note") ∧
      (runDocument (.ofSettings .defaults) closingDocument).stopped =
        some (.unsupportedType "[/x]" (some "Box.Lid")) := by
  decide +kernel

theorem closing_refused (told : List ConsoleLine) (flags : RunFlags) (s : Session) :
    (Console.marked.hear told
      (reportOf flags s (some (.unsupportedType "[/x]" (some "Box.Lid"))))).2 =
        some (.wrongForm "[red]✗ Error:[/red] Unsupported type: [/x] (Box.Lid)") := by
  have refusal : Console.marked.refusal? told
      (.text (Session.failureLine (.unsupportedType "[/x]" (some "Box.Lid")))) =
        some (.wrongForm "[red]✗ Error:[/red] Unsupported type: [/x] (Box.Lid)") := by
    show ([Session.failureLine (.unsupportedType "[/x]" (some "Box.Lid"))].find? fun text =>
      !Markup.isWellFormed text).map Fault.wrongForm = _
    decide
  rw [reportOf, Session.failureReport, Console.hear, refusal]

/-- A run stops with an escape that is refused, and one with a name that has no local part, though
all settings are of their declared form; no session has an answer for either. One stops with a fault
that is reported, and no session on a console that reads markup has an answer for it. -/
theorem runs_unanswered :
    escapedAcronym.Texts ∧ (Config.ofSettings .defaults).Texts ∧
      ∀ flags s, ¬ Answers flags s (runDocument escapedAcronym boxDocument).stopped ∧
        ¬ Answers flags s (runDocument (.ofSettings .defaults) unnamedDocument).stopped ∧
        (s.console = .marked →
          ¬ Answers flags s (runDocument (.ofSettings .defaults) closingDocument).stopped) := by
  refine ⟨texts_escapedAcronym, Config.texts_defaults, fun flags s => ?_⟩
  obtain ⟨refused, misnamed, closing⟩ := stopped_unanswered
  rw [refused, misnamed, closing]
  refine ⟨unanswered rfl flags s, unanswered rfl flags s, fun marked => ?_⟩
  exact unanswered_of_error (finish_of_refused (fun _ same => by cases same; rfl)
    (marked ▸ closing_refused s.lines flags s))

end boxes

end EntityScaffold
