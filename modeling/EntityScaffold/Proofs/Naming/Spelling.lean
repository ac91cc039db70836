import EntityScaffold.Proofs.Naming.Casing

/-!
What a fixed name keeps of its name. Words lose the separators between them and change the case of
their letters, and a casing only makes capitals of letters, so the letters of an ASCII name are
those of its fixed name, in their order and with case apart.
-/
namespace EntityScaffold.Naming
open Text NamingRules

/-- What is left of a text in small letters without the separators. -/
def spelling (cs : List Char) : List Char := (lowerChars cs).filter fun c => !isSeparator c

section spellings

variable {c : Char} {cs ds : List Char}

theorem ascii_append (first : Ascii cs) (second : Ascii ds) : Ascii (cs ++ ds) :=
  fun c member => (List.mem_append.1 member).elim (first c) (second c)

theorem spelling_ascii (ascii : Ascii cs) :
    spelling cs = (cs.map foldCase).filter fun c => !isSeparator c := by
  rw [spelling, lowerChars_ascii ascii]
  exact congrArg _ (List.map_congr_left fun c member => (foldCase_ascii (ascii c member)).symm)

theorem spelling_append (first : Ascii cs) (second : Ascii ds) :
    spelling (cs ++ ds) = spelling cs ++ spelling ds := by
  rw [spelling_ascii (ascii_append first second), spelling_ascii first, spelling_ascii second,
    List.map_append, List.filter_append]

theorem spelling_separator (separates : isSeparator c = true) (ascii : Ascii (c :: cs)) :
    spelling (c :: cs) = spelling cs := by
  rw [spelling_ascii ascii, spelling_ascii (List.forall_mem_cons.1 ascii).2, List.map_cons,
    foldCase_separator separates]
  exact List.filter_cons_of_neg (by simp [separates])

theorem Recased.ascii {d : Char} (recased : Recased c d) (ascii : c.toNat < 128) :
    d.toNat < 128 := by
  rcases recased with rfl | rfl
  · exact ascii
  · cases small : (Text.foldCase c).isLower with
    | true => exact capital_of_small small ▸ raised_ascii small
    | false => rwa [capital_of_still small]

def SpeltAs (cs ds : List Char) : Prop := Ascii ds ∧ spelling ds = spelling cs

theorem speltAs_of_recased (ascii : Ascii cs) (recased : List.Forall₂ Recased cs ds) :
    SpeltAs cs ds := by
  have kept : Ascii ds := by
    intro d member
    obtain ⟨c, source, own⟩ := related_of_mem_right recased member
    exact own.ascii (ascii c source)
  refine ⟨kept, ?_⟩
  rw [spelling_ascii kept, folds_of_recased recased, spelling_ascii ascii]

theorem SpeltAs.trans {es : List Char} (first : SpeltAs cs ds) (second : SpeltAs ds es) :
    SpeltAs cs es := ⟨second.1, second.2.trans first.2⟩

theorem capitalizeRest_spelt (ascii : Ascii cs) : SpeltAs cs (capitalizeRest cs) := by
  cases cs with
  | nil => exact ⟨ascii, rfl⟩
  | cons c rest =>
    obtain ⟨own, later⟩ := List.forall_mem_cons.1 ascii
    have forms (d : Char) (member : d ∈ rest) := ascii_forms (later d member)
    rw [capitalizeRest_ascii ascii]
    have kept : Ascii (c.toUpper :: rest.map Char.toLower) := by
      refine List.forall_mem_cons.2 ⟨(ascii_forms own).upper_ascii, fun d shown => ?_⟩
      obtain ⟨e, member, rfl⟩ := List.mem_map.1 shown
      exact (forms e member).lower_ascii
    refine ⟨kept, ?_⟩
    rw [spelling, spelling, lowerChars_ascii kept, lowerChars_ascii ascii, List.map_cons,
      List.map_cons, (ascii_forms own).lower_upper, List.map_map]
    congr 2
    exact List.map_congr_left fun d member => (forms d member).lower_lower

theorem joinWords_spelt {name : List Char} (ascii : Ascii name) :
    SpeltAs name (joinWords name) := by
  induction name using word_induction with
  | word w plain =>
    rw [joinWords_of_unseparated plain]
    exact capitalizeRest_spelt ascii
  | behind w c rest plain separates later =>
    have first : Ascii w := fun d member => ascii d (List.mem_append_left _ member)
    have behind : Ascii (c :: rest) := fun d member => ascii d (List.mem_append_right _ member)
    obtain ⟨word, same⟩ := capitalizeRest_spelt first
    obtain ⟨words, sameBehind⟩ := later (List.forall_mem_cons.1 behind).2
    rw [joinWords_append separates, joinWords_of_unseparated plain]
    refine ⟨ascii_append word words, ?_⟩
    rw [spelling_append word words, spelling_append first behind, same, sameBehind,
      spelling_separator separates behind]

theorem unscored_spelt (ascii : Ascii cs) : SpeltAs cs (cs.filter (· != '_')) := by
  induction cs with
  | nil => exact ⟨ascii, rfl⟩
  | cons c rest ih =>
    obtain ⟨own, later⟩ := List.forall_mem_cons.1 ascii
    obtain ⟨kept, same⟩ := ih later
    by_cases score : c = '_'
    · subst score
      rw [List.filter_cons, if_neg (by simp)]
      exact ⟨kept, same.trans (spelling_separator rfl ascii).symm⟩
    · rw [List.filter_cons, if_pos (bne_iff_ne.2 score)]
      have whole : Ascii (c :: rest.filter (· != '_')) := List.forall_mem_cons.2 ⟨own, kept⟩
      have single : Ascii [c] := fun d member => List.mem_singleton.1 member ▸ own
      refine ⟨whole, ?_⟩
      rw [← List.singleton_append, spelling_append single kept, same,
        ← spelling_append single later, List.singleton_append]

end spellings

section names

theorem Casing.convert_spelt (casing : Casing) {name : List Char} (ascii : Ascii name) :
    SpeltAs name (casing.convert name) := by
  unfold Casing.convert
  split
  · have base := unscored_spelt ascii
    exact base.trans (speltAs_of_recased base.1 (casing.apply_recased _))
  · have base := joinWords_spelt ascii
    exact base.trans (speltAs_of_recased base.1 (casing.apply_recased _))

variable {acronyms suffixWords : List String}

theorem exists_spelt (tables : AsciiTables acronyms suffixWords) {name : String}
    (ascii : Ascii name.toList) :
    ∃ fixed, (ofTexts acronyms suffixWords []).normalize name false = .ok (.str fixed) ∧
      spelling fixed.toList = spelling name.toList := by
  obtain ⟨casing, cased⟩ := exists_casing tables []
  refine ⟨_, normalize_of_casing cased rfl name, ?_⟩
  rw [String.toList_ofList]
  split
  · rfl
  · have once := casing.convert_spelt ascii
    exact (once.trans (casing.convert_spelt once.1)).2

/-- A name is spelt as its fixed name is, so names of one fixed name are spelt alike. -/
theorem fixed_names_spelt (tables : AsciiTables acronyms suffixWords) {name : String}
    (ascii : Ascii name.toList) :
    ∃ fixed, (ofTexts acronyms suffixWords []).normalize name false = .ok (.str fixed) ∧
      spelling fixed.toList = spelling name.toList ∧
      ∀ other : String, Ascii other.toList →
        (ofTexts acronyms suffixWords []).normalize other false = .ok (.str fixed) →
        spelling other.toList = spelling name.toList := by
  obtain ⟨fixed, found, same⟩ := exists_spelt tables ascii
  refine ⟨fixed, found, same, fun other plain shared => ?_⟩
  obtain ⟨its, foundToo, sameToo⟩ := exists_spelt tables plain
  rw [shared] at foundToo
  cases foundToo
  rw [← sameToo, same]

theorem shipping_doc_spelt : AsciiTables ["TMS"] ["Doc"] ∧ Ascii "tms-SHIPPING_doc 7".toList ∧
    ∃ fixed, (ofTexts ["TMS"] ["Doc"] []).normalize "tms-SHIPPING_doc 7" false =
        .ok (.str fixed) ∧
      spelling fixed.toList = spelling "tms-SHIPPING_doc 7".toList ∧
      ∀ other : String, Ascii other.toList →
        (ofTexts ["TMS"] ["Doc"] []).normalize other false = .ok (.str fixed) →
        spelling other.toList = spelling "tms-SHIPPING_doc 7".toList :=
  ⟨default_tables, by decide, fixed_names_spelt default_tables (by decide)⟩

end names

end EntityScaffold.Naming
