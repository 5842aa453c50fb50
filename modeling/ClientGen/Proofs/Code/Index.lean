import ClientGen.Code.Artifact
import ClientGen.Proofs.Code.Group
import ClientGen.Proofs.Json.Roundtrip
import ClientGen.Proofs.Naming.Conversions

/-!
# The class of an API among those of its groups

The class of an API is named by its title.  Where a group has the name already, the letters `Http`
come in between, once: `isApart_iff` says for which titles and tags that is not enough.  What
decides is whether a tag has the new name as its own, since names that end in a letter are never
made by numbering (`mem_freshNames_iff`).  The index imports the classes of the groups, and besides
them one of the platform (`importsOf_indexText`), so the class that it declares
(`classesOf_indexText`) may be imported for two reasons.
-/

namespace ClientGen

/-! ### Names that end in a letter -/

namespace Naming

/-- The last character of a name is a letter. -/
def EndsInLetter (name : String) : Prop :=
  ∃ c, name.toList.getLast? = some c ∧ c.isAlpha = true

theorem getLast?_smallLetters {name : String} {c : Char} (hlast : name.toList.getLast? = some c)
    (hc : c.isAlphanum = true) : (smallLetters name).getLast? = some c.toLower := by
  obtain ⟨before, hbefore⟩ := List.getLast?_eq_some_iff.mp hlast
  rw [smallLetters, hbefore, List.filter_append, List.filter_cons_of_pos hc, List.filter_nil,
    List.map_append, List.map_singleton, List.getLast?_concat]

/-- A number behind a name is seen in kebab-case, so that no other name ends in a letter there. -/
theorem kebab_candidate_ne {name : String} (h : EndsInLetter name) (stem : String) (i : Nat) :
    kebab (candidate stem (i + 1)) ≠ kebab name := by
  intro heq
  obtain ⟨c, hlast, hc⟩ := h
  have halnum : c.isAlphanum = true := by rw [Char.isAlphanum, hc, Bool.true_or]
  obtain ⟨d, hd⟩ : ∃ d, (toString (i + 1 + 1)).toList.getLast? = some d := by
    rw [Nat.toString_eq_repr, Nat.toList_repr]
    exact ⟨_, List.getLast?_eq_some_getLast Nat.toDigits_ne_nil⟩
  have hdigit : d.isDigit = true := isDigit_of_mem_toString (List.mem_of_getLast? hd)
  have hcandidate : (candidate stem (i + 1)).toList.getLast? = some d := by
    rw [candidate, if_neg (Nat.succ_ne_zero i), String.toList_append, List.getLast?_append, hd]
    rfl
  have hletters := congrArg List.getLast? (smallLetters_eq_of_kebab_eq heq)
  rw [getLast?_smallLetters hcandidate (by rw [Char.isAlphanum, hdigit, Bool.or_true]),
    getLast?_smallLetters hlast halnum, toLower_of_isDigit hdigit] at hletters
  -- a digit is not a letter made small
  have hletter : c.toLower.isAlpha = true := by rw [Char.isAlpha_toLower_eq_isAlpha, hc]
  rw [← Option.some.inj hletters, Char.isAlpha, isUpper_of_isDigit hdigit,
    isLower_of_isDigit hdigit] at hletter
  cases hletter

end Naming

open Naming (EndsInLetter)

/-- **A name that ends in a letter is among the fresh ones** exactly when it is not taken and the
first stem that is alike in kebab-case. -/
theorem mem_freshNames_iff {name : String} (hname : EndsInLetter name) (taken stems : List String) :
    name ∈ freshNames taken stems ↔ Naming.kebab name ∉ taken ∧
      stems.find? (fun stem => Naming.kebab stem == Naming.kebab name) = some name := by
  induction stems generalizing taken with
  | nil => simp [freshNames]
  | cons stem rest ih =>
    rw [freshNames, List.mem_cons, ih, List.mem_cons, not_or]
    by_cases halike : Naming.kebab stem = Naming.kebab name
    · -- the first stem that is alike: it is the name, or takes its place
      rw [List.find?_cons_of_pos (by simpa using halike), Option.some.injEq]
      by_cases htaken : Naming.kebab name ∈ taken
      · have hfresh : name ≠ Naming.fresh stem taken := fun heq =>
          Naming.kebab_fresh_notMem stem taken (heq ▸ htaken)
        simp [htaken, hfresh]
      · rw [Naming.fresh_of_notMem (halike ▸ htaken)]
        simp [htaken, halike, eq_comm]
    · rw [List.find?_cons_of_neg (by simpa using halike)]
      have hother : Naming.kebab name ≠ Naming.kebab (Naming.fresh stem taken) := by
        obtain ⟨i, -, hfresh, -, -⟩ := Naming.exists_fresh_eq stem taken
        rw [hfresh]
        cases i with
        | zero => exact fun heq => halike heq.symm
        | succ i => exact (Naming.kebab_candidate_ne hname stem i).symm
      have hne : name ≠ Naming.fresh stem taken := fun heq => hother (congrArg Naming.kebab heq)
      simp [hother, hne]

/-! ### Stems -/

theorem exists_of_mem_freshNames {name : String} {taken stems : List String}
    (h : name ∈ freshNames taken stems) :
    ∃ stem ∈ stems, ∃ tail, name = stem ++ tail ∧ IsTail tail := by
  induction stems generalizing taken with
  | nil => cases h
  | cons stem rest ih =>
    rcases List.mem_cons.mp h with rfl | hlater
    · exact ⟨stem, List.mem_cons_self, exists_fresh_tail _ _⟩
    · obtain ⟨other, hother, hname⟩ := ih hlater
      exact ⟨other, List.mem_cons_of_mem _ hother, hname⟩

theorem stemOf_ne_empty (tag : String) : Group.stemOf tag ≠ "" := by
  rw [Group.stemOf]
  split
  · decide
  · rename_i hne
    exact fun heq => hne (String.isEmpty_iff.mpr heq)

theorem isAlphanum_stemOf (tag : String) :
    ∀ c ∈ (Group.stemOf tag).toList, c.isAlphanum = true := by
  rw [Group.stemOf]
  split
  · exact List.all_eq_true.mp (by decide)
  · exact fun _ => Naming.isAlphanum_of_mem_pascal

namespace Api

variable (api : Api)

/-- What the class of an API is named by, unless a group is named so. -/
def titleStem : String :=
  Naming.pascal api.info.title

/-- What the groups are named by. -/
def stems : List String :=
  api.groups.map Group.stem

/-- What the class of an API is named by. -/
def ownStem : String :=
  if api.titleStem ∈ api.stems then api.titleStem ++ "Http" else api.titleStem

theorem exists_of_mem_stems {stem : String} (h : stem ∈ api.stems) :
    ∃ tag ∈ api.groupTags, ∃ tail, stem = Group.stemOf tag ++ tail ∧ IsTail tail := by
  rw [stems, stem_groups] at h
  obtain ⟨base, hbase, hstem⟩ := exists_of_mem_freshNames h
  obtain ⟨tag, htag, rfl⟩ := List.mem_map.mp hbase
  exact ⟨tag, htag, hstem⟩

theorem empty_notMem_stems : "" ∉ api.stems := by
  intro h
  obtain ⟨tag, -, tail, hstem, -⟩ := api.exists_of_mem_stems h
  exact stemOf_ne_empty tag (String.append_eq_empty_iff.mp hstem.symm).1

theorem isAlphanum_of_mem_stems {stem : String} (h : stem ∈ api.stems) :
    ∀ c ∈ stem.toList, c.isAlphanum = true := by
  obtain ⟨tag, -, tail, rfl, htail⟩ := api.exists_of_mem_stems h
  rw [String.toList_append]
  exact List.forall_mem_append.mpr ⟨isAlphanum_stemOf tag, htail.isAlphanum⟩

theorem className_groups : api.groups.map Group.className = api.stems.map (· ++ "Api") := by
  rw [stems, List.map_map]
  rfl

/-- A class is among those of the groups when what it is named by is among their stems. -/
theorem append_mem_className_groups (stem : String) :
    stem ++ "Api" ∈ api.groups.map Group.className ↔ stem ∈ api.stems := by
  rw [className_groups]
  exact List.mem_map_of_injective fun _ _ => (String.append_left_inj "Api").mp

theorem className_eq : api.className api.groups = api.ownStem ++ "Api" := by
  have hany : (api.groups.any fun group => group.className == api.titleStem ++ "Api") = true ↔
      api.titleStem ∈ api.stems := by
    rw [← append_mem_className_groups]
    simp
  rw [className, ownStem]
  change (if (api.groups.any fun group => group.className == api.titleStem ++ "Api") = true then
    api.titleStem ++ "HttpApi" else api.titleStem ++ "Api") = _
  by_cases h : api.titleStem ∈ api.stems
  · rw [if_pos (hany.mpr h), if_pos h, String.append_assoc]
    rfl
  · rw [if_neg (mt hany.mp h), if_neg h]

theorem isAlphanum_className {group : Group} (h : group ∈ api.groups) :
    ∀ c ∈ group.className.toList, c.isAlphanum = true := by
  rw [Group.className, String.toList_append]
  exact List.forall_mem_append.mpr ⟨api.isAlphanum_of_mem_stems (List.mem_map_of_mem h),
    List.all_eq_true.mp (by decide)⟩

theorem isAlphanum_ownStem : ∀ c ∈ api.ownStem.toList, c.isAlphanum = true := by
  have htitle : ∀ c ∈ api.titleStem.toList, c.isAlphanum = true :=
    fun _ => Naming.isAlphanum_of_mem_pascal
  rw [ownStem]
  split
  · rw [String.toList_append]
    exact List.forall_mem_append.mpr ⟨htitle, List.all_eq_true.mp (by decide)⟩
  · exact htitle

end Api

/-! ### The text of the index -/

namespace Code

/-- The names that a line of code imports. -/
def importedNames (line : List Char) : List (List Char) :=
  match line.dropPrefix? "import \x7b ".toList with
  | none => []
  | some rest =>
    ((rest.takeWhile (· ≠ '\x7d')).splitOnP (!Literal.isIdentifierChar ·)).filter (· ≠ [])

/-- The class that a line of code declares. -/
def declaredClass? (line : List Char) : Option (List Char) :=
  (line.dropPrefix? "export class ".toList).map (List.takeWhile Literal.isIdentifierChar)

/-- The names that are imported in a text. -/
def importsOf (text : String) : List (List Char) :=
  (text.toList.splitOn '\n').flatMap importedNames

/-- The classes that are declared in a text. -/
def classesOf (text : String) : List (List Char) :=
  (text.toList.splitOn '\n').filterMap declaredClass?

/-- The lines of a file, and nothing behind the last one. -/
theorem splitOn_fileText {lines : List String} (h : ∀ line ∈ lines, '\n' ∉ line.toList) :
    (fileText lines).toList.splitOn '\n' = lines.map String.toList ++ [[]] := by
  induction lines with
  | nil => rfl
  | cons line lines ih =>
    obtain ⟨hline, hlines⟩ := List.forall_mem_cons.mp h
    have htext : (fileText (line :: lines)).toList =
        line.toList ++ '\n' :: (fileText lines).toList := by
      rw [fileText, List.map_cons, String.join_cons, String.toList_append, String.toList_append,
        List.append_assoc]
      rfl
    rw [htext, List.splitOn, List.splitOnP_append_cons (p := (· == '\n')) _ _ rfl,
      List.splitOnP_eq_singleton (p := (· == '\n')) fun c hc =>
        beq_false_of_ne fun heq => hline (heq ▸ hc)]
    exact congrArg (line.toList :: ·) (ih hlines)

theorem isIdentifierChar_of_isAlphanum {c : Char} (h : c.isAlphanum = true) :
    Literal.isIdentifierChar c = true := by
  rw [Literal.isIdentifierChar, h, Bool.true_or, Bool.true_or]

/-- The line that imports one name. -/
theorem importedNames_line {name : List Char} (hne : name ≠ [])
    (hname : ∀ c ∈ name, Literal.isIdentifierChar c = true) (source : List Char) :
    importedNames ("import \x7b ".toList ++ (name ++ " \x7d from ".toList ++ source)) = [name] := by
  have hbrace : ∀ c ∈ name, c ≠ '\x7d' := by
    rintro c hc rfl
    exact absurd (hname _ hc) (by decide)
  have hinside : (name ++ " \x7d from ".toList ++ source).takeWhile (· ≠ '\x7d') =
      name ++ [' '] := by
    rw [List.append_assoc, List.takeWhile_append_of_pos fun c hc => decide_eq_true (hbrace c hc)]
    rfl
  rw [importedNames, dropPrefix?_append]
  simp only [hinside]
  rw [List.splitOnP_append_cons _ _ (by decide), List.splitOnP_nil,
    List.splitOnP_eq_singleton fun c hc => by rw [hname c hc]; rfl]
  simp [hne]

/-- The lines in the middle of the index. -/
def reexports (groups : List Group) : List String :=
  [""] ++ (groups.map fun group => "export * from \"./" ++ group.moduleName ++ ".js\";") ++
    ["export * from \"./schemas.js\";", ""]

/-- The line that imports the class of a group. -/
def groupImport (group : Group) : String :=
  "import \x7b " ++ group.className ++ " \x7d from \"./" ++ group.moduleName ++ ".js\";"

/-- The line that declares the class of an API. -/
def classLine (api : Api) (groups : List Group) : String :=
  "export class " ++ api.className groups ++ " extends HttpApi.make(" ++
    Literal.ofText api.info.title ++ ")" ++
    String.join (groups.map fun group => ".add(" ++ group.className ++ ")") ++ " \x7b\x7d"

/-- The lines of the index. -/
def indexLines (api : Api) : List String :=
  platformImport ["HttpApi"] :: api.groups.map groupImport ++
    (reexports api.groups ++ [classLine api api.groups])

theorem indexText_eq (api : Api) : indexText api api.groups = fileText (indexLines api) := by
  rw [indexText, indexLines, reexports]
  simp only [List.append_assoc, List.cons_append, List.nil_append]
  rfl

theorem newline_notMem_of_isAlphanum {text : String} (h : ∀ c ∈ text.toList, c.isAlphanum = true) :
    '\n' ∉ text.toList := by
  intro hmem
  exact absurd (h _ hmem) (by decide)

theorem newline_notMem_moduleName (group : Group) : '\n' ∉ group.moduleName.toList := by
  rw [Group.moduleName, String.toList_append, List.mem_append, not_or]
  exact ⟨fun hmem => absurd (Naming.isKebab_of_mem_kebab hmem) (by decide), by decide⟩

theorem newline_notMem_ofText (text : String) : '\n' ∉ (Literal.ofText text).toList := by
  intro hmem
  obtain ⟨_, _, _, hcontrol⟩ := Literal.isQuoted_ofText text
  exact absurd (hcontrol _ hmem) (by decide)

theorem newline_notMem_append {first second : String} :
    '\n' ∉ (first ++ second).toList ↔ '\n' ∉ first.toList ∧ '\n' ∉ second.toList := by
  rw [String.toList_append, List.mem_append, not_or]

theorem newline_notMem_join {parts : List String} (h : ∀ part ∈ parts, '\n' ∉ part.toList) :
    '\n' ∉ (String.join parts).toList := by
  rw [String.toList_join, List.mem_flatMap]
  rintro ⟨part, hpart, hmem⟩
  exact h part hpart hmem

/-- No line of the index is broken. -/
theorem newline_notMem_indexLines (api : Api) :
    ∀ line ∈ indexLines api, '\n' ∉ line.toList := by
  have hclass : ∀ group ∈ api.groups, '\n' ∉ group.className.toList :=
    fun group hgroup => newline_notMem_of_isAlphanum (api.isAlphanum_className hgroup)
  have hown : '\n' ∉ (api.className api.groups).toList := by
    rw [Api.className_eq, newline_notMem_append]
    exact ⟨newline_notMem_of_isAlphanum api.isAlphanum_ownStem, by decide⟩
  intro line h
  simp only [indexLines, reexports, List.mem_append, List.mem_map, List.mem_cons,
    List.not_mem_nil, or_false] at h
  rcases h with (rfl | ⟨group, hgroup, rfl⟩) | ((rfl | ⟨group, hgroup, rfl⟩) | rfl | rfl) | rfl
  · decide
  · simp only [groupImport, newline_notMem_append]
    exact ⟨⟨⟨⟨by decide, hclass group hgroup⟩, by decide⟩,
      newline_notMem_moduleName group⟩, by decide⟩
  · decide
  · simp only [newline_notMem_append]
    exact ⟨⟨by decide, newline_notMem_moduleName group⟩, by decide⟩
  · decide
  · decide
  · have hadded : ∀ part ∈ api.groups.map fun group => ".add(" ++ group.className ++ ")",
        '\n' ∉ part.toList := by
      refine List.forall_mem_map.mpr fun group hgroup => ?_
      simp only [newline_notMem_append]
      exact ⟨⟨by decide, hclass group hgroup⟩, by decide⟩
    have hjoined := newline_notMem_join hadded
    have htitle := newline_notMem_ofText api.info.title
    have hlead : '\n' ∉ "export class ".toList := by decide
    have hmiddle : '\n' ∉ " extends HttpApi.make(".toList := by decide
    have hend : '\n' ∉ " \x7b\x7d".toList := by decide
    have hbracket : '\n' ∉ ")".toList := by decide
    delta classLine
    simp only [newline_notMem_append]
    exact ⟨⟨⟨⟨⟨⟨hlead, hown⟩, hmiddle⟩, htitle⟩, hbracket⟩, hjoined⟩, hend⟩

theorem splitOn_indexText (api : Api) : (indexText api api.groups).toList.splitOn '\n' =
    (indexLines api).map String.toList ++ [[]] := by
  rw [indexText_eq]
  exact splitOn_fileText (newline_notMem_indexLines api)

theorem importedNames_groupImport {api : Api} {group : Group} (h : group ∈ api.groups) :
    importedNames (groupImport group).toList = [group.className.toList] := by
  have hne : group.className.toList ≠ [] := by
    rw [Group.className, String.toList_append]
    exact List.append_ne_nil_of_right_ne_nil _ (by decide)
  have hline := importedNames_line hne
    (fun c hc => isIdentifierChar_of_isAlphanum (api.isAlphanum_className h c hc))
    ("\"./".toList ++ (group.moduleName.toList ++ ".js\";".toList))
  rw [← hline]
  simp only [groupImport, String.toList_append, List.append_assoc]
  rfl

/-- What differs from a lead in one place does not begin with it. -/
theorem dropPrefix?_eq_none {lead cs : List Char} (i : Nat) (hi : i < lead.length)
    (h : cs[i]? ≠ some lead[i]) : cs.dropPrefix? lead = none := by
  rw [Option.eq_none_iff_forall_ne_some]
  intro rest hrest
  obtain ⟨found, rfl, hfound⟩ := List.dropPrefix?_eq_some_iff.mp hrest
  rw [eq_of_beq hfound, List.getElem?_append_left hi, List.getElem?_eq_getElem hi] at h
  exact h rfl

theorem importedNames_eq_nil {cs : List Char} (h : cs[0]? ≠ some 'i') :
    importedNames cs = [] := by
  rw [importedNames, dropPrefix?_eq_none 0 (by decide) h]

theorem declaredClass?_eq_none {cs : List Char} (h : cs[7]? ≠ some 'c') :
    declaredClass? cs = none := by
  rw [declaredClass?, dropPrefix?_eq_none 7 (by decide) h]
  rfl

theorem getElem?_reexports (groups : List Group) :
    ∀ line ∈ reexports groups, line.toList[0]? ≠ some 'i' ∧ line.toList[7]? ≠ some 'c' := by
  intro line h
  simp only [reexports, List.mem_append, List.mem_map, List.mem_cons, List.not_mem_nil,
    or_false] at h
  rcases h with (rfl | ⟨group, -, rfl⟩) | rfl | rfl
  · decide
  · simp only [String.toList_append, List.append_assoc]
    exact ⟨(fun h => nomatch h), (fun h => nomatch h)⟩
  · decide
  · decide

/-- **The index imports the classes of the groups**, and one of the platform. -/
theorem importsOf_indexText (api : Api) : importsOf (indexText api api.groups) =
    ("HttpApi" :: api.groups.map Group.className).map String.toList := by
  have hplatform : importedNames (platformImport ["HttpApi"]).toList = ["HttpApi".toList] := by
    decide
  have hgroups : ((api.groups.map groupImport).map String.toList).flatMap importedNames =
      (api.groups.map Group.className).map String.toList := by
    rw [List.map_map, List.flatMap_map, List.map_map, List.map_eq_flatMap]
    exact List.flatMap_congr fun group hgroup => importedNames_groupImport hgroup
  have hclass : importedNames (classLine api api.groups).toList = [] := by
    delta classLine
    refine importedNames_eq_nil ?_
    simp only [String.toList_append, List.append_assoc]
    exact fun h => nomatch h
  have hothers : ((reexports api.groups ++ [classLine api api.groups]).map String.toList).flatMap
      importedNames = [] := by
    rw [List.flatMap_eq_nil_iff]
    refine List.forall_mem_map.mpr (List.forall_mem_append.mpr ⟨fun line hline => ?_, ?_⟩)
    · exact importedNames_eq_nil (getElem?_reexports api.groups line hline).1
    · exact List.forall_mem_singleton.mpr hclass
  have hlast : [[]].flatMap importedNames = [] := by decide
  rw [importsOf, splitOn_indexText, indexLines, List.map_append, List.map_cons, List.cons_append,
    List.cons_append, List.flatMap_cons, hplatform, List.append_assoc, List.flatMap_append, hgroups,
    List.flatMap_append, hothers, hlast, List.append_nil, List.append_nil]
  rfl

theorem declaredClass?_groupImport (group : Group) :
    declaredClass? (groupImport group).toList = none := by
  refine declaredClass?_eq_none ?_
  simp only [groupImport, String.toList_append, List.append_assoc]
  exact fun h => nomatch h

theorem declaredClass?_classLine (api : Api) :
    declaredClass? (classLine api api.groups).toList = some (api.className api.groups).toList := by
  have hname : ∀ c ∈ (api.className api.groups).toList, Literal.isIdentifierChar c = true := by
    rw [Api.className_eq, String.toList_append]
    exact List.forall_mem_append.mpr
      ⟨fun c hc => isIdentifierChar_of_isAlphanum (api.isAlphanum_ownStem c hc),
        List.all_eq_true.mp (by decide)⟩
  delta classLine
  simp only [String.toList_append, List.append_assoc]
  rw [declaredClass?, dropPrefix?_append, Option.map_some, List.takeWhile_append_of_pos hname]
  exact congrArg some (List.append_nil _)

/-- **The index declares the class of the API**, and no other. -/
theorem classesOf_indexText (api : Api) :
    classesOf (indexText api api.groups) = [(api.className api.groups).toList] := by
  have hplatform : declaredClass? (platformImport ["HttpApi"]).toList = none := by decide
  have hgroups : ((api.groups.map groupImport).map String.toList).filterMap declaredClass? =
      [] := by
    refine List.filterMap_eq_nil_iff.mpr (List.forall_mem_map.mpr (List.forall_mem_map.mpr ?_))
    exact fun group _ => declaredClass?_groupImport group
  have hothers : ((reexports api.groups).map String.toList).filterMap declaredClass? = [] := by
    refine List.filterMap_eq_nil_iff.mpr (List.forall_mem_map.mpr fun line hline => ?_)
    exact declaredClass?_eq_none (getElem?_reexports api.groups line hline).2
  have hclass : ([classLine api api.groups].map String.toList).filterMap declaredClass? =
      [(api.className api.groups).toList] := by
    rw [List.map_singleton, List.filterMap_cons_some (declaredClass?_classLine api),
      List.filterMap_nil]
  have hlast : [[]].filterMap declaredClass? = [] := by decide
  rw [classesOf, splitOn_indexText, indexLines, List.map_append, List.map_cons, List.cons_append,
    List.cons_append, List.filterMap_cons_none hplatform, List.append_assoc, List.filterMap_append,
    hgroups, List.map_append, List.filterMap_append, List.filterMap_append, hothers, hclass, hlast]
  rfl

/-- A text declares a class under a name that it imports. -/
def DeclaresImported (text : String) : Prop :=
  ∃ name ∈ classesOf text, name ∈ importsOf text

theorem declaresImported_indexText_iff (api : Api) : DeclaresImported (indexText api api.groups) ↔
    api.className api.groups = "HttpApi" ∨
      api.className api.groups ∈ api.groups.map Group.className := by
  rw [DeclaresImported, classesOf_indexText, importsOf_indexText]
  simp only [List.mem_singleton, exists_eq_left]
  rw [List.mem_map_of_injective fun _ _ => String.toList_inj.mp, List.mem_cons]

end Code

namespace Api

/-- The class of an API is not that of a group. -/
def IsApart (api : Api) : Prop :=
  api.className api.groups ∉ api.groups.map Group.className

/-- The name that the title gives with `Http` behind it is the name of a tag: of the tags that are
alike in kebab-case, the first has it. -/
def HasHttpTag (api : Api) : Prop :=
  (api.groupTags.map Group.stemOf).find? (fun stem =>
    Naming.kebab stem == Naming.kebab (api.titleStem ++ "Http")) = some (api.titleStem ++ "Http")

variable (api : Api)

theorem append_http_mem_stems_iff : api.titleStem ++ "Http" ∈ api.stems ↔ api.HasHttpTag := by
  have hletter : EndsInLetter (api.titleStem ++ "Http") := by
    refine ⟨'p', ?_, rfl⟩
    rw [String.toList_append, List.getLast?_append]
    rfl
  rw [stems, stem_groups, mem_freshNames_iff hletter, HasHttpTag]
  exact and_iff_right List.not_mem_nil

theorem ownStem_mem_stems_iff :
    api.ownStem ∈ api.stems ↔ api.titleStem ∈ api.stems ∧ api.HasHttpTag := by
  rw [ownStem, ← append_http_mem_stems_iff]
  by_cases h : api.titleStem ∈ api.stems
  · rw [if_pos h]
    exact (and_iff_right h).symm
  · rw [if_neg h]
    exact ⟨fun hmem => absurd hmem h, And.left⟩

theorem ownStem_eq_http_iff :
    api.ownStem = "Http" ↔ api.titleStem = "Http" ∧ "Http" ∉ api.stems := by
  rw [ownStem]
  by_cases h : api.titleStem ∈ api.stems
  · rw [if_pos h]
    constructor
    · -- no group is named by nothing
      intro heq
      have hempty : api.titleStem = "" := (String.append_left_inj "Http").mp heq
      rw [hempty] at h
      exact absurd h api.empty_notMem_stems
    · rintro ⟨htitle, hnone⟩
      exact absurd (htitle ▸ h) hnone
  · rw [if_neg h]
    exact ⟨fun htitle => ⟨htitle, htitle ▸ h⟩, And.left⟩

/-- **The class of an API is apart from those of its groups** unless one group has the name that the
title gives and another one the name with `Http` behind it, which has to be the name of a tag.  The
index declares a name that it imports in that case, and where the class has the name of the one of
the platform. -/
theorem isApart_iff :
    (api.IsApart ↔ ¬(api.titleStem ∈ api.stems ∧ api.HasHttpTag)) ∧
      (Code.DeclaresImported (Code.indexText api api.groups) ↔
        ¬api.IsApart ∨ api.titleStem = "Http" ∧ "Http" ∉ api.stems) := by
  have hplatform : api.className api.groups = "HttpApi" ↔ api.ownStem = "Http" := by
    have hname : "HttpApi" = "Http" ++ "Api" := by decide
    rw [className_eq, hname, String.append_left_inj]
  have hgroup : api.className api.groups ∈ api.groups.map Group.className ↔
      api.ownStem ∈ api.stems := by
    rw [className_eq, append_mem_className_groups]
  refine ⟨?_, ?_⟩
  · rw [IsApart, hgroup, ownStem_mem_stems_iff]
  · rw [Code.declaresImported_indexText_iff, hplatform, ownStem_eq_http_iff, IsApart, not_not]
    exact or_comm

/-- An API of pets with groups for the pets and for what they do over HTTP. -/
def petsHttp : Api :=
  .ofOperations [.reading "/pets" ["Pets"], .reading "/pets/http" ["PetsHttp"]] []

/-- The class of such an API is that of its second group. -/
theorem not_isApart_petsHttp : ¬petsHttp.IsApart ∧
    Code.DeclaresImported (Code.indexText petsHttp petsHttp.groups) := by
  have hmem : petsHttp.className petsHttp.groups ∈ petsHttp.groups.map Group.className := by
    decide
  exact ⟨not_not.mpr hmem, (Code.declaresImported_indexText_iff petsHttp).mpr (.inr hmem)⟩

end Api

end ClientGen
