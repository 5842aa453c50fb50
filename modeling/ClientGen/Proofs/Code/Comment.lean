import ClientGen.Code.Artifact
import ClientGen.Proofs.Code.Group
import ClientGen.Proofs.Naming
import ClientGen.Proofs.Outcome

/-!
# Comments stay on their line

A comment of generated code ends at the first line terminator, so text of a document must have none
where it becomes part of one.  `comment` takes care of that: what it gives is on one line whenever
the text to fall back on is (`isOneLine_comment`), and so descriptions and summaries stay on their
line.  Methods, paths and the names of operations are put into comments as they are;
`keepsCommentsOnLine_iff` says that comments stay on their line exactly when these do.
-/

namespace ClientGen

namespace Text

/-! ### Texts on one line -/

/-- The characters that end a line of code, and with it a comment. -/
def isLineTerminator (c : Char) : Bool :=
  c == '\n' || c == '\r' || c.toNat == 0x2028 || c.toNat == 0x2029

/-- A text is on one line. -/
def IsOneLine (text : String) : Prop :=
  ∀ c ∈ text.toList, isLineTerminator c = false

instance (text : String) : Decidable (IsOneLine text) :=
  decidable_of_iff (text.toList.all fun c => !isLineTerminator c) (by simp [IsOneLine])

theorem isOneLine_append {first second : String} :
    IsOneLine (first ++ second) ↔ IsOneLine first ∧ IsOneLine second := by
  unfold IsOneLine
  rw [String.toList_append]
  exact List.forall_mem_append

theorem isLineTerminator_of_not_isLineEnd {c : Char} (h : isLineEnd c = false) :
    isLineTerminator c = false := by
  unfold isLineEnd at h
  simp only [Bool.or_eq_false_iff] at h
  obtain ⟨⟨⟨⟨⟨⟨⟨hfeed, hreturn⟩, -⟩, -⟩, -⟩, -⟩, hline⟩, hparagraph⟩ := h
  unfold isLineTerminator
  rw [hfeed, hreturn, hline, hparagraph]
  rfl

theorem isLineTerminator_of_isAlphanum {c : Char} (h : c.isAlphanum = true) :
    isLineTerminator c = false := by
  cases hend : isLineTerminator c with
  | false => rfl
  | true =>
    unfold isLineTerminator at hend
    simp only [Bool.or_eq_true, beq_iff_eq] at hend
    rcases hend with ((rfl | rfl) | hline) | hparagraph
    · cases h
    · cases h
    · rw [← Char.ofNat_toNat c, hline] at h
      exact absurd h (by decide)
    · rw [← Char.ofNat_toNat c, hparagraph] at h
      exact absurd h (by decide)

/-- A text of letters and digits is on one line. -/
theorem isOneLine_of_isAlphanum {text : String} (h : ∀ c ∈ text.toList, c.isAlphanum = true) :
    IsOneLine text :=
  fun c hc => isLineTerminator_of_isAlphanum (h c hc)

/-! ### Lines and replacements -/

/-- Lines hold no end of a line. -/
theorem isLineEnd_of_mem_linesFrom {current cs : List Char}
    (hcurrent : ∀ c ∈ current, isLineEnd c = false) {line : List Char}
    (hline : line ∈ linesFrom current cs) : ∀ c ∈ line, isLineEnd c = false := by
  have hreverse : ∀ c ∈ current.reverse, isLineEnd c = false := by simpa using hcurrent
  have hnone : ∀ c ∈ ([] : List Char), isLineEnd c = false := by simp
  induction current, cs using linesFrom.induct with
  | case1 current hempty =>
    rw [linesFrom, if_pos hempty] at hline
    cases hline
  | case2 current hempty =>
    rw [linesFrom, if_neg hempty, List.mem_singleton] at hline
    rw [hline]
    exact hreverse
  | case3 current rest ih =>
    rw [linesFrom] at hline
    rcases List.mem_cons.mp hline with rfl | hlater
    · exact hreverse
    · exact ih hnone hlater hnone
  | case4 current c rest hpair hend ih =>
    rw [linesFrom, if_pos hend] at hline
    · rcases List.mem_cons.mp hline with rfl | hlater
      · exact hreverse
      · exact ih hnone hlater hnone
    · exact hpair
  | case5 current c rest hpair hend ih =>
    have hmore : ∀ d ∈ c :: current, isLineEnd d = false :=
      List.forall_mem_cons.mpr ⟨by simpa using hend, hcurrent⟩
    rw [linesFrom, if_neg hend] at hline
    · exact ih hmore hline fun d hd => hmore d (List.mem_reverse.mp hd)
    · exact hpair

theorem isOneLine_of_mem_lines {text line : String} (h : line ∈ lines text) : IsOneLine line := by
  obtain ⟨cs, hcs, rfl⟩ := List.mem_map.mp h
  intro c hc
  rw [String.toList_ofList] at hc
  exact isLineTerminator_of_not_isLineEnd (isLineEnd_of_mem_linesFrom (by simp) hcs c hc)

/-- A replacement puts in no other characters than those of the new part. -/
theorem mem_of_mem_replaceFrom {part new : List Char} {skip : Nat} {cs : List Char} {c : Char}
    (h : c ∈ replaceFrom part new skip cs) : c ∈ new ∨ c ∈ cs := by
  induction cs generalizing skip with
  | nil => cases h
  | cons first rest ih =>
    rw [replaceFrom.eq_def] at h
    dsimp only at h
    split at h
    · exact (ih h).imp_right (List.mem_cons_of_mem _)
    · split at h
      · rcases List.mem_append.mp h with hnew | hrest
        · exact .inl hnew
        · exact (ih hrest).imp_right (List.mem_cons_of_mem _)
      · rcases List.mem_cons.mp h with rfl | hrest
        · exact .inr List.mem_cons_self
        · exact (ih hrest).imp_right (List.mem_cons_of_mem _)

theorem isOneLine_replace {part new text : String} (hnew : IsOneLine new) (htext : IsOneLine text) :
    IsOneLine (replace part new text) := by
  intro c hc
  rw [replace, String.toList_ofList] at hc
  rcases mem_of_mem_replaceFrom hc with hc | hc
  · exact hnew c hc
  · exact htext c hc

end Text

open Text (IsOneLine isOneLine_append)

namespace Code

/-! ### Comments that are taken from texts -/

/-- **A comment is on one line**, whatever the text, if that to fall back on is. -/
theorem isOneLine_comment (text : String) {fallback : String} (h : IsOneLine fallback) :
    IsOneLine (comment text fallback) := by
  refine Text.isOneLine_replace (by decide) ?_
  cases hhead : (Text.lines (Text.trim text)).head? with
  | none => exact h
  | some line => exact Text.isOneLine_of_mem_lines (List.mem_of_head? hhead)

theorem isOneLine_commentOf {description : Value} {fallback found : String}
    (hfallback : IsOneLine fallback) (h : commentOf description fallback = .ok found) :
    IsOneLine found := by
  have hcomment : ∀ text, .ok (comment text fallback) = (.ok found : Except Unexpected String) →
      IsOneLine found := by
    intro text heq
    rw [← Except.ok.inj heq]
    exact isOneLine_comment text hfallback
  unfold commentOf at h
  split at h
  · split at h
    · exact hcomment _ h
    · split at h
      · exact hcomment _ h
      · exact nomatch h
    · exact nomatch h
  · exact hcomment _ h

theorem isOneLine_pascal (text : String) : IsOneLine (Naming.pascal text) :=
  Text.isOneLine_of_isAlphanum fun _ => Naming.isAlphanum_of_mem_pascal

/-- The comment of a schema is on one line. -/
theorem isOneLine_of_schemaDeclaration {entry : String × Schema} {declaration : Declaration}
    (h : schemaDeclaration entry = .ok declaration) : IsOneLine declaration.comment := by
  unfold schemaDeclaration at h
  obtain ⟨found, hfound, h⟩ := bind_eq_ok.mp h
  obtain ⟨part, -, h⟩ := bind_eq_ok.mp h
  cases h
  exact isOneLine_commentOf (isOneLine_append.mpr ⟨isOneLine_pascal _, by decide⟩) hfound

/-! ### Comments that are taken from operations -/

/-- What stands behind method and path in the comment of an endpoint is on one line. -/
theorem exists_endpointComment_eq (operation : Operation) :
    ∃ tail, endpointComment operation = operation.label ++ tail ∧ IsOneLine tail := by
  unfold endpointComment
  refine ⟨_, rfl, ?_⟩
  split
  · split
    · decide
    · exact isOneLine_append.mpr ⟨by decide, isOneLine_comment _ (by decide)⟩
  · decide

/-- The comment of an endpoint is on one line exactly when method and path are. -/
theorem isOneLine_endpointComment_iff (operation : Operation) :
    IsOneLine (endpointComment operation) ↔
      IsOneLine operation.method ∧ IsOneLine operation.path := by
  obtain ⟨tail, heq, htail⟩ := exists_endpointComment_eq operation
  have hblank : IsOneLine " " := by decide
  rw [heq, Operation.label, isOneLine_append, isOneLine_append, isOneLine_append]
  exact ⟨fun h => ⟨h.1.1.1, h.1.2⟩, fun h => ⟨⟨⟨h.1, hblank⟩, h.2⟩, htail⟩⟩

/-- A name that is made of method and path is on one line; one that is given may not be. -/
theorem isOneLine_endpointName_iff (operation : Operation) :
    IsOneLine operation.endpointName ↔
      ∀ id, operation.operationId = some id → IsOneLine id := by
  have hpath : IsOneLine (Operation.endpointName.fromPath operation) :=
    Text.isOneLine_of_isAlphanum fun _ => Naming.isAlphanum_of_mem_camel
  unfold Operation.endpointName
  cases hid : operation.operationId with
  | none => exact iff_of_true hpath (by rintro id ⟨⟩)
  | some id =>
    dsimp only
    split
    · rename_i hempty
      refine iff_of_true hpath ?_
      rintro _ ⟨⟩
      rw [String.isEmpty_iff.mp hempty]
      decide
    · exact ⟨by rintro h _ ⟨⟩; exact h, fun h => h id rfl⟩

/-- What is put behind the names of operations leaves them on their line. -/
theorem forall₂_isOneLine_namesFrom (taken : List String) (operations : List Operation) :
    List.Forall₂ (fun operation name => IsOneLine name ↔ IsOneLine operation.endpointName)
      operations (namesFrom taken operations) := by
  refine (forall₂_namesFrom taken operations).imp ?_
  rintro operation name ⟨tail, rfl, htail⟩
  rw [isOneLine_append]
  exact and_iff_left (Text.isOneLine_of_isAlphanum htail.isAlphanum)

end Code

/-- An operation declares parameters: not all of them stand in cookies. -/
def Operation.declaresParameters (operation : Operation) : Bool :=
  operation.parameters.any fun parameter => parameter.place != .cookie

/-- The texts of an operation that are put into comments as they are stay on their line: the name
that is given to it only where it declares parameters. -/
structure Operation.StaysOnLine (operation : Operation) : Prop where
  method : IsOneLine operation.method
  path : IsOneLine operation.path
  operationId : operation.declaresParameters = true →
    ∀ id, operation.operationId = some id → IsOneLine id

/-- The endpoints in the file of a group, each with the declarations it needs. -/
def Group.endpoints (group : Group) : List (Code.Endpoint × List Code.Declaration) :=
  (group.operations.zip (endpointNames group.operations)).map fun (operation, name) =>
    Code.endpoint operation name

/-- The comments of an endpoint and of the declarations it needs. -/
def Code.commentsOf (part : Code.Endpoint × List Code.Declaration) : List String :=
  part.1.comment :: part.2.map Code.Declaration.comment

/-- The comments in the file of a group. -/
def Group.comments (group : Group) : List String :=
  group.endpoints.flatMap Code.commentsOf

theorem Code.comment_mem_endpointLines (isLast : Bool) (e : Code.Endpoint) :
    "\t\t// " ++ e.comment ∈ Code.endpointLines isLast e := by
  simp [Code.endpointLines]

theorem Code.comment_mem_endpointsLines {e : Code.Endpoint} {endpoints : List Code.Endpoint}
    (h : e ∈ endpoints) : "\t\t// " ++ e.comment ∈ Code.endpointsLines endpoints := by
  induction endpoints using Code.endpointsLines.induct with
  | case1 => cases h
  | case2 last =>
    rw [List.mem_singleton.mp h]
    exact Code.comment_mem_endpointLines true last
  | case3 first rest hne ih =>
    rw [Code.endpointsLines, List.mem_append]
    · rcases List.mem_cons.mp h with rfl | hlater
      · exact .inl (Code.comment_mem_endpointLines false e)
      · exact .inr (ih hlater)
    · exact hne

/-- Each comment of a group is a line of its file. -/
theorem Group.exists_lines (group : Group) : ∃ lines, Code.groupText group = Code.fileText lines ∧
    ∀ comment ∈ group.comments, "// " ++ comment ∈ lines ∨ "\t\t// " ++ comment ∈ lines := by
  refine ⟨_, rfl, fun comment hcomment => ?_⟩
  obtain ⟨part, hpart, hcomment⟩ := List.mem_flatMap.mp hcomment
  rw [Code.commentsOf, List.mem_cons] at hcomment
  simp only [List.mem_append]
  rcases hcomment with rfl | hdeclared
  · exact .inr (.inr (Code.comment_mem_endpointsLines (List.mem_map_of_mem hpart)))
  · obtain ⟨declaration, hdeclaration, rfl⟩ := List.mem_map.mp hdeclared
    refine .inl (.inl (.inl (.inr (List.mem_flatMap.mpr ⟨declaration, ?_, ?_⟩))))
    · exact List.mem_flatMap.mpr ⟨part, hpart, hdeclaration⟩
    · simp [Code.Declaration.lines]

/-- The comments in the files of an API stay on their line. -/
structure Api.KeepsCommentsOnLine (api : Api) : Prop where
  schemas : ∀ declarations, Code.schemaDeclarations api = .ok declarations →
    ∀ declaration ∈ declarations, IsOneLine declaration.comment
  groups : ∀ group ∈ api.groups, ∀ comment ∈ group.comments, IsOneLine comment

namespace Code

/-- **The declarations of an operation**: one for each place that has parameters. -/
theorem parameterCalls_eq (operation : Operation) (name : String) :
    parameterCalls operation name =
      (parameterPlaces.filter fun place => operation.parameters.any (·.place == place.1)).map
        fun place =>
          ({ name := Naming.pascal name ++ place.2.2
             comment := place.2.2 ++ " for " ++ name
             expression := struct
               ((operation.parameters.filter (·.place == place.1)).map parameterField) },
            "." ++ place.2.1 ++ "(" ++ (Naming.pascal name ++ place.2.2) ++ ")") := by
  unfold parameterCalls
  induction parameterPlaces with
  | nil => rfl
  | cons entry rest ih =>
    obtain ⟨place, setter, ending⟩ := entry
    have hempty : (operation.parameters.filter (·.place == place)).isEmpty =
        !operation.parameters.any (·.place == place) := by
      rw [Bool.eq_iff_iff]
      simp
    rw [List.filterMap_cons, List.filter_cons]
    dsimp only
    rw [hempty]
    cases operation.parameters.any (·.place == place) with
    | false => exact ih
    | true => exact congrArg (_ :: ·) ih

/-- The comment of a declaration ends in the name of the operation. -/
theorem comment_parameterCalls (operation : Operation) (name : String) :
    (parameterCalls operation name).map (fun declared => declared.1.comment) =
      (parameterPlaces.filter fun place => operation.parameters.any (·.place == place.1)).map
        fun place => place.2.2 ++ " for " ++ name := by
  rw [parameterCalls_eq, List.map_map]
  rfl

theorem declaresParameters_iff (operation : Operation) :
    operation.declaresParameters = true ↔
      ∃ place ∈ parameterPlaces, operation.parameters.any (·.place == place.1) = true := by
  have hplaces : ∀ place : ParameterPlace,
      (place != .cookie) = true ↔ ∃ entry ∈ parameterPlaces, (place == entry.1) = true := by
    intro place
    cases place <;> simp [parameterPlaces]
  unfold Operation.declaresParameters
  simp only [List.any_eq_true, hplaces]
  constructor
  · rintro ⟨parameter, hparameter, place, hplace, heq⟩
    exact ⟨place, hplace, parameter, hparameter, heq⟩
  · rintro ⟨place, hplace, parameter, hparameter, heq⟩
    exact ⟨parameter, hparameter, place, hplace, heq⟩

theorem comments_parameterCalls_iff (operation : Operation) (name : String) :
    (∀ declared ∈ parameterCalls operation name, IsOneLine declared.1.comment) ↔
      (operation.declaresParameters = true → IsOneLine name) := by
  have hending : ∀ place ∈ parameterPlaces,
      IsOneLine (place.2.2 ++ " for " ++ name) ↔ IsOneLine name := by
    have hall : parameterPlaces.all (fun place => decide (IsOneLine (place.2.2 ++ " for "))) =
        true := by decide
    intro place hplace
    rw [isOneLine_append]
    exact and_iff_right (of_decide_eq_true (List.all_eq_true.mp hall place hplace))
  -- The words before the name are on one line, so only the name counts.
  rw [← List.forall_mem_map, comment_parameterCalls, List.forall_mem_map, declaresParameters_iff]
  constructor
  · rintro h ⟨place, hplace, hany⟩
    exact (hending place hplace).mp (h place (List.mem_filter.mpr ⟨hplace, hany⟩))
  · intro h place hmem
    obtain ⟨hplace, hany⟩ := List.mem_filter.mp hmem
    exact (hending place hplace).mpr (h ⟨place, hplace, hany⟩)

theorem commentsOf_endpoint_iff {operation : Operation} {name : String}
    (h : IsOneLine name ↔ IsOneLine operation.endpointName) :
    (∀ comment ∈ commentsOf (endpoint operation name), IsOneLine comment) ↔
      operation.StaysOnLine := by
  have hdeclared : (∀ comment ∈ (endpoint operation name).2.map Declaration.comment,
      IsOneLine comment) ↔ (operation.declaresParameters = true → IsOneLine name) := by
    rw [← comments_parameterCalls_iff, endpoint, List.map_map, List.forall_mem_map]
    rfl
  unfold commentsOf
  rw [List.forall_mem_cons, hdeclared, h, isOneLine_endpointName_iff]
  constructor
  · rintro ⟨hcomment, hname⟩
    obtain ⟨hmethod, hpath⟩ := (isOneLine_endpointComment_iff operation).mp hcomment
    exact ⟨hmethod, hpath, hname⟩
  · intro hstays
    exact ⟨(isOneLine_endpointComment_iff operation).mpr ⟨hstays.method, hstays.path⟩,
      hstays.operationId⟩

end Code

theorem Group.comments_iff (group : Group) :
    (∀ comment ∈ group.comments, IsOneLine comment) ↔
      ∀ operation ∈ group.operations, operation.StaysOnLine := by
  -- Names are given to the operations in their order, so the two lists are taken apart together.
  have hnames := Code.forall₂_isOneLine_namesFrom [] group.operations
  unfold Group.comments Group.endpoints endpointNames
  generalize namesFrom [] group.operations = names at hnames
  generalize group.operations = operations at hnames
  induction hnames with
  | nil => simp
  | cons hname _ ih =>
    rw [List.zip_cons_cons, List.map_cons, List.flatMap_cons, List.forall_mem_append,
      List.forall_mem_cons]
    exact and_congr (Code.commentsOf_endpoint_iff hname) ih

/-- **Comments stay on their line** exactly when, for every operation, its method and path do, and
the name that is given to it does where it declares parameters. -/
theorem keepsCommentsOnLine_iff (api : Api) :
    api.KeepsCommentsOnLine ↔ ∀ operation ∈ api.completeOperations, operation.StaysOnLine := by
  have hschemas : ∀ declarations, Code.schemaDeclarations api = .ok declarations →
      ∀ declaration ∈ declarations, IsOneLine declaration.comment := by
    intro declarations hdeclarations declaration hdeclaration
    obtain ⟨entry, -, hentry⟩ := exists_of_mem_mapM hdeclarations hdeclaration
    exact Code.isOneLine_of_schemaDeclaration hentry
  constructor
  · intro h operation hoperation
    obtain ⟨group, hgroup, hmem⟩ := Api.mem_completeOperations_iff.mp hoperation
    exact group.comments_iff.mp (h.groups group hgroup) operation hmem
  · intro h
    refine ⟨hschemas, fun group hgroup => group.comments_iff.mpr fun operation hoperation => ?_⟩
    exact h operation (Api.mem_completeOperations_iff.mpr ⟨group, hgroup, hoperation⟩)

/-- An API whose one operation takes a limit and has a name of two lines. -/
def Api.nameOfTwoLines : Api :=
  .ofOperations [{ Operation.reading "/pets" [] with
    operationId := some "find\nevil()"
    parameters := [{ name := "limit", place := .query, required := false, description := none
                     deprecated := false, schema := none, sample := .null }] }] []

/-- A name of two lines breaks out of the comment: its second line stands in the file as code. -/
theorem Api.not_keepsCommentsOnLine_nameOfTwoLines :
    "UrlParams for find\nevil()" ∈ nameOfTwoLines.groups.flatMap Group.comments ∧
      ¬nameOfTwoLines.KeepsCommentsOnLine := by
  have hcomments : nameOfTwoLines.groups.flatMap Group.comments =
      ["GET /pets", "UrlParams for find\nevil()"] := by decide +kernel
  have hmem : "UrlParams for find\nevil()" ∈ nameOfTwoLines.groups.flatMap Group.comments := by
    rw [hcomments]
    exact List.mem_cons_of_mem _ List.mem_cons_self
  refine ⟨hmem, fun h => ?_⟩
  obtain ⟨group, hgroup, hcomment⟩ := List.mem_flatMap.mp hmem
  exact absurd (h.groups group hgroup _ hcomment) (by decide +kernel)

end ClientGen
