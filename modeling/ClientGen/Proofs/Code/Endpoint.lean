import ClientGen.Proofs.Code.Comment

/-!
# The names of endpoints

The operations of a group are named so that their names differ in kebab-case, but they are used in
PascalCase, under which the constants of a group are declared.  PascalCase drops what stands between
words, so two names may differ in where their words begin and be one there.  `namesApart_iff` says
that nothing else goes wrong, and `nodup_constants_iff` which constants are declared twice for it.

Names that show their words in PascalCase are safe (`namesApart_of_showsWords`): they show them with
parameters and a number behind them as well.
-/

namespace ClientGen

/-- The names of the constants that are declared in the file of a group. -/
def Group.constants (group : Group) : List String :=
  group.endpoints.flatMap fun part => part.2.map Code.Declaration.name

/-- An operation has parameters of a place. -/
def Operation.hasParameters (operation : Operation) (place : ParameterPlace) : Bool :=
  operation.parameters.any (·.place == place)

/-- The endpoints of a group are named apart: each has a name, and neither the names in PascalCase
nor the constants that are declared under them are used twice. -/
structure Group.NamesApart (group : Group) : Prop where
  length : (endpointNames group.operations).length = group.operations.length
  pascal : ((endpointNames group.operations).map Naming.pascal).Nodup
  constants : group.constants.Nodup

/-! ### Names in both forms -/

theorem length_endpointNames (operations : List Operation) :
    (endpointNames operations).length = operations.length :=
  (forall₂_namesFrom [] operations).length_eq.symm

theorem nodup_kebab_endpointNames (operations : List Operation) :
    ((endpointNames operations).map Naming.kebab).Nodup :=
  (areFresh_namesFrom [] operations).nodup_kebab

/-- Names that differ in kebab-case are one in PascalCase only where their words begin at different
places. -/
theorem nodup_pascal_iff {names : List String} (h : (names.map Naming.kebab).Nodup) :
    (names.map Naming.pascal).Nodup ↔ names.Pairwise fun first second =>
      Naming.pascal first = Naming.pascal second →
        Naming.lengths first = Naming.lengths second := by
  have hkebab := List.pairwise_map.mp h
  constructor
  · intro hpascal
    refine (List.pairwise_map.mp hpascal).imp ?_
    intro first second hne heq
    exact absurd heq hne
  · intro hlengths
    refine List.pairwise_map.mpr ((hkebab.and hlengths).imp ?_)
    rintro first second ⟨hne, hsame⟩ heq
    exact hne (Naming.kebab_eq_of_pascal heq (hsame heq))

/-- The operations of a group with their names. -/
def Group.named (group : Group) : List (Operation × String) :=
  group.operations.zip (endpointNames group.operations)

theorem Group.map_snd_named (group : Group) :
    group.named.map Prod.snd = endpointNames group.operations :=
  List.map_snd_zip (length_endpointNames group.operations).le

/-- Names show their words in PascalCase where the own names of the operations do. -/
theorem Group.showsBorder_of_mem_named {group : Group}
    (h : ∀ operation ∈ group.operations, Naming.ShowsWords operation.endpointName)
    {pair : Operation × String} (hpair : pair ∈ group.named) :
    (Naming.words pair.2).IsChain Naming.ShowsBorder := by
  obtain ⟨tail, hname, htail⟩ := List.forall₂_zip (forall₂_namesFrom [] group.operations) hpair
  rw [hname]
  exact (h pair.1 (List.of_mem_zip hpair).1).append htail.isAlphanum htail.isLower_head

/-! ### Constants -/

namespace Code

/-- The place of an entry of the table is known by the ending of its constants: by the seventh
character from its end. -/
theorem eq_of_append_ending {first second : String}
    {place other : ParameterPlace × String × String} (hplace : place ∈ parameterPlaces)
    (hother : other ∈ parameterPlaces) (h : first ++ place.2.2 = second ++ other.2.2) :
    place = other ∧ first = second := by
  have hseventh : ∀ (first : String) {entry : ParameterPlace × String × String},
      entry ∈ parameterPlaces →
        (first ++ entry.2.2).toList.reverse[6]? = entry.2.2.toList.reverse[6]? := by
    intro first entry hentry
    have hlong : 6 < entry.2.2.toList.reverse.length := by
      have hall : parameterPlaces.all (fun entry => decide (6 < entry.2.2.toList.reverse.length)) =
          true := by decide
      exact of_decide_eq_true (List.all_eq_true.mp hall entry hentry)
    rw [String.toList_append, List.reverse_append, List.getElem?_append_left hlong]
  have htable : parameterPlaces.all (fun entry => parameterPlaces.all fun other =>
      entry.2.2.toList.reverse[6]? != other.2.2.toList.reverse[6]? || decide (entry = other)) =
        true := by decide
  have hsame : place.2.2.toList.reverse[6]? = other.2.2.toList.reverse[6]? := by
    rw [← hseventh first hplace, ← hseventh second hother, h]
  have hentry := List.all_eq_true.mp (List.all_eq_true.mp htable place hplace) other hother
  rw [hsame, bne_self_eq_false, Bool.false_or, decide_eq_true_eq] at hentry
  subst hentry
  refine ⟨rfl, ?_⟩
  have hlists := congrArg String.toList h
  rw [String.toList_append, String.toList_append] at hlists
  exact String.toList_inj.mp (List.append_cancel_right hlists)

/-- The names of the constants of an operation. -/
theorem name_parameterCalls (operation : Operation) (name : String) :
    (parameterCalls operation name).map (fun declared => declared.1.name) =
      (parameterPlaces.filter fun place => operation.hasParameters place.1).map
        fun place => Naming.pascal name ++ place.2.2 := by
  rw [parameterCalls_eq, List.map_map]
  rfl

theorem nodup_name_parameterCalls (operation : Operation) (name : String) :
    ((parameterCalls operation name).map fun declared => declared.1.name).Nodup := by
  have htable : parameterPlaces.Nodup := by decide
  rw [name_parameterCalls]
  refine (htable.filter _).map_on fun place hplace other hother heq => ?_
  exact (eq_of_append_ending (List.mem_filter.mp hplace).1 (List.mem_filter.mp hother).1 heq).1

/-- Two operations share a constant exactly when both have parameters of a place and their names are
the same in PascalCase. -/
theorem disjoint_name_parameterCalls_iff (first second : Operation × String) :
    List.Disjoint ((parameterCalls first.1 first.2).map fun declared => declared.1.name)
        ((parameterCalls second.1 second.2).map fun declared => declared.1.name) ↔
      ∀ place ∈ parameterPlaces, first.1.hasParameters place.1 = true →
        second.1.hasParameters place.1 = true →
          Naming.pascal first.2 ≠ Naming.pascal second.2 := by
  rw [name_parameterCalls, name_parameterCalls]
  constructor
  · intro hdisjoint place hplace hfirst hsecond heq
    refine hdisjoint (a := Naming.pascal first.2 ++ place.2.2) ?_ ?_
    · exact List.mem_map.mpr ⟨place, List.mem_filter.mpr ⟨hplace, hfirst⟩, rfl⟩
    · exact List.mem_map.mpr ⟨place, List.mem_filter.mpr ⟨hplace, hsecond⟩, by rw [heq]⟩
  · intro hapart constant hfirst hsecond
    obtain ⟨place, hplace, rfl⟩ := List.mem_map.mp hfirst
    obtain ⟨other, hother, heq⟩ := List.mem_map.mp hsecond
    obtain ⟨hplace, hdeclares⟩ := List.mem_filter.mp hplace
    obtain ⟨hother, hdeclares'⟩ := List.mem_filter.mp hother
    obtain ⟨rfl, hnames⟩ := eq_of_append_ending hother hplace heq
    exact hapart other hplace hdeclares hdeclares' hnames.symm

end Code

/-- **No constant of a group is declared twice** exactly when operations with parameters of the same
place have different names in PascalCase. -/
theorem Group.nodup_constants_iff (group : Group) :
    group.constants.Nodup ↔ group.named.Pairwise fun first second =>
      ∀ place ∈ Code.parameterPlaces, first.1.hasParameters place.1 = true →
        second.1.hasParameters place.1 = true →
          Naming.pascal first.2 ≠ Naming.pascal second.2 := by
  have hconstants : group.constants = group.named.flatMap fun pair =>
      (Code.parameterCalls pair.1 pair.2).map fun declared => declared.1.name := by
    unfold constants endpoints
    rw [List.flatMap_map]
    refine List.flatMap_congr fun pair _ => ?_
    show ((Code.parameterCalls pair.1 pair.2).map (·.1)).map Code.Declaration.name = _
    rw [List.map_map]
    rfl
  have hown : ∀ pair ∈ group.named,
      ((Code.parameterCalls pair.1 pair.2).map fun declared => declared.1.name).Nodup :=
    fun pair _ => Code.nodup_name_parameterCalls pair.1 pair.2
  rw [hconstants, List.nodup_flatMap, and_iff_right hown]
  exact List.Pairwise.iff Code.disjoint_name_parameterCalls_iff

/-! ### Names that are used in PascalCase -/

namespace Group

variable {group : Group}

/-- Names that differ in PascalCase serve for the constants. -/
theorem namesApart_of_pascal (h : ((endpointNames group.operations).map Naming.pascal).Nodup) :
    group.NamesApart := by
  refine ⟨length_endpointNames group.operations, h, group.nodup_constants_iff.mpr ?_⟩
  rw [← group.map_snd_named, List.map_map] at h
  refine (List.pairwise_map.mp h).imp ?_
  intro first second hne place _ _ _
  exact hne

theorem namesApart_iff (group : Group) :
    group.NamesApart ↔ (endpointNames group.operations).Pairwise fun first second =>
      Naming.pascal first = Naming.pascal second →
        Naming.lengths first = Naming.lengths second := by
  rw [← nodup_pascal_iff (nodup_kebab_endpointNames group.operations)]
  exact ⟨NamesApart.pascal, namesApart_of_pascal⟩

/-- Names that show their words are apart, as they are in kebab-case. -/
theorem namesApart_of_showsWords
    (h : ∀ operation ∈ group.operations, Naming.ShowsWords operation.endpointName) :
    group.NamesApart := by
  apply namesApart_of_pascal
  have hkebab := nodup_kebab_endpointNames group.operations
  rw [← group.map_snd_named, List.map_map] at hkebab ⊢
  refine List.pairwise_map.mpr ((List.pairwise_map.mp hkebab).imp_of_mem ?_)
  intro first second hfirst hsecond hne heq
  exact hne (Naming.kebab_eq_of_showsBorder heq (showsBorder_of_mem_named h hfirst)
    (showsBorder_of_mem_named h hsecond))

/-- **How endpoints are named.**  Each operation of a group has a name, and the names differ in
kebab-case.  They are apart in PascalCase, where they are used, exactly when no two of them are the
same letters cut into words at different places.  Constants are declared twice exactly for such names
of operations with parameters of the same place.  Names are apart for all operations whose own names
show their words. -/
theorem settlesEndpointNames (group : Group) :
    (endpointNames group.operations).length = group.operations.length ∧
    ((endpointNames group.operations).map Naming.kebab).Nodup ∧
    (group.NamesApart ↔ (endpointNames group.operations).Pairwise fun first second =>
      Naming.pascal first = Naming.pascal second →
        Naming.lengths first = Naming.lengths second) ∧
    (group.constants.Nodup ↔ group.named.Pairwise fun first second =>
      ∀ place ∈ Code.parameterPlaces, first.1.hasParameters place.1 = true →
        second.1.hasParameters place.1 = true →
          Naming.pascal first.2 ≠ Naming.pascal second.2) ∧
    ((∀ operation ∈ group.operations, Naming.ShowsWords operation.endpointName) →
      group.NamesApart) :=
  ⟨length_endpointNames group.operations, nodup_kebab_endpointNames group.operations,
    group.namesApart_iff, group.nodup_constants_iff, namesApart_of_showsWords⟩

/-- A group of operations with names, each of which takes a limit. -/
def limited (names : List String) : Group where
  tag := defaultTag
  stem := "Default"
  operations := names.map fun name =>
    { Operation.reading "/pets/\x7bid\x7d" [] with
      operationId := some name
      parameters := [{ name := "limit", place := .query, required := false, description := none
                       deprecated := false, schema := none, sample := .null }] }

/-- Names that show their words stay apart with parameters and numbers behind them. -/
theorem settlesEndpointNames_limited :
    let group := limited ["list_pets", "listPets", "ListPets", "listPets2"]
    (∀ operation ∈ group.operations, Naming.ShowsWords operation.endpointName) ∧
      endpointNames group.operations =
        ["list_pets", "listPetsById", "ListPetsById2", "listPets2"] ∧
      group.NamesApart := by
  intro group
  have hshown : ∀ operation ∈ group.operations, Naming.ShowsWords operation.endpointName := by
    decide +kernel
  exact ⟨hshown, by decide +kernel, (settlesEndpointNames group).2.2.2.2 hshown⟩

/-- Two names that are the same letters, cut into words at different places, are one in PascalCase:
a constant is declared twice. -/
theorem not_namesApart_digitAlone :
    let group := limited ["getPets2", "getPets-2"]
    endpointNames group.operations = ["getPets2", "getPets-2"] ∧
      group.constants = ["GetPets2UrlParams", "GetPets2UrlParams"] ∧ ¬group.NamesApart := by
  intro group
  have hconstants : group.constants = ["GetPets2UrlParams", "GetPets2UrlParams"] := by
    decide +kernel
  refine ⟨by decide +kernel, hconstants, fun h => ?_⟩
  have hnodup := h.constants
  rw [hconstants] at hnodup
  exact absurd hnodup (by decide)

end Group

end ClientGen
