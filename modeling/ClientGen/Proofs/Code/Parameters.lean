import ClientGen.Proofs.Code.Group

/-!
# Parameters of operations and of their paths

An operation has the parameters of its path, and its own laid over them.  By place, the merged list
is the shared one with the first parameter of an identity replaced by the last own one with it
(`overridden`, `getElem?_overridden`), and behind that come the own parameters whose identity the
path does not have (`mergeParameters_eq`).  So no identity is lost and none is added, and what is
found first under an identity of the operation is a parameter of the operation
(`isOverlay_mergeParameters`).

`keepsParameters` carries this into the groups: their operations are those of the API, each with
such a list.
-/

namespace ClientGen

/-- What tells some parameters apart, in order. -/
def identities (parameters : List Parameter) : List (String × ParameterPlace) :=
  parameters.map Parameter.identity

@[simp] theorem identities_nil : identities [] = [] := rfl

@[simp] theorem identities_cons (parameter : Parameter) (rest : List Parameter) :
    identities (parameter :: rest) = parameter.identity :: identities rest := rfl

/-- The first of some parameters with an identity. -/
def firstWith? (identity : String × ParameterPlace) (parameters : List Parameter) :
    Option Parameter :=
  parameters.find? fun parameter => parameter.identity = identity

/-! ### The first and the last with an identity -/

section Search

variable {identity : String × ParameterPlace} {parameters : List Parameter} {parameter : Parameter}

theorem identity_of_lastWith? (h : lastWith? identity parameters = some parameter) :
    parameter.identity = identity := by
  have hfound := List.find?_some h
  simpa using hfound

theorem lastWith?_eq_none_iff :
    lastWith? identity parameters = none ↔ identity ∉ identities parameters := by
  simp [lastWith?, identities]

theorem firstWith?_cons (first : Parameter) (rest : List Parameter) :
    firstWith? identity (first :: rest) =
      if first.identity = identity then some first else firstWith? identity rest := by
  unfold firstWith?
  rw [List.find?_cons]
  by_cases h : first.identity = identity <;> simp [h]

theorem firstWith?_append (parameters more : List Parameter) :
    firstWith? identity (parameters ++ more) =
      (firstWith? identity parameters).or (firstWith? identity more) :=
  List.find?_append

theorem firstWith?_eq_none_iff :
    firstWith? identity parameters = none ↔ identity ∉ identities parameters := by
  simp [firstWith?, identities]

/-- Where an identity occurs once, the first parameter with it is the last one. -/
theorem eq_of_count_identities (hmem : parameter ∈ parameters)
    (honce : (identities parameters).count parameter.identity = 1) :
    firstWith? parameter.identity parameters = some parameter ∧
      lastWith? parameter.identity parameters = some parameter := by
  obtain ⟨before, after, rfl⟩ := List.append_of_mem hmem
  have hcount : (identities before).count parameter.identity +
      (identities after).count parameter.identity = 0 := by
    simp only [identities, List.map_append, List.map_cons, List.count_append,
      List.count_cons_self] at honce ⊢
    omega
  have hbefore : parameter.identity ∉ identities before :=
    List.count_eq_zero.mp (by omega)
  have hafter : parameter.identity ∉ identities after :=
    List.count_eq_zero.mp (by omega)
  constructor
  · rw [firstWith?_append, firstWith?_eq_none_iff.mpr hbefore, firstWith?_cons, if_pos rfl]
    rfl
  · have hnone : lastWith? parameter.identity after = none := lastWith?_eq_none_iff.mpr hafter
    unfold lastWith? at hnone ⊢
    rw [List.reverse_append, List.reverse_cons, List.append_assoc, List.find?_append, hnone]
    simp

end Search

/-! ### The overlay by place -/

/-- What takes the place of a shared parameter: the last own one with its identity, unless that is
one of `done`. -/
def replacement? (own : List Parameter) (done : List (String × ParameterPlace))
    (shared : Parameter) : Option Parameter :=
  if shared.identity ∈ done then none else lastWith? shared.identity own

/-- The shared parameters, the first with an identity replaced by the last own one with it. -/
def overridden (own : List Parameter) (done : List (String × ParameterPlace)) :
    List Parameter → List Parameter
  | [] => []
  | shared :: rest =>
    match replacement? own done shared with
    | some mine => mine :: overridden own (shared.identity :: done) rest
    | none => shared :: overridden own done rest

section Overlay

variable {own : List Parameter} {done : List (String × ParameterPlace)} {shared mine : Parameter}

theorem replacement?_eq_some_iff : replacement? own done shared = some mine ↔
    shared.identity ∉ done ∧ lastWith? shared.identity own = some mine := by
  unfold replacement?
  by_cases hdone : shared.identity ∈ done <;> simp [hdone]

theorem replacement?_eq_none_iff : replacement? own done shared = none ↔
    shared.identity ∈ done ∨ shared.identity ∉ identities own := by
  unfold replacement?
  by_cases hdone : shared.identity ∈ done <;> simp [hdone, lastWith?_eq_none_iff]

/-- A replacement depends on which identities are done, not on how they are listed. -/
theorem replacement?_congr (other : List (String × ParameterPlace))
    (h : shared.identity ∈ done ↔ shared.identity ∈ other) :
    replacement? own done shared = replacement? own other shared := by
  unfold replacement?
  exact if_congr h rfl rfl

theorem overlay_cons (own : List Parameter) (done : List (String × ParameterPlace))
    (shared : Parameter) (rest : List Parameter) :
    overlay own done (shared :: rest) = match replacement? own done shared with
      | some mine => mine :: overlay own (shared.identity :: done) rest
      | none => shared :: overlay own done rest := by
  have hreplacement : (if done.contains shared.identity then none
      else lastWith? shared.identity own) = replacement? own done shared :=
    if_congr List.contains_iff_mem rfl rfl
  cases hmine : replacement? own done shared with
  | none => simp only [overlay, hreplacement, hmine]
  | some mine => simp only [overlay, hreplacement, hmine]

end Overlay

/-- An overlay is the shared parameters with their replacements, and then the own parameters with
identities of their own. -/
theorem overlay_eq (own shared : List Parameter) (done : List (String × ParameterPlace)) :
    overlay own done shared = overridden own done shared ++
      own.filter fun parameter =>
        parameter.identity ∉ done ∧ parameter.identity ∉ identities shared := by
  induction shared generalizing done with
  | nil =>
    rw [overlay, overridden, List.nil_append]
    refine List.filter_congr fun parameter _ => ?_
    simp
  | cons shared rest ih =>
    rw [overlay_cons, overridden]
    cases hreplacement : replacement? own done shared with
    | some mine =>
      dsimp only
      rw [ih, List.cons_append]
      congr 2
      refine List.filter_congr fun parameter _ => decide_eq_decide.mpr ?_
      rw [identities_cons, List.mem_cons, List.mem_cons]
      tauto
    | none =>
      dsimp only
      rw [ih, List.cons_append]
      congr 2
      refine List.filter_congr fun parameter hparameter => decide_eq_decide.mpr ?_
      -- An own parameter with this identity can only be there when the identity is done.
      have hother : parameter.identity ∉ done → parameter.identity ≠ shared.identity := by
        intro hnot heq
        have hown : parameter.identity ∈ identities own := List.mem_map_of_mem hparameter
        rcases replacement?_eq_none_iff.mp hreplacement with hdone | hnone
        · exact hnot (heq ▸ hdone)
        · exact hnone (heq ▸ hown)
      rw [identities_cons, List.mem_cons]
      tauto

theorem identities_overridden (own shared : List Parameter)
    (done : List (String × ParameterPlace)) :
    identities (overridden own done shared) = identities shared := by
  induction shared generalizing done with
  | nil => rfl
  | cons shared rest ih =>
    rw [overridden]
    cases hreplacement : replacement? own done shared with
    | some mine =>
      dsimp only
      have hmine := (replacement?_eq_some_iff.mp hreplacement).2
      rw [identities_cons, identities_cons, ih, identity_of_lastWith? hmine]
    | none =>
      dsimp only
      rw [identities_cons, identities_cons, ih]

theorem length_overridden (own shared : List Parameter) (done : List (String × ParameterPlace)) :
    (overridden own done shared).length = shared.length := by
  have hlength := congrArg List.length (identities_overridden own shared done)
  simpa [identities] using hlength

/-- **By place**: the first shared parameter with an identity gives way to the last own one with it,
if there is one, and all others stay. -/
theorem getElem?_overridden (own shared : List Parameter)
    (done : List (String × ParameterPlace)) (i : Nat) :
    (overridden own done shared)[i]? = shared[i]?.map fun parameter =>
      (replacement? own (identities (shared.take i) ++ done) parameter).getD parameter := by
  induction shared generalizing done i with
  | nil => rfl
  | cons shared rest ih =>
    rw [overridden]
    cases hreplacement : replacement? own done shared with
    | some mine =>
      cases i with
      | zero => simp [hreplacement]
      | succ i =>
        dsimp only
        rw [List.getElem?_cons_succ, List.getElem?_cons_succ, ih, List.take_succ_cons,
          identities_cons]
        congr 1
        funext parameter
        rw [replacement?_congr (shared.identity :: identities (rest.take i) ++ done)]
        simp only [List.mem_append, List.mem_cons]
        tauto
    | none =>
      cases i with
      | zero => simp [hreplacement]
      | succ i =>
        dsimp only
        rw [List.getElem?_cons_succ, List.getElem?_cons_succ, ih, List.take_succ_cons,
          identities_cons]
        congr 1
        funext parameter
        by_cases hsame : parameter.identity = shared.identity
        · -- One with the identity of a parameter that stays does so as well.
          have hstays : parameter.identity ∈ done ∨ parameter.identity ∉ identities own := by
            rw [hsame]
            exact replacement?_eq_none_iff.mp hreplacement
          rw [replacement?_eq_none_iff.mpr (hstays.imp_left (List.mem_append_right _)),
            replacement?_eq_none_iff.mpr (hstays.imp_left (List.mem_append_right _))]
        · rw [replacement?_congr (shared.identity :: identities (rest.take i) ++ done)]
          simp only [List.mem_append, List.mem_cons]
          tauto

/-- Under an identity of both lists stands the last own parameter with it first. -/
theorem firstWith?_overridden {own shared : List Parameter}
    {done : List (String × ParameterPlace)} {identity : String × ParameterPlace} {mine : Parameter}
    (hshared : identity ∈ identities shared) (hdone : identity ∉ done)
    (hmine : lastWith? identity own = some mine) :
    firstWith? identity (overridden own done shared) = some mine := by
  induction shared generalizing done with
  | nil => exact absurd hshared List.not_mem_nil
  | cons shared rest ih =>
    have hrest : shared.identity ≠ identity → identity ∈ identities rest := fun hne =>
      (List.mem_cons.mp hshared).resolve_left (Ne.symm hne)
    rw [overridden]
    cases hreplacement : replacement? own done shared with
    | some other =>
      have hother := (replacement?_eq_some_iff.mp hreplacement).2
      dsimp only
      rw [firstWith?_cons, identity_of_lastWith? hother]
      by_cases hsame : shared.identity = identity
      · rw [if_pos hsame, ← hother, hsame, hmine]
      · have hnot : identity ∉ shared.identity :: done := by
          rw [List.mem_cons, not_or]
          exact ⟨Ne.symm hsame, hdone⟩
        rw [if_neg hsame]
        exact ih (hrest hsame) hnot
    | none =>
      have hne : shared.identity ≠ identity := by
        rintro rfl
        have hnone := (replacement?_eq_none_iff.mp hreplacement).resolve_left hdone
        rw [lastWith?_eq_none_iff.mpr hnone] at hmine
        cases hmine
      dsimp only
      rw [firstWith?_cons, if_neg hne]
      exact ih (hrest hne) hdone

/-! ### The parameters of an operation -/

/-- The merged list is the shared one with its replacements, and then the own parameters whose
identity the shared list does not have. -/
theorem mergeParameters_eq (shared own : List Parameter) :
    mergeParameters shared own = overridden own [] shared ++
      own.filter fun parameter => parameter.identity ∉ identities shared := by
  rw [mergeParameters, overlay_eq]
  congr 1
  refine List.filter_congr fun parameter _ => ?_
  simp

theorem identities_mergeParameters (shared own : List Parameter) :
    identities (mergeParameters shared own) =
      identities shared ++ (identities own).filter (· ∉ identities shared) := by
  have hadded : identities (own.filter fun parameter =>
      parameter.identity ∉ identities shared) =
        (identities own).filter (· ∉ identities shared) := by
    unfold identities
    rw [List.filter_map]
    rfl
  have hreplaced := identities_overridden own shared []
  rw [mergeParameters_eq, ← hadded]
  unfold identities at hreplaced ⊢
  rw [List.map_append, hreplaced]

/-- Under an identity of both lists the last own parameter is found first. -/
theorem firstWith?_mergeParameters {shared own : List Parameter}
    {identity : String × ParameterPlace} (hshared : identity ∈ identities shared)
    (hown : identity ∈ identities own) :
    firstWith? identity (mergeParameters shared own) = lastWith? identity own := by
  obtain ⟨mine, hmine⟩ : ∃ mine, lastWith? identity own = some mine :=
    Option.ne_none_iff_exists'.mp fun hnone => lastWith?_eq_none_iff.mp hnone hown
  rw [mergeParameters_eq, firstWith?_append,
    firstWith?_overridden hshared List.not_mem_nil hmine, hmine]
  rfl

/-- Under an identity that the shared list does not have the first own parameter is found. -/
theorem firstWith?_mergeParameters_of_notMem {shared own : List Parameter}
    {identity : String × ParameterPlace} (hshared : identity ∉ identities shared) :
    firstWith? identity (mergeParameters shared own) = firstWith? identity own := by
  have hfront : firstWith? identity (overridden own [] shared) = none := by
    rw [firstWith?_eq_none_iff, identities_overridden]
    exact hshared
  have hbehind : firstWith? identity (own.filter fun parameter =>
      parameter.identity ∉ identities shared) = firstWith? identity own := by
    unfold firstWith?
    rw [List.find?_filter]
    congr 1
    funext other
    by_cases hsame : other.identity = identity
    · simp [hsame, hshared]
    · simp [hsame]
  rw [mergeParameters_eq, firstWith?_append, hfront, hbehind]
  rfl

/-- A shared parameter with no replacement stays in its place. -/
theorem getElem?_mergeParameters {shared own : List Parameter} {i : Nat} {parameter : Parameter}
    (hplace : shared[i]? = some parameter)
    (hstays : parameter.identity ∉ identities own ∨
      parameter.identity ∈ identities (shared.take i)) :
    (mergeParameters shared own)[i]? = some parameter := by
  have hlength : i < (overridden own [] shared).length := by
    rw [length_overridden]
    exact (List.getElem?_eq_some_iff.mp hplace).1
  have hnone : replacement? own (identities (shared.take i) ++ []) parameter = none :=
    replacement?_eq_none_iff.mpr (hstays.symm.imp_left (List.mem_append_left _))
  rw [mergeParameters_eq, List.getElem?_append_left hlength, getElem?_overridden, hplace,
    Option.map_some, hnone, Option.getD_none]

/-- Own parameters laid over shared ones. -/
structure IsOverlay (shared own merged : List Parameter) : Prop where
  /-- The identities are those of the shared list, and then those of the own parameters that the
  shared list does not have, in order. -/
  identities_eq : identities merged =
    identities shared ++ (identities own).filter (· ∉ identities shared)
  /-- Under an identity of both lists stands the last own parameter with it first. -/
  overrides : ∀ identity ∈ identities shared, identity ∈ identities own →
    firstWith? identity merged = lastWith? identity own
  /-- A shared parameter stays in its place when the operation has none with its identity, or when
  it is not the first with it. -/
  keeps : ∀ (i : Nat) (parameter : Parameter), shared[i]? = some parameter →
    parameter.identity ∉ identities own ∨ parameter.identity ∈ identities (shared.take i) →
    merged[i]? = some parameter
  /-- The own parameters with other identities come behind, unchanged. -/
  adds : merged.drop shared.length =
    own.filter fun parameter => parameter.identity ∉ identities shared
  /-- No shared identity is lost. -/
  hasShared : identities shared ⊆ identities merged
  /-- No own identity is lost. -/
  hasOwn : identities own ⊆ identities merged
  /-- Under an identity that the operation has once its parameter is found, however often the
  shared list has it. -/
  finds : ∀ parameter ∈ own, (identities own).count parameter.identity = 1 →
    firstWith? parameter.identity merged = some parameter

theorem isOverlay_mergeParameters (shared own : List Parameter) :
    IsOverlay shared own (mergeParameters shared own) where
  identities_eq := identities_mergeParameters shared own
  overrides _ := firstWith?_mergeParameters
  keeps _ _ := getElem?_mergeParameters
  adds := by
    rw [mergeParameters_eq, ← length_overridden own shared [], List.drop_left]
  hasShared := by
    rw [identities_mergeParameters]
    exact List.subset_append_left _ _
  hasOwn identity hown := by
    rw [identities_mergeParameters, List.mem_append, List.mem_filter, decide_eq_true_eq]
    by_cases hshared : identity ∈ identities shared
    · exact .inl hshared
    · exact .inr ⟨hown, hshared⟩
  finds parameter hparameter honce := by
    obtain ⟨hfirst, hlast⟩ := eq_of_count_identities hparameter honce
    by_cases hshared : parameter.identity ∈ identities shared
    · rw [firstWith?_mergeParameters hshared (List.mem_map_of_mem hparameter), hlast]
    · rw [firstWith?_mergeParameters_of_notMem hshared, hfirst]

/-! ### The operations of the groups -/

/-- An operation gets the parameters of its path laid under its own. -/
theorem PathEntry.complete_eq (path : PathEntry) (operation : Operation) :
    path.complete operation =
      { operation with parameters := mergeParameters path.parameters operation.parameters } := by
  unfold complete
  split
  · rename_i hempty
    have hown : mergeParameters [] operation.parameters = operation.parameters := by
      simp [mergeParameters, overlay]
    rw [List.isEmpty_iff.mp hempty, hown]
  · rfl

/-- The operation of a group stands for one of a path: it has the parameters of the path with its
own laid over them, and is the same in all else. -/
def StandsFor (path : PathEntry) (declared operation : Operation) : Prop :=
  operation.withoutParameters = declared.withoutParameters ∧
    IsOverlay path.parameters declared.parameters operation.parameters

theorem standsFor_complete (path : PathEntry) (declared : Operation) :
    StandsFor path declared (path.complete declared) := by
  refine ⟨path.withoutParameters_complete declared, ?_⟩
  rw [path.complete_eq declared]
  exact isOverlay_mergeParameters path.parameters declared.parameters

/-- The groups of an API have its operations, with the parameters of their paths. -/
structure Api.KeepsParameters (api : Api) : Prop where
  /-- Every operation of a group stands for one of a path. -/
  standsFor : ∀ group ∈ api.groups, ∀ operation ∈ group.operations,
    ∃ path ∈ api.paths, ∃ declared ∈ path.operations, StandsFor path declared operation
  /-- For every operation of a path there is one in some group. -/
  exists_operation : ∀ path ∈ api.paths, ∀ declared ∈ path.operations,
    ∃ group ∈ api.groups, ∃ operation ∈ group.operations, StandsFor path declared operation

/-- **Parameters of an operation override those of its path, and none is lost.** -/
theorem keepsParameters :
    (∀ shared own, IsOverlay shared own (mergeParameters shared own)) ∧
      ∀ api : Api, api.KeepsParameters := by
  refine ⟨isOverlay_mergeParameters, fun api => ⟨fun group hgroup operation hoperation => ?_,
    fun path hpath declared hdeclared => ?_⟩⟩
  · have hmem : operation ∈ api.completeOperations :=
      Api.mem_completeOperations_iff.mpr ⟨group, hgroup, hoperation⟩
    obtain ⟨path, hpath, hmem⟩ := List.mem_flatMap.mp hmem
    obtain ⟨declared, hdeclared, rfl⟩ := List.mem_map.mp hmem
    exact ⟨path, hpath, declared, hdeclared, standsFor_complete path declared⟩
  · have hmem : path.complete declared ∈ api.completeOperations :=
      List.mem_flatMap.mpr ⟨path, hpath, List.mem_map_of_mem hdeclared⟩
    obtain ⟨group, hgroup, hoperation⟩ := Api.mem_completeOperations_iff.mp hmem
    exact ⟨group, hgroup, _, hoperation, standsFor_complete path declared⟩

end ClientGen
