import ClientGen.Code.Group
import ClientGen.Proofs.Naming

/-!
# Groups of operations

The groups of an API hold the operations with their tag, in order and at least one of them
(`operations_of_mem_groups`, `operations_ne_nil`).  They are a partition of the operations,
`IsPartition`, exactly when no tag that operations are grouped by is declared more than once
(`isPartition_groups_iff`): a tag that is declared twice has two groups of the same operations
(`not_isPartition_groups_declaredTwice`).

The stems of groups all differ in kebab-case, as all names do that are chosen one after the other
(`AreFresh`).  So do those of the operations of a group, which are their own names with letters and
digits behind them (`forall₂_namesFrom`).
-/

namespace ClientGen

/-! ### Texts without repetitions -/

theorem nodup_eraseDups (texts : List String) : texts.eraseDups.Nodup := by
  cases texts with
  | nil => exact List.nodup_nil
  | cons first rest =>
    rw [List.eraseDups_cons, List.nodup_cons]
    refine ⟨fun hmem => ?_, nodup_eraseDups (rest.filter fun text => !text == first)⟩
    simpa using (List.mem_filter.mp (List.mem_eraseDups.mp hmem)).2
termination_by texts.length
decreasing_by
  have hlength := List.length_filter_le (fun text => !text == first) rest
  rw [List.length_cons]
  omega

theorem eraseDups_of_nodup {texts : List String} (h : texts.Nodup) : texts.eraseDups = texts := by
  induction texts with
  | nil => rfl
  | cons first rest ih =>
    obtain ⟨hfirst, hrest⟩ := List.nodup_cons.mp h
    have hkept : (rest.filter fun text => !text == first) = rest := by
      rw [List.filter_eq_self]
      intro text htext
      have hne : text ≠ first := fun heq => hfirst (heq ▸ htext)
      simpa using hne
    rw [List.eraseDups_cons, hkept, ih hrest]

/-- `distinct` keeps the first of equal texts. -/
theorem distinct_eq_eraseDups (texts : List String) : distinct texts = texts.eraseDups := by
  suffices hfrom : ∀ found : List String,
      texts.foldl (fun found text => if found.contains text then found else found ++ [text]) found =
        found ++ (texts.filter fun text => !found.contains text).eraseDups by
    have hall : texts.filter (fun text => !([] : List String).contains text) = texts := by simp
    rw [distinct, hfrom, hall, List.nil_append]
  induction texts with
  | nil => intro found; simp
  | cons first rest ih =>
    intro found
    rw [List.foldl_cons, ih]
    cases hfound : found.contains first with
    | true =>
      rw [if_pos rfl, List.filter_cons_of_neg (by rw [hfound]; exact Bool.false_ne_true)]
    | false =>
      have hrest : rest.filter (fun text => !(found ++ [first]).contains text) =
          (rest.filter fun text => !found.contains text).filter fun text => !text == first := by
        rw [List.filter_filter]
        refine List.filter_congr fun text _ => ?_
        by_cases heq : text = first <;> simp [heq]
      rw [if_neg Bool.false_ne_true, List.filter_cons_of_pos (by rw [hfound]; rfl),
        List.eraseDups_cons, hrest, List.append_assoc, List.singleton_append]

/-- Bucketing by distinct keys loses nothing and repeats nothing. -/
theorem flatMap_filter_perm {α : Type} (key : α → String) {keys : List String}
    (hnodup : keys.Nodup) {items : List α} (hkeys : ∀ a ∈ items, key a ∈ keys) :
    (keys.flatMap fun k => items.filter fun a => key a == k).Perm items := by
  induction keys generalizing items with
  | nil =>
    cases items with
    | nil => exact List.Perm.refl []
    | cons a rest => exact absurd (hkeys a List.mem_cons_self) List.not_mem_nil
  | cons k keys ih =>
    obtain ⟨hk, hrest⟩ := List.nodup_cons.mp hnodup
    -- The other buckets take nothing from the first one.
    have hothers : (keys.flatMap fun k' => items.filter fun a => key a == k') =
        keys.flatMap fun k' => (items.filter fun a => !key a == k).filter fun a => key a == k' := by
      refine List.flatMap_congr fun k' hk' => ?_
      have hne : k' ≠ k := fun heq => hk (heq ▸ hk')
      rw [List.filter_filter]
      refine List.filter_congr fun a _ => ?_
      by_cases hkey : key a = k'
      · simp [hkey, hne]
      · simp [hkey]
    have hleft : ∀ a ∈ items.filter (fun a => !key a == k), key a ∈ keys := by
      intro a ha
      obtain ⟨hmem, hother⟩ := List.mem_filter.mp ha
      rcases List.mem_cons.mp (hkeys a hmem) with heq | hlater
      · simp [heq] at hother
      · exact hlater
    rw [List.flatMap_cons, hothers]
    exact ((ih hrest hleft).append_left _).trans (List.filter_append_perm _ items)

/-! ### The tags of the operations -/

namespace Operation

/-- An operation, its parameters aside. -/
def withoutParameters (operation : Operation) : Operation :=
  { operation with parameters := [] }

@[simp] theorem groupTag_withoutParameters (operation : Operation) :
    operation.withoutParameters.groupTag = operation.groupTag := rfl

end Operation

@[simp] theorem PathEntry.withoutParameters_complete (path : PathEntry) (operation : Operation) :
    (path.complete operation).withoutParameters = operation.withoutParameters := by
  unfold PathEntry.complete
  split <;> rfl

namespace Api

/-- The tags that operations are grouped by, operation by operation. -/
def operationTags (api : Api) : List String :=
  api.operations.map Operation.groupTag

/-- The tags that are declared. -/
def declaredTags (api : Api) : List String :=
  api.tags.map TagInfo.name

variable (api : Api)

/-- Only its parameters change when an operation gets those of its path. -/
theorem withoutParameters_completeOperations :
    api.completeOperations.map Operation.withoutParameters =
      api.operations.map Operation.withoutParameters := by
  rw [completeOperations, operations, List.map_flatMap, List.map_flatMap]
  refine List.flatMap_congr fun path _ => ?_
  rw [List.map_map]
  exact List.map_congr_left fun operation _ => path.withoutParameters_complete operation

theorem groupTag_completeOperations :
    api.completeOperations.map Operation.groupTag = api.operationTags := by
  have htags := congrArg (List.map Operation.groupTag) api.withoutParameters_completeOperations
  rw [List.map_map, List.map_map] at htags
  exact htags

/-- The tags of the groups: the declared ones that are used, then the others as they appear. -/
theorem groupTags_eq : api.groupTags =
    api.declaredTags.filter (· ∈ api.operationTags) ++
      api.operationTags.eraseDups.filter (· ∉ api.declaredTags) := by
  rw [groupTags, groupTag_completeOperations, distinct_eq_eraseDups]
  have hdeclared : (api.tags.map TagInfo.name).filter
      (fun tag => api.operationTags.eraseDups.contains tag) =
        api.declaredTags.filter (· ∈ api.operationTags) :=
    List.filter_congr fun tag _ => by
      rw [List.contains_eq_mem]
      exact decide_eq_decide.mpr List.mem_eraseDups
  rw [hdeclared]
  congr 1
  refine List.filter_congr fun tag htag => ?_
  have hused : tag ∈ api.operationTags := List.mem_eraseDups.mp htag
  rw [List.contains_eq_mem, ← decide_not]
  refine decide_eq_decide.mpr (not_congr ?_)
  rw [List.mem_filter, decide_eq_true_eq]
  exact ⟨And.left, fun hdeclared => ⟨hdeclared, hused⟩⟩

theorem mem_groupTags {tag : String} : tag ∈ api.groupTags ↔ tag ∈ api.operationTags := by
  rw [groupTags_eq, List.mem_append, List.mem_filter, List.mem_filter, decide_eq_true_eq,
    decide_eq_true_eq, List.mem_eraseDups]
  by_cases hdeclared : tag ∈ api.declaredTags <;> simp [hdeclared]

/-- No tag has two groups exactly when no tag with a group is declared twice. -/
theorem nodup_groupTags_iff :
    api.groupTags.Nodup ↔ ∀ tag ∈ api.operationTags, api.declaredTags.count tag ≤ 1 := by
  have hothers : (api.operationTags.eraseDups.filter (· ∉ api.declaredTags)).Nodup :=
    (nodup_eraseDups _).filter _
  have hapart : (api.declaredTags.filter (· ∈ api.operationTags)).Disjoint
      (api.operationTags.eraseDups.filter (· ∉ api.declaredTags)) := by
    intro tag hdeclared hother
    have hnot := (List.mem_filter.mp hother).2
    rw [decide_eq_true_eq] at hnot
    exact hnot (List.mem_filter.mp hdeclared).1
  have hcount : ∀ tag ∈ api.operationTags,
      (api.declaredTags.filter (· ∈ api.operationTags)).count tag = api.declaredTags.count tag :=
    fun tag htag => List.count_filter (decide_eq_true htag)
  rw [groupTags_eq, List.nodup_append', List.nodup_iff_count_le_one]
  constructor
  · rintro ⟨hdeclared, -, -⟩ tag htag
    rw [← hcount tag htag]
    exact hdeclared tag
  · intro honce
    refine ⟨fun tag => ?_, hothers, hapart⟩
    by_cases htag : tag ∈ api.operationTags
    · rw [hcount tag htag]
      exact honce tag htag
    · have hnone : tag ∉ api.declaredTags.filter (· ∈ api.operationTags) := by
        rw [List.mem_filter, decide_eq_true_eq]
        exact fun hmem => htag hmem.2
      rw [List.count_eq_zero.mpr hnone]
      exact Nat.zero_le 1

end Api

/-! ### Fresh names -/

/-- Names that are chosen one after the other, none of them taken in kebab-case. -/
inductive AreFresh : List String → List String → Prop where
  | nil (taken : List String) : AreFresh taken []
  | cons {taken : List String} {name : String} {names : List String}
    (hname : Naming.kebab name ∉ taken) (hnames : AreFresh (Naming.kebab name :: taken) names) :
    AreFresh taken (name :: names)

theorem AreFresh.kebab_notMem {taken names : List String} (h : AreFresh taken names) {name : String}
    (hname : name ∈ names) : Naming.kebab name ∉ taken := by
  induction h with
  | nil => cases hname
  | cons hfirst _ ih =>
    rcases List.mem_cons.mp hname with rfl | hlater
    · exact hfirst
    · exact fun htaken => ih hlater (List.mem_cons_of_mem _ htaken)

/-- **Fresh names differ in kebab-case.** -/
theorem AreFresh.nodup_kebab {taken names : List String} (h : AreFresh taken names) :
    (names.map Naming.kebab).Nodup := by
  induction h with
  | nil => exact List.nodup_nil
  | cons _ hnames ih =>
    rw [List.map_cons, List.nodup_cons]
    refine ⟨fun hmem => ?_, ih⟩
    obtain ⟨name, hname, heq⟩ := List.mem_map.mp hmem
    exact hnames.kebab_notMem hname (heq ▸ List.mem_cons_self)

/-! ### The names of the groups -/

theorem length_freshNames (taken stems : List String) :
    (freshNames taken stems).length = stems.length := by
  induction stems generalizing taken with
  | nil => rfl
  | cons stem rest ih => rw [freshNames, List.length_cons, List.length_cons, ih]

theorem areFresh_freshNames (taken stems : List String) :
    AreFresh taken (freshNames taken stems) := by
  induction stems generalizing taken with
  | nil => exact .nil taken
  | cons stem rest ih => exact .cons (Naming.kebab_fresh_notMem stem taken) (ih _)

namespace Api

variable (api : Api)

theorem tag_groups : api.groups.map Group.tag = api.groupTags := by
  have hlength : api.groupTags.length ≤
      (freshNames [] (api.groupTags.map Group.stemOf)).length := by
    rw [length_freshNames, List.length_map]
  rw [groups, List.map_map]
  exact List.map_fst_zip hlength

theorem stem_groups :
    api.groups.map Group.stem = freshNames [] (api.groupTags.map Group.stemOf) := by
  have hlength : (freshNames [] (api.groupTags.map Group.stemOf)).length ≤
      api.groupTags.length := by
    rw [length_freshNames, List.length_map]
  rw [groups, List.map_map]
  exact List.map_snd_zip hlength

/-- **The stems of groups differ in kebab-case.** -/
theorem nodup_kebab_stem_groups :
    (api.groups.map fun group => Naming.kebab group.stem).Nodup := by
  have hstems := (areFresh_freshNames [] (api.groupTags.map Group.stemOf)).nodup_kebab
  rw [← stem_groups, List.map_map] at hstems
  exact hstems

/-! ### What the groups hold -/

variable {api} {group : Group}

/-- A group holds the operations with its tag. -/
theorem operations_of_mem_groups (h : group ∈ api.groups) :
    group.operations =
      api.completeOperations.filter fun operation => operation.groupTag == group.tag := by
  obtain ⟨⟨tag, stem⟩, -, rfl⟩ := List.mem_map.mp h
  rfl

/-- The groups hold the operations of the API and no others. -/
theorem mem_completeOperations_iff {operation : Operation} :
    operation ∈ api.completeOperations ↔ ∃ group ∈ api.groups, operation ∈ group.operations := by
  constructor
  · intro h
    have htag : operation.groupTag ∈ api.groups.map Group.tag := by
      rw [tag_groups, mem_groupTags, ← groupTag_completeOperations]
      exact List.mem_map_of_mem h
    obtain ⟨group, hgroup, heq⟩ := List.mem_map.mp htag
    refine ⟨group, hgroup, ?_⟩
    rw [operations_of_mem_groups hgroup, List.mem_filter, heq, beq_self_eq_true]
    exact ⟨h, rfl⟩
  · rintro ⟨group, hgroup, hoperation⟩
    rw [operations_of_mem_groups hgroup] at hoperation
    exact (List.mem_filter.mp hoperation).1

theorem withoutParameters_of_mem_groups (h : group ∈ api.groups) :
    group.operations.map Operation.withoutParameters =
      (api.operations.filter fun operation => operation.groupTag == group.tag).map
        Operation.withoutParameters := by
  -- The tag of an operation does not depend on its parameters.
  have hfilter : ∀ operations : List Operation,
      (operations.filter fun operation => operation.groupTag == group.tag).map
          Operation.withoutParameters =
        (operations.map Operation.withoutParameters).filter fun operation =>
          operation.groupTag == group.tag := by
    intro operations
    rw [List.filter_map]
    rfl
  rw [operations_of_mem_groups h, hfilter, hfilter, api.withoutParameters_completeOperations]

/-- No group is empty. -/
theorem operations_ne_nil (h : group ∈ api.groups) : group.operations ≠ [] := by
  have htag : group.tag ∈ api.completeOperations.map Operation.groupTag := by
    rw [groupTag_completeOperations, ← mem_groupTags, ← tag_groups]
    exact List.mem_map_of_mem h
  obtain ⟨operation, hoperation, heq⟩ := List.mem_map.mp htag
  rw [operations_of_mem_groups h]
  refine List.ne_nil_of_mem (a := operation) (List.mem_filter.mpr ⟨hoperation, ?_⟩)
  rw [heq, beq_self_eq_true]

end Api

/-! ### The names of the operations -/

/-- What is put behind the name of an operation: letters and digits, no small letter in front. -/
structure IsTail (tail : String) : Prop where
  isAlphanum : ∀ c ∈ tail.toList, c.isAlphanum = true
  isLower_head : ∀ c ∈ tail.toList.head?, c.isLower = false

theorem IsTail.append {first second : String} (hfirst : IsTail first) (hsecond : IsTail second) :
    IsTail (first ++ second) := by
  constructor
  · rw [String.toList_append, List.forall_mem_append]
    exact ⟨hfirst.isAlphanum, hsecond.isAlphanum⟩
  · rw [String.toList_append]
    cases hlist : first.toList with
    | nil => exact hsecond.isLower_head
    | cons c rest =>
      have hhead := hfirst.isLower_head
      rw [hlist] at hhead
      exact hhead

/-- A fresh name is the stem, perhaps with a number behind it. -/
theorem exists_fresh_tail (stem : String) (taken : List String) :
    ∃ tail, Naming.fresh stem taken = stem ++ tail ∧ IsTail tail := by
  obtain ⟨i, -, hcandidate, -, -⟩ := Naming.exists_fresh_eq stem taken
  rw [hcandidate]
  unfold Naming.candidate
  split
  · exact ⟨"", String.append_empty.symm, by simp, by simp⟩
  · have hdigits : ∀ c ∈ (toString (i + 1)).toList, c.isDigit = true :=
      fun _ => Naming.isDigit_of_mem_toString
    refine ⟨toString (i + 1), rfl, fun c hc => ?_, fun c hc => ?_⟩
    · rw [Char.isAlphanum, hdigits c hc, Bool.or_true]
    · exact Naming.isLower_of_isDigit (hdigits c (List.mem_of_head? hc))

/-- The parameters by which something is found may stand behind a name. -/
theorem exists_byParameters_eq (name : String) (parameters : List String) :
    ∃ tail, byParameters name parameters = name ++ tail ∧ IsTail tail := by
  have hby : "By".toList.all Char.isAlphanum = true := by decide
  have hand : "And".toList.all Char.isAlphanum = true := by decide
  refine ⟨"By" ++ Text.join "And" (parameters.map Naming.pascal), String.append_assoc, ?_, ?_⟩
  · rw [String.toList_append, List.forall_mem_append]
    refine ⟨List.all_eq_true.mp hby, fun c hc => ?_⟩
    rw [Text.join, String.toList_intercalate] at hc
    rcases Naming.mem_intercalate hc with hmem | ⟨part, hpart, hc⟩
    · exact List.all_eq_true.mp hand c hmem
    · obtain ⟨text, htext, rfl⟩ := List.mem_map.mp hpart
      obtain ⟨parameter, -, rfl⟩ := List.mem_map.mp htext
      exact Naming.isAlphanum_of_mem_pascal hc
  · rintro c hc
    rw [String.toList_append] at hc
    cases hc
    rfl

/-- **Operations keep their own names**, with parameters and a number behind them where they need
them. -/
theorem forall₂_namesFrom (taken : List String) (operations : List Operation) :
    List.Forall₂ (fun operation name => ∃ tail, name = operation.endpointName ++ tail ∧ IsTail tail)
      operations (namesFrom taken operations) := by
  induction operations generalizing taken with
  | nil => exact .nil
  | cons operation rest ih =>
    rw [namesFrom]
    refine .cons ?_ (ih _)
    split
    · obtain ⟨found, hfound, hparameters⟩ := exists_byParameters_eq operation.endpointName
        (PathTemplate.parameters operation.path)
      obtain ⟨number, hnumber, hdigits⟩ := exists_fresh_tail _ _
      refine ⟨found ++ number, ?_, hparameters.append hdigits⟩
      rw [hnumber, hfound, String.append_assoc]
    · exact exists_fresh_tail _ _

theorem areFresh_namesFrom (taken : List String) (operations : List Operation) :
    AreFresh taken (namesFrom taken operations) := by
  induction operations generalizing taken with
  | nil => exact .nil taken
  | cons operation rest ih => exact .cons (Naming.kebab_fresh_notMem _ taken) (ih _)

/-! ### Partitions -/

/-- Groups are a partition of the operations of an API by their tags. -/
structure Api.IsPartition (api : Api) (groups : List Group) : Prop where
  /-- Each operation is in exactly one group, parameters aside. -/
  unique : ∀ operation ∈ api.operations, ∃! group, group ∈ groups ∧
    operation.withoutParameters ∈ group.operations.map Operation.withoutParameters
  /-- Put together, the groups have the operations of the API, parameters aside. -/
  perm : ((groups.flatMap Group.operations).map Operation.withoutParameters).Perm
    (api.operations.map Operation.withoutParameters)
  /-- No group is empty. -/
  nonempty : ∀ group ∈ groups, group.operations ≠ []
  /-- No two groups have the same tag. -/
  nodup : (groups.map Group.tag).Nodup
  /-- A group has the operations that are grouped by its tag, in document order. -/
  operations : ∀ group ∈ groups, group.operations.map Operation.withoutParameters =
    (api.operations.filter fun operation => operation.groupTag == group.tag).map
      Operation.withoutParameters
  /-- Groups of declared tags come first, in the order of the declarations, and then those of the
  other tags in the order in which they appear. -/
  tags : groups.map Group.tag =
    (api.declaredTags.filter (· ∈ api.operationTags)).eraseDups ++
      api.operationTags.eraseDups.filter (· ∉ api.declaredTags)

namespace Api

variable {api : Api}

/-- The operations of a group have its tag. -/
theorem groupTag_of_mem_operations {group : Group} (hgroup : group ∈ api.groups)
    {operation : Operation}
    (h : operation.withoutParameters ∈ group.operations.map Operation.withoutParameters) :
    operation.groupTag = group.tag := by
  rw [withoutParameters_of_mem_groups hgroup] at h
  obtain ⟨other, hother, heq⟩ := List.mem_map.mp h
  have htag : other.groupTag = group.tag := by simpa using (List.mem_filter.mp hother).2
  rw [← Operation.groupTag_withoutParameters, ← heq]
  exact htag

/-- Every operation is in the group of its tag. -/
theorem exists_group {operation : Operation} (h : operation ∈ api.operations) :
    ∃ group ∈ api.groups,
      operation.withoutParameters ∈ group.operations.map Operation.withoutParameters := by
  have htag : operation.groupTag ∈ api.groups.map Group.tag := by
    rw [tag_groups, mem_groupTags]
    exact List.mem_map_of_mem h
  obtain ⟨group, hgroup, heq⟩ := List.mem_map.mp htag
  refine ⟨group, hgroup, ?_⟩
  rw [withoutParameters_of_mem_groups hgroup]
  exact List.mem_map_of_mem (List.mem_filter.mpr ⟨h, by rw [heq, beq_self_eq_true]⟩)

/-- The groups of distinct tags have each operation once. -/
theorem flatMap_operations_perm (h : api.groupTags.Nodup) :
    (api.groups.flatMap Group.operations).Perm api.completeOperations := by
  have hbuckets : api.groups.flatMap Group.operations = api.groupTags.flatMap fun tag =>
      api.completeOperations.filter fun operation => operation.groupTag == tag := by
    rw [← tag_groups, List.flatMap_map]
    exact List.flatMap_congr fun group hgroup => operations_of_mem_groups hgroup
  rw [hbuckets]
  refine flatMap_filter_perm Operation.groupTag h fun operation hoperation => ?_
  rw [mem_groupTags, ← groupTag_completeOperations]
  exact List.mem_map_of_mem hoperation

/-- **The groups of an API are a partition exactly when no tag that operations are grouped by is
declared more than once.** -/
theorem isPartition_groups_iff (api : Api) :
    api.IsPartition api.groups ↔ ∀ tag ∈ api.operationTags, api.declaredTags.count tag ≤ 1 := by
  rw [← nodup_groupTags_iff]
  constructor
  · intro h
    rw [← tag_groups]
    exact h.nodup
  · intro h
    have hdeclared : (api.declaredTags.filter (· ∈ api.operationTags)).Nodup := by
      rw [groupTags_eq] at h
      exact h.of_append_left
    have hsame : ∀ group ∈ api.groups, ∀ other ∈ api.groups, group.tag = other.tag →
        group = other := by
      rw [← tag_groups] at h
      exact fun group hgroup other hother heq => List.inj_on_of_nodup_map h hgroup hother heq
    refine ⟨fun operation hoperation => ?_, ?_, fun _ => operations_ne_nil, ?_,
      fun _ => withoutParameters_of_mem_groups, ?_⟩
    · obtain ⟨group, hgroup, hmem⟩ := exists_group hoperation
      refine ⟨group, ⟨hgroup, hmem⟩, ?_⟩
      rintro other ⟨hother, hmem'⟩
      exact hsame other hother group hgroup
        ((groupTag_of_mem_operations hother hmem').symm.trans
          (groupTag_of_mem_operations hgroup hmem))
    · rw [← api.withoutParameters_completeOperations]
      exact (flatMap_operations_perm h).map _
    · rw [tag_groups]
      exact h
    · rw [tag_groups, groupTags_eq, eraseDups_of_nodup hdeclared]

end Api

/-- An operation that gets what stands at a path. -/
def Operation.reading (path : String) (tags : List String) : Operation :=
  { method := "GET", path, operationId := none, summary := none, description := none, tags
    parameters := [], body := none, responses := [], security := [], deprecated := false }

/-- An API without components: operations, each on a path of its own, and the tags it declares. -/
def Api.ofOperations (operations : List Operation) (tags : List String) : Api :=
  { info := { title := "Pets", version := "1", description := none }
    servers := []
    paths := operations.map fun operation =>
      { path := operation.path, summary := none, description := none, operations := [operation]
        parameters := [] }
    components := { schemas := [], responses := [], parameters := [], bodies := [] }
    security := []
    tags := tags.map fun name => { name, description := none } }

/-- An API with one operation whose tag is declared twice. -/
def Api.declaredTwice : Api :=
  .ofOperations [.reading "/pets" ["pets"]] ["pets", "pets"]

/-- A tag that is declared twice has two groups. -/
theorem Api.not_isPartition_groups_declaredTwice :
    ¬declaredTwice.IsPartition declaredTwice.groups := by
  intro h
  have htags : declaredTwice.groupTags = ["pets", "pets"] := by decide
  have hnodup := h.nodup
  rw [tag_groups, htags] at hnodup
  exact absurd hnodup (by decide)

end ClientGen
