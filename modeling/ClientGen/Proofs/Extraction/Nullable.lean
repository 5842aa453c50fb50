import ClientGen.Proofs.Extraction.References
import ClientGen.Proofs.Extraction.Schemas

/-!
# Nullable schemas stay nullable

A schema that says that null is among its values is read as a nullable one, and the type of that is
written `S.NullOr`, whatever kind of schema it is.  Two ways of reading `allOf` are the exception.
A schema with one member is read as the member, and is nullable exactly when that is read as
nullable; where several members are merged, only the keyword `nullable` counts.  `isNullable_iff`
says it of all schemas, by induction on the depth, and `showsNull_iff` of those that say that they
are nullable.
-/

namespace ClientGen

/-! ### Heights -/

namespace Value

theorem height_le_heightOfItems {item : Value} {items : List Value} (h : item ∈ items) :
    item.height ≤ heightOfItems items := by
  induction items with
  | nil => cases h
  | cons first rest ih =>
    rw [heightOfItems]
    rcases List.mem_cons.mp h with rfl | hrest
    · exact Nat.le_max_left _ _
    · exact Nat.le_trans (ih hrest) (Nat.le_max_right _ _)

theorem height_le_heightOfFields {name : String} {value : Value} {fields : List (String × Value)}
    (h : Entries.get? name fields = some value) : value.height ≤ heightOfFields fields := by
  induction fields with
  | nil => cases h
  | cons first rest ih =>
    obtain ⟨key, first⟩ := first
    rw [Entries.get?_cons] at h
    rw [heightOfFields]
    split at h
    · cases h
      exact Nat.le_max_left _ _
    · exact Nat.le_trans (ih h) (Nat.le_max_right _ _)

end Value

namespace Extraction

/-- Members of `allOf` are lower than the schema. -/
theorem height_lt_of_mem_allOfMembers {schema member : Value} (h : member ∈ allOfMembers schema) :
    member.height < schema.height := by
  unfold allOfMembers fieldOrNull at h
  cases schema with
  | object fields =>
    rw [Value.field?] at h
    cases hfield : Entries.get? "allOf" fields with
    | none =>
      rw [hfield] at h
      cases h
    | some members =>
      rw [hfield, Option.getD_some] at h
      have hheight := Value.height_le_heightOfFields hfield
      cases members with
      | list items =>
        have hmember : member.height ≤ Value.heightOfItems items :=
          Value.height_le_heightOfItems h
        rw [Value.height] at hheight
        rw [Value.height]
        omega
      | _ => cases h
  | _ => cases h

/-! ### Schemas that are read as something else -/

/-- The only member of `allOf`, if it is an object. -/
def onlyMember? (schema : Value) : Option Value :=
  match allOfMembers schema with
  | [member] => if member.isObject then some member else none
  | _ => none

/-- Whether the members of `allOf` are several and merged. -/
def isMerged (schema : Value) : Bool :=
  !(mergedMembers schema).isEmpty && (mergedMembers schema).all isMergeable

/-- A schema that is read as a nullable one. -/
inductive SaysNull : Value → Prop where
  /-- It says so itself, and `allOf` does not stand for it. -/
  | own {schema : Value} (href : Reference.of? schema = none) (honly : onlyMember? schema = none)
    (hmerged : isMerged schema = false) (h : declaresNull schema = true) : SaysNull schema
  /-- It is merged from its members and has the keyword. -/
  | merged {schema : Value} (href : Reference.of? schema = none) (hmerged : isMerged schema = true)
    (h : (fieldOrNull "nullable" schema).isTruthy = true) : SaysNull schema
  /-- Its only member is read as a nullable one. -/
  | member {schema member : Value} (href : Reference.of? schema = none)
    (honly : onlyMember? schema = some member) (h : SaysNull member) : SaysNull schema

theorem mem_of_onlyMember? {schema member : Value} (h : onlyMember? schema = some member) :
    member ∈ allOfMembers schema := by
  unfold onlyMember? at h
  split at h
  · rename_i hmembers
    obtain ⟨-, hsame⟩ := Option.ite_none_right_eq_some.mp h
    cases hsame
    rw [hmembers]
    exact List.mem_cons_self
  · cases h

theorem isMerged_of_onlyMember? {schema member : Value} (h : onlyMember? schema = some member) :
    isMerged schema = false := by
  unfold onlyMember? at h
  split at h
  · rename_i hmembers
    rw [isMerged, mergedMembers, hmembers]
    rfl
  · cases h

/-- A schema with one member is read as that, one whose members are merged by the keyword alone, and
any other by what it says itself. -/
theorem saysNull_iff {schema : Value} (href : Reference.of? schema = none) :
    SaysNull schema ↔
      match onlyMember? schema with
      | some member => SaysNull member
      | none =>
        if isMerged schema then (fieldOrNull "nullable" schema).isTruthy = true
        else declaresNull schema = true := by
  constructor
  · intro h
    cases h with
    | own _ honly hmerged h =>
      rw [honly, hmerged]
      exact h
    | merged _ hmerged h =>
      have honly : onlyMember? schema = none := by
        cases honly : onlyMember? schema with
        | none => rfl
        | some member =>
          rw [isMerged_of_onlyMember? honly] at hmerged
          cases hmerged
      rw [honly, hmerged]
      exact h
    | member _ honly h =>
      rw [honly]
      exact h
  · intro h
    cases honly : onlyMember? schema with
    | some member =>
      rw [honly] at h
      exact .member href honly h
    | none =>
      cases hmerged : isMerged schema with
      | true =>
        rw [honly, hmerged] at h
        exact .merged href hmerged h
      | false =>
        rw [honly, hmerged] at h
        exact .own href honly hmerged h

/-! ### Reading by type -/

theorem isNullable_of_readObject {extract : Value → Except Fault (Option Schema)} {schema : Value}
    {properties : Except Fault (List (Value × Value))} {required : Except Fault (List Value)}
    {node : Schema} (h : readObject extract schema properties required = .ok node) :
    node.isNullable = declaresNull schema := by
  unfold readObject at h
  obtain ⟨_, -, h⟩ := bind_eq_ok.mp h
  obtain ⟨_, -, h⟩ := bind_eq_ok.mp h
  obtain ⟨_, -, h⟩ := bind_eq_ok.mp h
  obtain ⟨_, -, h⟩ := bind_eq_ok.mp h
  obtain ⟨_, -, h⟩ := bind_eq_ok.mp h
  cases h
  rfl

/-- Schemas of all kinds are nullable where they say so. -/
theorem isNullable_of_readByType {extract : Value → Except Fault (Option Schema)} {schema : Value}
    {node : Schema} (h : readByType extract schema = .ok node) :
    node.isNullable = declaresNull schema := by
  unfold readByType at h
  dsimp only at h
  split at h
  · unfold readEnumeration at h
    obtain ⟨_, -, h⟩ := bind_eq_ok.mp h
    cases h
    rfl
  · split at h
    · unfold readArray at h
      obtain ⟨_, -, h⟩ := bind_eq_ok.mp h
      obtain ⟨_, -, h⟩ := bind_eq_ok.mp h
      cases h
      rfl
    · split at h
      · exact isNullable_of_readObject h
      · unfold readPrimitive at h
        obtain ⟨_, -, h⟩ := bind_eq_ok.mp h
        cases h
        rfl

/-! ### Reading by members -/

/-- Members are merged exactly when all of them can be. -/
theorem isSome_of_mergeMembers {properties : List (Value × Value)} {required members : List Value}
    {merged : Option (List (Value × Value) × List Value)}
    (h : mergeMembers properties required members = .ok merged) :
    merged.isSome = members.all isMergeable := by
  induction members generalizing properties required with
  | nil =>
    cases h
    rfl
  | cons member rest ih =>
    rw [mergeMembers] at h
    rw [List.all_cons]
    split at h
    · rename_i hmember
      obtain ⟨_, -, h⟩ := bind_eq_ok.mp h
      obtain ⟨_, -, h⟩ := bind_eq_ok.mp h
      rw [ih h, hmember, Bool.true_and]
    · rename_i hmember
      cases h
      rw [Bool.not_eq_true] at hmember
      rw [hmember, Bool.false_and]
      rfl

theorem declaresNull_mergedFields (schema : Value) :
    declaresNull (mergedFields schema) = (fieldOrNull "nullable" schema).isTruthy := by
  rw [declaresNull, fieldOrNull_mergedFields, fieldOrNull_mergedFields, if_pos (by simp),
    if_neg (by simp), Bool.or_false]

/-- How a schema is read by the members of `allOf`. -/
theorem readAllOf_cases {extract : Value → Except Fault (Option Schema)} {schema : Value}
    {result : Option Schema} (h : readAllOf extract schema (allOfMembers schema) = .ok result) :
    (∃ member, allOfMembers schema = [member] ∧
      readOnlyMember extract schema member = .ok result) ∨
    (onlyMember? schema = none ∧ isMerged schema = true ∧ ∃ properties required node,
      readObject extract (mergedFields schema) properties required = .ok node ∧
        result = some node) ∨
    (onlyMember? schema = none ∧ isMerged schema = false ∧ result = none) := by
  rw [onlyMember?, isMerged, mergedMembers]
  cases hmembers : allOfMembers schema with
  | nil =>
    rw [hmembers] at h
    cases h
    exact .inr (.inr ⟨rfl, rfl, rfl⟩)
  | cons first rest =>
    rw [hmembers] at h
    cases rest with
    | nil => exact .inl ⟨first, rfl, h⟩
    | cons second rest =>
      rw [readAllOf] at h
      · dsimp only
        split at h
        · rename_i hinline
          obtain ⟨merged, hmerge, h⟩ := bind_eq_ok.mp h
          have hmergeable := isSome_of_mergeMembers hmerge
          rw [if_pos hinline, ← hmergeable]
          cases merged with
          | none =>
            cases h
            exact .inr (.inr ⟨rfl, rfl, rfl⟩)
          | some parts =>
            obtain ⟨node, hnode, rfl⟩ := map_eq_ok.mp h
            exact .inr (.inl ⟨rfl, rfl, _, _, node, hnode, rfl⟩)
        · rename_i hinline
          cases h
          rw [if_neg hinline]
          exact .inr (.inr ⟨rfl, rfl, rfl⟩)
      · rintro ⟨⟩
      · rintro member ⟨⟩

theorem SaysNull.reference {schema : Value} (h : SaysNull schema) :
    Reference.of? schema = none := by
  cases h <;> assumption

/-- A member that is lent a description is as nullable as before. -/
theorem readOnlyMember_ok {extract : Value → Except Fault (Option Schema)} {schema member : Value}
    {result : Option Schema} (h : readOnlyMember extract schema member = .ok result) :
    ∃ inner, extract member = .ok inner ∧
      result.map Schema.isNullable = inner.map Schema.isNullable := by
  unfold readOnlyMember at h
  obtain ⟨inner, hinner, h⟩ := bind_eq_ok.mp h
  refine ⟨inner, hinner, ?_⟩
  cases inner with
  | none =>
    cases h
    rfl
  | some inner =>
    cases h
    show some _ = some _
    split
    · cases inner <;> rfl
    · rfl

/-- **What the nullability of a schema comes from**: its only member, the keyword where members are
merged, or what it says itself. -/
theorem readSchema_cases {extract : Value → Except Fault (Option Schema)} {value : Value}
    {node : Schema} (href : Reference.of? value = none)
    (hextract : ∀ member ∈ allOfMembers value, ∀ inner, extract member = .ok inner →
      inner.isSome = member.isObject)
    (h : readSchema extract value = .ok (some node)) :
    (∃ member inner, onlyMember? value = some member ∧ extract member = .ok (some inner) ∧
      node.isNullable = inner.isNullable) ∨
    (onlyMember? value = none ∧ node.isNullable =
      if isMerged value then (fieldOrNull "nullable" value).isTruthy else declaresNull value) := by
  rw [readSchema, href] at h
  obtain ⟨result, hall, h⟩ := bind_eq_ok.mp h
  have hown : result = none → node.isNullable = declaresNull value := by
    rintro rfl
    obtain ⟨read, hread, heq⟩ := map_eq_ok.mp h
    cases heq
    exact isNullable_of_readByType hread
  rcases readAllOf_cases hall with ⟨member, hmembers, hread⟩ |
    ⟨honly, hmerged, properties, required, read, hread, rfl⟩ | ⟨honly, hmerged, hnone⟩
  -- one member: it stands for the schema if it is an object, else the schema stands for itself
  · obtain ⟨inner, hinner, hsame⟩ := readOnlyMember_ok hread
    have hmember := hextract member (hmembers ▸ List.mem_cons_self) inner hinner
    rw [onlyMember?, isMerged, mergedMembers, hmembers]
    cases inner with
    | none =>
      right
      refine ⟨if_neg (by rw [← hmember]; exact Bool.false_ne_true), ?_⟩
      exact hown (Option.map_eq_none_iff.mp hsame)
    | some inner =>
      left
      obtain ⟨read, rfl, hnullable⟩ := Option.map_eq_some_iff.mp hsame
      cases h
      exact ⟨member, inner, if_pos hmember.symm, hinner, hnullable⟩
  · right
    cases h
    rw [hmerged, isNullable_of_readObject hread, declaresNull_mergedFields]
    exact ⟨honly, rfl⟩
  · right
    rw [hmerged]
    exact ⟨honly, hown hnone⟩

/-! ### Schemas of all depths -/

/-- **A schema is read as nullable** exactly when it says so in a way that reading keeps. -/
theorem isNullable_iff {depth : Nat} {value : Value} {node : Schema} (hdepth : value.height < depth)
    (h : schemaWithin depth value = .ok (some node)) :
    node.isNullable = true ↔ SaysNull value := by
  induction depth generalizing value node with
  | zero => exact absurd hdepth (Nat.not_lt_zero _)
  | succ depth ih =>
    rw [schemaWithin] at h
    split at h
    · cases href : Reference.of? value with
      | some ref =>
        rw [readSchema, href] at h
        obtain ⟨read, hread, heq⟩ := map_eq_ok.mp h
        obtain ⟨part, -, hread⟩ := bind_eq_ok.mp hread
        cases hread
        cases heq
        refine iff_of_false Bool.false_ne_true fun hsaid => ?_
        rw [hsaid.reference] at href
        cases href
      | none =>
        -- members are lower, so the depth suffices to read them
        have hextract : ∀ member ∈ allOfMembers value, ∀ inner,
            schemaWithin depth member = .ok inner → inner.isSome = member.isObject := by
          intro member hmember inner hinner
          have hlower := height_lt_of_mem_allOfMembers hmember
          cases depth with
          | zero => omega
          | succ depth => exact isSome_of_schemaWithin hinner
        rw [saysNull_iff href]
        rcases readSchema_cases href hextract h with
          ⟨member, inner, honly, hinner, hnullable⟩ | ⟨honly, hnullable⟩
        · have hlower := height_lt_of_mem_allOfMembers (mem_of_onlyMember? honly)
          rw [honly, hnullable]
          exact ih (by omega) hinner
        · rw [honly, hnullable]
          cases isMerged value <;> rfl
    · cases h

end Extraction

/-! ### Nullable types -/

/-- A schema is nullable, and its type is written so. -/
structure Schema.ShowsNull (node : Schema) : Prop where
  nullable : node.isNullable = true
  text : ∀ style, ∃ inner, TypeExpr.schemaText style (some node) = "S.NullOr(" ++ inner ++ ")"

theorem TypeExpr.exists_nullOr {node : Schema} (h : node.isNullable = true) :
    ∃ type, ofSchema node = .nullOr type := by
  have horNull : ∀ {nullable : Bool}, nullable = true → ∀ type : TypeExpr,
      ∃ inner, orNull nullable type = .nullOr inner := by
    rintro _ rfl type
    exact ⟨type, rfl⟩
  rw [Schema.isNullable] at h
  cases node with
  | reference info ref name =>
    rw [ofSchema]
    exact horNull h _
  | primitive info type format =>
    rw [ofSchema]
    exact horNull h _
  | array info items =>
    rw [ofSchema]
    exact horNull h _
  | object info properties required additional =>
    rw [ofSchema]
    exact horNull h _
  | enumeration info values type =>
    rw [ofSchema]
    exact horNull h _

theorem Schema.showsNull_of_isNullable {node : Schema} (h : node.isNullable = true) :
    node.ShowsNull := by
  obtain ⟨type, htype⟩ := TypeExpr.exists_nullOr h
  have htext : ∀ style, TypeExpr.schemaText style (some node) =
      "S.NullOr(" ++ type.render style ++ ")" := by
    intro style
    rw [TypeExpr.schemaText, TypeExpr.ofOptional, htype]
    rfl
  exact ⟨h, fun style => ⟨type.render style, htext style⟩⟩

namespace Extraction

/-- **Nullable schemas stay nullable**, unless `allOf` has a member that stands for them and is not
nullable itself, or members that are merged while the keyword is missing. -/
theorem showsNull_iff {value : Value} {result : Option Schema} (hobject : value.isObject = true)
    (href : Reference.of? value = none) (hnull : declaresNull value = true)
    (h : schema value = .ok result) : ∃ node, result = some node ∧
      (node.ShowsNull ↔ (∀ member, onlyMember? value = some member → SaysNull member) ∧
        (isMerged value = true → (fieldOrNull "nullable" value).isTruthy = true)) := by
  obtain ⟨node, rfl⟩ : ∃ node, result = some node := by
    rw [← Option.isSome_iff_exists, isSome_of_schema h, hobject]
  refine ⟨node, rfl, ?_⟩
  have hread : schemaWithin (value.height + 1) value = .ok (some node) := h
  have hnullable := isNullable_iff (Nat.lt_succ_self value.height) hread
  have hshows : node.ShowsNull ↔ SaysNull value :=
    ⟨fun hshows => hnullable.mp hshows.nullable,
      fun hsaid => Schema.showsNull_of_isNullable (hnullable.mpr hsaid)⟩
  rw [hshows, saysNull_iff href]
  cases honly : onlyMember? value with
  | some member => simp [isMerged_of_onlyMember? honly]
  | none => cases isMerged value <;> simp [hnull]

/-- A schema that says that it is nullable and has members. -/
def nullableAllOf (members : List Value) : Value :=
  .object [("nullable", .bool true), ("allOf", .list members)]

/-- An object schema with one property. -/
def withProperty (name type : String) : Value :=
  .object [("type", .str "object"),
    ("properties", .object [(name, .object [("type", .str type)])])]

/-- Members that are merged leave the keyword of the schema in force. -/
theorem showsNull_iff_merged : ∃ node,
    schema (nullableAllOf [withProperty "id" "integer", withProperty "name" "string"]) =
      .ok (some node) ∧ node.ShowsNull := by
  have hseen : (schema (nullableAllOf [withProperty "id" "integer", withProperty "name" "string"])
      |>.toOption.map Option.isSome) = some true := by decide +kernel
  obtain ⟨result, hread, -⟩ := exists_ok_of_map_toOption hseen
  obtain ⟨node, rfl, hiff⟩ := showsNull_iff rfl rfl rfl hread
  refine ⟨node, hread, hiff.mpr ⟨?_, fun _ => rfl⟩⟩
  intro member honly
  cases honly

/-- The usual way to make a reference nullable loses null: what is read is the reference alone. -/
theorem not_showsNull_onlyReference :
    let value := nullableAllOf [.object [("$ref", .str "#/components/schemas/Pet")]]
    declaresNull value = true ∧ ∃ node, schema value = .ok (some node) ∧
      TypeExpr.schemaText .bare (some node) = "S.suspend(() => Pet)" ∧ ¬node.ShowsNull := by
  intro value
  have hseen : (schema value |>.toOption.map fun result =>
      (result.map Schema.isNullable, TypeExpr.schemaText .bare result)) =
        some (some false, "S.suspend(() => Pet)") := by decide +kernel
  obtain ⟨result, hread, hresult⟩ := exists_ok_of_map_toOption hseen
  obtain ⟨hnullable, htext⟩ := Prod.mk.inj hresult
  obtain ⟨node, rfl, hfalse⟩ := Option.map_eq_some_iff.mp hnullable
  refine ⟨rfl, node, hread, htext, fun h => ?_⟩
  rw [h.nullable] at hfalse
  cases hfalse

end Extraction

end ClientGen
