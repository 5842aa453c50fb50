import ClientGen.Proofs.Code.Brackets

/-!
# Structs keep their fields

`readStruct` reads the text of a struct: each field has a name, which is an identifier or a text in
quotes, and goes on to the next comma outside of all brackets.  The type of a property or parameter
is balanced, so no comma of it ends the field (`readExpression_append`), and it never looks optional
by itself.  What is read is what was written (`readStruct_struct`), with one exception: an
identifier with a line feed behind it counts as an identifier, and is read without the line feed.
`keepsFields_iff` says that structs keep their fields exactly when there is no such name.
-/

namespace ClientGen.Code

open Literal (isIdentifierChar startsIdentifier isIdentifierChars dropLineFeed)

/-! ### Reading structs -/

/-- Reads code up to a comma outside of all brackets, which is dropped. -/
def readExpression (s : Scan) : List Char → Option (List Char × List Char)
  | [] => none
  | c :: rest =>
    match s.step false c with
    | some next => (readExpression next rest).map fun (text, rest) => (c :: text, rest)
    | none => if c = ',' then some ([], rest) else none

/-- Reads the name of a property: an identifier, or a text in quotes. -/
def readKey : List Char → Option (List Char × List Char)
  | [] => none
  | c :: rest =>
    if c = '"' then (Json.readString 0 rest).toOption
    else if startsIdentifier c then
      some ((c :: rest).takeWhile isIdentifierChar, (c :: rest).dropWhile isIdentifierChar)
    else none

/-- The type that is said to be optional, if one is. -/
def optionalType? (text : List Char) : Option (List Char) :=
  match text.dropPrefix? "S.optional(".toList with
  | none => none
  | some rest =>
    if rest.getLast? = some ')' ∧ IsBalanced true rest.dropLast then some rest.dropLast else none

/-- The field with a name and code for its type. -/
def fieldOf (name text : List Char) : StructField :=
  match optionalType? text with
  | some type => ⟨String.ofList name, String.ofList type, false⟩
  | none => ⟨String.ofList name, String.ofList text, true⟩

/-- Reads a field with the comma behind it. -/
def readField (cs : List Char) : Option (StructField × List Char) :=
  match readKey cs with
  | none => none
  | some (name, rest) =>
    match Json.skipSpace rest with
    | ':' :: rest =>
      (readExpression .start (Json.skipSpace rest)).map fun (text, rest) =>
        (fieldOf name text, rest)
    | _ => none

/-- Reads fields up to the closing bracket. -/
def readFields (fuel : Nat) (cs : List Char) : Option (List StructField × List Char) :=
  match Json.skipSpace cs with
  | '\x7d' :: rest => some ([], rest)
  | cs =>
    match fuel with
    | 0 => none
    | fuel + 1 =>
      match readField cs with
      | none => none
      | some (field, rest) =>
        (readFields fuel rest).map fun (fields, rest) => (field :: fields, rest)

/-- Reads a struct. -/
def readStruct (text : String) : Option (List StructField) :=
  match text.toList.dropPrefix? "S.Struct(\x7b".toList with
  | none => none
  | some rest =>
    match readFields rest.length rest with
    | some (fields, [')']) => some fields
    | _ => none

/-! ### Expressions -/

/-- **Balanced code ends at the comma behind it.** -/
theorem readExpression_append {s : Scan} {text : List Char} (h : s.run false text = some .start)
    (rest : List Char) : readExpression s (text ++ ',' :: rest) = some (text, rest) := by
  induction text generalizing s with
  | nil =>
    cases h
    rfl
  | cons c text ih =>
    rw [Scan.run_cons, Option.bind_eq_some_iff] at h
    obtain ⟨next, hnext, hmore⟩ := h
    rw [List.cons_append, readExpression, hnext]
    simp only [ih hmore, Option.map_some]

/-! ### Names -/

/-- A name as it is read: an identifier in front of a line feed loses it. -/
def shownName (name : String) : String :=
  if Literal.isIdentifier name then String.ofList (dropLineFeed name.toList) else name

theorem ne_of_isIdentifierChar {c d : Char} (h : isIdentifierChar c = true)
    (hd : isIdentifierChar d = false) : c ≠ d := by
  rintro rfl
  rw [h] at hd
  cases hd

theorem isIdentifierChar_of_startsIdentifier {c : Char} (h : startsIdentifier c = true) :
    isIdentifierChar c = true := by
  simp only [startsIdentifier, Bool.or_eq_true] at h
  simp only [isIdentifierChar, Char.isAlphanum, Bool.or_eq_true]
  exact h.imp_left (Or.imp_left .inl)

/-- A text is what is left of it without a line feed at its end, with the line feed or without. -/
theorem exists_dropLineFeed (cs : List Char) :
    ∃ tail, cs = dropLineFeed cs ++ tail ∧ (tail = [] ∨ tail = ['\n']) := by
  unfold dropLineFeed
  split
  · rename_i hlast
    obtain ⟨before, rfl⟩ := List.getLast?_eq_some_iff.mp hlast
    exact ⟨['\n'], by rw [List.dropLast_concat], .inr rfl⟩
  · exact ⟨[], (List.append_nil cs).symm, .inl rfl⟩

/-- What counts as an identifier is one, with a line feed behind it or without. -/
theorem exists_identifier {name : String} (h : Literal.isIdentifier name = true) :
    ∃ c more tail, dropLineFeed name.toList = c :: more ∧ name.toList = c :: more ++ tail ∧
      (tail = [] ∨ tail = ['\n']) ∧ startsIdentifier c = true ∧
        ∀ d ∈ c :: more, isIdentifierChar d = true := by
  obtain ⟨tail, hname, htail⟩ := exists_dropLineFeed name.toList
  rw [Literal.isIdentifier] at h
  generalize dropLineFeed name.toList = stem at hname h ⊢
  cases stem with
  | nil => cases h
  | cons c more =>
    obtain ⟨hfirst, hmore⟩ := (Bool.and_eq_true _ _).mp h
    exact ⟨c, more, tail, rfl, hname, htail, hfirst, List.forall_mem_cons.mpr
      ⟨isIdentifierChar_of_startsIdentifier hfirst, List.all_eq_true.mp hmore⟩⟩

theorem toList_ofText (text : String) :
    (Literal.ofText text).toList = Json.stringChars .unicode text :=
  Literal.toList_ofValue (.str text)

/-- **A key is read as the name that it shows.** -/
theorem exists_readKey_key (name : String) (rest : List Char) : ∃ after,
    readKey ((Literal.key name).toList ++ ':' :: rest) = some ((shownName name).toList, after) ∧
      Json.skipSpace after = ':' :: rest := by
  unfold Literal.key shownName
  split
  · rename_i hidentifier
    obtain ⟨c, more, tail, hdrop, hname, htail, hfirst, hchars⟩ := exists_identifier hidentifier
    have hstops : Stops isIdentifierChar (tail ++ ':' :: rest) := by
      rcases htail with rfl | rfl
      · exact stops_cons rfl
      · exact stops_cons rfl
    refine ⟨tail ++ ':' :: rest, ?_, ?_⟩
    · rw [String.toList_ofList, hdrop, hname, List.append_assoc, List.cons_append, readKey,
        if_neg (ne_of_isIdentifierChar (hchars c List.mem_cons_self) rfl), if_pos hfirst,
        ← List.cons_append, takeWhile_append_of_stops hstops,
        dropWhile_append_of_stops hchars hstops, List.takeWhile_eq_self_iff.mpr hchars]
    · rcases htail with rfl | rfl <;> rfl
  · refine ⟨':' :: rest, ?_, rfl⟩
    rw [toList_ofText, Json.stringChars, List.cons_append, List.cons_append, readKey, if_pos rfl,
      List.append_assoc, List.singleton_append, Json.readString_escaped]
    rfl

/-! ### Fields -/

/-- A field as it is read. -/
def shown (field : StructField) : StructField :=
  { field with name := shownName field.name }

/-- The type of a field, which says so where the field is optional. -/
def neededType (field : StructField) : String :=
  if field.required then field.type else "S.optional(" ++ field.type ++ ")"

/-- What begins like a type is not said to be optional. -/
theorem optionalType?_of_leadsType {text : List Char} (h : leadsType text = true) :
    optionalType? text = none := by
  have hnone : text.dropPrefix? "S.optional(".toList = none := by
    rw [Option.eq_none_iff_forall_ne_some]
    intro rest hrest
    obtain ⟨lead, rfl, hlead⟩ := List.dropPrefix?_eq_some_iff.mp hrest
    rw [eq_of_beq hlead] at h
    cases h
  rw [optionalType?, hnone]

theorem optionalType?_optional {type : List Char} (h : IsBalanced true type) :
    optionalType? ("S.optional(".toList ++ (type ++ [')'])) = some type := by
  rw [optionalType?, dropPrefix?_append]
  simp only [List.getLast?_concat, List.dropLast_concat]
  exact if_pos ⟨trivial, h⟩

/-- A field is made of its name and of what its type says. -/
theorem fieldOf_neededType {field : StructField} (h : IsTypeText field.type.toList)
    (name : String) :
    fieldOf name.toList (neededType field).toList = { field with name } := by
  obtain ⟨old, type, required⟩ := field
  change IsTypeText type.toList at h
  cases required with
  | true =>
    have htext : neededType ⟨old, type, true⟩ = type := rfl
    rw [fieldOf, htext, optionalType?_of_leadsType h.leads, String.ofList_toList,
      String.ofList_toList]
  | false =>
    have htext : (neededType ⟨old, type, false⟩).toList =
        "S.optional(".toList ++ (type.toList ++ [')']) :=
      TypeExpr.toList_around "S.optional(" type ")"
    rw [fieldOf, htext, optionalType?_optional (h.balanced.mono true)]
    simp only [String.ofList_toList]

theorem isBalanced_neededType {field : StructField} (h : IsTypeText field.type.toList) :
    IsBalanced false (neededType field).toList := by
  unfold neededType
  split
  · exact h.balanced
  · rw [TypeExpr.toList_around]
    exact .around [')'] (by decide) (by decide) (h.balanced.mono true) (by decide)

theorem exists_neededType_eq {field : StructField} (h : IsTypeText field.type.toList) :
    ∃ more, (neededType field).toList = 'S' :: more := by
  unfold neededType
  split
  · have hleads := h.leads
    unfold leadsType at hleads
    split at hleads
    · rename_i heq
      exact ⟨_, heq⟩
    · cases hleads
  · rw [TypeExpr.toList_around]
    exact ⟨_, rfl⟩

/-- **A field is read from its line**, whatever stands behind it. -/
theorem readField_line {field : StructField} (h : IsTypeText field.type.toList)
    (rest : List Char) :
    readField ((Literal.key field.name).toList ++
        (": ".toList ++ ((neededType field).toList ++ ',' :: rest))) =
      some (shown field, rest) := by
  obtain ⟨after, hkey, hafter⟩ := exists_readKey_key field.name
    (' ' :: ((neededType field).toList ++ ',' :: rest))
  obtain ⟨more, hmore⟩ := exists_neededType_eq h
  have hskip : Json.skipSpace (' ' :: ((neededType field).toList ++ ',' :: rest)) =
      (neededType field).toList ++ ',' :: rest := by
    rw [hmore]
    rfl
  have hread := readExpression_append (isBalanced_neededType h) rest
  change readField ((Literal.key field.name).toList ++ ':' :: ' ' ::
    ((neededType field).toList ++ ',' :: rest)) = _
  rw [readField, hkey]
  simp only [hafter, hskip, hread, Option.map_some, fieldOf_neededType h]
  rfl

theorem toList_line (field : StructField) : field.line.toList =
    '\t' :: ((Literal.key field.name).toList ++
      (": ".toList ++ ((neededType field).toList ++ [',']))) := by
  unfold StructField.line
  simp only [String.toList_append, List.append_assoc]
  rfl

theorem isSpace_of_isIdentifierChar {c : Char} (h : isIdentifierChar c = true) :
    Json.isSpace c = false := by
  cases hspace : Json.isSpace c with
  | false => rfl
  | true =>
    simp only [Json.isSpace, Bool.or_eq_true, beq_iff_eq] at hspace
    rcases hspace with ((rfl | rfl) | rfl) | rfl <;> cases h

/-- A key does not begin with a blank, nor with what closes a struct. -/
theorem exists_key_eq (name : String) : ∃ c more, (Literal.key name).toList = c :: more ∧
    Json.isSpace c = false ∧ c ≠ '\x7d' := by
  unfold Literal.key
  split
  · rename_i hidentifier
    obtain ⟨c, more, tail, -, hname, -, -, hchars⟩ := exists_identifier hidentifier
    have hc := hchars c List.mem_cons_self
    exact ⟨c, more ++ tail, hname, isSpace_of_isIdentifierChar hc, ne_of_isIdentifierChar hc rfl⟩
  · exact ⟨'"', _, toList_ofText name, rfl, by decide⟩

/-- The fields of a struct are read up to its end. -/
theorem readFields_lines {fields : List StructField}
    (h : ∀ field ∈ fields, IsTypeText field.type.toList) (fuel : Nat) (hfuel : fields.length ≤ fuel)
    (rest : List Char) :
    readFields fuel (fields.flatMap (fun field => '\n' :: field.line.toList) ++
        '\n' :: '\x7d' :: rest) = some (fields.map shown, rest) := by
  induction fields generalizing fuel with
  | nil => cases fuel <;> rfl
  | cons field fields ih =>
    obtain ⟨hfield, hfields⟩ := List.forall_mem_cons.mp h
    match fuel with
    | 0 => cases hfuel
    | fuel + 1 =>
      obtain ⟨c, more, hkey, hspace, hbracket⟩ := exists_key_eq field.name
      have hmore := ih hfields fuel (Nat.le_of_succ_le_succ hfuel)
      have hread := readField_line hfield
        (fields.flatMap (fun field => '\n' :: field.line.toList) ++ '\n' :: '\x7d' :: rest)
      rw [List.flatMap_cons, toList_line]
      simp only [List.cons_append, List.append_assoc, List.nil_append]
      rw [hkey] at hread ⊢
      rw [List.cons_append] at hread ⊢
      have hskip : ∀ cs, Json.skipSpace ('\n' :: '\t' :: c :: cs) = c :: cs :=
        fun cs => dropWhile_eq_self_of_stops (stops_cons hspace)
      rw [readFields, hskip]
      split
      · rename_i hclosed
        exact absurd (List.cons.inj hclosed).1 hbracket
      · simp only [hread, hmore, Option.map_some, List.map_cons]

/-! ### Structs -/

theorem length_le_length_flatMap (fields : List StructField) :
    fields.length ≤ (fields.flatMap fun field => '\n' :: field.line.toList).length := by
  induction fields with
  | nil => exact Nat.le_refl 0
  | cons field fields ih =>
    rw [List.flatMap_cons, List.length_append, List.length_cons, List.length_cons]
    omega

/-- The text of a struct: its fields, each on a line. -/
theorem toList_struct (field : StructField) (fields : List StructField) :
    (struct (field :: fields)).toList = "S.Struct(\x7b".toList ++
      ((field :: fields).flatMap (fun field => '\n' :: field.line.toList) ++
        '\n' :: '\x7d' :: [')']) := by
  have hlines : (Text.join "\n" ((field :: fields).map StructField.line)).toList =
      field.line.toList ++ fields.flatMap fun field => '\n' :: field.line.toList := by
    rw [Text.join, String.toList_intercalate, TypeExpr.intercalate_eq_separated, List.map_cons,
      List.map_cons, Json.separated_cons, List.map_map, List.flatMap_map]
    rfl
  rw [struct, TypeExpr.toList_around, hlines, List.flatMap_cons]
  simp only [List.append_assoc, List.cons_append]
  rfl

/-- **The fields of a struct are read back**, a line feed behind an identifier aside. -/
theorem readStruct_struct {fields : List StructField}
    (h : ∀ field ∈ fields, IsTypeText field.type.toList) :
    readStruct (struct fields) = some (fields.map shown) := by
  cases fields with
  | nil =>
    have htext : (struct []).toList.dropPrefix? "S.Struct(\x7b".toList =
        some "\n\n\x7d)".toList := by decide
    rw [readStruct, htext]
    rfl
  | cons field fields =>
    have hlength := length_le_length_flatMap (field :: fields)
    rw [readStruct, toList_struct, dropPrefix?_append]
    simp only []
    rw [readFields_lines h _ (by rw [List.length_append]; omega)]
    rfl

/-- An identifier with a line feed behind it, which its key does not show. -/
def LosesLineFeed (name : String) : Prop :=
  ∃ stem, isIdentifierChars stem = true ∧ name.toList = stem ++ ['\n']

theorem shownName_eq_iff (name : String) : shownName name = name ↔ ¬LosesLineFeed name := by
  constructor
  · rintro heq ⟨stem, hstem, hname⟩
    have hdrop : dropLineFeed name.toList = stem := by
      rw [dropLineFeed, hname, if_pos List.getLast?_concat, List.dropLast_concat]
    have hidentifier : Literal.isIdentifier name = true := by
      rw [Literal.isIdentifier, hdrop, hstem]
    rw [shownName, if_pos hidentifier, hdrop] at heq
    have hlength := congrArg String.toList heq
    rw [String.toList_ofList, hname] at hlength
    simp at hlength
  · intro hkeeps
    unfold shownName
    split
    · rename_i hidentifier
      obtain ⟨tail, hname, rfl | rfl⟩ := exists_dropLineFeed name.toList
      · rw [List.append_nil] at hname
        rw [← hname, String.ofList_toList]
      · exact absurd ⟨_, hidentifier, hname⟩ hkeeps
    · rfl

/-- A struct has fields with some names, in their order, of which some are required. -/
def ShowsFields (text : String) (named : List (String × Bool)) : Prop :=
  ∃ fields, readStruct text = some fields ∧
    fields.map (fun field => (field.name, field.required)) = named

/-- A struct shows its fields exactly when no name loses a line feed. -/
theorem showsFields_struct {fields : List StructField}
    (h : ∀ field ∈ fields, IsTypeText field.type.toList) :
    ShowsFields (struct fields) (fields.map fun field => (field.name, field.required)) ↔
      ∀ field ∈ fields, ¬LosesLineFeed field.name := by
  have hfield : ∀ field : StructField,
      ((shown field).name, (shown field).required) = (field.name, field.required) ↔
        ¬LosesLineFeed field.name := by
    intro field
    rw [← shownName_eq_iff, Prod.mk.injEq]
    exact and_iff_left rfl
  rw [ShowsFields, readStruct_struct h]
  simp only [Option.some.injEq, exists_eq_left', List.map_map]
  rw [List.map_inj_left]
  exact forall₂_congr fun field _ => hfield field

theorem isTypeText_propertyField (required : List String) (property : String × Schema) :
    IsTypeText (propertyField required property).type.toList := by
  have htab : IsBalanced true "\t".toList := by decide
  rw [propertyField, String.toList_append]
  exact (isTypeText_ofSchema property.2).append
    (isBalanced_render htab (isBalancedField_ofSchema (some property.2)))

theorem isTypeText_parameterField (parameter : Parameter) :
    IsTypeText (parameterField parameter).type.toList := by
  rw [parameterField, String.toList_append]
  exact (isTypeText_parameterType parameter).append (isBalancedField_parameter parameter)

/-- **Structs keep the fields that they are made of** exactly when no name is an identifier with a
line feed behind it: one field for each property or parameter, in order, with its name, and optional
where it is not required. -/
theorem keepsFields_iff (required : List String) (properties : List (String × Schema))
    (parameters : List Parameter) :
    (ShowsFields (struct (properties.map (propertyField required)))
        (properties.map fun property => (property.1, required.contains property.1)) ↔
      ∀ property ∈ properties, ¬LosesLineFeed property.1) ∧
    (ShowsFields (struct (parameters.map parameterField))
        (parameters.map fun parameter => (parameter.name, parameter.required)) ↔
      ∀ parameter ∈ parameters, ¬LosesLineFeed parameter.name) := by
  constructor
  · have htypes : ∀ field ∈ properties.map (propertyField required),
        IsTypeText field.type.toList :=
      List.forall_mem_map.mpr fun property _ => isTypeText_propertyField required property
    have hshows := showsFields_struct htypes
    rw [List.map_map, List.forall_mem_map] at hshows
    exact hshows
  · have htypes : ∀ field ∈ parameters.map parameterField, IsTypeText field.type.toList :=
      List.forall_mem_map.mpr fun parameter _ => isTypeText_parameterField parameter
    have hshows := showsFields_struct htypes
    rw [List.map_map, List.forall_mem_map] at hshows
    exact hshows

/-- A property whose name is an identifier with a line feed behind it. -/
def brokenProperty : String × Schema :=
  ("foo\n", .primitive {} (some "string") none)

/-- Such a property is read under another name. -/
theorem not_showsFields_brokenProperty :
    ¬ShowsFields (struct ([brokenProperty].map (propertyField []))) [("foo\n", false)] := by
  intro hshows
  have htypes : ∀ field ∈ [brokenProperty].map (propertyField []), IsTypeText field.type.toList :=
    List.forall_mem_map.mpr fun property _ => isTypeText_propertyField [] property
  have hkeeps := (showsFields_struct htypes).mp hshows _ List.mem_cons_self
  exact hkeeps ⟨['f', 'o', 'o'], rfl, rfl⟩

end ClientGen.Code
