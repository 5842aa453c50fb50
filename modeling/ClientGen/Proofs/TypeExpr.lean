import ClientGen.Proofs.Entries
import ClientGen.Proofs.Json.Writer
import ClientGen.TypeExpr

/-!
# Types as code can be told apart

The text of a type begins with a word of letters, digits and points, which tells its form
(`formOf_word`).  What stands in the brackets behind the word is told apart in its turn: a name ends
where its letters and digits end, the literals of an enumeration are JSON, and the types of items
and values are texts of types again.  So types that are written alike are the same
(`isDelimited_render`), and schemas whose types are written alike have the same type
(`ofOptional_eq_of_schemaText_eq`).
-/

namespace ClientGen.TypeExpr

open Json (IsFloatFree)

/-! ### The types of schemas -/

/-- The constructors of scalars. -/
def constructors : List String :=
  (formatTypes ++ scalarTypes).map (·.2)

/-- A type that a schema may have: names are letters and digits, scalars have a known constructor,
and literals are JSON without floats. -/
inductive IsWritable : TypeExpr → Prop where
  | unknown : IsWritable unknown
  | named {name : String} (h : ∀ c ∈ name.toList, c.isAlphanum = true) : IsWritable (named name)
  | primitive {constructor : String} (h : constructor ∈ constructors) :
    IsWritable (primitive constructor)
  | array {item : TypeExpr} (h : IsWritable item) : IsWritable (array item)
  | record {value : TypeExpr} (h : IsWritable value) : IsWritable (record value)
  | inlineObject : IsWritable inlineObject
  | literals {values : List Value} (h : ∀ value ∈ values, IsFloatFree value) :
    IsWritable (literals values)
  | nullOr {type : TypeExpr} (h : IsWritable type) : IsWritable (nullOr type)

theorem isWritable_orNull {nullable : Bool} {type : TypeExpr} (h : IsWritable type) :
    IsWritable (orNull nullable type) := by
  cases nullable with
  | false => exact h
  | true => exact .nullOr h

theorem values_orNull (nullable : Bool) (type : TypeExpr) :
    (orNull nullable type).values = type.values := by
  cases nullable <;> rfl

theorem mem_of_get? {key value : String} {table : List (String × String)}
    (h : Entries.get? key table = some value) : value ∈ table.map (·.2) := by
  induction table with
  | nil => cases h
  | cons entry rest ih =>
    rw [Entries.get?_cons] at h
    split at h
    · cases h
      exact List.mem_cons_self
    · exact List.mem_cons_of_mem _ (ih h)

theorem mem_constructors_of_get? {key : Option String} {constructor : String}
    (h : key.bind (Entries.get? · formatTypes) = some constructor ∨
      key.bind (Entries.get? · scalarTypes) = some constructor) : constructor ∈ constructors := by
  rw [constructors, List.map_append, List.mem_append]
  rcases h with h | h
  · obtain ⟨name, -, hname⟩ := Option.bind_eq_some_iff.mp h
    exact .inl (mem_of_get? hname)
  · obtain ⟨name, -, hname⟩ := Option.bind_eq_some_iff.mp h
    exact .inr (mem_of_get? hname)

theorem isWritable_ofScalar (type format : Option String) : IsWritable (ofScalar type format) := by
  unfold ofScalar
  dsimp only
  split
  · rename_i constructor hfound
    refine .primitive ?_
    rw [Option.orElse_eq_orElse, Option.orElse_eq_or, Option.or_eq_some_iff] at hfound
    rcases hfound with hformat | ⟨-, htype⟩
    · split at hformat
      · exact mem_constructors_of_get? (.inl hformat)
      · cases hformat
    · exact mem_constructors_of_get? (.inr htype)
  · exact .unknown

mutual

theorem isWritable_ofSchema : (schema : Schema) →
    (∀ value ∈ (ofSchema schema).values, IsFloatFree value) → IsWritable (ofSchema schema)
  | .reference info _ name, _ => by
    rw [ofSchema]
    exact isWritable_orNull (.named fun c hc => Naming.isAlphanum_of_mem_pascal hc)
  | .primitive info type format, _ => by
    rw [ofSchema]
    exact isWritable_orNull (isWritable_ofScalar type format)
  | .array info items, h => by
    rw [ofSchema, values_orNull] at h
    rw [ofSchema]
    exact isWritable_orNull (.array (isWritable_ofOptional items h))
  | .object info properties _ additional, h => by
    rw [ofSchema, values_orNull] at h
    rw [ofSchema]
    refine isWritable_orNull ?_
    split
    · rename_i hempty
      rw [if_pos hempty] at h
      exact .record (isWritable_ofAdditional additional h)
    · exact .inlineObject
  | .enumeration info values _, h => by
    rw [ofSchema, values_orNull] at h
    rw [ofSchema]
    exact isWritable_orNull (.literals h)

theorem isWritable_ofOptional : (schema : Option Schema) →
    (∀ value ∈ (ofOptional schema).values, IsFloatFree value) → IsWritable (ofOptional schema)
  | some schema, h => isWritable_ofSchema schema h
  | none, _ => .unknown

theorem isWritable_ofAdditional : (additional : Additional Schema) →
    (∀ value ∈ (ofAdditional additional).values, IsFloatFree value) →
      IsWritable (ofAdditional additional)
  | .schema schema, h => isWritable_ofSchema schema h
  | .allowed _, _ => .unknown
  | .unsaid, _ => .unknown

end

/-! ### The texts of types

The type that a text stands for is told by the text alone, so every text is taken as what stands
before the parts of the type, the parts, and what stands behind them. -/

theorem toList_around (before inner after : String) :
    (before ++ inner ++ after).toList = before.toList ++ (inner.toList ++ after.toList) := by
  rw [String.toList_append, String.toList_append, List.append_assoc]

theorem toList_render_bare (name : String) : ((named name).render .bare).toList =
    "S.suspend(() => ".toList ++ (name.toList ++ ")".toList) :=
  toList_around "S.suspend(() => " name ")"

theorem toList_render_qualified (name : String) :
    ((named name).render .qualified).toList = "Schemas.".toList ++ name.toList :=
  String.toList_append

theorem toList_render_array (style : NameStyle) (item : TypeExpr) :
    ((array item).render style).toList =
      "S.Array(".toList ++ ((item.render style).toList ++ ")".toList) :=
  toList_around "S.Array(" (item.render style) ")"

theorem toList_render_record (style : NameStyle) (value : TypeExpr) :
    ((record value).render style).toList =
      "S.Record(\x7b key: S.String, value: ".toList ++
        ((value.render style).toList ++ " \x7d)".toList) :=
  toList_around "S.Record(\x7b key: S.String, value: " (value.render style) " \x7d)"

theorem toList_render_nullOr (style : NameStyle) (type : TypeExpr) :
    ((nullOr type).render style).toList =
      "S.NullOr(".toList ++ ((type.render style).toList ++ ")".toList) :=
  toList_around "S.NullOr(" (type.render style) ")"

theorem intercalate_eq_separated (separator : List Char) (parts : List (List Char)) :
    separator.intercalate parts = Json.separated separator parts := by
  induction parts with
  | nil => rfl
  | cons first rest ih =>
    cases rest with
    | nil => rw [List.intercalate_singleton, Json.separated]
    | cons second rest =>
      rw [List.intercalate_cons_cons, ih]
      rfl

theorem toList_render_literals (style : NameStyle) {first : Value} {rest : List Value}
    (h : ∀ value ∈ first :: rest, IsFloatFree value) :
    ((literals (first :: rest)).render style).toList =
      "S.Literal(".toList ++
        (Json.separated [',', ' '] ((first :: rest).map (Json.chars .unicode)) ++ [')']) := by
  have htext : ((literals (first :: rest)).render style).toList = _ :=
    toList_around "S.Literal(" (String.intercalate ", " ((first :: rest).map Literal.ofValue)) ")"
  have hvalues : ((first :: rest).map Literal.ofValue).map String.toList =
      (first :: rest).map (Json.chars .unicode) := by
    rw [List.map_map]
    exact List.map_congr_left fun value hvalue => Literal.toList_ofValue (h value hvalue)
  rw [htext, String.toList_intercalate, hvalues, intercalate_eq_separated]
  rfl

/-! ### The word that a type begins with -/

/-- The characters of the word that a type begins with. -/
def isWordChar (c : Char) : Bool :=
  c.isAlphanum || c == '.'

/-- The word that a text begins with. -/
def wordOf (text : List Char) : List Char :=
  text.takeWhile isWordChar

/-- The forms of types. -/
inductive Form where
  | unknown
  | named
  | primitive
  | array
  | record
  | inlineObject
  | literals
  | nullOr
  deriving DecidableEq

/-- The form of a type. -/
def form : TypeExpr → Form
  | unknown => .unknown
  | named _ => .named
  | primitive _ => .primitive
  | array _ => .array
  | record _ => .record
  | inlineObject => .inlineObject
  | literals _ => .literals
  | nullOr _ => .nullOr

/-- The form of the type that begins with a word. -/
def formOf (word : List Char) : Form :=
  if "Schemas.".toList <+: word then .named
  else match String.ofList word with
    | "S.Unknown" => .unknown
    | "S.suspend" => .named
    | "S.Array" => .array
    | "S.Record" => .record
    | "S.Struct" => .inlineObject
    | "S.Literal" | "S.Never" => .literals
    | "S.NullOr" => .nullOr
    | _ => .primitive

theorem isWordChar_of_isAlphanum {c : Char} (h : c.isAlphanum = true) : isWordChar c = true := by
  rw [isWordChar, h, Bool.true_or]

/-- The word of a text ends where its opening has another character. -/
theorem wordOf_append {opening : List Char} (h : (wordOf opening).length ≠ opening.length)
    (rest : List Char) : wordOf (opening ++ rest) = wordOf opening := by
  exact List.takeWhile_append.trans (if_neg h)

theorem wordOf_qualified {name : String} (h : ∀ c ∈ name.toList, c.isAlphanum = true) :
    wordOf ("Schemas.".toList ++ name.toList) = "Schemas.".toList ++ name.toList := by
  have hmodule : ∀ c ∈ "Schemas.".toList, isWordChar c = true :=
    List.all_eq_true.mp (by decide)
  refine List.takeWhile_eq_self_iff.mpr fun c hc => ?_
  rcases List.mem_append.mp hc with hc | hc
  · exact hmodule c hc
  · exact isWordChar_of_isAlphanum (h c hc)

/-- **The word that a type begins with tells its form.** -/
theorem formOf_wordOf (style : NameStyle) {type : TypeExpr} (h : IsWritable type) :
    formOf (wordOf (type.render style).toList) = type.form := by
  cases h with
  | unknown =>
    change formOf (wordOf "S.Unknown".toList) = .unknown
    decide
  | @named name h =>
    -- Only behind the module do the letters of the name belong to the word.
    cases style with
    | bare =>
      rw [toList_render_bare, wordOf_append (by decide)]
      change formOf (wordOf "S.suspend(() => ".toList) = .named
      decide
    | qualified =>
      rw [toList_render_qualified, wordOf_qualified h, formOf, if_pos (List.prefix_append _ _)]
      rfl
  | primitive h =>
    have hforms : ∀ constructor ∈ constructors, formOf (wordOf constructor.toList) = .primitive := by
      decide
    exact hforms _ h
  | @array item h =>
    rw [toList_render_array, wordOf_append (by decide)]
    change formOf (wordOf "S.Array(".toList) = .array
    decide
  | record h =>
    rw [toList_render_record, wordOf_append (by decide)]
    change formOf (wordOf "S.Record(\x7b key: S.String, value: ".toList) = .record
    decide
  | inlineObject =>
    change formOf (wordOf inlineObjectText.toList) = .inlineObject
    decide
  | @literals values h =>
    cases values with
    | nil =>
      change formOf (wordOf "S.Never".toList) = .literals
      decide
    | cons first rest =>
      rw [toList_render_literals style h, wordOf_append (by decide)]
      change formOf (wordOf "S.Literal(".toList) = .literals
      decide
  | nullOr h =>
    rw [toList_render_nullOr, wordOf_append (by decide)]
    change formOf (wordOf "S.NullOr(".toList) = .nullOr
    decide

/-! ### Types are told apart -/

section Delimited

variable {style : NameStyle} {rest rest' : List Char}

theorem wordOf_eq_of_append_eq {type type' : TypeExpr} (hrest : Stops isWordChar rest)
    (hrest' : Stops isWordChar rest')
    (heq : (type.render style).toList ++ rest = (type'.render style).toList ++ rest') :
    wordOf (type.render style).toList = wordOf (type'.render style).toList := by
  have hwords := congrArg (List.takeWhile isWordChar) heq
  rwa [takeWhile_append_of_stops hrest, takeWhile_append_of_stops hrest'] at hwords

theorem form_eq_of_append_eq {type type' : TypeExpr} (h : IsWritable type) (h' : IsWritable type')
    (hrest : Stops isWordChar rest) (hrest' : Stops isWordChar rest')
    (heq : (type.render style).toList ++ rest = (type'.render style).toList ++ rest') :
    type.form = type'.form := by
  rw [← formOf_wordOf style h, ← formOf_wordOf style h', wordOf_eq_of_append_eq hrest hrest' heq]

/-- A type is told apart when it is told from those of its form. -/
theorem isDelimited_of_form {type : TypeExpr} (h : IsWritable type)
    (hsame : ∀ {type' : TypeExpr} {rest rest' : List Char}, IsWritable type' →
      type.form = type'.form → Stops isWordChar rest → Stops isWordChar rest' →
      (type.render style).toList ++ rest = (type'.render style).toList ++ rest' →
        type = type' ∧ rest = rest') :
    IsDelimited (fun type => (render style type).toList) isWordChar IsWritable type :=
  fun _ _ _ h' hrest hrest' heq =>
    hsame h' (form_eq_of_append_eq h h' hrest hrest' heq) hrest hrest' heq

/-- Scalars with the same word are the same. -/
theorem eq_of_wordOf_eq : ∀ constructor ∈ constructors, ∀ other ∈ constructors,
    wordOf constructor.toList = wordOf other.toList → constructor = other := by
  decide

theorem stops_bracket (rest : List Char) : Stops isWordChar (")".toList ++ rest) :=
  stops_cons rfl

theorem named_append_inj {name name' : String} (h : ∀ c ∈ name.toList, c.isAlphanum = true)
    (h' : ∀ c ∈ name'.toList, c.isAlphanum = true) (hrest : Stops isWordChar rest)
    (hrest' : Stops isWordChar rest')
    (heq : name.toList ++ rest = name'.toList ++ rest') : name = name' ∧ rest = rest' := by
  obtain ⟨hnames, hrests⟩ :=
    append_inj_of_stops (fun c hc => isWordChar_of_isAlphanum (h c hc))
      (fun c hc => isWordChar_of_isAlphanum (h' c hc)) hrest hrest' heq
  exact ⟨String.toList_injective hnames, hrests⟩

/-- A type between brackets is told apart as the type is. -/
theorem inner_append_inj {opening closing : List Char} {inner inner' : TypeExpr}
    (hclosing : ∀ rest, Stops isWordChar (closing ++ rest))
    (hinner : IsDelimited (fun type => (render style type).toList) isWordChar IsWritable inner)
    (h' : IsWritable inner')
    (heq : opening ++ ((inner.render style).toList ++ closing) ++ rest =
      opening ++ ((inner'.render style).toList ++ closing) ++ rest') :
    inner = inner' ∧ rest = rest' := by
  simp only [List.append_assoc] at heq
  obtain ⟨hinners, hrests⟩ :=
    hinner h' (hclosing rest) (hclosing rest') (List.append_cancel_left heq)
  exact ⟨hinners, List.append_cancel_left hrests⟩

/-- An enumeration without values is told from the others by its word. -/
theorem not_append_eq_never {first : Value} {more : List Value}
    (h : ∀ value ∈ first :: more, IsFloatFree value) (hrest : Stops isWordChar rest)
    (hrest' : Stops isWordChar rest') :
    ¬(((literals (first :: more)).render style).toList ++ rest =
      ((literals []).render style).toList ++ rest') := by
  intro heq
  have hwords := wordOf_eq_of_append_eq hrest hrest' heq
  rw [toList_render_literals style h, wordOf_append (by decide)] at hwords
  exact absurd hwords (by decide : wordOf "S.Literal(".toList ≠ wordOf "S.Never".toList)

theorem literals_append_inj {values values' : List Value}
    (h : ∀ value ∈ values, IsFloatFree value) (h' : ∀ value ∈ values', IsFloatFree value)
    (hrest : Stops isWordChar rest) (hrest' : Stops isWordChar rest')
    (heq : ((literals values).render style).toList ++ rest =
      ((literals values').render style).toList ++ rest') :
    values = values' ∧ rest = rest' := by
  cases values with
  | nil =>
    cases values' with
    | nil => exact ⟨rfl, List.append_cancel_left heq⟩
    | cons first' more' => exact absurd heq.symm (not_append_eq_never h' hrest' hrest)
  | cons first more =>
    cases values' with
    | nil => exact absurd heq (not_append_eq_never h hrest hrest')
    | cons first' more' =>
      rw [toList_render_literals style h, toList_render_literals style h'] at heq
      simp only [List.append_assoc] at heq
      exact Json.separated_append_inj rfl (by decide)
        (fun value hvalue => Json.exists_chars_eq_cons_ne hvalue rfl)
        (fun value hvalue => ⟨h value hvalue, Json.isDelimited_chars (h value hvalue)⟩) h'
        (List.append_cancel_left heq)

/-- **Types as code are told apart**, whatever follows that is no letter, digit or point. -/
theorem isDelimited_render {type : TypeExpr} (h : IsWritable type) :
    IsDelimited (fun type => (render style type).toList) isWordChar IsWritable type := by
  -- The first word tells the form, so in each case only types of that form are left; the types
  -- inside are told apart by induction, a bracket being what follows them.
  induction h with
  | unknown =>
    refine isDelimited_of_form .unknown fun h' hform hrest hrest' heq => ?_
    cases h' with
    | unknown => exact ⟨rfl, List.append_cancel_left heq⟩
    | _ => cases hform
  | @named name h =>
    refine isDelimited_of_form (.named h) fun h' hform hrest hrest' heq => ?_
    cases h' with
    | named h' =>
      cases style with
      | bare =>
        simp only [toList_render_bare, List.append_assoc] at heq
        obtain ⟨rfl, hrests⟩ := named_append_inj h h' (stops_bracket _) (stops_bracket _)
          (List.append_cancel_left heq)
        exact ⟨rfl, List.append_cancel_left hrests⟩
      | qualified =>
        simp only [toList_render_qualified, List.append_assoc] at heq
        obtain ⟨rfl, hrests⟩ := named_append_inj h h' hrest hrest' (List.append_cancel_left heq)
        exact ⟨rfl, hrests⟩
    | _ => cases hform
  | @primitive constructor h =>
    refine isDelimited_of_form (.primitive h) fun h' hform hrest hrest' heq => ?_
    cases h' with
    | @primitive constructor' h' =>
      cases eq_of_wordOf_eq constructor h constructor' h'
        (wordOf_eq_of_append_eq hrest hrest' heq)
      exact ⟨rfl, List.append_cancel_left heq⟩
    | _ => cases hform
  | array h ih =>
    refine isDelimited_of_form (.array h) fun h' hform hrest hrest' heq => ?_
    cases h' with
    | array h' =>
      simp only [toList_render_array] at heq
      obtain ⟨rfl, hrests⟩ := inner_append_inj stops_bracket ih h' heq
      exact ⟨rfl, hrests⟩
    | _ => cases hform
  | record h ih =>
    refine isDelimited_of_form (.record h) fun h' hform hrest hrest' heq => ?_
    cases h' with
    | record h' =>
      simp only [toList_render_record] at heq
      obtain ⟨rfl, hrests⟩ := inner_append_inj (fun _ => stops_cons rfl) ih h' heq
      exact ⟨rfl, hrests⟩
    | _ => cases hform
  | inlineObject =>
    refine isDelimited_of_form .inlineObject fun h' hform hrest hrest' heq => ?_
    cases h' with
    | inlineObject => exact ⟨rfl, List.append_cancel_left heq⟩
    | _ => cases hform
  | literals h =>
    refine isDelimited_of_form (.literals h) fun h' hform hrest hrest' heq => ?_
    cases h' with
    | literals h' =>
      obtain ⟨rfl, hrests⟩ := literals_append_inj h h' hrest hrest' heq
      exact ⟨rfl, hrests⟩
    | _ => cases hform
  | nullOr h ih =>
    refine isDelimited_of_form (.nullOr h) fun h' hform hrest hrest' heq => ?_
    cases h' with
    | nullOr h' =>
      simp only [toList_render_nullOr] at heq
      obtain ⟨rfl, hrests⟩ := inner_append_inj stops_bracket ih h' heq
      exact ⟨rfl, hrests⟩
    | _ => cases hform

end Delimited

/-- **Rendered types are unambiguous**: schemas whose types are written alike have the same type,
when the values of their enumerations are JSON without floats. -/
theorem ofOptional_eq_of_schemaText_eq {style : NameStyle} {first second : Option Schema}
    (hfirst : ∀ value ∈ (ofOptional first).values, IsFloatFree value)
    (hsecond : ∀ value ∈ (ofOptional second).values, IsFloatFree value)
    (h : schemaText style first = schemaText style second) :
    ofOptional first = ofOptional second := by
  -- Nothing follows the types, which is a text that stops.
  have htexts : ((ofOptional first).render style).toList ++ [] =
      ((ofOptional second).render style).toList ++ [] :=
    congrArg (fun text : String => text.toList ++ []) h
  exact (isDelimited_render (isWritable_ofOptional first hfirst)
    (isWritable_ofOptional second hsecond) (stops_nil _) (stops_nil _) htexts).1

/-- A list of labels or null; quotes, commas and brackets stand in the labels. -/
def labels (description : String) (type : Option String) : Schema :=
  .array { description := .str description } (some (.enumeration { nullable := true }
    [.str "a\", \"b", .str "))", .list [.int (-1), .null], .object [("]", .bool true)]] type))

theorem isFloatFree_labels (description : String) (type : Option String) :
    ∀ value ∈ (ofOptional (some (labels description type))).values, IsFloatFree value := by
  have hvalues : (ofOptional (some (labels description type))).values =
      [.str "a\", \"b", .str "))", .list [.int (-1), .null], .object [("]", .bool true)]] := rfl
  rw [hvalues]
  simp only [List.forall_mem_cons]
  refine ⟨.str _, .str _, .list ?_, .object ?_, by simp⟩
  · simpa using ⟨IsFloatFree.int (-1), .null⟩
  · simpa using IsFloatFree.bool true

/-- Labels that differ in what is not part of their type are written alike and have one type. -/
theorem ofOptional_labels :
    schemaText .bare (some (labels "Old" none)) = schemaText .bare (some (labels "New" "string")) ∧
      ofOptional (some (labels "Old" none)) = ofOptional (some (labels "New" "string")) := by
  have htexts : schemaText .bare (some (labels "Old" none)) =
      schemaText .bare (some (labels "New" "string")) := rfl
  exact ⟨htexts, ofOptional_eq_of_schemaText_eq (isFloatFree_labels "Old" none)
    (isFloatFree_labels "New" "string") htexts⟩

end ClientGen.TypeExpr
