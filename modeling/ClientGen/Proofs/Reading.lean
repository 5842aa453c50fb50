import ClientGen.Document
import ClientGen.Proofs.Outcome
import ClientGen.Proofs.Reference

/-!
# Documents that are read have distinct names

A reader of JSON or YAML puts the fields of an object in order with `Entries.ofList`, so no object
within a document that was read has a name twice (`hasDistinctNames_of_parseContent`).  In YAML the
values of scalars come from nodes that are read before the collections around them, so it has to be
known of every node on the way that its scalar holds no other values (`Store.HoldsAtoms`).
-/

namespace ClientGen

namespace Value

theorem hasDistinctNames_of_isAtom {value : Value} (h : value.isAtom = true) :
    value.hasDistinctNames = true := by
  cases value with
  | object | list => cases h
  | _ => rfl

/-- Whether the value holds no others. -/
def isScalar : Value → Bool
  | list _ | object _ | set _ | tuple _ | mapping _ => false
  | _ => true

theorem hasDistinctNames_of_isScalar {value : Value} (h : value.isScalar = true) :
    value.hasDistinctNames = true := by
  refine hasDistinctNames_of_isAtom ?_
  cases value with
  | object | list => cases h
  | _ => rfl

theorem hasDistinctNames_list {items : List Value}
    (h : ∀ item ∈ items, item.hasDistinctNames = true) :
    (Value.list items).hasDistinctNames = true := by
  unfold hasDistinctNames
  rw [everyObject]
  exact (everyObjectOfItems_iff items).mpr h

/-- The object of a list of pairs has distinct names if the values of the pairs have. -/
theorem hasDistinctNames_ofList {pairs : List (String × Value)}
    (h : ∀ entry ∈ pairs, entry.2.hasDistinctNames = true) :
    (Value.object (Entries.ofList pairs)).hasDistinctNames = true := by
  have hnames : (Entries.keys (Entries.ofList pairs)).Nodup :=
    Entries.nodup_keys_overlay pairs List.nodup_nil
  unfold hasDistinctNames
  rw [everyObject, Bool.and_eq_true]
  refine ⟨decide_eq_true hnames, (everyObjectOfFields_iff _).mpr ?_⟩
  intro entry hentry
  rcases Entries.mem_overlay hentry with hpair | hnone
  · exact h entry hpair
  · cases hnone

end Value

/-! ### JSON -/

namespace Json

theorem yields_integer (negative : Bool) (digits : List Char) (left : Nat) :
    Yields (fun value => value.isAtom = true) (integer negative digits left) := by
  unfold integer
  split
  · exact .error _
  · exact .ok rfl

theorem yields_readNumber (negative : Bool) (left : Nat) (cs : List Char) :
    Yields (fun step => step.1.isAtom = true) (readNumber negative left cs) := by
  unfold readNumber
  extract_lets digits rest
  split_ifs
  · exact .error _
  · obtain ⟨fraction, rest'⟩ := (readFraction rest).getD ([], rest)
    dsimp only
    split
    · exact (yields_integer negative digits left).map fun _ hvalue => hvalue
    · exact .ok rfl
    · exact .ok rfl

theorem yields_readScalar (cs : List Char) :
    Yields (fun step => step.1.isAtom = true) (readScalar cs) := by
  unfold readScalar
  dsimp only
  split
  · rename_i step hstep
    obtain ⟨⟨word, value⟩, hword, hread⟩ := List.exists_of_findSome?_eq_some hstep
    unfold readWord at hread
    split at hread
    · cases hread
      refine .ok ?_
      simp only [List.mem_cons, Prod.mk.injEq, List.not_mem_nil, or_false] at hword
      rcases hword with h | h | h | h | h | h <;> rw [h.2] <;> rfl
    · cases hread
  · split <;> exact yields_readNumber _ _ _

/-- Values, items and fields that are read have distinct names, by induction on the fuel that the
three readers share. -/
theorem yields_readParts (fuel : Nat) :
    (∀ cs, Yields (fun step => step.1.hasDistinctNames = true) (readValue fuel cs)) ∧
    (∀ cs, Yields (fun step => ∀ item ∈ step.1, item.hasDistinctNames = true)
      (readItems fuel cs)) ∧
    ∀ cs, Yields (fun step => ∀ entry ∈ step.1, entry.2.hasDistinctNames = true)
      (readFields fuel cs) := by
  induction fuel with
  | zero =>
    refine ⟨fun cs => ?_, fun cs => ?_, fun cs => ?_⟩
    · rw [readValue]
      exact .error _
    · rw [readItems]
      exact .error _
    · rw [readFields]
      exact .error _
  | succ fuel ih =>
    obtain ⟨hvalue, hitems, hfields⟩ := ih
    refine ⟨fun cs => ?_, fun cs => ?_, fun cs => ?_⟩
    · unfold readValue
      split
      · exact fun step hstep => by
          obtain ⟨_, -, rfl⟩ := map_eq_ok.mp hstep
          rfl
      · split
        · exact .ok rfl
        · exact (hitems _).map fun _ => Value.hasDistinctNames_list
      · split
        · exact .ok rfl
        · exact (hfields _).map fun _ => Value.hasDistinctNames_ofList
      · intro step hstep
        exact Value.hasDistinctNames_of_isAtom (yields_readScalar _ step hstep)
    · unfold readItems
      split
      · exact .error _
      · rename_i item rest hitem
        have hread := hvalue _ _ hitem
        split
        · exact .ok (List.forall_mem_singleton.mpr hread)
        · exact (hitems _).map fun _ hrest => List.forall_mem_cons.mpr ⟨hread, hrest⟩
        · exact .error _
    · unfold readFields
      split
      · split
        · exact .error _
        · split
          · split
            · exact .error _
            · rename_i value rest hfound
              have hread := hvalue _ _ hfound
              split
              · exact .ok (List.forall_mem_singleton.mpr hread)
              · exact (hfields _).map fun _ hrest => List.forall_mem_cons.mpr ⟨hread, hrest⟩
              · exact .error _
          · exact .error _
      · exact .error _

theorem yields_read (text : String) :
    Yields (fun value => value.hasDistinctNames = true) (read text) := by
  unfold read readChars
  split
  · exact .error _
  · split
    · exact .error _
    · rename_i value rest hvalue
      split
      · exact .ok ((yields_readParts _).1 _ _ hvalue)
      · exact .error _

end Json

/-! ### YAML -/

namespace Yaml

theorem yields_intValue (text : String) :
    Yields (fun value => value.isScalar = true) (intValue text) := by
  unfold intValue
  extract_lets cs negative body signed jump
  have hjump : Yields (fun value => value.isScalar = true) (jump ()) := by
    unfold jump
    clear jump
    clear_value body
    split
    · exact .error _
    · exact .ok rfl
    · exact .skip fun _ => .ok rfl
    · exact .skip fun _ => .ok rfl
    · exact .skip fun _ => .ok rfl
    · split
      · exact .skip fun _ => .ok rfl
      · exact .skip fun _ => .ok rfl
  split
  · exact .error _
  · exact hjump

theorem yields_floatValue (text : String) :
    Yields (fun value => value.isScalar = true) (floatValue text) := by
  unfold floatValue
  extract_lets cs negative body signed jump
  have hjump : Yields (fun value => value.isScalar = true) (jump ()) := by
    unfold jump
    split
    · exact .ok rfl
    · split
      · exact .ok rfl
      · split
        · exact .skip fun _ => .skip fun _ => .ok rfl
        · exact .skip fun _ => .ok rfl
  split
  · exact .error _
  · exact hjump

theorem yields_timestampValue (text : String) :
    Yields (fun value => value.isScalar = true) (timestampValue text) := by
  have hmap : ∀ {α ε : Type} {x : Except ε α} {f : α → Value}, (∀ a, (f a).isScalar = true) →
      Yields (fun value => value.isScalar = true) (f <$> x) :=
    fun hf => .map (P := fun _ => True) (fun _ _ => trivial) fun a _ => hf a
  unfold timestampValue
  split
  · exact .error _
  · rename_i parts _
    extract_lets year month day
    split
    · exact (hmap fun _ => rfl).mapError _
    · extract_lets digits microsecond offset
      exact (hmap fun _ => rfl).mapError _

/-- A scalar holds no other values. -/
theorem yields_scalarValue (tag : Tag) (text : String) :
    Yields (fun value => value.isScalar = true) (scalarValue tag text) := by
  unfold scalarValue
  split
  · exact .ok rfl
  · unfold boolValue
    extract_lets word
    split_ifs
    · exact .ok rfl
    · exact .ok rfl
    · exact .error _
  · exact yields_intValue text
  · exact yields_floatValue text
  · unfold octetsValue
    extract_lets cs
    split_ifs
    · exact .error _
    · split
      · exact .ok rfl
      · exact .error _
  · exact yields_timestampValue text
  · exact .ok rfl
  · exact .error _

namespace Store

/-- The scalars that nodes stand for hold no other values. -/
def HoldsAtoms (s : Store) : Prop :=
  ∀ n value isWord, s.object? n = some (.leaf value isWord) → value.isScalar = true

theorem eq_or_of_object?_put {s : Store} {n m : Nat} {object found : Object}
    (h : (s.put n object).object? m = some found) : found = object ∨ s.object? m = some found := by
  unfold put object? at h
  rw [Array.getElem?_setIfInBounds] at h
  split_ifs at h
  · cases h
    exact Or.inl rfl
  · cases h
  · exact Or.inr h

namespace HoldsAtoms

variable {s : Store} (hs : s.HoldsAtoms)

include hs

theorem put {object : Object} (n : Nat)
    (h : ∀ value isWord, object = .leaf value isWord → value.isScalar = true) :
    (s.put n object).HoldsAtoms := by
  intro m value isWord hfound
  rcases eq_or_of_object?_put hfound with hobject | hbefore
  · exact h value isWord hobject.symm
  · exact hs m value isWord hbefore

theorem meet (n : Nat) : Yields HoldsAtoms (s.meet n) := by
  have hempty : ∀ {object : Object}, (∀ value isWord, object ≠ .leaf value isWord) →
      (s.meetCollection n object).HoldsAtoms :=
    fun hobject => hs.put n fun value isWord h => absurd h (hobject value isWord)
  unfold Store.meet
  split
  · exact .ok hs
  · split
    · exact .ok (hempty nofun)
    · exact .ok (hempty nofun)
    · exact .ok (hempty nofun)
    · exact .ok (hempty nofun)
    · exact .ok (hempty nofun)
    · exact .error _
    · exact .error _
    · exact .error _
    · unfold meetScalar
      refine .skip fun text => ?_
      split
      · exact .error _
      · refine (yields_scalarValue _ text).bind fun value hvalue => .ok (hs.put n ?_)
        intro value' isWord h
        cases h
        exact hvalue

theorem meetEntries (known entries : List (Nat × Nat)) :
    Yields (fun met => met.1.HoldsAtoms) (s.meetEntries known entries) := by
  induction entries generalizing s known with
  | nil => exact .ok hs
  | cons entry rest ih =>
    unfold Store.meetEntries
    refine (hs.meet entry.1).bind fun s hs => ?_
    split
    · exact .error _
    · exact (hs.meet entry.2).bind fun s hs => ih hs _

theorem meetPairs (items : List Nat) :
    Yields (fun met => met.1.HoldsAtoms) (s.meetPairs items) := by
  induction items generalizing s with
  | nil => exact .ok hs
  | cons item rest ih =>
    unfold Store.meetPairs
    split
    · refine (hs.meet _).bind fun s hs => (hs.meet _).bind fun s hs => ?_
      exact (ih hs).bind fun met hmet => .ok hmet
    · exact .error _

theorem meetItems (items : List Nat) :
    Yields HoldsAtoms (items.foldlM (fun s item => s.meet item) s) := by
  induction items generalizing s with
  | nil => exact .ok hs
  | cons item rest ih =>
    rw [List.foldlM_cons]
    exact (hs.meet item).bind fun s hs => ih hs

theorem fill (fuel n : Nat) : Yields HoldsAtoms (s.fill fuel n) := by
  unfold Store.fill
  split
  · exact (hs.meetItems _).bind fun s hs => .ok (hs.put n nofun)
  · exact (hs.meetPairs _).bind fun met hmet => .ok (hmet.put n nofun)
  · exact (hs.meetPairs _).bind fun met hmet => .ok (hmet.put n nofun)
  · refine .skip fun graph => ?_
    have hgraph : HoldsAtoms { s with graph } := hs
    exact (hgraph.meetEntries _ _).bind fun met hmet => .ok (hmet.put n nofun)
  · refine .skip fun graph => ?_
    have hgraph : HoldsAtoms { s with graph } := hs
    exact (hgraph.meetEntries _ _).bind fun met hmet => .ok (hmet.put n nofun)
  · exact .error _

theorem fillFrom (fuel place left : Nat) : Yields HoldsAtoms (s.fillFrom fuel place left) := by
  induction left generalizing s place with
  | zero => exact .ok hs
  | succ left ih =>
    unfold Store.fillFrom
    split
    · exact .ok hs
    · exact (hs.fill fuel _).bind fun s hs => ih hs _

end HoldsAtoms

theorem yields_ofGraph (g : Graph) (root : Nat) : Yields HoldsAtoms (ofGraph g root) := by
  have hstart : HoldsAtoms { graph := g, objects := Array.replicate g.size none } := by
    intro n value isWord h
    unfold object? at h
    rw [Array.getElem?_replicate] at h
    split_ifs at h <;> cases h
  unfold ofGraph
  exact (hstart.meet root).bind fun s hs => hs.fillFrom _ _ _

/-- The value of an object has distinct names where keys become texts.  Pairs, inside which they stay
as they are, hold tuples, whose parts are no longer looked at. -/
theorem yields_value {s : Store} (hs : s.HoldsAtoms) (use : Use) (fuel : Nat) (outer : List Nat)
    (n : Nat) :
    Yields (fun value => value.hasDistinctNames = true) (s.value use fuel true outer n) := by
  induction fuel generalizing outer n with
  | zero =>
    unfold value
    split
    · rename_i hfound
      exact .ok (Value.hasDistinctNames_of_isScalar (hs _ _ _ hfound))
    · exact .ok rfl
    · exact .ok rfl
    · exact .ok rfl
    · contradiction
  | succ fuel ih =>
    unfold value
    split
    · rename_i hfound
      exact .ok (Value.hasDistinctNames_of_isScalar (hs _ _ _ hfound))
    · exact .ok rfl
    · contradiction
    · exact .ok rfl
    · rename_i object hleaf _ hfuel _
      cases hfuel
      extract_lets isInside part plain jump
      have hpart : ∀ m, Yields (fun value => value.hasDistinctNames = true) (part m) :=
        ih (n :: outer)
      have hjump : Yields (fun value => value.hasDistinctNames = true) (jump ()) := by
        unfold jump
        cases object with
        | list items =>
          exact (Yields.mapM fun item _ => hpart item).bind fun values hvalues =>
            .ok (Value.hasDistinctNames_list hvalues)
        | pairs entries =>
          refine Yields.bind (Yields.mapM fun entry _ => ?_) fun values hvalues =>
            .ok (Value.hasDistinctNames_list hvalues)
          exact .skip fun _ => .skip fun _ => .ok rfl
        | table entries =>
          refine Yields.bind (Yields.mapM fun entry _ => ?_) fun pairs hpairs =>
            .ok (Value.hasDistinctNames_ofList hpairs)
          exact .skip fun name => (hpart entry.2).bind fun value hvalue => .ok hvalue
        | leaf value isWord => exact absurd rfl (hleaf value isWord)
        | set keys => exact .ok rfl
      split
      · exact .error _
      · exact hjump

end Store

theorem yields_load (text : String) :
    Yields (fun value => value.hasDistinctNames = true) (load .document text) := by
  unfold load
  refine .skip fun found => ?_
  split
  · exact .ok rfl
  · exact (Store.yields_ofGraph _ _).bind fun s hs => s.yields_value hs _ _ _ _

end Yaml

/-! ### Documents -/

theorem yields_parseJson (text : String) :
    Yields (fun value => value.hasDistinctNames = true) (parseJson text) := by
  unfold parseJson
  split
  · rename_i hread
    exact .ok (Json.yields_read text _ hread)
  · split <;> exact .error _

theorem yields_parseYaml (text : String) :
    Yields (fun value => value.hasDistinctNames = true) (parseYaml text) := by
  unfold parseYaml
  split
  · rename_i hload
    exact .ok (Yaml.yields_load text _ hload)
  · exact .error _
  · exact .error _

/-- **No object within a document that was read has a name twice.** -/
theorem hasDistinctNames_of_parseContent {format : Format} {text : String} {content : Value}
    (h : parseContent format text = .ok content) : content.hasDistinctNames = true := by
  unfold parseContent at h
  split at h
  · cases h
  · cases format with
    | json => exact yields_parseJson text content h
    | yaml => exact yields_parseYaml text content h

end ClientGen
