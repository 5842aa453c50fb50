import ClientGen.Proofs.Resolution.Derivation

/-!
# References that are left over

A strict resolution accounts for the references that it leaves: each is a link, circular, or leads
out of a bundled document.  That is so for the `outermost` references of the result
(`outermost_accounted`), which stand in no other reference.  A reference that is kept in place is
kept as a whole, though, with whatever stands `beside` its key, and nothing accounts for references
there: `remaining_accounted_iff` says that these are the only ones that can be left over otherwise.
-/

namespace ClientGen

/-! ### References within references -/

namespace Reference

mutual

/-- Collects texts from the objects of a value that are references and stand in no other. -/
def collect (texts : String → List (String × Value) → List String) : Value → List String
  | .object fields =>
    match ofFields? fields with
    | some ref => texts ref fields
    | none => collectFromFields texts fields
  | .list items => collectFromItems texts items
  | _ => []

/-- Collects texts from the values of fields. -/
def collectFromFields (texts : String → List (String × Value) → List String) :
    List (String × Value) → List String
  | [] => []
  | (_, value) :: rest => collect texts value ++ collectFromFields texts rest

/-- Collects texts from the items of a list. -/
def collectFromItems (texts : String → List (String × Value) → List String) :
    List Value → List String
  | [] => []
  | item :: rest => collect texts item ++ collectFromItems texts rest

end

/-- The references that stand in no other. -/
def outermost (value : Value) : List String :=
  collect (fun ref _ => [ref]) value

/-- The references that stand in another. -/
def beside (value : Value) : List String :=
  collect (fun _ fields => fieldOccurrences fields) value

section Collect

variable {texts : String → List (String × Value) → List String} {ref text : String}
  {fields : List (String × Value)}

theorem collect_reference (href : ofFields? fields = some ref) :
    collect texts (.object fields) = texts ref fields := by
  rw [collect, href]

theorem mem_collectFromFields :
    text ∈ collectFromFields texts fields ↔ ∃ entry ∈ fields, text ∈ collect texts entry.2 := by
  induction fields with
  | nil => simp [collectFromFields]
  | cons entry rest ih =>
    rw [collectFromFields, List.mem_append, ih, List.exists_mem_cons_iff]

theorem mem_collect_object (href : ofFields? fields = none) :
    text ∈ collect texts (.object fields) ↔ ∃ entry ∈ fields, text ∈ collect texts entry.2 := by
  rw [collect, href]
  exact mem_collectFromFields

theorem mem_collect_list {items : List Value} :
    text ∈ collect texts (.list items) ↔ ∃ item ∈ items, text ∈ collect texts item := by
  rw [collect]
  induction items with
  | nil => simp [collectFromItems]
  | cons item rest ih =>
    rw [collectFromItems, List.mem_append, ih, List.exists_mem_cons_iff]

theorem collect_atom {value : Value} (hatom : value.isAtom = true) : collect texts value = [] := by
  cases value <;> first | rfl | cases hatom

theorem occurrences_atom {value : Value} (hatom : value.isAtom = true) : occurrences value = [] := by
  cases value <;> first | rfl | cases hatom

theorem mem_occurrences_of_of? {value : Value} (h : of? value = some ref) :
    ref ∈ occurrences value := by
  cases value with
  | object fields => exact mem_occurrences_object.mpr (Or.inl h)
  | _ => cases h

/-- A reference in a value stands in no other or in another. -/
theorem mem_occurrences_iff {value : Value} :
    ref ∈ occurrences value ↔ ref ∈ outermost value ∨ ref ∈ beside value := by
  unfold outermost beside
  induction value using Value.inductionOnParts with
  | atom value hatom => simp [occurrences_atom hatom, collect_atom hatom]
  | list items ih =>
    rw [mem_occurrences_list, mem_collect_list, mem_collect_list]
    constructor
    · rintro ⟨item, hitem, hocc⟩
      exact ((ih item hitem).mp hocc).imp (⟨item, hitem, ·⟩) (⟨item, hitem, ·⟩)
    · rintro (⟨item, hitem, hocc⟩ | ⟨item, hitem, hocc⟩)
      · exact ⟨item, hitem, (ih item hitem).mpr (Or.inl hocc)⟩
      · exact ⟨item, hitem, (ih item hitem).mpr (Or.inr hocc)⟩
  | object fields ih =>
    cases href : ofFields? fields with
    | some found =>
      rw [occurrences, collect_reference href, collect_reference href, href, List.mem_append]
      rfl
    | none =>
      rw [mem_occurrences_object, href, mem_collect_object href, mem_collect_object href]
      constructor
      · rintro (hnone | ⟨entry, hentry, hocc⟩)
        · cases hnone
        · exact ((ih entry hentry).mp hocc).imp (⟨entry, hentry, ·⟩) (⟨entry, hentry, ·⟩)
      · rintro (⟨entry, hentry, hocc⟩ | ⟨entry, hentry, hocc⟩)
        · exact Or.inr ⟨entry, hentry, (ih entry hentry).mpr (Or.inl hocc)⟩
        · exact Or.inr ⟨entry, hentry, (ih entry hentry).mpr (Or.inr hocc)⟩

end Collect

/-- Whether no reference stands right under the key of references. -/
def keysHoldNone (value : Value) : Bool :=
  value.everyObject fun fields => (Entries.get? key fields).all fun named => (of? named).isNone

/-- Whether no reference stands in another. -/
def standApart (value : Value) : Bool :=
  value.everyObject fun fields => (ofFields? fields).isNone || (fieldOccurrences fields).isEmpty

end Reference

namespace Resolution

/-! ### References on record stay there -/

/-- What is on record about references in one journal is so in another. -/
structure Journal.Within (j k : Journal) : Prop where
  circular : j.circular ⊆ k.circular
  linked : j.linked ⊆ k.linked

theorem Journal.Within.refl (j : Journal) : j.Within j := ⟨List.Subset.refl _, List.Subset.refl _⟩

theorem Journal.Within.trans {j k l : Journal} (h : j.Within k) (h' : k.Within l) : j.Within l :=
  ⟨List.Subset.trans h.circular h'.circular, List.Subset.trans h.linked h'.linked⟩

section Within

variable {settings : Settings} {context : Context} {seen : List String} {ref : String}
  {j k : Journal}

theorem Keeps.within (h : Keeps settings context seen ref j k) : j.Within k := by
  have hadd : ∀ texts, texts ⊆ Reference.addOnce ref texts :=
    fun _ _ htext => Reference.mem_addOnce.mpr (Or.inr htext)
  cases h with
  | link => exact ⟨List.Subset.refl _, hadd _⟩
  | circular => exact ⟨hadd _, List.Subset.refl _⟩
  | outside => exact .refl j
  | failed _ _ hcircular hlinked =>
    refine ⟨?_, ?_⟩
    · rw [hcircular]
      exact List.Subset.refl _
    · rw [hlinked]
      exact List.Subset.refl _

theorem Leads.within {identity : String} {inner : Context} {target : Value}
    (h : Leads settings context seen ref j identity inner target k) : j.Within k := by
  cases h with
  | here => exact .refl j
  | elsewhere _ _ _ _ _ _ hrecord =>
    refine ⟨?_, ?_⟩
    · rw [hrecord.circular]
      exact List.Subset.refl _
    · rw [hrecord.linked]
      exact List.Subset.refl _

theorem InTurn.within {α β : Type} {R : α → Journal → β → Journal → Prop}
    (hR : ∀ {a j b k}, R a j b k → j.Within k) {entries : List α} {results : List β}
    (h : InTurn R entries j results k) : j.Within k := by
  induction h with
  | nil => exact .refl _
  | cons hfirst _ ih => exact (hR hfirst).trans ih

theorem Resolves.within {value result : Value}
    (h : Resolves settings context seen value j result k) : j.Within k := by
  induction h using Resolves.inductionOn with
  | atom => exact .refl _
  | list _ hitems => exact hitems.within fun ⟨_, hresult⟩ => hresult
  | object _ _ hfields => exact hfields.within fun ⟨_, _, hresult⟩ => hresult
  | kept _ hkeeps => exact hkeeps.within
  | replaced _ hleads _ _ htarget => exact hleads.within.trans htarget
  | overlaid _ hleads _ _ htarget hsiblings =>
    exact hleads.within.trans (htarget.trans (hsiblings.within fun ⟨_, _, hresult⟩ => hresult))

/-- Each result in turn comes from an entry, and what was on record then is so at the end. -/
theorem InTurn.exists_within {α β : Type} {R : α → Journal → β → Journal → Prop}
    (hR : ∀ {a j b k}, R a j b k → j.Within k) {entries : List α} {results : List β}
    (h : InTurn R entries j results k) {b : β} (hb : b ∈ results) :
    ∃ a ∈ entries, ∃ j' k', R a j' b k' ∧ k'.Within k := by
  induction h with
  | nil => cases hb
  | cons hfirst hrest ih =>
    rcases List.mem_cons.mp hb with rfl | hb
    · exact ⟨_, List.mem_cons_self, _, _, hfirst, hrest.within hR⟩
    · obtain ⟨a, ha, j', k', hresult, hk⟩ := ih hb
      exact ⟨a, List.mem_cons_of_mem _ ha, j', k', hresult, hk⟩

end Within

/-! ### Where new references could come from -/

section Text

variable {settings : Settings} {context inner : Context} {seen : List String}
  {ref identity : String} {value target result : Value} {j k : Journal}

/-- What is neither a text nor a reference does not become a text. -/
theorem Resolves.str?_eq_none (h : Resolves settings context seen value j result k)
    (href : Reference.of? value = none) (htext : value.str? = none) : result.str? = none := by
  cases h with
  | atom => exact htext
  | list => rfl
  | object => rfl
  | kept => rfl
  | replaced hsome | overlaid hsome =>
    rw [Reference.of?, hsome] at href
    cases href

/-- An object that is no reference does not become one, unless a reference stands under the key. -/
theorem InTurn.ofFields?_eq_none {fields resolved : List (String × Value)}
    (h : InTurn (ResolvesField settings context seen) fields j resolved k)
    (href : Reference.ofFields? fields = none)
    (hnone : (Entries.get? Reference.key fields).all fun named => (Reference.of? named).isNone) :
    Reference.ofFields? resolved = none := by
  induction h with
  | nil => rfl
  | @cons field result rest more _ _ _ hfirst _ ih =>
    obtain ⟨name, value⟩ := field
    obtain ⟨name', value'⟩ := result
    obtain ⟨hname, hvalue⟩ := hfirst
    dsimp only at hname hvalue
    subst hname
    unfold Reference.ofFields? at href ih ⊢
    rw [Entries.get?_cons] at href hnone ⊢
    by_cases hkey : name' = Reference.key
    · rw [if_pos hkey] at href hnone ⊢
      exact hvalue.str?_eq_none (Option.isNone_iff_eq_none.mp hnone) href
    · rw [if_neg hkey] at href hnone ⊢
      exact ih href hnone

/-- Where no reference was there is none afterwards. -/
theorem Resolves.notMem_occurrences (h : Resolves settings context seen value j result k)
    (hnone : ∀ ref, ref ∉ Reference.occurrences value) :
    ∀ ref, ref ∉ Reference.occurrences result := by
  have hinherited := Reference.inherited_occurrences fun _ => False
  induction h using Resolves.inductionOn with
  | atom => exact hnone
  | list _ hitems =>
    intro ref hocc
    obtain ⟨result, hresult, hocc⟩ := Reference.mem_occurrences_list.mp hocc
    obtain ⟨item, hitem, _, _, _, hholds⟩ := hitems.exists_of_mem hresult
    exact hholds (hinherited.item hnone hitem) ref hocc
  | @object _ _ fields _ _ _ href hresolved hfields =>
    have hkey : ∀ named, Entries.get? Reference.key fields = some named →
        Reference.of? named = none := by
      intro named hnamed
      cases hof : Reference.of? named with
      | none => rfl
      | some ref =>
        have hentry := hinherited.field hnone (Entries.mem_of_get? hnamed)
        exact absurd (Reference.mem_occurrences_of_of? hof) (hentry ref)
    intro ref hocc
    rcases Reference.mem_occurrences_object.mp hocc with hsome | ⟨result, hresult, hocc⟩
    · have hnew := hresolved.each.ofFields?_eq_none href
        ((Option.all_eq_true _ _).mpr fun named hnamed =>
          Option.isNone_iff_eq_none.mpr (hkey named hnamed))
      rw [hsome] at hnew
      cases hnew
    · obtain ⟨field, hfield, _, _, _, _, hholds⟩ := hfields.exists_of_mem hresult
      exact hholds (hinherited.field hnone hfield) ref hocc
  | kept href | replaced href | overlaid href =>
    exact absurd (Reference.mem_occurrences_object.mpr (Or.inl href)) (hnone _)

end Text

/-! ### Conditions on documents -/

/-- The document that a reference leads to, and the target in it, meet every condition that the
document it stands in and all served documents meet. -/
theorem Leads.documents {D : Value → Prop} (hD : Value.Inherited D) {settings : Settings}
    {context inner : Context} {seen : List String} {ref identity : String} {target : Value}
    {j k : Journal} (hserved : ∀ url document, served? settings.fetcher url = some document →
      D document) (hroot : D context.root)
    (h : Leads settings context seen ref j identity inner target k) : D inner.root ∧ D target := by
  cases h with
  | here _ _ _ hfollow => exact ⟨hroot, Pointer.follow_inherited hD hroot hfollow⟩
  | elsewhere _ _ _ _ _ hfound _ hfollow =>
    have hdocument := hserved _ _ hfound
    exact ⟨hdocument, Pointer.follow_inherited hD hdocument hfollow⟩

/-- What a resolution accounts for: links, circular references, and references out of a bundle. -/
def Accounts (external : Bool) (linked circular : List String) (ref : String) : Prop :=
  ref ∈ linked ∨ ref ∈ circular ∨ (external = false ∧ localPointer? ref = none)

/-- The pointer of a reference into the document selects something. -/
def CanFollow (root : Value) (ref : String) : Prop :=
  ∀ pointer, localPointer? ref = some pointer →
    ∃ target, Pointer.follow root pointer = .ok target

section Accounted

variable {settings : Settings} {content : Value} {context : Context} {seen : List String}
  {ref : String} {j k : Journal}

/-- While a bundle is made, the document at hand is read and every reference that is being expanded
leads somewhere in it. -/
def AtHand (settings : Settings) (content : Value) (context : Context) (seen : List String) : Prop :=
  settings.external = false →
    context = ⟨content, none⟩ ∧ ∀ identity ∈ seen, CanFollow content identity

theorem AtHand.of_leads {inner : Context} {identity : String} {target : Value}
    (h : AtHand settings content context seen)
    (hleads : Leads settings context seen ref j identity inner target k) :
    AtHand settings content inner (identity :: seen) := by
  intro hexternal
  cases hleads with
  | here hpointer _ _ hfollow =>
    obtain ⟨rfl, hseen⟩ := h hexternal
    refine ⟨rfl, List.forall_mem_cons.mpr ⟨?_, hseen⟩⟩
    change CanFollow content ("" ++ ref)
    rw [String.empty_append]
    intro pointer hpointer'
    cases hpointer.symm.trans hpointer'
    exact ⟨_, hfollow⟩
  | elsewhere _ hnot =>
    rw [hexternal] at hnot
    cases hnot

/-- A reference that a strict resolution keeps is accounted for, and can be followed in a bundle. -/
theorem Keeps.accounts (hstrict : settings.lenient = false)
    (hhand : AtHand settings content context seen) {final : Journal} (hfinal : k.Within final)
    (h : Keeps settings context seen ref j k) :
    Accounts settings.external final.linked final.circular ref ∧
      (settings.external = false → CanFollow content ref) := by
  cases h with
  | link hpointer _ hfollow =>
    refine ⟨Or.inl (hfinal.linked (Reference.mem_addOnce.mpr (Or.inl rfl))), ?_⟩
    intro hexternal pointer hpointer'
    obtain ⟨rfl, -⟩ := hhand hexternal
    cases hpointer.symm.trans hpointer'
    exact ⟨_, hfollow⟩
  | circular _ _ hidentity hseen =>
    refine ⟨Or.inr (Or.inl (hfinal.circular (Reference.mem_addOnce.mpr (Or.inl rfl)))), ?_⟩
    intro hexternal pointer hpointer
    obtain ⟨rfl, hfollow⟩ := hhand hexternal
    unfold identity? at hidentity
    rw [hpointer] at hidentity
    cases hidentity
    have hsame : (none : Option String).getD "" ++ ref = ref := String.empty_append
    rw [hsame] at hseen
    exact hfollow ref hseen pointer hpointer
  | outside hpointer hexternal =>
    refine ⟨Or.inr (Or.inr ⟨hexternal, hpointer⟩), ?_⟩
    intro _ pointer hpointer'
    rw [hpointer] at hpointer'
    cases hpointer'
  | failed _ hlenient =>
    rw [hstrict] at hlenient
    cases hlenient

end Accounted

/-! ### What is left in a result -/

section Left

variable {settings : Settings} {context : Context} {seen : List String} {value result : Value}
  {j k : Journal}

theorem InTurn.key_notMem {motive : ∀ {context seen value j result k},
      Resolves settings context seen value j result k → Prop}
    {fields above : List (String × Value)}
    (h : InTurn (FieldAndHolds settings motive context seen) (Reference.siblings fields) j above k) :
    Reference.key ∉ Entries.keys above := by
  intro hmem
  obtain ⟨result, hresult, hkey⟩ := List.mem_map.mp hmem
  obtain ⟨field, hfield, _, _, hname, -⟩ := h.exists_of_mem hresult
  refine Reference.key_notMem_keys_siblings fields (List.mem_map.mpr ⟨field, hfield, ?_⟩)
  rw [← hname, hkey]

theorem ofFields?_overlay {above : List (String × Value)} (hkey : Reference.key ∉ Entries.keys above)
    (below : List (String × Value)) :
    Reference.ofFields? (Entries.overlay above below) = Reference.ofFields? below := by
  unfold Reference.ofFields?
  rw [Entries.get?_overlay_of_notMem hkey]

/-- **Every outermost reference that a strict resolution leaves is accounted for**, and in a bundle
it can be followed. -/
theorem Resolves.outermost_accounts {content : Value} {final : Journal}
    (hstrict : settings.lenient = false)
    (hserved : ∀ url document, served? settings.fetcher url = some document →
      Reference.keysHoldNone document = true)
    (h : Resolves settings context seen value j result k)
    (hhand : AtHand settings content context seen)
    (hroot : Reference.keysHoldNone context.root = true)
    (hvalue : Reference.keysHoldNone value = true) (hfinal : k.Within final) :
    ∀ ref ∈ Reference.outermost result,
      Accounts settings.external final.linked final.circular ref ∧
        (settings.external = false → CanFollow content ref) := by
  have hinherited := Value.inherited_everyObject fun fields =>
    (Entries.get? Reference.key fields).all fun named => (Reference.of? named).isNone
  unfold Reference.outermost
  induction h using Resolves.inductionOn with
  | atom hatom =>
    rw [Reference.collect_atom hatom]
    exact fun _ hnil => absurd hnil List.not_mem_nil
  | list _ hitems =>
    intro ref href
    obtain ⟨result, hresult, href⟩ := Reference.mem_collect_list.mp href
    obtain ⟨item, hitem, _, _, ⟨_, hholds⟩, hwithin⟩ :=
      hitems.exists_within (fun ⟨hresolves, _⟩ => hresolves.within) hresult
    exact hholds hhand hroot (hinherited.item hvalue hitem) (hwithin.trans hfinal) ref href
  | object hof hresolved hfields =>
    intro ref href
    have hnew := hresolved.each.ofFields?_eq_none hof (Value.test_of_everyObject hvalue)
    obtain ⟨result, hresult, href⟩ := (Reference.mem_collect_object hnew).mp href
    obtain ⟨field, hfield, _, _, ⟨_, _, hholds⟩, hwithin⟩ :=
      hfields.exists_within (fun ⟨_, hresolves, _⟩ => hresolves.within) hresult
    exact hholds hhand hroot (hinherited.field hvalue hfield) (hwithin.trans hfinal) ref href
  | kept hof hkeeps =>
    rw [Reference.collect_reference hof]
    exact List.forall_mem_singleton.mpr (hkeeps.accounts hstrict hhand hfinal)
  | replaced _ hleads _ _ htarget =>
    obtain ⟨hinner, htargetHolds⟩ := hleads.documents hinherited hserved hroot
    exact htarget (hhand.of_leads hleads) hinner htargetHolds hfinal
  | @overlaid _ _ _ _ above below _ _ _ _ _ _ _ hof hleads _ hsiblings htarget hturn =>
    obtain ⟨hinner, htargetHolds⟩ := hleads.documents hinherited hserved hroot
    have hl := hturn.within fun ⟨_, hresolves, _⟩ => hresolves.within
    have hbelow := htarget (hhand.of_leads hleads) hinner htargetHolds (hl.trans hfinal)
    have hoverlay := ofFields?_overlay hturn.key_notMem below
    intro ref href
    cases hofBelow : Reference.ofFields? below with
    | some found =>
      rw [hofBelow] at hoverlay
      rw [Reference.collect_reference hofBelow] at hbelow
      rw [Reference.collect_reference hoverlay] at href
      exact hbelow ref href
    | none =>
      rw [hofBelow] at hoverlay
      obtain ⟨entry, hentry, href⟩ := (Reference.mem_collect_object hoverlay).mp href
      rcases Entries.mem_overlay hentry with hentry | hentry
      · obtain ⟨field, hfield, _, _, ⟨_, _, hholds⟩, hwithin⟩ :=
          hturn.exists_within (fun ⟨_, hresolves, _⟩ => hresolves.within) hentry
        have hfieldHolds := hinherited.field hvalue (Reference.mem_of_mem_siblings hfield)
        exact hholds hhand hroot hfieldHolds (hwithin.trans hfinal) ref href
      · exact hbelow ref ((Reference.mem_collect_object hofBelow).mpr ⟨entry, hentry, href⟩)

/-- A document in which no reference stands in another, or right under the key of one. -/
def StandsApart (value : Value) : Prop :=
  Reference.keysHoldNone value = true ∧ Reference.standApart value = true

theorem inherited_standsApart : Value.Inherited StandsApart :=
  (Value.inherited_everyObject _).and (Value.inherited_everyObject _)

theorem StandsApart.notMem_occurrences {fields : List (String × Value)} {ref : String}
    (h : StandsApart (.object fields)) (href : Reference.ofFields? fields = some ref) :
    ∀ entry ∈ fields, ∀ ref, ref ∉ Reference.occurrences entry.2 := by
  have htest := Value.test_of_everyObject h.2
  rw [href, Option.isNone_some, Bool.false_or, List.isEmpty_iff] at htest
  intro entry hentry ref hocc
  have hmem := Reference.mem_fieldOccurrences.mpr ⟨entry, hentry, hocc⟩
  rw [htest] at hmem
  cases hmem

/-- Documents in which no reference stands in another are resolved to such. -/
theorem Resolves.notMem_beside
    (hserved : ∀ url document, served? settings.fetcher url = some document → StandsApart document)
    (h : Resolves settings context seen value j result k) (hroot : StandsApart context.root)
    (hvalue : StandsApart value) : ∀ ref, ref ∉ Reference.beside result := by
  have hinherited := inherited_standsApart
  unfold Reference.beside
  induction h using Resolves.inductionOn with
  | atom hatom =>
    rw [Reference.collect_atom hatom]
    exact fun _ => List.not_mem_nil
  | list _ hitems =>
    intro ref href
    obtain ⟨result, hresult, href⟩ := Reference.mem_collect_list.mp href
    obtain ⟨item, hitem, _, _, _, hholds⟩ := hitems.exists_of_mem hresult
    exact hholds hroot (hinherited.item hvalue hitem) ref href
  | object hof hresolved hfields =>
    intro ref href
    have hnew := hresolved.each.ofFields?_eq_none hof (Value.test_of_everyObject hvalue.1)
    obtain ⟨result, hresult, href⟩ := (Reference.mem_collect_object hnew).mp href
    obtain ⟨field, hfield, _, _, _, _, hholds⟩ := hfields.exists_of_mem hresult
    exact hholds hroot (hinherited.field hvalue hfield) ref href
  | kept hof _ =>
    rw [Reference.collect_reference hof]
    intro ref href
    obtain ⟨entry, hentry, hocc⟩ := Reference.mem_fieldOccurrences.mp href
    exact hvalue.notMem_occurrences hof entry hentry ref hocc
  | replaced _ hleads _ _ htarget =>
    obtain ⟨hinner, htargetHolds⟩ := hleads.documents hinherited hserved hroot
    exact htarget hinner htargetHolds
  | @overlaid _ _ _ _ above below _ _ _ _ _ _ _ hof hleads _ _ htarget hturn =>
    obtain ⟨hinner, htargetHolds⟩ := hleads.documents hinherited hserved hroot
    have hbelow := htarget hinner htargetHolds
    have habove : ∀ entry ∈ above, ∀ ref, ref ∉ Reference.occurrences entry.2 := by
      intro entry hentry
      obtain ⟨field, hfield, _, _, _, hresolves, _⟩ := hturn.exists_of_mem hentry
      exact hresolves.notMem_occurrences
        (hvalue.notMem_occurrences hof field (Reference.mem_of_mem_siblings hfield))
    have hoverlay := ofFields?_overlay hturn.key_notMem below
    intro ref href
    cases hofBelow : Reference.ofFields? below with
    | some found =>
      rw [hofBelow] at hoverlay
      rw [Reference.collect_reference hofBelow] at hbelow
      rw [Reference.collect_reference hoverlay] at href
      obtain ⟨entry, hentry, hocc⟩ := Reference.mem_fieldOccurrences.mp href
      rcases Entries.mem_overlay hentry with hentry | hentry
      · exact habove entry hentry ref hocc
      · exact hbelow ref (Reference.mem_fieldOccurrences.mpr ⟨entry, hentry, hocc⟩)
    | none =>
      rw [hofBelow] at hoverlay
      obtain ⟨entry, hentry, href⟩ := (Reference.mem_collect_object hoverlay).mp href
      rcases Entries.mem_overlay hentry with hentry | hentry
      · exact habove entry hentry ref (Reference.mem_occurrences_iff.mpr (Or.inr href))
      · exact hbelow ref ((Reference.mem_collect_object hofBelow).mpr ⟨entry, hentry, href⟩)

end Left

/-! ### The whole document -/

/-- The check passes exactly when every reference that is left is a link or circular. -/
theorem check_eq_ok_iff (r : Resolution) :
    r.check true true = .ok r ↔ ∀ ref ∈ r.remaining, ref ∈ r.linked ∨ ref ∈ r.circular := by
  have hresidual : (r.remaining.filter fun ref =>
      !r.circular.contains ref && !(true && r.linked.contains ref)) = [] ↔
      ∀ ref ∈ r.remaining, ref ∈ r.linked ∨ ref ∈ r.circular := by
    rw [List.filter_eq_nil_iff]
    refine forall_congr' fun ref => imp_congr Iff.rfl ?_
    simp only [Bool.true_and, Bool.and_eq_true, Bool.not_eq_true', List.contains_eq_mem,
      decide_eq_false_iff_not]
    tauto
  rw [← hresidual]
  unfold check
  dsimp only
  rw [Bool.not_true, Bool.and_false, if_neg Bool.false_ne_true]
  constructor
  · intro h
    by_contra hne
    rw [if_pos (by simpa using hne)] at h
    cases h
  · intro h
    rw [h]
    rfl

/-- Nothing is left over: all references in the result are accounted for, so that the check of a full
resolution passes, and no dangling reference gets into a bundle. -/
structure LeavesNothing (options : ResolutionOptions) (content : Value) (r : Resolution) : Prop where
  accounted : ∀ ref ∈ r.remaining, Accounts options.external r.linked r.circular ref
  passes : options.external = true → r.check true true = .ok r
  followed : options.external = false → ∀ ref ∈ r.remaining, CanFollow content ref

section Document

variable {options : ResolutionOptions} {fetcher : Net.Fetcher} {file : String} {content : Value}
  {r : Resolution}

theorem leavesNothing_of_forall
    (h : ∀ ref ∈ r.remaining, Accounts options.external r.linked r.circular ref ∧
      (options.external = false → CanFollow content ref)) : LeavesNothing options content r where
  accounted ref href := (h ref href).1
  passes hexternal := by
    refine (check_eq_ok_iff r).mpr fun ref href => ?_
    rcases (h ref href).1 with hlinked | hcircular | ⟨hnot, -⟩
    · exact Or.inl hlinked
    · exact Or.inr hcircular
    · rw [hexternal] at hnot
      cases hnot
  followed hexternal ref href := (h ref href).2 hexternal

/-- A strict resolution leaves nothing over exactly when it leaves nothing over within references that
are kept, as it does when no reference stands in another. -/
theorem leavesNothing_iff (hstrict : options.lenient = false)
    (hcontent : Reference.keysHoldNone content = true)
    (hserved : ∀ url document, served? fetcher url = some document →
      Reference.keysHoldNone document = true)
    (h : (resolve options fetcher file content).outcome = .ok r) :
    (LeavesNothing options content r ↔
      ∀ ref ∈ Reference.beside r.resolved, Accounts options.external r.linked r.circular ref ∧
        (options.external = false → CanFollow content ref)) ∧
    (StandsApart content →
      (∀ url document, served? fetcher url = some document → StandsApart document) →
      LeavesNothing options content r) := by
  obtain ⟨k, hresolves, hr⟩ := resolves_of_resolveWithin h
  have hlinked : r.linked = k.linked := by rw [hr]
  have hcircular : r.circular = k.circular := by rw [hr]
  have hhand : AtHand (options.settings fetcher) content ⟨content, none⟩ [] :=
    fun _ => ⟨rfl, fun _ hnil => absurd hnil List.not_mem_nil⟩
  have houtermost : ∀ ref ∈ Reference.outermost r.resolved,
      Accounts options.external r.linked r.circular ref ∧
        (options.external = false → CanFollow content ref) := by
    rw [hlinked, hcircular]
    exact hresolves.outermost_accounts hstrict hserved hhand hcontent hcontent (.refl k)
  have hremaining : ∀ ref, ref ∈ r.remaining ↔
      ref ∈ Reference.outermost r.resolved ∨ ref ∈ Reference.beside r.resolved :=
    fun ref => Reference.mem_references.trans Reference.mem_occurrences_iff
  have hall : (∀ ref ∈ Reference.beside r.resolved,
      Accounts options.external r.linked r.circular ref ∧
        (options.external = false → CanFollow content ref)) → LeavesNothing options content r :=
    fun hbeside => leavesNothing_of_forall fun ref href =>
      ((hremaining ref).mp href).elim (houtermost ref) (hbeside ref)
  refine ⟨⟨fun hnothing ref href => ?_, hall⟩, fun hapart hserved => hall fun ref href => ?_⟩
  · have hleft := (hremaining ref).mpr (Or.inr href)
    exact ⟨hnothing.accounted ref hleft, fun hexternal => hnothing.followed hexternal ref hleft⟩
  · exact absurd href (hresolves.notMem_beside hserved hapart hapart ref)

end Document

/-- A document in which no reference stands in another, though something stands beside one. -/
def described : Value :=
  .object
    [("components", .object [("schemas", .object [("A", .object [("next", .object
        [("$ref", .str "#/x")])])])]),
      ("x", .object [("$ref", .str "#/components/schemas/A"), ("note", .str "an A")])]

/-- Nothing is left over of the described document. -/
theorem leavesNothing_described :
    ∃ r, (resolve {} unserved "" described).outcome = .ok r ∧ LeavesNothing {} described r := by
  have hrun : (resolve {} unserved "" described).outcome = .ok _ := rfl
  have hserved : ∀ url document, served? unserved url ≠ some document := fun _ _ h => nomatch h
  have hnothing :=
    leavesNothing_iff rfl rfl (fun url document h => absurd h (hserved url document)) hrun
  exact ⟨_, hrun, hnothing.2 ⟨rfl, rfl⟩ fun url document h => absurd h (hserved url document)⟩

/-- A document whose link to a component has a dangling reference beside its key. -/
def annotated : Value :=
  .object
    [("components", .object [("schemas", .object [("A", .object [("type", .str "object")])])]),
      ("x", .object
        [("$ref", .str "#/components/schemas/A"),
          ("note", .object [("$ref", .str "#/missing")])])]

/-- A strict bundle can hold a dangling reference that nothing accounts for. -/
theorem not_leavesNothing_annotated :
    ∃ r, (resolve {} unserved "" annotated).outcome = .ok r ∧
      r.remaining = ["#/components/schemas/A", "#/missing"] ∧
      r.linked = ["#/components/schemas/A"] ∧ r.circular = [] ∧
      Pointer.follow annotated "/missing" = .error (.noKey "missing") ∧
      ¬LeavesNothing {} annotated r := by
  have hrun : (resolve {} unserved "" annotated).outcome = .ok _ := rfl
  have hdangling : Pointer.follow annotated "/missing" = .error (.noKey "missing") := rfl
  refine ⟨_, hrun, rfl, rfl, rfl, hdangling, fun hnothing => ?_⟩
  have hleft : "#/missing" ∈ ["#/components/schemas/A", "#/missing"] := by decide
  obtain ⟨target, hfollow⟩ := hnothing.followed rfl "#/missing" hleft "/missing" rfl
  rw [hdangling] at hfollow
  cases hfollow

end Resolution

end ClientGen
