import ClientGen.Proofs.Resolution.Served
import Mathlib.Data.List.Nodup

/-!
# What a bundle has on record

A bundle has on record which references of its document it lists, keeps as links, and keeps because
they are circular.  Links and circular references are put on record deep inside the walk, also while
targets are resolved of which nothing is left in the end; but each value that is walked through is a
part of the document, so what is on record stays in order (`Journal.IsInOrder`,
`Resolves.isInOrder`).

Servers have no part in it.  With whatever fetchers and limits, a bundle comes to the same
(`resolveFrom_bundle`).
-/

namespace ClientGen

namespace Reference

theorem nodup_addOnce {texts : List String} (h : texts.Nodup) (text : String) :
    (addOnce text texts).Nodup := by
  unfold addOnce
  split
  · exact h
  · rename_i hnew
    refine List.nodup_append.mpr ⟨h, List.nodup_singleton text, fun other hother new hsame => ?_⟩
    rw [List.mem_singleton.mp hsame]
    rintro rfl
    exact hnew (List.contains_iff_mem.mpr hother)

/-- The references of a value are listed once each. -/
theorem nodup_references (value : Value) : (references value).Nodup := by
  unfold references
  generalize occurrences value = texts
  have hfold : ∀ found : List String, found.Nodup →
      (texts.foldl (fun found ref => addOnce ref found) found).Nodup := by
    induction texts with
    | nil => exact fun found h => h
    | cons text rest ih => exact fun found h => ih _ (nodup_addOnce h text)
  exact hfold [] List.nodup_nil

end Reference

namespace Resolution

/-! ### What is on record while a bundle is made -/

/-- A reference to a component schema that is there. -/
def IsComponentLink (content : Value) (ref : String) : Prop :=
  Text.startsWith linkLead ref = true ∧
    ∃ pointer target, localPointer? ref = some pointer ∧
      Pointer.follow content pointer = .ok target

/-- The links and the circular references on record are references of the document, each once; the
links lead to component schemas, and circular references would not be links. -/
structure Journal.IsInOrder (content : Value) (j : Journal) : Prop where
  nodup_linked : j.linked.Nodup
  nodup_circular : j.circular.Nodup
  linked : ∀ ref ∈ j.linked, ref ∈ Reference.occurrences content ∧ IsComponentLink content ref
  circular : ∀ ref ∈ j.circular,
    ref ∈ Reference.occurrences content ∧ Text.startsWith linkLead ref = false

theorem isInOrder_start (content : Value) : Journal.start.IsInOrder content where
  nodup_linked := List.nodup_nil
  nodup_circular := List.nodup_nil
  linked _ href := absurd href List.not_mem_nil
  circular _ href := absurd href List.not_mem_nil

/-- A property of journals that each step keeps is kept in turn. -/
theorem InTurn.preserves {α β : Type} {R : α → Journal → β → Journal → Prop}
    {P : Journal → Prop} {entries : List α} {results : List β} {j k : Journal}
    (hR : ∀ a ∈ entries, ∀ {j b k}, R a j b k → P j → P k) (h : InTurn R entries j results k)
    (hj : P j) : P k := by
  induction h with
  | nil => exact hj
  | cons hfirst _ ih =>
    have hnext := hR _ List.mem_cons_self hfirst hj
    exact ih (fun a ha => hR a (List.mem_cons_of_mem _ ha)) hnext

section Steps

variable {settings : Settings} {content : Value} {seen : List String} {ref : String}
  {j k : Journal}

/-- A bundle keeps as links the references to component schemas, and no others. -/
theorem isLink_bundle (hbundle : settings.external = false) (ref : String) :
    isLink settings ⟨content, none⟩ ref = Text.startsWith linkLead ref := by
  unfold isLink
  rw [hbundle]
  rfl

theorem Keeps.isInOrder (hbundle : settings.external = false)
    (href : ref ∈ Reference.occurrences content)
    (h : Keeps settings ⟨content, none⟩ seen ref j k) (hj : j.IsInOrder content) :
    k.IsInOrder content := by
  cases h with
  | @link pointer target hpointer hlink hfollow =>
    rw [isLink_bundle hbundle] at hlink
    refine ⟨Reference.nodup_addOnce hj.nodup_linked ref, hj.nodup_circular, ?_, hj.circular⟩
    intro other hother
    rcases Reference.mem_addOnce.mp hother with rfl | hold
    · exact ⟨href, hlink, pointer, target, hpointer, hfollow⟩
    · exact hj.linked other hold
  | circular hlink =>
    rw [isLink_bundle hbundle] at hlink
    refine ⟨hj.nodup_linked, Reference.nodup_addOnce hj.nodup_circular ref, hj.linked, ?_⟩
    intro other hother
    rcases Reference.mem_addOnce.mp hother with rfl | hold
    · exact ⟨href, hlink⟩
    · exact hj.circular other hold
  | outside => exact hj
  | failed _ _ hcircular hlinked =>
    refine ⟨?_, ?_, ?_, ?_⟩
    · rw [hlinked]
      exact hj.nodup_linked
    · rw [hcircular]
      exact hj.nodup_circular
    · rw [hlinked]
      exact hj.linked
    · rw [hcircular]
      exact hj.circular

/-- In a bundle every target is a part of the document at hand. -/
theorem Leads.inBundle {inner : Context} {identity : String} {target : Value}
    (hbundle : settings.external = false)
    (h : Leads settings ⟨content, none⟩ seen ref j identity inner target k) :
    inner = ⟨content, none⟩ ∧ k = j ∧
      ∀ ref ∈ Reference.occurrences target, ref ∈ Reference.occurrences content := by
  cases h with
  | here _ _ _ hfollow =>
    have hinherited :=
      Reference.inherited_occurrences fun ref => ref ∈ Reference.occurrences content
    exact ⟨rfl, rfl, Pointer.follow_inherited hinherited (fun _ href => href) hfollow⟩
  | elsewhere _ hexternal =>
    rw [hbundle] at hexternal
    cases hexternal

/-- What is on record stays in order while a part of the document is resolved. -/
theorem Resolves.isInOrder (hbundle : settings.external = false) {context : Context}
    {value result : Value} (h : Resolves settings context seen value j result k)
    (hcontext : context = ⟨content, none⟩)
    (hpart : ∀ ref ∈ Reference.occurrences value, ref ∈ Reference.occurrences content)
    (hj : j.IsInOrder content) : k.IsInOrder content := by
  have hinherited :=
    Reference.inherited_occurrences fun ref => ref ∈ Reference.occurrences content
  induction h using Resolves.inductionOn with
  | atom => exact hj
  | list _ hitems =>
    refine hitems.preserves (fun item hitem _ _ _ hresult hj => ?_) hj
    obtain ⟨_, hholds⟩ := hresult
    exact hholds hcontext (hinherited.item hpart hitem) hj
  | object _ _ hfields =>
    refine hfields.preserves (fun field hfield _ _ _ hresult hj => ?_) hj
    obtain ⟨_, _, hholds⟩ := hresult
    exact hholds hcontext (hinherited.field hpart hfield) hj
  | kept href hkeeps =>
    subst hcontext
    exact hkeeps.isInOrder hbundle (hpart _ (Reference.mem_occurrences_object.mpr (.inl href))) hj
  | replaced _ hleads _ _ htarget =>
    subst hcontext
    obtain ⟨rfl, rfl, htargetPart⟩ := hleads.inBundle hbundle
    exact htarget rfl htargetPart hj
  | overlaid _ hleads _ _ htarget hsiblings =>
    subst hcontext
    obtain ⟨rfl, rfl, htargetPart⟩ := hleads.inBundle hbundle
    refine hsiblings.preserves (fun field hfield _ _ _ hresult hj => ?_)
      (htarget rfl htargetPart hj)
    obtain ⟨_, _, hholds⟩ := hresult
    exact hholds rfl (hinherited.field hpart (Reference.mem_of_mem_siblings hfield)) hj

end Steps

/-! ### Bundles ask no server -/

section Alike

variable {options others : ResolutionOptions} (hbundle : options.external = false)
  (hother : others.external = false) (hlenient : others.lenient = options.lenient)

/-- How a bundle resolves a reference depends on the settings only through their leniency. -/
theorem resolveReference_bundle (settings : Settings) {other : Settings}
    (hbundle : settings.external = false) (hother : other.external = false)
    (hlenient : other.lenient = settings.lenient)
    (expand : Expander) (context : Context) (seen : List String) (ref : String) (kept : Value)
    (overlay : Value → Run Value) :
    resolveReference other expand context seen ref kept overlay =
      resolveReference settings expand context seen ref kept overlay := by
  have hfail : failOr other = failOr settings := by
    funext failure value
    unfold failOr
    rw [hlenient]
  unfold resolveReference
  cases localPointer? ref with
  | none => simp only [hbundle, hother, Bool.false_eq_true, if_false]
  | some pointer =>
    have hlink : link other = link settings := by
      funext context ref pointer value
      unfold link
      rw [hfail]
    have hlocal : expandLocal other = expandLocal settings := by
      funext expand context seen ref pointer value overlay
      unfold expandLocal
      rw [hfail]
    simp only [hbundle, hother, hlink, hlocal]

include hbundle hother hlenient

theorem expanderFrom_bundle (fetchers servers : Net.Changing Net.Fetcher) (depth : Nat) :
    expanderFrom others servers depth = expanderFrom options fetchers depth := by
  induction depth with
  | zero => rfl
  | succ depth ih =>
    have hresolver : ∀ context seen,
        resolverFrom others servers (expanderFrom others servers depth) context seen =
          resolverFrom options fetchers (expanderFrom options fetchers depth) context seen := by
      intro context seen
      funext ref kept overlay
      unfold resolverFrom
      rw [ih]
      refine congrArg (bind get) (funext fun j => ?_)
      exact resolveReference_bundle (settingsAt options fetchers j) hbundle hother hlenient _
        context seen ref kept overlay
    unfold expanderFrom
    funext context seen
    rw [hresolver]

/-- **Bundles ask no server**: whatever the fetchers and the limits, they come to the same. -/
theorem resolveFrom_bundle (fetchers servers : Net.Changing Net.Fetcher) (depth : Nat)
    (file : String) (content : Value) :
    resolveFrom depth others servers file content =
      resolveFrom depth options fetchers file content := by
  have hgates : passRootGates others content = passRootGates options content := by
    unfold passRootGates
    rw [hbundle, hother]
    rfl
  unfold resolveFrom documentFrom
  rw [expanderFrom_bundle hbundle hother hlenient fetchers servers, hgates]

end Alike

/-! ### Bundles -/

/-- What a bundle has on record about the references of its document: each reference once, and
each link and circular reference once and not both; links lead to component schemas of the document,
and circular references would not be links. -/
structure IsInOrder (content : Value) (r : Resolution) : Prop where
  nodup_references : r.references.Nodup
  nodup_linked : r.linked.Nodup
  nodup_circular : r.circular.Nodup
  disjoint : r.linked.Disjoint r.circular
  linked_subset : r.linked ⊆ r.references
  circular_subset : r.circular ⊆ r.references
  linked : ∀ ref ∈ r.linked, IsComponentLink content ref
  circular : ∀ ref ∈ r.circular, Text.startsWith linkLead ref = false

theorem Journal.IsInOrder.resolution {content : Value} {k : Journal} (h : k.IsInOrder content)
    (file : String) (resolved : Value) :
    Resolution.IsInOrder content
      ⟨file, resolved, Reference.references content, k.circular, k.linked, k.errors⟩ where
  nodup_references := Reference.nodup_references content
  nodup_linked := h.nodup_linked
  nodup_circular := h.nodup_circular
  disjoint ref hlinked hcircular := by
    obtain ⟨-, hlead, -⟩ := h.linked ref hlinked
    obtain ⟨-, hnone⟩ := h.circular ref hcircular
    rw [hlead] at hnone
    cases hnone
  linked_subset ref href := Reference.mem_references.mpr (h.linked ref href).1
  circular_subset ref href := Reference.mem_references.mpr (h.circular ref href).1
  linked ref href := (h.linked ref href).2
  circular ref href := (h.circular ref href).2

/-- **The books of a bundle are in order**, and the whole of it is the same whatever servers answer
and whatever the limits on asking them are. -/
theorem bundle_isInOrder {options : ResolutionOptions} (hbundle : options.external = false)
    (fetcher : Net.Fetcher) (file : String) (content : Value) :
    (∀ r, (resolve options fetcher file content).outcome = .ok r → r.IsInOrder content) ∧
    ∀ (others : ResolutionOptions) (fetchers : Net.Changing Net.Fetcher),
      others.external = false → others.lenient = options.lenient →
        resolveFrom (depthFor others content) others fetchers file content =
          resolve options fetcher file content := by
  constructor
  · intro r hr
    obtain ⟨k, hresolves, hbooks⟩ := resolves_of_resolveWithin hr
    have hk := hresolves.isInOrder hbundle rfl (fun _ href => href) (isInOrder_start content)
    rw [hbooks]
    exact hk.resolution file _
  · intro others fetchers hother hlenient
    have hdepth : depthFor others content = depthFor options content := by
      unfold depthFor
      rw [hbundle, hother]
    rw [hdepth, resolveFrom_bundle hbundle hother hlenient (fun _ => fetcher)]
    exact resolveFrom_steady options fetcher _ file content

/-- A document with links to one component from two places, with references in a circle, with one to
another document and with one that dangles. -/
def tangled : Value :=
  .object
    [("components", .object [("schemas", .object [("A", .object [("next", .object
        [("$ref", .str "#/x")])])])]),
      ("x", .object [("$ref", .str "#/y"), ("note", .object
        [("$ref", .str "#/components/schemas/A")])]),
      ("y", .object [("deep", .object [("$ref", .str "#/x")])]),
      ("z", .list [.object [("$ref", .str "#/components/schemas/A")],
        .object [("$ref", .str "https://example.com/b.yaml#/B")],
        .object [("$ref", .str "#/missing")]])]

/-- The limits of a bundle that may ask the servers of one domain. -/
def limited : ResolutionOptions :=
  { lenient := true, domains := ["example.com"], redirects := 3 }

/-- The books of the tangled document are in order, and the same when some server answers. -/
theorem bundle_isInOrder_tangled :
    limited.external = false ∧
    (∃ r, (resolve limited unserved "" tangled).outcome = .ok r ∧
      r.linked = ["#/components/schemas/A"] ∧ r.circular = ["#/x", "#/y"] ∧
      r.IsInOrder tangled) ∧
    resolveFrom (depthFor { lenient := true } tangled) { lenient := true }
      (fun _ url => ⟨[url], .ok "a: 1"⟩) "" tangled = resolve limited unserved "" tangled := by
  have hrecord : ((resolve limited unserved "" tangled).outcome.toOption.map
      fun r => (r.linked, r.circular)) = some (["#/components/schemas/A"], ["#/x", "#/y"]) := by
    decide +kernel
  have hbundle : limited.external = false := rfl
  obtain ⟨hreturns, halike⟩ := bundle_isInOrder hbundle unserved "" tangled
  refine ⟨hbundle, ?_, halike { lenient := true } _ rfl rfl⟩
  cases houtcome : (resolve limited unserved "" tangled).outcome with
  | error problem =>
    rw [houtcome] at hrecord
    cases hrecord
  | ok r =>
    rw [houtcome] at hrecord
    have hbooks : (r.linked, r.circular) = (["#/components/schemas/A"], ["#/x", "#/y"]) :=
      Option.some.inj hrecord
    exact ⟨r, rfl, congrArg Prod.fst hbooks, congrArg Prod.snd hbooks, hreturns r houtcome⟩

end Resolution

end ClientGen
