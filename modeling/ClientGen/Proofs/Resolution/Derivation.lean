import ClientGen.Proofs.Resolution.Run

/-!
# What a successful resolution does, as derivations

`Resolves settings context seen value j result k` says, by rules, that `value` read in `context`
becomes `result` while the references `seen` are being expanded and the journal goes from `j` to `k`.
A reference is kept in place (`Keeps`) or leads to a target (`Leads`), which is resolved with one more
reference being expanded; the fields beside it are resolved without that and laid over the target.

The resolver follows the rules: each run that ends well has a derivation, whatever the bound on the
nesting of expansions (`resolves_of_resolveValue`, `resolves_of_resolveWithin`).
-/

namespace ClientGen

/-- What a resolution with the options works with. -/
def ResolutionOptions.settings (options : ResolutionOptions) (fetcher : Net.Fetcher) :
    Resolution.Settings :=
  ⟨options.external, options.lenient, options.domains, fetcher⟩

namespace Resolution

/-! ### Where references lead -/

/-- Whether a reference stays as a link to a component of the document at hand. -/
def isLink (settings : Settings) (context : Context) (ref : String) : Bool :=
  context.url.isNone && !settings.external && Text.startsWith linkLead ref

/-- The document's URL and the fragment to which a reference leads from a document. -/
def address (context : Context) (ref : String) : Except Url.Fault (String × String) :=
  match context.url with
  | some base => (Url.join base ref).bind Url.withoutFragment
  | none => Url.withoutFragment ref

/-- What tells the targets of references apart: the document's URL with the fragment. -/
def identity? (context : Context) (ref : String) : Option String :=
  match localPointer? ref with
  | some _ => some (context.url.getD "" ++ ref)
  | none => (address context ref).toOption.map fun parts => parts.1 ++ "#" ++ parts.2

/-- A reference is kept in place: as a link, because it is being expanded already, because only the
document at hand is read, or since it failed and that was put on record. -/
inductive Keeps (settings : Settings) (context : Context) (seen : List String) (ref : String)
    (j : Journal) : Journal → Prop
  | link {pointer : String} {target : Value} (hpointer : localPointer? ref = some pointer)
      (hlink : isLink settings context ref = true)
      (hfollow : Pointer.follow context.root pointer = .ok target) :
      Keeps settings context seen ref j { j with linked := Reference.addOnce ref j.linked }
  | circular {identity : String} (hlink : isLink settings context ref = false)
      (hexternal : localPointer? ref = none → settings.external = true)
      (hidentity : identity? context ref = some identity) (hseen : identity ∈ seen) :
      Keeps settings context seen ref j { j with circular := Reference.addOnce ref j.circular }
  | outside (hpointer : localPointer? ref = none) (hexternal : settings.external = false) :
      Keeps settings context seen ref j j
  | failed {k : Journal} (message : String) (hlenient : settings.lenient = true)
      (hcircular : k.circular = j.circular) (hlinked : k.linked = j.linked)
      (herrors : k.errors = j.errors ++ [message]) : Keeps settings context seen ref j k

/-- A reference leads to a target in the same document or in a fetched one. -/
inductive Leads (settings : Settings) (context : Context) (seen : List String) (ref : String)
    (j : Journal) : String → Context → Value → Journal → Prop
  | here {pointer : String} {target : Value} (hpointer : localPointer? ref = some pointer)
      (hlink : isLink settings context ref = false)
      (hseen : context.url.getD "" ++ ref ∉ seen)
      (hfollow : Pointer.follow context.root pointer = .ok target) :
      Leads settings context seen ref j (context.url.getD "" ++ ref) context target j
  | elsewhere {url fragment host : String} {document target : Value} {k : Journal}
      (hpointer : localPointer? ref = none) (hexternal : settings.external = true)
      (haddress : address context ref = .ok (url, fragment))
      (hseen : url ++ "#" ++ fragment ∉ seen)
      (hgate : Net.checkUrl url settings.domains = .ok host)
      (hserved : served? settings.fetcher url = some document) (hrecord : j.SameRecord k)
      (hfollow : Pointer.follow document fragment = .ok target) :
      Leads settings context seen ref j (url ++ "#" ++ fragment) ⟨document, some url⟩ target k

mutual

/-- A value becomes its result. -/
inductive Resolves (settings : Settings) :
    Context → List String → Value → Journal → Value → Journal → Prop
  | atom {context : Context} {seen : List String} {value : Value} {j : Journal}
      (hatom : value.isAtom = true) : Resolves settings context seen value j value j
  | list {context : Context} {seen : List String} {items resolved : List Value} {j k : Journal}
      (hitems : ResolvesItems settings context seen items j resolved k) :
      Resolves settings context seen (.list items) j (.list resolved) k
  | object {context : Context} {seen : List String} {fields resolved : List (String × Value)}
      {j k : Journal} (href : Reference.ofFields? fields = none)
      (hfields : ResolvesFields settings context seen fields j resolved k) :
      Resolves settings context seen (.object fields) j (.object resolved) k
  | kept {context : Context} {seen : List String} {fields : List (String × Value)} {ref : String}
      {j k : Journal} (href : Reference.ofFields? fields = some ref)
      (hkeeps : Keeps settings context seen ref j k) :
      Resolves settings context seen (.object fields) j (.object fields) k
  | replaced {context inner : Context} {seen : List String} {fields : List (String × Value)}
      {ref identity : String} {target result : Value} {j k l : Journal}
      (href : Reference.ofFields? fields = some ref)
      (hleads : Leads settings context seen ref j identity inner target k)
      (htarget : Resolves settings inner (identity :: seen) target k result l)
      (halone : Reference.siblings fields = [] ∨ ∀ below, result ≠ .object below) :
      Resolves settings context seen (.object fields) j result l
  | overlaid {context inner : Context} {seen : List String}
      {fields above below : List (String × Value)} {ref identity : String} {target : Value}
      {j k l m : Journal} (href : Reference.ofFields? fields = some ref)
      (hleads : Leads settings context seen ref j identity inner target k)
      (htarget : Resolves settings inner (identity :: seen) target k (.object below) l)
      (hsiblings : ResolvesFields settings context seen (Reference.siblings fields) l above m) :
      Resolves settings context seen (.object fields) j (.object (Entries.overlay above below)) m

/-- The fields of an object become those of its result, one by one. -/
inductive ResolvesFields (settings : Settings) : Context → List String →
    List (String × Value) → Journal → List (String × Value) → Journal → Prop
  | nil {context : Context} {seen : List String} {j : Journal} :
      ResolvesFields settings context seen [] j [] j
  | cons {context : Context} {seen : List String} {name : String} {value result : Value}
      {rest more : List (String × Value)} {j k l : Journal}
      (hvalue : Resolves settings context seen value j result k)
      (hrest : ResolvesFields settings context seen rest k more l) :
      ResolvesFields settings context seen ((name, value) :: rest) j ((name, result) :: more) l

/-- The items of a list become those of its result, one by one. -/
inductive ResolvesItems (settings : Settings) : Context → List String →
    List Value → Journal → List Value → Journal → Prop
  | nil {context : Context} {seen : List String} {j : Journal} :
      ResolvesItems settings context seen [] j [] j
  | cons {context : Context} {seen : List String} {item result : Value} {rest more : List Value}
      {j k l : Journal} (hitem : Resolves settings context seen item j result k)
      (hrest : ResolvesItems settings context seen rest k more l) :
      ResolvesItems settings context seen (item :: rest) j (result :: more) l

end

/-! ### Induction on derivations -/

/-- Entries become results one after the other, each with the journal that the one before left. -/
inductive InTurn {α β : Type} (R : α → Journal → β → Journal → Prop) :
    List α → Journal → List β → Journal → Prop
  | nil {j : Journal} : InTurn R [] j [] j
  | cons {a : α} {b : β} {rest : List α} {more : List β} {j k l : Journal} (hfirst : R a j b k)
      (hrest : InTurn R rest k more l) : InTurn R (a :: rest) j (b :: more) l

/-- Entries and results are related one by one. -/
theorem InTurn.forall₂ {α β : Type} {R : α → Journal → β → Journal → Prop} {S : α → β → Prop}
    {entries : List α} {results : List β} {j k : Journal}
    (hS : ∀ a ∈ entries, ∀ {j b k}, R a j b k → S a b) (h : InTurn R entries j results k) :
    List.Forall₂ S entries results := by
  induction h with
  | nil => exact .nil
  | cons hfirst _ ih =>
    exact .cons (hS _ List.mem_cons_self hfirst)
      (ih fun a ha => hS a (List.mem_cons_of_mem _ ha))

/-- Every result comes from an entry. -/
theorem InTurn.exists_of_mem {α β : Type} {R : α → Journal → β → Journal → Prop}
    {entries : List α} {results : List β} {j k : Journal} (h : InTurn R entries j results k)
    {b : β} (hb : b ∈ results) : ∃ a ∈ entries, ∃ j' k', R a j' b k' := by
  induction h with
  | nil => cases hb
  | cons hfirst _ ih =>
    rcases List.mem_cons.mp hb with rfl | hb
    · exact ⟨_, List.mem_cons_self, _, _, hfirst⟩
    · obtain ⟨a, ha, hR⟩ := ih hb
      exact ⟨a, List.mem_cons_of_mem _ ha, hR⟩

/-- Every entry has a result. -/
theorem InTurn.exists_result {α β : Type} {R : α → Journal → β → Journal → Prop}
    {entries : List α} {results : List β} {j k : Journal} (h : InTurn R entries j results k)
    {a : α} (ha : a ∈ entries) : ∃ b ∈ results, ∃ j' k', R a j' b k' := by
  induction h with
  | nil => cases ha
  | cons hfirst _ ih =>
    rcases List.mem_cons.mp ha with rfl | ha
    · exact ⟨_, List.mem_cons_self, _, _, hfirst⟩
    · obtain ⟨b, hb, hR⟩ := ih ha
      exact ⟨b, List.mem_cons_of_mem _ hb, hR⟩

/-- A field becomes one of the same name, whose value is the result of its own. -/
def ResolvesField (settings : Settings) (context : Context) (seen : List String)
    (field : String × Value) (j : Journal) (result : String × Value) (k : Journal) : Prop :=
  result.1 = field.1 ∧ Resolves settings context seen field.2 j result.2 k

theorem ResolvesFields.each {settings : Settings} {context : Context} {seen : List String}
    {fields resolved : List (String × Value)} {j k : Journal}
    (h : ResolvesFields settings context seen fields j resolved k) :
    InTurn (ResolvesField settings context seen) fields j resolved k := by
  match h with
  | .nil => exact .nil
  | .cons hvalue hrest => exact .cons ⟨rfl, hvalue⟩ hrest.each

/-- Under each name of the fields there is the result of what was there. -/
theorem InTurn.get?_eq_some {settings : Settings} {context : Context} {seen : List String}
    {fields resolved : List (String × Value)} {j k : Journal}
    (h : InTurn (ResolvesField settings context seen) fields j resolved k) {name : String}
    {value : Value} (hvalue : Entries.get? name fields = some value) :
    ∃ result j' k', Entries.get? name resolved = some result ∧
      Resolves settings context seen value j' result k' := by
  induction h with
  | nil => cases hvalue
  | @cons field result _ _ _ _ _ hfirst _ ih =>
    obtain ⟨key, old⟩ := field
    obtain ⟨key', new⟩ := result
    obtain ⟨hkey, hresolves⟩ := hfirst
    dsimp only at hkey hresolves
    subst hkey
    rw [Entries.get?_cons] at hvalue ⊢
    by_cases hname : key' = name
    · rw [if_pos hname] at hvalue ⊢
      cases hvalue
      exact ⟨new, _, _, rfl, hresolves⟩
    · rw [if_neg hname] at hvalue ⊢
      exact ih hvalue

section Induction

variable {settings : Settings}
  {motive : ∀ {context seen value j result k}, Resolves settings context seen value j result k → Prop}

/-- A value within others is resolved, and the motive holds of that. -/
def AndHolds (settings : Settings)
    (motive : ∀ {context seen value j result k},
      Resolves settings context seen value j result k → Prop)
    (context : Context) (seen : List String) (value : Value) (j : Journal) (result : Value)
    (k : Journal) : Prop :=
  ∃ h : Resolves settings context seen value j result k, motive h

/-- A field becomes one of the same name, and the motive holds of their values. -/
def FieldAndHolds (settings : Settings)
    (motive : ∀ {context seen value j result k},
      Resolves settings context seen value j result k → Prop)
    (context : Context) (seen : List String) (field : String × Value) (j : Journal)
    (result : String × Value) (k : Journal) : Prop :=
  result.1 = field.1 ∧ AndHolds settings motive context seen field.2 j result.2 k

variable
  (atom : ∀ {context seen value j} (hatom : value.isAtom = true),
    motive (.atom hatom : Resolves settings context seen value j value j))
  (list : ∀ {context seen items j resolved k}
    (hitems : ResolvesItems settings context seen items j resolved k),
    InTurn (AndHolds settings motive context seen) items j resolved k → motive (.list hitems))
  (object : ∀ {context seen fields j resolved k} (href : Reference.ofFields? fields = none)
    (hfields : ResolvesFields settings context seen fields j resolved k),
    InTurn (FieldAndHolds settings motive context seen) fields j resolved k →
    motive (.object href hfields))
  (kept : ∀ {context seen fields ref j k} (href : Reference.ofFields? fields = some ref)
    (hkeeps : Keeps settings context seen ref j k), motive (.kept href hkeeps))
  (replaced : ∀ {context inner seen fields ref identity target result j k l}
    (href : Reference.ofFields? fields = some ref)
    (hleads : Leads settings context seen ref j identity inner target k)
    (htarget : Resolves settings inner (identity :: seen) target k result l)
    (halone : Reference.siblings fields = [] ∨ ∀ below, result ≠ .object below),
    motive htarget → motive (.replaced href hleads htarget halone))
  (overlaid : ∀ {context inner seen fields above below ref identity target j k l m}
    (href : Reference.ofFields? fields = some ref)
    (hleads : Leads settings context seen ref j identity inner target k)
    (htarget : Resolves settings inner (identity :: seen) target k (.object below) l)
    (hsiblings : ResolvesFields settings context seen (Reference.siblings fields) l above m),
    motive htarget →
    InTurn (FieldAndHolds settings motive context seen) (Reference.siblings fields) l above m →
    motive (.overlaid href hleads htarget hsiblings))

include atom list object kept replaced overlaid

-- The linter does not see that the three theorems hand the cases to one another.
set_option linter.unusedSectionVars false in
mutual

/-- Induction on the rules, where fields and items are resolved in turn. -/
@[elab_as_elim]
theorem Resolves.inductionOn {context : Context} {seen : List String} {value : Value} {j : Journal}
    {result : Value} {k : Journal} (h : Resolves settings context seen value j result k) :
    motive h := by
  match h with
  | .atom hatom => exact atom hatom
  | .list hitems => exact list hitems hitems.inTurn
  | .object href hfields => exact object href hfields hfields.inTurn
  | .kept href hkeeps => exact kept href hkeeps
  | .replaced href hleads htarget halone =>
    exact replaced href hleads htarget halone htarget.inductionOn
  | .overlaid href hleads htarget hsiblings =>
    exact overlaid href hleads htarget hsiblings htarget.inductionOn hsiblings.inTurn

theorem ResolvesFields.inTurn {context : Context} {seen : List String}
    {fields resolved : List (String × Value)} {j k : Journal}
    (h : ResolvesFields settings context seen fields j resolved k) :
    InTurn (FieldAndHolds settings motive context seen) fields j resolved k := by
  match h with
  | .nil => exact .nil
  | .cons hvalue hrest => exact .cons ⟨rfl, hvalue, hvalue.inductionOn⟩ hrest.inTurn

theorem ResolvesItems.inTurn {context : Context} {seen : List String} {items resolved : List Value}
    {j k : Journal} (h : ResolvesItems settings context seen items j resolved k) :
    InTurn (AndHolds settings motive context seen) items j resolved k := by
  match h with
  | .nil => exact .nil
  | .cons hitem hrest => exact .cons ⟨hitem, hitem.inductionOn⟩ hrest.inTurn

end

end Induction

/-! ### Parts of a run -/

/-- What is left to do for a reference to another document once its address is known. -/
def expandAt (settings : Settings) (expand : Expander) (seen : List String) (ref : String)
    (kept : Value) (overlay : Value → Run Value) (url fragment : String) : Run Value := do
  let identity := url ++ "#" ++ fragment
  if seen.contains identity then keepCircular ref kept
  else
    passGate url settings.domains
    match ← ExceptT.lift (load settings url).run with
    | .error (.failure failure) => failOr settings failure kept
    | .error (.unexpected u) => throw (.unexpected u)
    | .ok document =>
      match Pointer.follow document fragment with
      | .error fault => failOr settings (dangling ref fault) kept
      | .ok target => do
        let resolved ← expand ⟨document, some url⟩ (identity :: seen) target
        overlay resolved

theorem expandExternal_eq (settings : Settings) (expand : Expander) (context : Context)
    (seen : List String) (ref : String) (kept : Value) (overlay : Value → Run Value) :
    expandExternal settings expand context seen ref kept overlay =
      (liftUrl (address context ref) >>= fun parts =>
        expandAt settings expand seen ref kept overlay parts.1 parts.2) := by
  unfold expandExternal address
  cases context.url with
  | none => rfl
  | some base =>
    dsimp only
    cases Url.join base ref <;> rfl

section Parts

variable {settings : Settings} {context : Context} {seen : List String} {ref : String}
  {kept result : Value} {j l : Journal}

/-- A failure that is put on record keeps the reference. -/
theorem keeps_of_failOr {k : Journal} {failure : Failure} (hrecord : j.SameRecord k)
    (h : (failOr settings failure kept).perform k = (.ok result, l)) :
    result = kept ∧ Keeps settings context seen ref j l ∧ l.documents = k.documents := by
  unfold failOr at h
  cases hlenient : settings.lenient with
  | true =>
    rw [hlenient, if_pos rfl, perform_bind, perform_modify] at h
    cases h
    refine ⟨rfl, .failed failure.message hlenient hrecord.circular hrecord.linked ?_, rfl⟩
    dsimp only
    rw [hrecord.errors]
  | false =>
    rw [hlenient] at h
    cases h

theorem isFaithful_of_documents_eq {fetcher : Net.Fetcher} (hj : j.IsFaithful fetcher)
    (h : l.documents = j.documents) : l.IsFaithful fetcher := by
  intro url document hfound
  rw [h] at hfound
  exact hj url document hfound

/-- A link that is kept leads somewhere. -/
theorem keeps_of_link {pointer : String} (hpointer : localPointer? ref = some pointer)
    (hlink : isLink settings context ref = true)
    (h : (link settings context ref pointer kept).perform j = (.ok result, l)) :
    result = kept ∧ Keeps settings context seen ref j l ∧ l.documents = j.documents := by
  unfold link at h
  cases hfollow : Pointer.follow context.root pointer with
  | ok target =>
    rw [hfollow] at h
    cases h
    exact ⟨rfl, .link hpointer hlink hfollow, rfl⟩
  | error fault =>
    rw [hfollow] at h
    exact keeps_of_failOr ⟨rfl, rfl, rfl⟩ h

/-- A reference within the document is kept, or its target is resolved and overlaid. -/
theorem perform_expandLocal_ok {expand : Expander} {pointer : String}
    {overlay : Value → Run Value} (hpointer : localPointer? ref = some pointer)
    (hlink : isLink settings context ref = false)
    (h : (expandLocal settings expand context seen ref pointer kept overlay).perform j =
      (.ok result, l)) :
    (result = kept ∧ Keeps settings context seen ref j l ∧ l.documents = j.documents) ∨
      ∃ identity target resolved k, Leads settings context seen ref j identity context target j ∧
        (expand context (identity :: seen) target).perform j = (.ok resolved, k) ∧
        (overlay resolved).perform k = (.ok result, l) := by
  have hidentity : identity? context ref = some (context.url.getD "" ++ ref) := by
    unfold identity?
    rw [hpointer]
  unfold expandLocal at h
  dsimp only at h
  split at h
  · rename_i hseen
    cases h
    have hmem := List.contains_iff_mem.mp hseen
    refine Or.inl ⟨rfl, .circular hlink ?_ hidentity hmem, rfl⟩
    intro hnone
    rw [hpointer] at hnone
    cases hnone
  · rename_i hseen
    cases hfollow : Pointer.follow context.root pointer with
    | error fault =>
      rw [hfollow] at h
      exact Or.inl (keeps_of_failOr ⟨rfl, rfl, rfl⟩ h)
    | ok target =>
      rw [hfollow] at h
      obtain ⟨resolved, k, hexpand, hoverlay⟩ := perform_bind_ok.mp h
      have hnotMem : context.url.getD "" ++ ref ∉ seen :=
        fun hmem => hseen (List.contains_iff_mem.mpr hmem)
      exact Or.inr ⟨_, target, resolved, k, .here hpointer hlink hnotMem hfollow, hexpand, hoverlay⟩

/-- A document that is fetched for a reference has the target, or the reference is kept. -/
theorem perform_expandAt_ok {expand : Expander} {overlay : Value → Run Value}
    {url fragment : String} (hpointer : localPointer? ref = none)
    (hexternal : settings.external = true) (haddress : address context ref = .ok (url, fragment))
    (hj : j.IsFaithful settings.fetcher)
    (h : (expandAt settings expand seen ref kept overlay url fragment).perform j =
      (.ok result, l)) :
    (result = kept ∧ Keeps settings context seen ref j l ∧ l.IsFaithful settings.fetcher) ∨
      ∃ identity inner target resolved k m,
        Leads settings context seen ref j identity inner target k ∧
        k.IsFaithful settings.fetcher ∧
        (expand inner (identity :: seen) target).perform k = (.ok resolved, m) ∧
        (overlay resolved).perform m = (.ok result, l) := by
  unfold expandAt at h
  dsimp only at h
  split at h
  · rename_i hseen
    cases h
    have hlink : isLink settings context ref = false := by
      unfold isLink
      rw [hexternal]
      simp
    have hidentity : identity? context ref = some (url ++ "#" ++ fragment) := by
      unfold identity?
      rw [hpointer, haddress]
      rfl
    have hmem := List.contains_iff_mem.mp hseen
    exact Or.inl ⟨rfl, .circular hlink (fun _ => hexternal) hidentity hmem,
      isFaithful_of_documents_eq hj rfl⟩
  · rename_i hseen
    have hnotMem : url ++ "#" ++ fragment ∉ seen :=
      fun hmem => hseen (List.contains_iff_mem.mpr hmem)
    obtain ⟨passed, j', hpass, hafter⟩ := perform_bind_ok.mp h
    obtain ⟨⟨host, hgate⟩, rfl⟩ := perform_passGate_ok.mp hpass
    obtain ⟨loaded, k, hload, hcontinue⟩ := perform_bind_ok.mp hafter
    obtain ⟨hk, hrecord, hserved⟩ := load_spec settings url hj
    rw [perform_lift] at hload
    cases hload
    cases hloaded : ((load settings url).perform j').1 with
    | error problem =>
      rw [hloaded] at hcontinue
      cases problem with
      | failure failure =>
        obtain ⟨hresult, hkeeps, hdocuments⟩ := keeps_of_failOr hrecord hcontinue
        exact Or.inl ⟨hresult, hkeeps, isFaithful_of_documents_eq hk hdocuments⟩
      | unexpected u => cases hcontinue
    | ok document =>
      rw [hloaded] at hcontinue
      dsimp only at hcontinue
      cases hfollow : Pointer.follow document fragment with
      | error fault =>
        rw [hfollow] at hcontinue
        obtain ⟨hresult, hkeeps, hdocuments⟩ := keeps_of_failOr hrecord hcontinue
        exact Or.inl ⟨hresult, hkeeps, isFaithful_of_documents_eq hk hdocuments⟩
      | ok target =>
        rw [hfollow] at hcontinue
        obtain ⟨resolved, m, hexpand, hoverlay⟩ := perform_bind_ok.mp hcontinue
        exact Or.inr ⟨_, ⟨document, some url⟩, target, resolved, _, m,
          .elsewhere hpointer hexternal haddress hnotMem hgate (hserved document hloaded) hrecord
            hfollow, hk, hexpand, hoverlay⟩

/-- A resolved reference is kept in place, or its target is resolved and overlaid. -/
theorem perform_resolveReference_ok {expand : Expander} {overlay : Value → Run Value}
    (hj : j.IsFaithful settings.fetcher)
    (h : (resolveReference settings expand context seen ref kept overlay).perform j =
      (.ok result, l)) :
    (result = kept ∧ Keeps settings context seen ref j l ∧ l.IsFaithful settings.fetcher) ∨
      ∃ identity inner target resolved k m,
        Leads settings context seen ref j identity inner target k ∧
        k.IsFaithful settings.fetcher ∧
        (expand inner (identity :: seen) target).perform k = (.ok resolved, m) ∧
        (overlay resolved).perform m = (.ok result, l) := by
  unfold resolveReference at h
  cases hpointer : localPointer? ref with
  | some pointer =>
    rw [hpointer] at h
    dsimp only at h
    change (if isLink settings context ref = true then _ else _ : Run Value).perform j = _ at h
    by_cases hlink : isLink settings context ref = true
    · rw [if_pos hlink] at h
      obtain ⟨hresult, hkeeps, hdocuments⟩ := keeps_of_link hpointer hlink h
      exact Or.inl ⟨hresult, hkeeps, isFaithful_of_documents_eq hj hdocuments⟩
    · rw [if_neg hlink] at h
      rw [Bool.not_eq_true] at hlink
      rcases perform_expandLocal_ok hpointer hlink h with ⟨hresult, hkeeps, hdocuments⟩ | hleads
      · exact Or.inl ⟨hresult, hkeeps, isFaithful_of_documents_eq hj hdocuments⟩
      · obtain ⟨identity, target, resolved, k, hleads, hexpand, hoverlay⟩ := hleads
        exact Or.inr ⟨identity, context, target, resolved, j, k, hleads, hj, hexpand, hoverlay⟩
  | none =>
    rw [hpointer] at h
    dsimp only at h
    cases hexternal : settings.external with
    | true =>
      rw [hexternal, if_pos rfl, expandExternal_eq] at h
      obtain ⟨⟨url, fragment⟩, k, hlift, hafter⟩ := perform_bind_ok.mp h
      obtain ⟨haddress, rfl⟩ := perform_liftUrl_ok.mp hlift
      exact perform_expandAt_ok hpointer hexternal haddress hj hafter
    | false =>
      rw [hexternal] at h
      cases h
      exact Or.inl ⟨rfl, .outside hpointer hexternal, hj⟩

/-- Siblings are laid over an object; another value stays, and so does an object without any. -/
theorem perform_overlayWith_ok {siblings : Run (List (String × Value))} {hasSiblings : Bool}
    {value : Value} (h : (overlayWith siblings hasSiblings value).perform j = (.ok result, l)) :
    (result = value ∧ l = j ∧ (hasSiblings = false ∨ ∀ below, value ≠ .object below)) ∨
      ∃ below above, value = .object below ∧ hasSiblings = true ∧
        siblings.perform j = (.ok above, l) ∧ result = .object (Entries.overlay above below) := by
  cases value with
  | object below =>
    cases hasSiblings with
    | true =>
      obtain ⟨above, k, hsiblings, hpure⟩ := perform_bind_ok.mp h
      cases hpure
      exact Or.inr ⟨below, above, rfl, rfl, hsiblings, rfl⟩
    | false =>
      cases h
      exact Or.inl ⟨rfl, rfl, Or.inl rfl⟩
  | _ =>
    cases h
    refine Or.inl ⟨rfl, rfl, Or.inr ?_⟩
    intro below heq
    cases heq

end Parts

/-- The walk through the fields beside a reference is the one through its siblings. -/
theorem walkFields_true (settings : Settings) (expand : Expander) (context : Context)
    (seen : List String) (fields : List (String × Value)) :
    walkFields settings expand context seen true fields =
      walkFields settings expand context seen false (Reference.siblings fields) := by
  induction fields with
  | nil => rfl
  | cons field rest ih =>
    obtain ⟨name, value⟩ := field
    unfold Reference.siblings at ih ⊢
    rw [walkFields, List.filter_cons]
    by_cases hname : name = Reference.key
    · simp only [hname, beq_self_eq_true, Bool.and_self, if_true, bne_self_eq_false,
        Bool.false_eq_true, if_false]
      exact ih
    · have hbeq : (name == Reference.key) = false := beq_eq_false_iff_ne.mpr hname
      have hbne : (name != Reference.key) = true := bne_iff_ne.mpr hname
      simp only [hbeq, hbne, Bool.and_false, Bool.false_eq_true, if_false, if_true]
      rw [walkFields, ih]
      rfl

theorem hasSiblings_eq_false_iff (fields : List (String × Value)) :
    hasSiblings fields = false ↔ Reference.siblings fields = [] := by
  unfold hasSiblings Reference.siblings
  rw [List.any_eq_false, List.filter_eq_nil_iff]

/-! ### Runs have derivations -/

/-- What an expander gives has a derivation. -/
def Expander.IsSound (settings : Settings) (expand : Expander) : Prop :=
  ∀ {context seen value j result k}, j.IsFaithful settings.fetcher →
    (expand context seen value).perform j = (.ok result, k) →
    Resolves settings context seen value j result k ∧ k.IsFaithful settings.fetcher

section Sound

variable {settings : Settings} {expand : Expander} {context : Context} {seen : List String}

/-- What the walk gives for fields has a derivation if what it gives for their values has. -/
theorem resolves_of_walkFields {fields resolved : List (String × Value)} {j l : Journal}
    (hfields : ∀ entry ∈ fields, ∀ {j k result}, j.IsFaithful settings.fetcher →
      (walk settings expand context seen entry.2).perform j = (.ok result, k) →
      Resolves settings context seen entry.2 j result k ∧ k.IsFaithful settings.fetcher)
    (hj : j.IsFaithful settings.fetcher)
    (h : (walkFields settings expand context seen false fields).perform j = (.ok resolved, l)) :
    ResolvesFields settings context seen fields j resolved l ∧ l.IsFaithful settings.fetcher := by
  induction fields generalizing j resolved with
  | nil =>
    cases h
    exact ⟨.nil, hj⟩
  | cons entry rest ih =>
    obtain ⟨name, value⟩ := entry
    rw [walkFields, Bool.false_and, if_neg Bool.false_ne_true] at h
    obtain ⟨result, k, hwalk, h⟩ := perform_bind_ok.mp h
    obtain ⟨more, m, hmore, h⟩ := perform_bind_ok.mp h
    cases h
    obtain ⟨hvalue, hk⟩ := hfields (name, value) List.mem_cons_self hj hwalk
    obtain ⟨hrest, hm⟩ :=
      ih (fun entry hentry => hfields entry (List.mem_cons_of_mem _ hentry)) hk hmore
    exact ⟨.cons hvalue hrest, hm⟩

/-- What the walk gives for items has a derivation if what it gives for each has. -/
theorem resolves_of_walkItems {items resolved : List Value} {j l : Journal}
    (hitems : ∀ item ∈ items, ∀ {j k result}, j.IsFaithful settings.fetcher →
      (walk settings expand context seen item).perform j = (.ok result, k) →
      Resolves settings context seen item j result k ∧ k.IsFaithful settings.fetcher)
    (hj : j.IsFaithful settings.fetcher)
    (h : (walkItems settings expand context seen items).perform j = (.ok resolved, l)) :
    ResolvesItems settings context seen items j resolved l ∧ l.IsFaithful settings.fetcher := by
  induction items generalizing j resolved with
  | nil =>
    cases h
    exact ⟨.nil, hj⟩
  | cons item rest ih =>
    rw [walkItems] at h
    obtain ⟨result, k, hwalk, h⟩ := perform_bind_ok.mp h
    obtain ⟨more, m, hmore, h⟩ := perform_bind_ok.mp h
    cases h
    obtain ⟨hitem, hk⟩ := hitems item List.mem_cons_self hj hwalk
    obtain ⟨hrest, hm⟩ := ih (fun item hitem => hitems item (List.mem_cons_of_mem _ hitem)) hk hmore
    exact ⟨.cons hitem hrest, hm⟩

/-- What the walk gives has a derivation. -/
theorem resolves_of_walk (hexpand : expand.IsSound settings) (value : Value) {j l : Journal}
    {result : Value} (hj : j.IsFaithful settings.fetcher)
    (h : (walk settings expand context seen value).perform j = (.ok result, l)) :
    Resolves settings context seen value j result l ∧ l.IsFaithful settings.fetcher := by
  induction value using Value.inductionOnParts generalizing j result l with
  | atom value hatom =>
    rw [walk_atom _ _ _ _ hatom] at h
    cases h
    exact ⟨.atom hatom, hj⟩
  | list items ih =>
    rw [walk] at h
    obtain ⟨resolved, hwalk, rfl⟩ := perform_map_ok.mp h
    obtain ⟨hitems, hl⟩ := resolves_of_walkItems ih hj hwalk
    exact ⟨.list hitems, hl⟩
  | object fields ih =>
    cases href : Reference.ofFields? fields with
    | none =>
      rw [walk, href] at h
      obtain ⟨resolved, hwalk, rfl⟩ := perform_map_ok.mp h
      obtain ⟨hfields, hl⟩ := resolves_of_walkFields ih hj hwalk
      exact ⟨.object href hfields, hl⟩
    | some ref =>
      rw [walk, href] at h
      rcases perform_resolveReference_ok hj h with ⟨rfl, hkeeps, hl⟩ | hexpanded
      · exact ⟨.kept href hkeeps, hl⟩
      · obtain ⟨identity, inner, target, resolved, k, m, hleads, hk, htarget, hoverlay⟩ := hexpanded
        obtain ⟨htarget, hm⟩ := hexpand hk htarget
        rcases perform_overlayWith_ok hoverlay with
          ⟨rfl, rfl, halone⟩ | ⟨below, above, rfl, -, hwalk, rfl⟩
        · rw [hasSiblings_eq_false_iff] at halone
          exact ⟨.replaced href hleads htarget halone, hm⟩
        · rw [walkFields_true] at hwalk
          obtain ⟨habove, hl⟩ := resolves_of_walkFields
            (fun entry hentry => ih entry (Reference.mem_of_mem_siblings hentry)) hm hwalk
          exact ⟨.overlaid href hleads htarget habove, hl⟩

end Sound

/-- What is resolved has a derivation, whatever the bound on the nesting of expansions. -/
theorem resolveValue_isSound (settings : Settings) (depth : Nat) :
    (resolveValue settings depth).IsSound settings := by
  induction depth with
  | zero =>
    intro context seen value j result k hj h
    refine resolves_of_walk ?_ value hj h
    intro context seen value j result k hj h
    cases h
  | succ depth ih =>
    intro context seen value j result k hj h
    exact resolves_of_walk ih value hj h

/-! ### Resolutions of documents -/


theorem perform_passGates_ok {options : ResolutionOptions} {refs : List String} {j k : Journal}
    {u : Unit} (h : (passGates options refs).perform j = (.ok u, k)) : k = j := by
  induction refs generalizing j with
  | nil =>
    cases h
    rfl
  | cons ref rest ih =>
    obtain ⟨⟨url, fragment⟩, j₁, hparts, hgate⟩ := perform_bind_ok.mp h
    obtain ⟨-, rfl⟩ := perform_liftUrl_ok.mp hparts
    obtain ⟨passed, j₂, hpass, hrest⟩ := perform_bind_ok.mp hgate
    obtain ⟨-, rfl⟩ := perform_passGate_ok.mp hpass
    exact ih hrest

/-- Documents are resolved as values once all gates are passed. -/
theorem resolveDocument_eq (options : ResolutionOptions) (fetcher : Net.Fetcher) (depth : Nat)
    (content : Value) :
    resolveDocument options fetcher depth content =
      ((if options.external then
          passGates options (Reference.classify (Reference.references content)).external
        else pure ()) >>= fun _ =>
      resolveValue (options.settings fetcher) depth ⟨content, none⟩ [] content) := by
  unfold resolveDocument ResolutionOptions.settings
  cases options.external <;> rfl

/-- A document that is resolved was resolved as a value, with nothing being expanded. -/
theorem perform_resolveDocument_ok {options : ResolutionOptions} {fetcher : Net.Fetcher}
    {depth : Nat} {content result : Value} {j k : Journal}
    (h : (resolveDocument options fetcher depth content).perform j = (.ok result, k)) :
    (resolveValue (options.settings fetcher) depth ⟨content, none⟩ [] content).perform j =
      (.ok result, k) := by
  rw [resolveDocument_eq] at h
  obtain ⟨passed, j', hpass, hvalue⟩ := perform_bind_ok.mp h
  have hj : j' = j := by
    split at hpass
    · exact perform_passGates_ok hpass
    · cases hpass
      rfl
  rwa [hj] at hvalue

/-- A resolution that returns gives the result of its run, with what is on record. -/
theorem conclude_ok {file : String} {content : Value} {k : Journal}
    {outcome : Except Problem Value} {r : Resolution}
    (h : conclude file content k outcome = .ok r) :
    ∃ resolved, outcome = .ok resolved ∧
      r = ⟨file, resolved, Reference.references content, k.circular, k.linked, k.errors⟩ := by
  cases outcome with
  | error problem => cases h
  | ok resolved =>
    unfold conclude at h
    dsimp only at h
    split at h
    · cases h
      exact ⟨resolved, rfl, rfl⟩
    · cases h

/-- The outcome of a resolution that returns. -/
theorem resolveWithin_ok {depth : Nat} {options : ResolutionOptions} {fetcher : Net.Fetcher}
    {path : String} {content : Value} {r : Resolution}
    (h : (resolveWithin depth options fetcher path content).outcome = .ok r) :
    ∃ k, (resolveDocument options fetcher depth content).perform .start = (.ok r.resolved, k) ∧
      r = ⟨path, r.resolved, Reference.references content, k.circular, k.linked, k.errors⟩ := by
  unfold resolveWithin at h
  change conclude path content ((resolveDocument options fetcher depth content).perform .start).2
    ((resolveDocument options fetcher depth content).perform .start).1 = .ok r at h
  obtain ⟨resolved, hresolved, rfl⟩ := conclude_ok h
  exact ⟨_, Prod.ext hresolved rfl, rfl⟩

/-- A resolution that returns has a derivation. -/
theorem resolves_of_resolveWithin {depth : Nat} {options : ResolutionOptions}
    {fetcher : Net.Fetcher} {path : String} {content : Value} {r : Resolution}
    (h : (resolveWithin depth options fetcher path content).outcome = .ok r) :
    ∃ k, Resolves (options.settings fetcher) ⟨content, none⟩ [] content .start r.resolved k ∧
      r = ⟨path, r.resolved, Reference.references content, k.circular, k.linked, k.errors⟩ := by
  obtain ⟨k, hrun, hr⟩ := resolveWithin_ok h
  have hvalue := perform_resolveDocument_ok hrun
  exact ⟨k, (resolveValue_isSound _ depth (isFaithful_start fetcher) hvalue).1, hr⟩

end Resolution

end ClientGen
