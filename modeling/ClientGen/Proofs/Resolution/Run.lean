import ClientGen.Proofs.Reference
import ClientGen.Resolution

/-!
# Steps of a resolution and their journals

`Run.perform` starts a step with a journal and gives its outcome with the journal afterwards; the
lemmas about it (`perform_bind`, `perform_bind_ok`, ...) take runs apart without a look at the
monad.  `perform_load` says what loading a document does, and `load_spec` what follows for the
journal: what is on record about references is kept, and a journal whose documents all come from
the fetcher (`Journal.IsFaithful`) stays one.

The walk is a traversal: `walkBy` goes through a value and leaves each reference to a `Resolver`.
It only puts runs in a row, so two traversals agree in every way that sequencing respects
(`Run.Congruence`), if their resolvers do (`walkBy_related`, and `walk_related` for two walks with
different expanders).
-/

namespace ClientGen.Resolution

/-! ### Performing a step -/

/-- What a step gives when it starts with a journal: its outcome and the journal afterwards. -/
def Run.perform {α : Type} (run : Run α) (j : Journal) : Except Problem α × Journal :=
  run.run.run j

section Perform

variable {α β : Type}

@[simp] theorem perform_pure (a : α) (j : Journal) : (pure a : Run α).perform j = (.ok a, j) := rfl

@[simp] theorem perform_modify (change : Journal → Journal) (j : Journal) :
    (modify change : Run PUnit).perform j = (.ok ⟨⟩, change j) := rfl

@[simp] theorem perform_get (j : Journal) : (get : Run Journal).perform j = (.ok j, j) := rfl

@[simp] theorem perform_lift (run : Run α) (j : Journal) :
    Run.perform (ExceptT.lift (ExceptT.run run)) j = (.ok (run.perform j).1, (run.perform j).2) :=
  rfl

/-- The second of two steps starts with the journal of the first, unless that ends in a problem. -/
theorem perform_bind (run : Run α) (next : α → Run β) (j : Journal) :
    (run >>= next).perform j = match run.perform j with
      | (.ok a, k) => (next a).perform k
      | (.error problem, k) => (.error problem, k) := by
  unfold Run.perform
  rw [ExceptT.run_bind, StateT.run_bind]
  rcases h : StateT.run (ExceptT.run run) j with ⟨outcome, k⟩
  cases outcome <;> rfl

/-- Two steps in a row succeed exactly when the first does and the second does after it. -/
theorem perform_bind_ok {run : Run α} {next : α → Run β} {j l : Journal} {b : β} :
    (run >>= next).perform j = (.ok b, l) ↔
      ∃ a k, run.perform j = (.ok a, k) ∧ (next a).perform k = (.ok b, l) := by
  rw [perform_bind]
  constructor
  · intro h
    split at h
    · rename_i a k hrun
      exact ⟨a, k, hrun, h⟩
    · cases h
  · rintro ⟨a, k, hrun, hnext⟩
    rw [hrun]
    exact hnext

theorem perform_bind_of_ok {run : Run α} {next : α → Run β} {j k : Journal} {a : α}
    (h : run.perform j = (.ok a, k)) : (run >>= next).perform j = (next a).perform k := by
  rw [perform_bind, h]

/-- Two steps in a row end in a problem exactly when the first does, or the second does after it. -/
theorem perform_bind_error {run : Run α} {next : α → Run β} {j l : Journal} {problem : Problem} :
    (run >>= next).perform j = (.error problem, l) ↔
      run.perform j = (.error problem, l) ∨
        ∃ a k, run.perform j = (.ok a, k) ∧ (next a).perform k = (.error problem, l) := by
  rw [perform_bind]
  rcases run.perform j with ⟨failed | a, k⟩
  · simp
  · simp

/-- What goes on after a step depends only on what the step gives. -/
theorem perform_bind_congr {run run' : Run α} {j k : Journal} (h : run.perform j = run'.perform k)
    (next : α → Run β) : (run >>= next).perform j = (run' >>= next).perform k := by
  rw [perform_bind, perform_bind, h]

theorem perform_map_error {run : Run α} {f : α → β} {j k : Journal} {problem : Problem} :
    (f <$> run).perform j = (.error problem, k) ↔ run.perform j = (.error problem, k) := by
  rw [map_eq_pure_bind, perform_bind_error]
  refine or_iff_left ?_
  rintro ⟨a, l, -, hpure⟩
  cases hpure

theorem perform_map_ok {run : Run α} {f : α → β} {j k : Journal} {b : β} :
    (f <$> run).perform j = (.ok b, k) ↔ ∃ a, run.perform j = (.ok a, k) ∧ f a = b := by
  rw [map_eq_pure_bind, perform_bind_ok]
  constructor
  · rintro ⟨a, k', hrun, hpure⟩
    cases hpure
    exact ⟨a, hrun, rfl⟩
  · rintro ⟨a, hrun, rfl⟩
    exact ⟨a, k, hrun, rfl⟩

theorem perform_liftOutcome (outcome : Except Problem α) (j : Journal) :
    (liftOutcome outcome).perform j = (outcome, j) := by
  cases outcome <;> rfl

theorem perform_liftUrl_ok {outcome : Except Url.Fault α} {j k : Journal} {a : α} :
    (liftUrl outcome).perform j = (.ok a, k) ↔ outcome = .ok a ∧ k = j := by
  cases outcome with
  | ok b =>
    constructor
    · intro h
      cases h
      exact ⟨rfl, rfl⟩
    · rintro ⟨hb, rfl⟩
      cases hb
      rfl
  | error fault =>
    constructor
    · intro h
      cases h
    · rintro ⟨hb, -⟩
      cases hb

theorem perform_passGate_ok {url : String} {domains : List String} {j k : Journal} {u : Unit} :
    (passGate url domains).perform j = (.ok u, k) ↔
      (∃ host, Net.checkUrl url domains = .ok host) ∧ k = j := by
  unfold passGate
  cases hcheck : Net.checkUrl url domains with
  | ok host =>
    constructor
    · intro h
      cases h
      exact ⟨⟨host, rfl⟩, rfl⟩
    · rintro ⟨-, rfl⟩
      rfl
  | error failure =>
    constructor
    · intro h
      cases h
    · rintro ⟨⟨host, hhost⟩, -⟩
      cases hhost

end Perform

/-! ### Documents on record -/

/-- The document that a fetcher serves at a URL, if it serves one. -/
def served? (fetcher : Net.Fetcher) (url : String) : Option Value :=
  match (fetcher url).outcome with
  | .ok text => (readFetched url text).toOption
  | .error _ => none

/-- A fetcher that serves nothing. -/
def unserved : Net.Fetcher := fun url => ⟨[url], .error (Net.fetchFailure url "no server")⟩

/-- Every document on record is the one that the fetcher serves at its URL. -/
def Journal.IsFaithful (fetcher : Net.Fetcher) (j : Journal) : Prop :=
  ∀ url document, Entries.get? url j.documents = some document → served? fetcher url = some document

theorem isFaithful_start (fetcher : Net.Fetcher) : Journal.start.IsFaithful fetcher := by
  intro url document h
  cases h

/-- The same references, circular or linked, and the same errors are on record. -/
structure Journal.SameRecord (j k : Journal) : Prop where
  circular : k.circular = j.circular
  linked : k.linked = j.linked
  errors : k.errors = j.errors

/-- The journal after a fetcher was asked for the document of a URL. -/
def Journal.asking (j : Journal) (fetcher : Net.Fetcher) (url : String) : Journal :=
  { j with requests := j.requests ++ (fetcher url).requests }

/-- The journal with a document on record. -/
def Journal.having (j : Journal) (url : String) (document : Value) : Journal :=
  { j with documents := j.documents ++ [(url, document)] }

/-- The content of what was fetched from a URL. -/
def contentOf (url : String) (fetched : Net.Fetched String) : Except Problem Value :=
  fetched.outcome.bind (readFetched url)

theorem served?_eq_toOption (fetcher : Net.Fetcher) (url : String) :
    served? fetcher url = (contentOf url (fetcher url)).toOption := by
  unfold served? contentOf
  cases (fetcher url).outcome <;> rfl

/-- A document on record is at hand; the fetcher is asked for another one, which is then on record
unless there is a problem. -/
theorem perform_load (settings : Settings) (url : String) (j : Journal) :
    (load settings url).perform j =
      match Entries.get? url j.documents with
      | some document => (.ok document, j)
      | none =>
        match contentOf url (settings.fetcher url) with
        | .ok document => (.ok document, (j.asking settings.fetcher url).having url document)
        | .error problem => (.error problem, j.asking settings.fetcher url) := by
  unfold load contentOf
  rw [perform_bind, perform_get]
  dsimp only
  cases Entries.get? url j.documents with
  | some document => rfl
  | none =>
    dsimp only
    rw [perform_bind, perform_modify]
    dsimp only
    rw [perform_bind, perform_liftOutcome]
    cases (settings.fetcher url).outcome with
    | error problem => rfl
    | ok text =>
      dsimp only [Except.bind]
      rw [perform_bind, perform_liftOutcome]
      cases readFetched url text <;> rfl

theorem isFaithful_having {fetcher : Net.Fetcher} {j : Journal} {url : String} {document : Value}
    (hj : j.IsFaithful fetcher) (hserved : served? fetcher url = some document) :
    (j.having url document).IsFaithful fetcher := by
  intro url' document' h
  unfold Journal.having at h
  rw [Entries.get?_append, Option.or_eq_some_iff] at h
  rcases h with h | ⟨-, h⟩
  · exact hj url' document' h
  · rw [Entries.get?_cons] at h
    split at h
    · rename_i heq
      cases h
      rw [← heq]
      exact hserved
    · cases h

/-- Loading a document leaves the references on record alone and keeps the journal faithful; what it
gives is what the fetcher serves. -/
theorem load_spec (settings : Settings) (url : String) {j : Journal}
    (hj : j.IsFaithful settings.fetcher) :
    ((load settings url).perform j).2.IsFaithful settings.fetcher ∧
      j.SameRecord ((load settings url).perform j).2 ∧
      ∀ document, ((load settings url).perform j).1 = .ok document →
        served? settings.fetcher url = some document := by
  rw [perform_load]
  cases hknown : Entries.get? url j.documents with
  | some document =>
    refine ⟨hj, ⟨rfl, rfl, rfl⟩, ?_⟩
    intro found hfound
    cases hfound
    exact hj url document hknown
  | none =>
    cases hcontent : contentOf url (settings.fetcher url) with
    | error problem =>
      refine ⟨hj, ⟨rfl, rfl, rfl⟩, ?_⟩
      intro document hdocument
      cases hdocument
    | ok document =>
      have hserved : served? settings.fetcher url = some document := by
        rw [served?_eq_toOption, hcontent]
        rfl
      have hasked : (j.asking settings.fetcher url).IsFaithful settings.fetcher := hj
      refine ⟨isFaithful_having hasked hserved, ⟨rfl, rfl, rfl⟩, ?_⟩
      intro found hfound
      cases hfound
      exact hserved

/-! ### The walk as a traversal -/

/-- What resolves a single reference, given the object it stands in and how its siblings are laid
over a target. -/
abbrev Resolver := String → Value → (Value → Run Value) → Run Value

mutual

/-- Goes through a value and has its references resolved. -/
def walkBy (resolver : Resolver) : Value → Run Value
  | .object fields =>
    match Reference.ofFields? fields with
    | some ref =>
      resolver ref (.object fields)
        (overlayWith (walkFieldsBy resolver true fields) (hasSiblings fields))
    | none => Value.object <$> walkFieldsBy resolver false fields
  | .list items => Value.list <$> walkItemsBy resolver items
  | value => return value

/-- Goes through the fields of an object, except for a reference where it is known to be one. -/
def walkFieldsBy (resolver : Resolver) (isReference : Bool) :
    List (String × Value) → Run (List (String × Value))
  | [] => return []
  | (name, value) :: rest => do
    if isReference && name == Reference.key then
      walkFieldsBy resolver isReference rest
    else
      let resolved ← walkBy resolver value
      let more ← walkFieldsBy resolver isReference rest
      return (name, resolved) :: more

/-- Goes through the items of a list. -/
def walkItemsBy (resolver : Resolver) : List Value → Run (List Value)
  | [] => return []
  | item :: rest => do
    let resolved ← walkBy resolver item
    let more ← walkItemsBy resolver rest
    return resolved :: more

end

/-- What is neither an object nor a list stays as it is. -/
theorem walkBy_atom (resolver : Resolver) {value : Value} (hatom : value.isAtom = true) :
    walkBy resolver value = pure value := by
  cases value <;> first | rfl | cases hatom

section Walk

variable (settings : Settings) (expand : Expander) (context : Context) (seen : List String)

mutual

/-- The walk is the traversal that resolves references with the expander. -/
theorem walk_eq_walkBy (value : Value) :
    walk settings expand context seen value =
      walkBy (resolveReference settings expand context seen) value := by
  match value with
  | .object fields =>
    cases href : Reference.ofFields? fields with
    | none => simp only [walk, walkBy, href, walkFields_eq_walkFieldsBy false fields]
    | some ref => simp only [walk, walkBy, href, walkFields_eq_walkFieldsBy true fields]
  | .list items => rw [walk, walkBy, walkItems_eq_walkItemsBy items]
  | .null | .bool _ | .int _ | .float _ | .str _ | .date _ | .moment _ | .octets _ | .set _
  | .tuple _ | .mapping _ => rfl

theorem walkFields_eq_walkFieldsBy (isReference : Bool) (fields : List (String × Value)) :
    walkFields settings expand context seen isReference fields =
      walkFieldsBy (resolveReference settings expand context seen) isReference fields := by
  match fields with
  | [] => rfl
  | (name, value) :: rest =>
    rw [walkFields, walkFieldsBy, walk_eq_walkBy value,
      walkFields_eq_walkFieldsBy isReference rest]

theorem walkItems_eq_walkItemsBy (items : List Value) :
    walkItems settings expand context seen items =
      walkItemsBy (resolveReference settings expand context seen) items := by
  match items with
  | [] => rfl
  | item :: rest =>
    rw [walkItems, walkItemsBy, walk_eq_walkBy item, walkItems_eq_walkItemsBy rest]

end

/-- What is neither an object nor a list stays as it is. -/
theorem walk_atom {value : Value} (hatom : value.isAtom = true) :
    walk settings expand context seen value = pure value := by
  rw [walk_eq_walkBy, walkBy_atom _ hatom]

end Walk

/-- A relation between runs that sequencing respects. -/
structure Run.Congruence (Related : ∀ {α : Type}, Run α → Run α → Prop) : Prop where
  pure : ∀ {α : Type} (a : α), Related (pure a : Run α) (pure a)
  bind : ∀ {α β : Type} {run run' : Run α} {next next' : α → Run β},
    Related run run' → (∀ a, Related (next a) (next' a)) → Related (run >>= next) (run' >>= next')

section Related

variable {Related : ∀ {α : Type}, Run α → Run α → Prop} (hR : Run.Congruence Related)
  {resolver resolver' : Resolver}

include hR

theorem Run.Congruence.map {α β : Type} (f : α → β) {run run' : Run α} (h : Related run run') :
    Related (f <$> run) (f <$> run') := by
  rw [map_eq_pure_bind, map_eq_pure_bind]
  exact hR.bind h fun a => hR.pure (f a)

/-- Siblings are laid over a target in related ways when they are resolved in related ways. -/
theorem overlayWith_related {siblings siblings' : Run (List (String × Value))}
    (h : Related siblings siblings') (hasSiblings : Bool) (value : Value) :
    Related (overlayWith siblings hasSiblings value) (overlayWith siblings' hasSiblings value) := by
  cases value with
  | object fields =>
    cases hasSiblings with
    | true => exact hR.bind h fun above => hR.pure (Value.object (Entries.overlay above fields))
    | false => exact hR.pure (Value.object fields)
  | _ => exact hR.pure _

theorem walkFieldsBy_related (isReference : Bool) {fields : List (String × Value)}
    (hfields : ∀ entry ∈ fields, Related (walkBy resolver entry.2) (walkBy resolver' entry.2)) :
    Related (walkFieldsBy resolver isReference fields)
      (walkFieldsBy resolver' isReference fields) := by
  induction fields with
  | nil => exact hR.pure _
  | cons entry rest ih =>
    obtain ⟨name, value⟩ := entry
    have hrest := ih fun entry hentry => hfields entry (List.mem_cons_of_mem _ hentry)
    have hvalue := hfields (name, value) List.mem_cons_self
    rw [walkFieldsBy, walkFieldsBy]
    split
    · exact hrest
    · exact hR.bind hvalue fun resolved =>
        hR.bind hrest fun more => hR.pure ((name, resolved) :: more)

theorem walkItemsBy_related {items : List Value}
    (hitems : ∀ item ∈ items, Related (walkBy resolver item) (walkBy resolver' item)) :
    Related (walkItemsBy resolver items) (walkItemsBy resolver' items) := by
  induction items with
  | nil => exact hR.pure _
  | cons item rest ih =>
    have hrest := ih fun item hitem => hitems item (List.mem_cons_of_mem _ hitem)
    have hitem := hitems item List.mem_cons_self
    rw [walkItemsBy, walkItemsBy]
    exact hR.bind hitem fun resolved => hR.bind hrest fun more => hR.pure (resolved :: more)

/-- Two traversals of a value are related if the two resolutions of every single reference in it
are, however its siblings are laid over the target. -/
theorem walkBy_related (value : Value)
    (href : ∀ ref ∈ Reference.occurrences value, ∀ kept overlay overlay',
      (∀ target, Related (overlay target) (overlay' target)) →
      Related (resolver ref kept overlay) (resolver' ref kept overlay')) :
    Related (walkBy resolver value) (walkBy resolver' value) := by
  induction value using Value.inductionOnParts with
  | atom value hatom =>
    rw [walkBy_atom _ hatom, walkBy_atom _ hatom]
    exact hR.pure value
  | list items ih =>
    rw [walkBy, walkBy]
    refine hR.map Value.list (walkItemsBy_related hR fun item hitem => ih item hitem ?_)
    exact fun ref hocc => href ref (Reference.mem_occurrences_list.mpr ⟨item, hitem, hocc⟩)
  | object fields ih =>
    have hfields : ∀ isReference,
        Related (walkFieldsBy resolver isReference fields)
          (walkFieldsBy resolver' isReference fields) := by
      intro isReference
      refine walkFieldsBy_related hR isReference fun entry hentry => ih entry hentry ?_
      exact fun ref hocc =>
        href ref (Reference.mem_occurrences_object.mpr (Or.inr ⟨entry, hentry, hocc⟩))
    rw [walkBy, walkBy]
    cases hof : Reference.ofFields? fields with
    | none => exact hR.map Value.object (hfields false)
    | some ref =>
      refine href ref (Reference.mem_occurrences_object.mpr (Or.inl hof)) _ _ _ fun target => ?_
      exact overlayWith_related hR (hfields true) _ target

/-- Two walks through a value are related if the two resolutions of every single reference in it
are, however its siblings are laid over the target. -/
theorem walk_related {settings settings' : Settings} {expand expand' : Expander}
    {context : Context} {seen : List String} (value : Value)
    (href : ∀ ref ∈ Reference.occurrences value, ∀ kept overlay overlay',
      (∀ target, Related (overlay target) (overlay' target)) →
      Related (resolveReference settings expand context seen ref kept overlay)
        (resolveReference settings' expand' context seen ref kept overlay')) :
    Related (walk settings expand context seen value)
      (walk settings' expand' context seen value) := by
  rw [walk_eq_walkBy, walk_eq_walkBy]
  exact walkBy_related hR value href

end Related

end ClientGen.Resolution
