import ClientGen.Proofs.Resolution.Derivation
import Mathlib.Logic.Relation

/-!
# Nested expansions end

Resolving a value expands references, whose targets are resolved in turn.  `Calls` is the relation
between a value that is resolved and the targets that are resolved for it: the walk through a value
asks the expander for these and for nothing else (`walk_agrees`).

Each nested call has one more reference being expanded, never the same one twice, and only finitely
many can be entered when only finitely many documents are served (`BoundsNesting`).  So nesting ends,
and a bound as large as the number of references that can be entered is never felt
(`exists_boundsNesting`): resolution with any bound from there on, or with any other way to go on
beyond it, gives the same.  For a bundle the references of the document itself are enough
(`resolve_eq_resolveWithin`).
-/

namespace ClientGen.Resolution

/-! ### Runs that agree -/

/-- Two steps do the same with every faithful journal, and leave it faithful. -/
def Agrees (fetcher : Net.Fetcher) {α : Type} (run run' : Run α) : Prop :=
  ∀ j : Journal, j.IsFaithful fetcher →
    run.perform j = run'.perform j ∧ (run.perform j).2.IsFaithful fetcher

section Agrees

variable {fetcher : Net.Fetcher} {α β : Type}

theorem Agrees.pure (a : α) : Agrees fetcher (Pure.pure a : Run α) (Pure.pure a) :=
  fun _ hj => ⟨rfl, hj⟩

/-- Steps that agree are followed by steps that have to agree on what the first ones give. -/
theorem Agrees.bind {run run' : Run α} {next next' : α → Run β} (hrun : Agrees fetcher run run')
    (hnext : ∀ {j a k}, j.IsFaithful fetcher → run.perform j = (.ok a, k) →
      Agrees fetcher (next a) (next' a)) :
    Agrees fetcher (run >>= next) (run' >>= next') := by
  intro j hj
  obtain ⟨hsame, hfaithful⟩ := hrun j hj
  rw [perform_bind, perform_bind, ← hsame]
  rcases hperform : run.perform j with ⟨outcome, k⟩
  rw [hperform] at hfaithful
  cases outcome with
  | error problem => exact ⟨rfl, hfaithful⟩
  | ok a => exact hnext hj hperform k hfaithful

theorem congruence_agrees (fetcher : Net.Fetcher) : Run.Congruence (Agrees fetcher) where
  pure := Agrees.pure
  bind hrun hnext := hrun.bind fun _ _ => hnext _

/-- A step that leaves the documents on record alone agrees with itself. -/
theorem agrees_of_documents_eq {run : Run α}
    (h : ∀ j, (run.perform j).2.documents = j.documents) : Agrees fetcher run run :=
  fun j hj => ⟨rfl, isFaithful_of_documents_eq hj (h j)⟩

theorem agrees_failOr (settings : Settings) (failure : Failure) (kept : Value) :
    Agrees fetcher (failOr settings failure kept) (failOr settings failure kept) := by
  refine agrees_of_documents_eq fun j => ?_
  unfold failOr
  cases settings.lenient <;> rfl

theorem agrees_keepCircular (ref : String) (kept : Value) :
    Agrees fetcher (keepCircular ref kept) (keepCircular ref kept) :=
  agrees_of_documents_eq fun _ => rfl

theorem agrees_liftUrl (outcome : Except Url.Fault α) :
    Agrees fetcher (liftUrl outcome) (liftUrl outcome) := by
  refine agrees_of_documents_eq fun j => ?_
  cases outcome <;> rfl

theorem agrees_passGate (url : String) (domains : List String) :
    Agrees fetcher (passGate url domains) (passGate url domains) := by
  refine agrees_of_documents_eq fun j => ?_
  unfold passGate
  cases Net.checkUrl url domains <;> rfl

theorem agrees_link (settings : Settings) (context : Context) (ref pointer : String)
    (kept : Value) : Agrees fetcher (link settings context ref pointer kept)
      (link settings context ref pointer kept) := by
  unfold link
  cases Pointer.follow context.root pointer with
  | ok target => exact agrees_of_documents_eq fun _ => rfl
  | error fault => exact agrees_failOr settings _ kept

end Agrees

/-! ### Calls -/

/-- A value to be resolved, where it is read and the references that are being expanded. -/
structure Call where
  context : Context
  seen : List String
  value : Value

/-- For a value the target of one of its references is resolved. -/
def Calls (settings : Settings) (call inner : Call) : Prop :=
  ∃ ref ∈ Reference.occurrences call.value, ∃ identity j k,
    Leads settings call.context call.seen ref j identity inner.context inner.value k ∧
      inner.seen = identity :: call.seen

section Walk

variable {settings : Settings} {expand expand' : Expander} {context : Context}
  {seen : List String}

/-- Two expanders agree on the target of a reference, if it has one. -/
def AgreeAt (settings : Settings) (expand expand' : Expander) (context : Context)
    (seen : List String) (ref : String) : Prop :=
  ∀ {identity inner target j k}, Leads settings context seen ref j identity inner target k →
    Agrees settings.fetcher (expand inner (identity :: seen) target)
      (expand' inner (identity :: seen) target)

variable {ref : String} {kept : Value} {overlay overlay' : Value → Run Value}
  (hexpand : AgreeAt settings expand expand' context seen ref)
  (hoverlay : ∀ target, Agrees settings.fetcher (overlay target) (overlay' target))

include hexpand hoverlay

theorem expandLocal_agrees {pointer : String} (hpointer : localPointer? ref = some pointer)
    (hlink : isLink settings context ref = false) :
    Agrees settings.fetcher (expandLocal settings expand context seen ref pointer kept overlay)
      (expandLocal settings expand' context seen ref pointer kept overlay') := by
  unfold expandLocal
  dsimp only
  split
  · exact agrees_keepCircular ref kept
  · rename_i hseen
    cases hfollow : Pointer.follow context.root pointer with
    | error fault => exact agrees_failOr settings _ kept
    | ok target =>
      have hnotMem : context.url.getD "" ++ ref ∉ seen :=
        fun hmem => hseen (List.contains_iff_mem.mpr hmem)
      have hleads : Leads settings context seen ref .start _ context target .start :=
        .here hpointer hlink hnotMem hfollow
      exact (hexpand hleads).bind fun _ _ => hoverlay _

theorem expandAt_agrees {url fragment : String} (hpointer : localPointer? ref = none)
    (hexternal : settings.external = true)
    (haddress : address context ref = .ok (url, fragment)) :
    Agrees settings.fetcher (expandAt settings expand seen ref kept overlay url fragment)
      (expandAt settings expand' seen ref kept overlay' url fragment) := by
  unfold expandAt
  dsimp only
  split
  · exact agrees_keepCircular ref kept
  · rename_i hseen
    have hnotMem : url ++ "#" ++ fragment ∉ seen :=
      fun hmem => hseen (List.contains_iff_mem.mpr hmem)
    refine (agrees_passGate url settings.domains).bind fun _ hpass => ?_
    obtain ⟨⟨host, hgate⟩, -⟩ := perform_passGate_ok.mp hpass
    have hload : Agrees settings.fetcher (ExceptT.lift (load settings url).run : Run _)
        (ExceptT.lift (load settings url).run) :=
      fun j hj => ⟨rfl, (load_spec settings url hj).1⟩
    refine hload.bind fun {j loaded k} hj hperform => ?_
    cases loaded with
    | error problem =>
      cases problem with
      | failure failure => exact agrees_failOr settings failure kept
      | unexpected u => exact agrees_of_documents_eq fun _ => rfl
    | ok document =>
      have hserved : served? settings.fetcher url = some document :=
        (load_spec settings url hj).2.2 document (Except.ok.inj (congrArg Prod.fst hperform))
      dsimp only
      cases hfollow : Pointer.follow document fragment with
      | error fault => exact agrees_failOr settings _ kept
      | ok target =>
        have hleads : Leads settings context seen ref .start _ ⟨document, some url⟩ target .start :=
          .elsewhere hpointer hexternal haddress hnotMem hgate hserved ⟨rfl, rfl, rfl⟩ hfollow
        exact (hexpand hleads).bind fun _ _ => hoverlay _

/-- Resolving a reference asks for its target only. -/
theorem resolveReference_agrees :
    Agrees settings.fetcher (resolveReference settings expand context seen ref kept overlay)
      (resolveReference settings expand' context seen ref kept overlay') := by
  unfold resolveReference
  cases hpointer : localPointer? ref with
  | some pointer =>
    change Agrees _ (if isLink settings context ref = true then _ else _)
      (if isLink settings context ref = true then _ else _)
    by_cases hlink : isLink settings context ref = true
    · rw [if_pos hlink, if_pos hlink]
      exact agrees_link settings context ref pointer kept
    · rw [if_neg hlink, if_neg hlink]
      rw [Bool.not_eq_true] at hlink
      exact expandLocal_agrees hexpand hoverlay hpointer hlink
  | none =>
    cases hexternal : settings.external with
    | true =>
      dsimp only
      rw [if_pos rfl, if_pos rfl, expandExternal_eq, expandExternal_eq]
      refine (agrees_liftUrl _).bind fun {j parts k} _ hlift => ?_
      obtain ⟨haddress, -⟩ := perform_liftUrl_ok.mp hlift
      exact expandAt_agrees hexpand hoverlay hpointer hexternal haddress
    | false => exact Agrees.pure kept

end Walk

/-- A walk asks the expander for the calls of its value only. -/
theorem walk_agrees {settings : Settings} {expand expand' : Expander} {call : Call}
    (h : ∀ inner, Calls settings call inner →
      Agrees settings.fetcher (expand inner.context inner.seen inner.value)
        (expand' inner.context inner.seen inner.value)) :
    Agrees settings.fetcher (walk settings expand call.context call.seen call.value)
      (walk settings expand' call.context call.seen call.value) := by
  refine walk_related (congruence_agrees settings.fetcher) call.value ?_
  intro ref href kept overlay overlay' hoverlay
  refine resolveReference_agrees ?_ hoverlay
  intro identity inner target j k hleads
  exact h ⟨inner, identity :: call.seen, target⟩ ⟨ref, href, identity, j, k, hleads, rfl⟩

/-! ### Stacks of references -/

/-- The call with which the resolution of a document starts. -/
def Call.start (content : Value) : Call := ⟨⟨content, none⟩, [], content⟩

/-- The documents that can be read, the one at hand first. -/
def contexts (settings : Settings) (content : Value) (served : List String) : List Context :=
  ⟨content, none⟩ :: served.filterMap fun url =>
    (served? settings.fetcher url).map fun document => ⟨document, some url⟩

/-- What tells the targets apart that references of the documents can lead to. -/
def identities (settings : Settings) (content : Value) (served : List String) : List String :=
  if settings.external then
    (contexts settings content served).flatMap fun context =>
      (Reference.references context.root).filterMap (identity? context)
  else Reference.references content

/-- What holds of every call: it reads a known document, its references are among those of that
document, and the references that are being expanded are known and distinct. -/
structure Call.IsSound (settings : Settings) (content : Value) (served : List String)
    (call : Call) : Prop where
  context : call.context ∈ contexts settings content served
  atHand : settings.external = false → call.context = ⟨content, none⟩
  inner : ∀ ref ∈ Reference.occurrences call.value, ref ∈ Reference.references call.context.root
  nodup : call.seen.Nodup
  known : call.seen ⊆ identities settings content served

section Stack

variable {settings : Settings} {content : Value} {served : List String}
  (hserved : settings.external = true → ∀ url ∉ served, served? settings.fetcher url = none)

theorem isSound_start : (Call.start content).IsSound settings content served where
  context := List.mem_cons_self
  atHand _ := rfl
  inner _ href := Reference.mem_references.mpr href
  nodup := List.nodup_nil
  known := List.nil_subset _

/-- A pointer selects a part with references of its document only. -/
theorem occurrences_of_follow {root target : Value} {pointer : String}
    (h : Pointer.follow root pointer = .ok target) :
    ∀ ref ∈ Reference.occurrences target, ref ∈ Reference.references root :=
  Pointer.follow_inherited (Reference.inherited_occurrences _)
    (fun _ href => Reference.mem_references.mpr href) h

include hserved

/-- A call from a sound call is sound. -/
theorem isSound_of_calls {call inner : Call} (hcall : call.IsSound settings content served)
    (h : Calls settings call inner) : inner.IsSound settings content served := by
  obtain ⟨ref, href, identity, j, k, hleads, hseen⟩ := h
  have hroot := hcall.inner ref href
  have hknown : ∀ {identity}, identity? call.context ref = some identity →
      settings.external = true → identity ∈ identities settings content served := by
    intro identity hidentity hexternal
    unfold identities
    rw [if_pos hexternal, List.mem_flatMap]
    exact ⟨call.context, hcall.context, List.mem_filterMap.mpr ⟨ref, hroot, hidentity⟩⟩
  obtain ⟨innerContext, innerSeen, innerValue⟩ := inner
  dsimp only at hleads hseen
  subst hseen
  cases hleads with
  | @here pointer _ hpointer hlink hnotMem hfollow =>
    refine ⟨hcall.context, hcall.atHand, occurrences_of_follow hfollow,
      List.nodup_cons.mpr ⟨hnotMem, hcall.nodup⟩, List.cons_subset.mpr ⟨?_, hcall.known⟩⟩
    cases hexternal : settings.external with
    | true =>
      refine hknown ?_ hexternal
      unfold identity?
      rw [hpointer]
    | false =>
      rw [hcall.atHand hexternal] at hroot ⊢
      unfold identities
      rw [if_neg (hexternal ▸ Bool.false_ne_true)]
      change "" ++ ref ∈ _
      rwa [String.empty_append]
  | @elsewhere url fragment host document _ _ hpointer hexternal haddress hnotMem _ hfound _
      hfollow =>
    refine ⟨?_, ?_, occurrences_of_follow hfollow, List.nodup_cons.mpr ⟨hnotMem, hcall.nodup⟩,
      List.cons_subset.mpr ⟨hknown ?_ hexternal, hcall.known⟩⟩
    · have hurl : url ∈ served := by
        by_contra hnot
        rw [hserved hexternal url hnot] at hfound
        cases hfound
      refine List.mem_cons_of_mem _ (List.mem_filterMap.mpr ⟨url, hurl, ?_⟩)
      rw [hfound]
      rfl
    · intro hnot
      rw [hexternal] at hnot
      cases hnot
    · unfold identity?
      rw [hpointer, haddress]
      rfl

/-- **No reference is entered twice along nested calls**, and those entered are known. -/
theorem isSound_of_reachable {call : Call}
    (h : Relation.ReflTransGen (Calls settings) (.start content) call) :
    call.IsSound settings content served := by
  induction h with
  | refl => exact isSound_start
  | tail _ hcalls ih => exact isSound_of_calls hserved ih hcalls

end Stack

/-! ### Nesting ends -/

/-- Resolves the references of a value; below `depth` nested expansions `beyond` takes over. -/
def resolveOver (settings : Settings) (beyond : Expander) : Nat → Expander
  | 0 => walk settings beyond
  | depth + 1 => walk settings (resolveOver settings beyond depth)

theorem resolveValue_eq_resolveOver (settings : Settings) (depth : Nat) :
    resolveValue settings depth = resolveOver settings (fun _ _ _ => throw tooDeep) depth := by
  induction depth with
  | zero => rfl
  | succ depth ih =>
    unfold resolveOver
    rw [← ih]
    rfl

/-- Nested expansions end with at most the given references being expanded, each once, so no larger
bound on nesting, nor what happens beyond it, makes a difference. -/
structure BoundsNesting (options : ResolutionOptions) (fetcher : Net.Fetcher) (content : Value)
    (known : List String) : Prop where
  asks : ∀ (call : Call) (expand expand' : Expander),
    (∀ inner, Calls (options.settings fetcher) call inner →
      Agrees fetcher (expand inner.context inner.seen inner.value)
        (expand' inner.context inner.seen inner.value)) →
    Agrees fetcher (walk (options.settings fetcher) expand call.context call.seen call.value)
      (walk (options.settings fetcher) expand' call.context call.seen call.value)
  stack : ∀ call,
    Relation.ReflTransGen (Calls (options.settings fetcher)) (.start content) call →
      call.seen.Nodup ∧ call.seen ⊆ known
  ends : Acc (fun inner call => Calls (options.settings fetcher) call inner) (.start content)
  beyond : ∀ expand expand' : Expander, ∀ depth ≥ known.length, ∀ depth' ≥ known.length,
    (resolveOver (options.settings fetcher) expand depth ⟨content, none⟩ [] content).perform .start =
      (resolveOver (options.settings fetcher) expand' depth' ⟨content, none⟩ [] content).perform
        .start
  within : ∀ depth ≥ known.length, ∀ file,
    resolveWithin depth options fetcher file content =
      resolveWithin known.length options fetcher file content

section Nesting

variable {settings : Settings} {content : Value} {served : List String}
  (hserved : settings.external = true → ∀ url ∉ served, served? settings.fetcher url = none)

/-- The references that are being expanded are no more than those that are known. -/
theorem Call.IsSound.length_le {call : Call} (hcall : call.IsSound settings content served) :
    call.seen.length ≤ (identities settings content served).length :=
  hcall.nodup.length_le_of_subset hcall.known

theorem length_seen_of_calls {call inner : Call} (h : Calls settings call inner) :
    inner.seen.length = call.seen.length + 1 := by
  obtain ⟨_, _, _, _, _, _, hseen⟩ := h
  rw [hseen, List.length_cons]

include hserved

/-- There is no call once all known references are being expanded. -/
theorem not_calls_of_length_le {call : Call} (hcall : call.IsSound settings content served)
    (hfull : (identities settings content served).length ≤ call.seen.length) (inner : Call) :
    ¬Calls settings call inner := by
  intro hinner
  have hle := (isSound_of_calls hserved hcall hinner).length_le
  have hlength := length_seen_of_calls hinner
  omega

/-- Each nested call leaves fewer references to be entered. -/
theorem acc_of_isSound {call : Call} (hcall : call.IsSound settings content served) :
    Acc (fun inner call => Calls settings call inner) call := by
  refine Acc.intro call fun inner hinner => ?_
  have hsound := isSound_of_calls hserved hcall hinner
  have hlength := length_seen_of_calls hinner
  have hle := hsound.length_le
  exact acc_of_isSound hsound
termination_by (identities settings content served).length - call.seen.length
decreasing_by omega

/-- With a bound that leaves room for all references not yet being expanded, neither the bound nor
what is beyond it matters. -/
theorem resolveOver_agrees {beyond beyond' : Expander} {depth depth' : Nat} {call : Call}
    (hcall : call.IsSound settings content served)
    (hdepth : (identities settings content served).length ≤ call.seen.length + depth)
    (hdepth' : (identities settings content served).length ≤ call.seen.length + depth') :
    Agrees settings.fetcher
      (resolveOver settings beyond depth call.context call.seen call.value)
      (resolveOver settings beyond' depth' call.context call.seen call.value) := by
  induction depth generalizing depth' call with
  | zero =>
    have hnone := not_calls_of_length_le hserved hcall hdepth
    cases depth' <;> exact walk_agrees fun inner hinner => absurd hinner (hnone inner)
  | succ depth ih =>
    cases depth' with
    | zero =>
      have hnone := not_calls_of_length_le hserved hcall hdepth'
      exact walk_agrees fun inner hinner => absurd hinner (hnone inner)
    | succ depth' =>
      refine walk_agrees fun inner hinner => ?_
      have hlength := length_seen_of_calls hinner
      exact ih (isSound_of_calls hserved hcall hinner) (by omega) (by omega)

end Nesting

section Document

variable {options : ResolutionOptions} {fetcher : Net.Fetcher} {content : Value}
  {served : List String}

theorem agrees_passGates (options : ResolutionOptions) (refs : List String) :
    Agrees fetcher (passGates options refs) (passGates options refs) := by
  induction refs with
  | nil => exact Agrees.pure ()
  | cons ref rest ih =>
    exact (agrees_liftUrl _).bind fun _ _ =>
      (agrees_passGate _ options.domains).bind fun _ _ => ih

section Agree

variable (hserved : options.external = true → ∀ url ∉ served, served? fetcher url = none)

include hserved

/-- Resolutions of the content with bounds that leave room for all references agree. -/
theorem resolveOver_start_agrees (beyond beyond' : Expander) {depth depth' : Nat}
    (hdepth : (identities (options.settings fetcher) content served).length ≤ depth)
    (hdepth' : (identities (options.settings fetcher) content served).length ≤ depth') :
    Agrees fetcher
      (resolveOver (options.settings fetcher) beyond depth ⟨content, none⟩ [] content)
      (resolveOver (options.settings fetcher) beyond' depth' ⟨content, none⟩ [] content) := by
  have hserved' : (options.settings fetcher).external = true →
      ∀ url ∉ served, served? (options.settings fetcher).fetcher url = none := hserved
  have hroom : ∀ {depth}, (identities (options.settings fetcher) content served).length ≤ depth →
      (identities (options.settings fetcher) content served).length ≤
        (Call.start content).seen.length + depth :=
    fun h => Nat.le_trans h (Nat.le_add_left _ _)
  exact resolveOver_agrees hserved' isSound_start (hroom hdepth) (hroom hdepth')

/-- Resolutions of a document with bounds that leave room for all references agree. -/
theorem resolveDocument_agrees {depth depth' : Nat}
    (hdepth : (identities (options.settings fetcher) content served).length ≤ depth)
    (hdepth' : (identities (options.settings fetcher) content served).length ≤ depth') :
    Agrees fetcher (resolveDocument options fetcher depth content)
      (resolveDocument options fetcher depth' content) := by
  rw [resolveDocument_eq, resolveDocument_eq]
  refine Agrees.bind ?_ fun _ _ => ?_
  · split
    · exact agrees_passGates options _
    · exact Agrees.pure ()
  · rw [resolveValue_eq_resolveOver, resolveValue_eq_resolveOver]
    exact resolveOver_start_agrees hserved _ _ hdepth hdepth'

theorem resolveWithin_eq {depth depth' : Nat}
    (hdepth : (identities (options.settings fetcher) content served).length ≤ depth)
    (hdepth' : (identities (options.settings fetcher) content served).length ≤ depth')
    (file : String) :
    resolveWithin depth options fetcher file content =
      resolveWithin depth' options fetcher file content := by
  have hrun := (resolveDocument_agrees hserved hdepth hdepth' .start (isFaithful_start fetcher)).1
  unfold Run.perform at hrun
  unfold resolveWithin
  rw [hrun]

/-- Only the references that the served documents make known can be entered. -/
theorem boundsNesting_identities :
    BoundsNesting options fetcher content
      (identities (options.settings fetcher) content served) where
  asks _ _ _ h := walk_agrees h
  stack _ hcall :=
    have hsound := isSound_of_reachable hserved hcall
    ⟨hsound.nodup, hsound.known⟩
  ends := acc_of_isSound hserved isSound_start
  beyond expand expand' _ hdepth _ hdepth' :=
    (resolveOver_start_agrees hserved expand expand' hdepth hdepth' .start
      (isFaithful_start fetcher)).1
  within _ hdepth file := resolveWithin_eq hserved hdepth (Nat.le_refl _) file

end Agree

/-- For a bundle nothing but the references of the document can be entered. -/
theorem identities_eq_references (hexternal : options.external = false) :
    identities (options.settings fetcher) content served = Reference.references content := by
  unfold identities ResolutionOptions.settings
  rw [hexternal]
  rfl

/-- **Nested expansions end** for every document when finitely many URLs are served: the references
that can be entered are finitely many, and for a bundle they are those of the document. -/
theorem exists_boundsNesting (options : ResolutionOptions) (fetcher : Net.Fetcher)
    (content : Value) (served : List String)
    (hserved : ∀ url ∉ served, ∀ text, (fetcher url).outcome ≠ .ok text) :
    ∃ known, BoundsNesting options fetcher content known ∧
      (options.external = false → known = Reference.references content) := by
  have hnone : ∀ url ∉ served, served? fetcher url = none := by
    intro url hurl
    unfold served?
    cases htext : (fetcher url).outcome with
    | error problem => rfl
    | ok text => exact absurd htext (hserved url hurl text)
  exact ⟨_, boundsNesting_identities fun _ => hnone, identities_eq_references⟩

/-- A fetcher that serves two documents which refer to each other. -/
def pairServed : Net.Fetcher := fun url =>
  if url = "https://example.com/a.yaml" then ⟨[url], .ok "p:\n  $ref: b.yaml#/q\n"⟩
  else if url = "https://example.com/b.yaml" then ⟨[url], .ok "q:\n  $ref: ../a.yaml#/p\n"⟩
  else unserved url

/-- The cycle between the two documents is entered finitely often. -/
theorem exists_boundsNesting_pairServed :
    (∀ url ∉ ["https://example.com/a.yaml", "https://example.com/b.yaml"],
      ∀ text, (pairServed url).outcome ≠ .ok text) ∧
    ∃ known, BoundsNesting { external := true } pairServed
      (.object [("x", .object [("$ref", .str "https://example.com/a.yaml#/p")])]) known := by
  have hserved : ∀ url ∉ ["https://example.com/a.yaml", "https://example.com/b.yaml"],
      ∀ text, (pairServed url).outcome ≠ .ok text := by
    intro url hurl text
    rw [List.mem_cons, List.mem_singleton, not_or] at hurl
    unfold pairServed
    rw [if_neg hurl.1, if_neg hurl.2]
    intro h
    cases h
  obtain ⟨known, hknown, -⟩ := exists_boundsNesting { external := true } pairServed
    (.object [("x", .object [("$ref", .str "https://example.com/a.yaml#/p")])]) _ hserved
  exact ⟨hserved, known, hknown⟩

/-- For a bundle the bound that `resolve` takes is as good as any larger one. -/
theorem resolve_eq_resolveWithin (hexternal : options.external = false) {depth : Nat}
    (hdepth : (Reference.references content).length ≤ depth) (file : String) :
    resolve options fetcher file content = resolveWithin depth options fetcher file content := by
  have hserved : options.external = true →
      ∀ url ∉ ([] : List String), served? fetcher url = none := by
    rw [hexternal]
    intro h
    cases h
  have hknown : identities (options.settings fetcher) content [] = Reference.references content :=
    identities_eq_references hexternal
  unfold resolve depthFor
  refine resolveWithin_eq hserved ?_ (hknown ▸ hdepth) file
  rw [hknown]
  exact Nat.le_add_right _ _

end Document

end ClientGen.Resolution
