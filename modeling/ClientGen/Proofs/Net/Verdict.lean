import ClientGen.Net.Gate
import ClientGen.Proofs.Text
import ClientGen.Proofs.Url
import Mathlib

/-!
# What the verdict of the gate depends on

The gate judges a URL by its scheme and its host: two URLs that have these in common have the same
verdict (`verdict_eq`), which is that of the URL of the scheme and the host alone (`judgesByHost`).
Nothing that stands in front of the host, however many `@` and `:` there are, and nothing that
follows it is taken for another host.

The host in turn is held against the allowed domains label by label (`labels`).  A domain admits the
hosts whose last labels are its own (`Admits`), and a list of domains lets exactly those hosts pass
that some domain of the list admits (`matchesLabels`): the ends of texts are compared there, but a
part of a label never counts (`not_admits_of_partLabel`).  A domain of which nothing is left to
compare, such as one of points alone, admits no host that has more than points
(`admits_iff_of_empty`).
-/

namespace ClientGen.Net

/-! ### Verdicts -/

/-- What the gate says of a URL: its host, or the kind of failure that its refusal is. -/
def verdict (url : String) (allowed : List String) : Except FailureKind String :=
  (checkUrl url allowed).mapError Failure.kind

/-- What the gate says of a scheme and of the name of a host, both as they are compared. -/
def judge (scheme host : String) (allowed : List String) : Except FailureKind String :=
  if scheme ∉ ["http", "https"] then .error .unsafeProtocol
  else if host = "" then .error .fetchFailed
  else if isPrivateHost host then .error .privateAddress
  else if isAllowedDomain host allowed then .ok host
  else .error .domainNotAllowed

/-- The name of a host: in small letters, but for what follows a percent sign. -/
def hostName (host : List Char) : String :=
  let name := host.takeWhile (· ≠ '%')
  Text.lower (String.ofList name) ++ String.ofList (host.drop name.length)

/-- Of the parts of a URL only the scheme and the host are judged. -/
theorem verdict_of_split {url : String} {parts : Url.Parts} (h : Url.split url = .ok parts)
    (allowed : List String) :
    verdict url allowed = judge (String.ofList parts.scheme) parts.host allowed := by
  unfold verdict checkUrl examine judge
  rw [h]
  dsimp only
  have hweb : (String.ofList parts.scheme ≠ "http" ∧ String.ofList parts.scheme ≠ "https") ↔
      String.ofList parts.scheme ∉ ["http", "https"] := by
    simp
  by_cases hscheme : String.ofList parts.scheme ∉ ["http", "https"]
  · rw [if_pos (hweb.mpr hscheme), if_pos hscheme]
    rfl
  · rw [if_neg (hweb.not.mpr hscheme), if_neg hscheme]
    by_cases hempty : parts.host = ""
    · rw [if_pos (String.isEmpty_iff.mpr hempty), if_pos hempty]
      rfl
    · rw [if_neg (String.isEmpty_iff.not.mpr hempty), if_neg hempty]
      cases isPrivateHost parts.host <;> cases isAllowedDomain parts.host allowed <;> rfl

theorem verdict_of_isSound {w : Url.Written} (h : w.IsSound) (allowed : List String) :
    verdict w.url allowed =
      judge (String.ofList (w.scheme.map Char.toLower)) (hostName w.host) allowed := by
  obtain ⟨parts, hsplit, hscheme, hhost⟩ := h.exists_split
  have hname : parts.host = hostName w.host := by
    unfold Url.Parts.host hostName
    rw [hhost]
  rw [verdict_of_split hsplit, hscheme, hname]

/-- **URLs with the same scheme and the same host have the same verdict.** -/
theorem verdict_eq {w v : Url.Written} (hw : w.IsSound) (hv : v.IsSound)
    (hscheme : w.scheme = v.scheme) (hhost : w.host = v.host) (allowed : List String) :
    verdict w.url allowed = verdict v.url allowed := by
  rw [verdict_of_isSound hw, verdict_of_isSound hv, hscheme, hhost]

/-! ### URLs with all their parts -/

/-- The characters that end an authority, brackets and the backslash. -/
def reserved : List Char :=
  ['/', '?', '#', '[', ']', '\\']

/-- Printable characters of ASCII that are not reserved. -/
def isUserChar (c : Char) : Bool :=
  0x20 ≤ c.toNat && c.toNat ≤ 0x7e && !reserved.contains c

/-- Characters of a user, apart from those that stand behind a user and in front of a port. -/
def isHostChar (c : Char) : Bool :=
  isUserChar c && c != '@' && c != ':'

theorem isPlain_of_isUserChar {c : Char} (h : isUserChar c = true) : Url.isPlain c = true := by
  simp only [isUserChar, Bool.and_eq_true, decide_eq_true_eq, Bool.not_eq_true',
    List.contains_eq_mem, decide_eq_false_iff_not] at h
  obtain ⟨⟨hleast, hgreatest⟩, hother⟩ := h
  refine (Url.Written.isPlain_iff_of_ascii (by omega)).mpr ⟨?_, ?_, ?_, ?_⟩
  · by_contra hends
    rcases Url.Written.eq_of_endsAuthority (eq_true_of_ne_false hends) with rfl | rfl | rfl
    all_goals exact hother (by decide)
  · -- Tabs and ends of lines are below the printable characters.
    by_contra hignored
    rcases Url.Written.eq_of_isIgnored (eq_true_of_ne_false hignored) with rfl | rfl | rfl
    all_goals exact absurd hleast (by decide)
  · rintro rfl
    exact hother (by decide)
  · rintro rfl
    exact hother (by decide)

/-- Texts with the characters that a scheme, a user, a host and a port may have. -/
structure AreParts (scheme user host port : String) : Prop where
  /-- A scheme begins with a letter. -/
  letter : scheme.toList.head?.any Char.isAlpha = true
  scheme : scheme.toList.all Url.isSchemeChar = true
  user : user.toList.all isUserChar = true
  host : host.toList.all isHostChar = true
  port : port.toList.all Char.isDigit = true

/-- A URL with all its parts. -/
def fullUrl (scheme user host port path query fragment : String) : Url.Written where
  scheme := scheme.toList
  user := some user.toList
  host := host.toList
  port := some port.toList
  rest := '/' :: path.toList ++ '?' :: query.toList ++ '#' :: fragment.toList

/-- A URL of a scheme and a host. -/
def bareUrl (scheme host : String) : Url.Written where
  scheme := scheme.toList
  user := none
  host := host.toList
  port := none
  rest := []

theorem url_fullUrl (scheme user host port path query fragment : String) :
    (fullUrl scheme user host port path query fragment).url =
      scheme ++ "://" ++ user ++ "@" ++ host ++ ":" ++ port ++ "/" ++ path ++ "?" ++ query ++
        "#" ++ fragment := by
  rw [← String.toList_inj, Url.Written.url, String.toList_ofList]
  simp [fullUrl, Url.Written.text, Url.Written.authority, Url.Written.place]

theorem url_bareUrl (scheme host : String) :
    (bareUrl scheme host).url = scheme ++ "://" ++ host := by
  rw [← String.toList_inj, Url.Written.url, String.toList_ofList]
  simp [bareUrl, Url.Written.text, Url.Written.authority, Url.Written.place]

namespace AreParts

variable {scheme user host port : String}

theorem isHost (h : AreParts scheme user host port) :
    ∀ c ∈ host.toList, Url.isPlain c = true ∧ c ≠ '@' ∧ c ≠ ':' := by
  intro c hc
  have hchar := List.all_eq_true.mp h.host c hc
  simp only [isHostChar, Bool.and_eq_true, bne_iff_ne] at hchar
  obtain ⟨⟨huser, hat⟩, hcolon⟩ := hchar
  exact ⟨isPlain_of_isUserChar huser, hat, hcolon⟩

theorem isSound_fullUrl (h : AreParts scheme user host port) (path query fragment : String) :
    (fullUrl scheme user host port path query fragment).IsSound where
  letter := h.letter
  scheme := List.all_eq_true.mp h.scheme
  user := by
    rintro _ ⟨⟩ c hc
    exact isPlain_of_isUserChar (List.all_eq_true.mp h.user c hc)
  host := h.isHost
  port := by
    rintro _ ⟨⟩
    exact List.all_eq_true.mp h.port
  rest := by
    rintro _ ⟨⟩
    rfl

theorem isSound_bareUrl (h : AreParts scheme user host port) : (bareUrl scheme host).IsSound where
  letter := h.letter
  scheme := List.all_eq_true.mp h.scheme
  user _ huser := by cases huser
  host := h.isHost
  port _ hport := by cases hport
  rest _ hrest := by cases hrest

end AreParts

/-- **The gate judges by the scheme and the host alone**: a URL with all its parts has the verdict
of the URL that consists of these two, and that is the verdict on the scheme and the host in small
letters. -/
theorem judgesByHost {scheme user host port : String} (h : AreParts scheme user host port)
    (path query fragment : String) (allowed : List String) :
    verdict (scheme ++ "://" ++ user ++ "@" ++ host ++ ":" ++ port ++ "/" ++ path ++ "?" ++ query ++
        "#" ++ fragment) allowed =
      verdict (scheme ++ "://" ++ host) allowed ∧
    verdict (scheme ++ "://" ++ host) allowed =
      judge (String.ofList (scheme.toList.map Char.toLower)) (hostName host.toList) allowed := by
  rw [← url_fullUrl, ← url_bareUrl]
  exact ⟨verdict_eq (h.isSound_fullUrl path query fragment) h.isSound_bareUrl rfl rfl allowed,
    verdict_of_isSound h.isSound_bareUrl allowed⟩

/-- Neither the user, with an address and an `@` in it, nor what follows is taken for the host. -/
theorem judgesByHost_misleading :
    AreParts "HTTPS" "10.0.0.1:80@a:b" "Example.com" "8080" ∧
      (verdict ("HTTPS" ++ "://" ++ "10.0.0.1:80@a:b" ++ "@" ++ "Example.com" ++ ":" ++ "8080" ++
          "/" ++ "x@10.0.0.1:80//" ++ "?" ++ "u=http://localhost" ++ "#" ++ "/@[") ["example.com"] =
        verdict ("HTTPS" ++ "://" ++ "Example.com") ["example.com"] ∧
      verdict ("HTTPS" ++ "://" ++ "Example.com") ["example.com"] =
        judge (String.ofList ("HTTPS".toList.map Char.toLower)) (hostName "Example.com".toList)
          ["example.com"]) := by
  have hparts : AreParts "HTTPS" "10.0.0.1:80@a:b" "Example.com" "8080" :=
    ⟨by decide, by decide, by decide, by decide, by decide⟩
  exact ⟨hparts, judgesByHost hparts _ _ _ _⟩

example : checkUrl "https://10.0.0.1:80@a:b@Example.com:8080/x@10.0.0.1:80" [] =
    .ok "example.com" := by
  decide +kernel

/-! ### Labels -/

/-- The labels of a name, which stand between its points; the empty name is one empty label. -/
def labels (name : String) : List (List Char) :=
  Text.splitChars '.' name.toList

/-- A domain admits a host when its labels are the last ones of the host, both as they are
compared. -/
def Admits (domain host : String) : Prop :=
  labels (plainDomain domain) <:+ labels (plainHost host)

/-- The labels of a domain are the last ones of a name when the name is the domain, or ends with it
behind a point. -/
theorem labels_suffix_iff {domain name : String} :
    labels domain <:+ labels name ↔ name = domain ∨ Text.endsWith ("." ++ domain) name = true := by
  have hpoint : ("." ++ domain).toList = '.' :: domain.toList := by
    rw [String.toList_append]
    rfl
  rw [labels, labels, Text.splitChars_suffix_iff, String.toList_inj, Text.endsWith, hpoint,
    List.isSuffixOf_iff_suffix]

/-- **A host is allowed if some domain admits it.** -/
theorem isAllowedDomain_iff {host : String} {domains : List String} (h : domains ≠ []) :
    isAllowedDomain host domains = true ↔ ∃ domain ∈ domains, Admits domain host := by
  have hlisted : domains.isEmpty = false := by simpa using h
  have hadmits : ∀ domain, (plainHost host == plainDomain domain ||
      Text.endsWith ("." ++ plainDomain domain) (plainHost host)) = true ↔ Admits domain host := by
    intro domain
    rw [Admits, labels_suffix_iff, Bool.or_eq_true, beq_iff_eq]
  unfold isAllowedDomain
  dsimp only
  rw [hlisted, Bool.false_or, List.any_eq_true]
  simp only [hadmits]

/-! ### Parts of labels -/

/-- **A domain does not admit a host that ends with it inside a label.** -/
theorem not_admits_of_partLabel {domain host : String} {lead : List Char} {c : Char}
    (h : (plainHost host).toList = lead ++ c :: (plainDomain domain).toList) (hc : c ≠ '.') :
    ¬Admits domain host := by
  rw [Admits, labels, labels, Text.splitChars_suffix_iff, h]
  rintro (hsame | ⟨front, hfront⟩)
  · have hlength := congrArg List.length hsame
    simp only [List.length_append, List.length_cons] at hlength
    omega
  · -- The character in front of the domain is the one of the host, which is no point.
    have hends : lead ++ [c] ++ (plainDomain domain).toList =
        front ++ ['.'] ++ (plainDomain domain).toList := by
      simp only [List.append_assoc, List.singleton_append, hfront]
    have hlast := List.append_cancel_right hends
    exact hc (List.append_inj_right' hlast rfl |> List.singleton_injective)

/-! ### Points alone -/

/-- A text of points only. -/
def IsPoints (cs : List Char) : Prop :=
  ∀ c ∈ cs, c = '.'

theorem lt_of_lowerCode? {n m : Nat} (h : Text.lowerCode? n = some m) : '.'.toNat < m := by
  have hruns : ∀ run ∈ Text.lowerRuns, ('.'.toNat : Int) < run.1 + run.2.2.2 := by decide +kernel
  obtain ⟨run, hrun, rfl⟩ := Option.map_eq_some_iff.mp h
  have hfirst : run.1 ≤ n := by
    have hinside := List.find?_some hrun
    simp only [Bool.and_eq_true, decide_eq_true_eq] at hinside
    exact hinside.1.1
  have hleast := hruns run (List.mem_of_find?_eq_some hrun)
  omega

/-- Only a point has points for its small letter. -/
theorem eq_point_of_lowerChar {c : Char} (h : IsPoints (Text.lowerChar c)) : c = '.' := by
  unfold Text.lowerChar at h
  split at h
  · have hpoint : c.toLower = '.' := h _ (List.mem_singleton_self _)
    have hsmall : ¬c.isUpper = true := by
      intro hupper
      have hletter := Char.isAlpha_toLower_eq_isAlpha c
      rw [hpoint, Char.isAlpha, Char.isAlpha, hupper] at hletter
      cases hletter
    rw [← hpoint, Char.toLower_eq_of_not_isUpper hsmall]
  · split at h
    · cases h 'i' List.mem_cons_self
    · split at h
      · rename_i n hn
        have hlarge := lt_of_lowerCode? hn
        have hcode := congrArg Char.toNat (h _ (List.mem_singleton_self _))
        rw [Char.toNat_ofNat] at hcode
        split at hcode
        · omega
        · cases hcode
      · exact h c (List.mem_singleton_self c)

theorem isPoints_of_lowerFrom {before cs : List Char} (h : IsPoints (Text.lowerFrom before cs)) :
    IsPoints cs := by
  induction cs generalizing before with
  | nil => exact List.forall_mem_nil _
  | cons c rest ih =>
    rw [Text.lowerFrom] at h
    obtain ⟨hfirst, hrest⟩ := List.forall_mem_append.mp h
    refine List.forall_mem_cons.mpr ⟨?_, ih hrest⟩
    split at hfirst
    · -- A sigma becomes one of two letters.
      have hletter := hfirst _ (List.mem_singleton_self _)
      split at hletter <;> cases hletter
    · exact eq_point_of_lowerChar hfirst

/-- A text of points stays as it is in lower case. -/
theorem lower_of_isPoints {s : String} (h : IsPoints s.toList) : Text.lower s = s := by
  have hsame : Text.lowerFrom [] s.toList = s.toList := by
    refine Text.lowerFrom_eq_self (fun c hc => ?_) []
    rw [h c hc]
    decide
  rw [Text.lower, hsame, String.ofList_toList]

/-- A host is compared as the empty name when it has nothing but points. -/
theorem plainHost_eq_empty_iff {host : String} : plainHost host = "" ↔ IsPoints host.toList := by
  rw [plainHost, Text.dropTrailing, String.ofList_eq_empty_iff, List.reverse_eq_nil_iff,
    List.dropWhile_eq_nil_iff]
  simp only [List.mem_reverse, decide_eq_true_eq]
  constructor
  · intro h
    rw [Text.lower, String.toList_ofList] at h
    exact isPoints_of_lowerFrom h
  · intro h
    rw [lower_of_isPoints h]
    exact h

theorem plainDomain_of_isPoints {domain : String} (h : IsPoints domain.toList) :
    plainDomain domain = "" := by
  have hdropped : ∀ cs : List Char, IsPoints cs → cs.dropWhile Text.isBlank = cs := by
    intro cs hcs
    cases cs with
    | nil => rfl
    | cons c rest =>
      refine List.dropWhile_cons_of_neg ?_
      rw [hcs c List.mem_cons_self]
      decide
  have htrimmed : Text.trim domain = domain := by
    have hreverse : IsPoints domain.toList.reverse := fun c hc => h c (List.mem_reverse.mp hc)
    rw [Text.trim, Text.trimChars, Text.trimEndChars, Text.trimStartChars, hdropped _ h,
      hdropped _ hreverse, List.reverse_reverse, String.ofList_toList]
  rw [plainDomain, lower_of_isPoints h, htrimmed, Text.dropLeading, String.ofList_eq_empty_iff,
    List.dropWhile_eq_nil_iff]
  exact fun c hc => decide_eq_true (h c hc)

/-- The name that is compared of a host ends with no point. -/
theorem getLast?_plainHost (host : String) : (plainHost host).toList.getLast? ≠ some '.' := by
  rw [plainHost, Text.dropTrailing, String.toList_ofList, List.getLast?_reverse]
  intro hlast
  have hnone := List.head?_dropWhile_not (· = '.') (Text.lower host).toList.reverse
  rw [hlast] at hnone
  cases hnone

/-- **A domain of which nothing is left admits hosts of points alone.** -/
theorem admits_iff_of_empty {domain host : String} (h : plainDomain domain = "") :
    Admits domain host ↔ IsPoints host.toList := by
  rw [Admits, h, labels, labels, Text.splitChars_suffix_iff, ← plainHost_eq_empty_iff,
    ← String.toList_inj, or_iff_left]
  rintro ⟨lead, hlead⟩
  refine getLast?_plainHost host ?_
  rw [← hlead]
  exact List.getLast?_concat

/-! ### Lists of domains -/

/-- What a list of domains says of a host goes by whole labels. -/
structure MatchesLabels (host : String) (domains : List String) : Prop where
  /-- The host is allowed exactly if the labels of some domain are its last ones. -/
  isAllowed_iff : isAllowedDomain host domains = true ↔ ∃ domain ∈ domains, Admits domain host
  /-- A domain that is empty or has points alone, or of which no more is left to compare, admits no
  host that has more than points. -/
  points : ∀ domain ∈ domains, IsPoints domain.toList ∨ plainDomain domain = "" →
    Admits domain host → IsPoints host.toList
  /-- Domains that are added take no permission away. -/
  extended : ∀ more, domains ⊆ more → isAllowedDomain host domains = true →
    isAllowedDomain host more = true
  /-- No domain admits a host that merely ends with its characters, within a label. -/
  partLabel : ∀ domain ∈ domains, ∀ lead c, c ≠ '.' →
    (plainHost host).toList = lead ++ c :: (plainDomain domain).toList → ¬Admits domain host

/-- **The list of allowed domains matches whole labels only.** -/
theorem matchesLabels {domains : List String} (h : domains ≠ []) (host : String) :
    MatchesLabels host domains where
  isAllowed_iff := isAllowedDomain_iff h
  points domain _ hdomain hadmits := by
    have hempty : plainDomain domain = "" := hdomain.elim plainDomain_of_isPoints id
    exact (admits_iff_of_empty hempty).mp hadmits
  extended more hmore hallowed := by
    obtain ⟨domain, hdomain, hadmits⟩ := (isAllowedDomain_iff h).mp hallowed
    have hlisted : domain ∈ more := hmore hdomain
    exact (isAllowedDomain_iff (List.ne_nil_of_mem hlisted)).mpr ⟨domain, hlisted, hadmits⟩
  partLabel _ _ _ _ hc hends := not_admits_of_partLabel hends hc

/-- A host that ends like a domain within a label, and a domain of points. -/
theorem matchesLabels_evilExample :
    [" .Example.com", ".."] ≠ [] ∧ MatchesLabels "evilexample.com" [" .Example.com", ".."] :=
  ⟨by decide, matchesLabels (by decide) _⟩

example : isAllowedDomain "API.example.com." [" .Example.com"] = true ∧
    isAllowedDomain "evilexample.com" [" .Example.com"] = false := by
  decide +kernel

end ClientGen.Net
