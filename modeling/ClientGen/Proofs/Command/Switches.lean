import ClientGen.CommandLine
import Mathlib.Data.List.Basic

/-!
# Options that say how much is said

Arguments in front of a command are read one by one (`scan_append`), and those that only say how
much is said leave all other options as they are (`readEach_filter`).  So command lines that differ in
such arguments alone ask for the same: they perform the same command, or are the same misuse or
question (`alike_ofArguments`).
-/

namespace ClientGen

namespace Arguments

variable {rules : List OptionRule}

/-! ### Arguments in front of the command -/

/-- Arguments that are options, none of which ends the options. -/
def AreOptions (arguments : List String) : Prop :=
  ∀ argument ∈ arguments, argument ≠ "--" ∧ isOption argument = true

instance (arguments : List String) : Decidable (AreOptions arguments) :=
  inferInstanceAs (Decidable (∀ argument ∈ arguments, argument ≠ "--" ∧ isOption argument = true))

/-- The options of arguments that are read one by one. -/
def readEach (rules : List OptionRule) : List String → Except UsageFault (List (String × String))
  | [] => .ok []
  | argument :: rest => do
    let reading ← read rules argument
    return reading.complete ++ (← readEach rules rest)

/-- Some of the options of arguments are some of each. -/
theorem map_filter_readEach_cons (keep : String × String → Bool) (argument : String)
    (rest : List String) :
    (readEach rules (argument :: rest)).map (List.filter keep) = (do
      let reading ← read rules argument
      ((readEach rules rest).map (List.filter keep)).map
        fun found => reading.complete.filter keep ++ found) := by
  rw [readEach]
  cases read rules argument with
  | error fault => rfl
  | ok reading =>
    cases readEach rules rest with
    | error fault => rfl
    | ok found => exact congrArg Except.ok (List.filter_append _ _)

section Switches

variable (hrules : ∀ rule ∈ rules, rule.constant ≠ none)

include hrules

theorem pending_letters {cs : List Char} {reading : Reading}
    (h : letters rules cs = .ok reading) : reading.pending = none := by
  induction cs generalizing reading with
  | nil =>
    cases h
    rfl
  | cons c rest ih =>
    rw [letters] at h
    cases hrule : rule? rules (String.ofList ['-', c]) with
    | none =>
      rw [hrule] at h
      cases h
    | some rule =>
      obtain ⟨constant, hconstant⟩ :=
        Option.ne_none_iff_exists'.mp (hrules rule (List.mem_of_find?_eq_some hrule))
      rw [hrule] at h
      dsimp only at h
      rw [hconstant] at h
      cases hmore : letters rules rest with
      | error fault =>
        rw [hmore] at h
        cases h
      | ok more =>
        rw [hmore] at h
        cases h
        show more.pending = none
        exact ih hmore

theorem pending_long {rule : OptionRule} (hmem : rule ∈ rules) {name : String}
    {value : Option String} {reading : Reading} (h : long rule name value = .ok reading) :
    reading.pending = none := by
  obtain ⟨constant, hconstant⟩ := Option.ne_none_iff_exists'.mp (hrules rule hmem)
  unfold long at h
  rw [hconstant] at h
  cases value with
  | none =>
    cases h
    rfl
  | some value => cases h

/-- Where every option is a switch, none takes its value from the next argument. -/
theorem pending_read {argument : String} {reading : Reading}
    (h : read rules argument = .ok reading) : reading.pending = none := by
  unfold read at h
  dsimp only at h
  split at h
  · rename_i rule hrule
    split at hrule
    · exact pending_long hrules (List.mem_of_find?_eq_some hrule) h
    · cases hrule
  · split at h
    · cases h
    · exact pending_letters hrules h

/-- A switch is read, and then the rest. -/
theorem scan_switch {argument : String} (hgoesOn : argument ≠ "--")
    (hoption : isOption argument = true) (rest : List String) :
    scan rules false (argument :: rest) = (do
      let reading ← read rules argument
      return (← scan rules false rest).withOptions reading.complete) := by
  rw [scan.eq_def]
  dsimp only
  rw [if_neg hgoesOn, if_pos hoption]
  cases hread : read rules argument with
  | error fault => rfl
  | ok reading =>
    obtain ⟨complete, pending⟩ := reading
    obtain rfl : pending = none := pending_read hrules hread
    rfl

/-- **Switches in front are read one by one**, and then the rest. -/
theorem scan_append {lead : List String} (hlead : AreOptions lead) (rest : List String) :
    scan rules false (lead ++ rest) = (do
      let found ← readEach rules lead
      return (← scan rules false rest).withOptions found) := by
  induction lead with
  | nil =>
    rw [List.nil_append, readEach]
    cases scan rules false rest <;> rfl
  | cons argument more ih =>
    obtain ⟨⟨hgoesOn, hoption⟩, hmore⟩ := List.forall_mem_cons.mp hlead
    rw [List.cons_append, scan_switch hrules hgoesOn hoption, ih hmore, readEach]
    cases read rules argument with
    | error fault => rfl
    | ok reading =>
      cases readEach rules more with
      | error fault => rfl
      | ok found =>
        cases scan rules false rest with
        | error fault => rfl
        | ok scanned =>
          show Except.ok _ = Except.ok _
          unfold withOptions
          dsimp only
          rw [List.append_assoc]

end Switches

/-- The last value of an option is found among those that are kept, if it is kept itself. -/
theorem last?_filter {keep : String × String → Bool} {key : String}
    (hkeep : ∀ option, option.1 = key → keep option = true) (a : Arguments) :
    ({ a with options := a.options.filter keep }).last? key = a.last? key := by
  unfold last?
  dsimp only
  rw [← List.filter_reverse, List.find?_filter]
  congr 2
  funext option
  by_cases hkey : option.1 = key
  · simp [hkeep option hkey, hkey]
  · simp [hkey]

end Arguments

open Arguments (AreOptions)

namespace Invocation

/-! ### How much is said -/

/-- Whether an option is not about how much is said. -/
def isOfWork (option : String × String) : Bool :=
  option.1 != "quiet" && option.1 != "verbose"

/-- Whether an argument in front of the command only says how much is said. -/
def isLoudness (argument : String) : Bool :=
  match Arguments.read displayRules argument with
  | .ok ⟨options, none⟩ => options.all fun option => !isOfWork option
  | _ => false

-- Letters may share an argument, and an option may be repeated.
example : (["--quiet", "-q", "--verbose", "-v", "-qv", "-vvq"].all isLoudness) = true ∧
    (["--json", "-h", "--no-color", "quiet"].any isLoudness) = false := by decide

theorem constant_of_mem_displayRules : ∀ rule ∈ displayRules, rule.constant ≠ none := by decide

theorem filter_complete_of_isLoudness {argument : String} (h : isLoudness argument = true) :
    ∃ reading, Arguments.read displayRules argument = .ok reading ∧
      reading.complete.filter isOfWork = [] := by
  unfold isLoudness at h
  split at h
  · rename_i options hread
    refine ⟨_, hread, List.filter_eq_nil_iff.mpr fun option hoption hwork => ?_⟩
    have hloud := List.all_eq_true.mp h option hoption
    rw [hwork] at hloud
    cases hloud
  · cases h

/-- **Arguments that only say how much is said leave the other options as they are.** -/
theorem readEach_filter (lead : List String) :
    (Arguments.readEach displayRules (lead.filter fun argument => !isLoudness argument)).map
        (List.filter isOfWork) =
      (Arguments.readEach displayRules lead).map (List.filter isOfWork) := by
  induction lead with
  | nil => rfl
  | cons argument rest ih =>
    by_cases hloud : isLoudness argument = true
    · obtain ⟨reading, hread, hnone⟩ := filter_complete_of_isLoudness hloud
      have hdropped : ¬(!isLoudness argument) = true := by simp [hloud]
      rw [List.filter_cons, if_neg hdropped, Arguments.map_filter_readEach_cons, hread, ih]
      show _ = ((Arguments.readEach displayRules rest).map _).map fun found =>
        reading.complete.filter isOfWork ++ found
      rw [hnone]
      cases Arguments.readEach displayRules rest <;> rfl
    · have hkept : (!isLoudness argument) = true := by simp [hloud]
      rw [List.filter_cons, if_pos hkept, Arguments.map_filter_readEach_cons, ih,
        Arguments.map_filter_readEach_cons]

/-! ### Invocations -/

end Invocation

/-- Options in front of a command that differ at most in how much is said. -/
structure DisplayOptions.ShowAlike (display other : DisplayOptions) : Prop where
  json : display.json = other.json
  plain : display.plain = other.plain
  noColour : display.noColour = other.noColour

namespace Invocation

/-- Invocations that differ at most in how much is said. -/
inductive Alike : Invocation → Invocation → Prop where
  | same (invocation : Invocation) : Alike invocation invocation
  | perform {display other : DisplayOptions} (h : display.ShowAlike other) (command : Command) :
    Alike (.perform display command) (.perform other command)

theorem alike_ofCommand {display other : DisplayOptions} (h : display.ShowAlike other)
    (command : Except UsageFault Command) :
    Alike (ofCommand display command) (ofCommand other command) := by
  cases command with
  | error fault => exact .same _
  | ok command => exact .perform h command

theorem alike_unlessHelp {next other : Arguments → Invocation}
    (h : ∀ own, Alike (next own) (other own)) (scanned : Except UsageFault Arguments) :
    Alike (unlessHelp scanned next) (unlessHelp scanned other) := by
  unfold unlessHelp
  split
  · exact .same _
  · split
    · exact .same _
    · exact h _

theorem alike_ofViewArguments {display other : DisplayOptions} (h : display.ShowAlike other)
    (arguments : List String) :
    Alike (ofViewArguments display arguments) (ofViewArguments other arguments) := by
  unfold ofViewArguments
  split
  · exact .same _
  · refine alike_unlessHelp (fun scanned => ?_) _
    split
    · exact .same _
    · split
      · exact .same _
      · exact alike_unlessHelp (fun own => alike_ofCommand h _) _

/-- What stands behind the options in front of a command asks for the same, however it is shown. -/
theorem alike_ofCommandArguments {display other : DisplayOptions} (h : display.ShowAlike other)
    (arguments : List String) :
    Alike (ofCommandArguments display arguments) (ofCommandArguments other arguments) := by
  unfold ofCommandArguments
  split
  · exact .same _
  · exact alike_unlessHelp (fun own => alike_ofCommand h _) _
  · exact alike_unlessHelp (fun own => alike_ofCommand h _) _
  · exact alike_ofViewArguments h _
  · exact .same _

theorem isOfWork_of_fst {key : String} (hquiet : key ≠ "quiet") (hverbose : key ≠ "verbose") :
    ∀ option : String × String, option.1 = key → isOfWork option = true := by
  rintro option rfl
  unfold isOfWork
  rw [bne_iff_ne.mpr hquiet, bne_iff_ne.mpr hverbose]
  rfl

/-- Arguments with the same options but for how much is said. -/
structure WorkAlike (scanned other : Arguments) : Prop where
  options : scanned.options.filter isOfWork = other.options.filter isOfWork
  others : scanned.others = other.others

namespace WorkAlike

variable {scanned other : Arguments}

theorem isOn (h : WorkAlike scanned other) {key : String} (hquiet : key ≠ "quiet")
    (hverbose : key ≠ "verbose") : scanned.isOn key = other.isOn key := by
  have hkeep := isOfWork_of_fst hquiet hverbose
  unfold Arguments.isOn
  rw [← Arguments.last?_filter hkeep scanned, ← Arguments.last?_filter hkeep other]
  unfold Arguments.last?
  dsimp only
  rw [h.options]

theorem showAlike (h : WorkAlike scanned other) :
    (displayOf scanned).ShowAlike (displayOf other) where
  json := h.isOn (by decide) (by decide)
  plain := h.isOn (by decide) (by decide)
  noColour := h.isOn (by decide) (by decide)

theorem find?_isUrgent_filter (options : List (String × String)) :
    (options.filter isOfWork).find? isUrgent = options.find? isUrgent := by
  rw [List.find?_filter]
  congr 1
  funext option
  by_cases hurgent : isUrgent option = true
  · have hwork : isOfWork option = true := by
      unfold isUrgent at hurgent
      rw [Bool.or_eq_true, beq_iff_eq, beq_iff_eq] at hurgent
      rcases hurgent with hkey | hkey
      · exact isOfWork_of_fst (by decide) (by decide) option hkey
      · exact isOfWork_of_fst (by decide) (by decide) option hkey
    simp [hwork, hurgent]
  · simp [hurgent]

theorem urgent? (h : WorkAlike scanned other) :
    Invocation.urgent? scanned = Invocation.urgent? other := by
  unfold Invocation.urgent?
  rw [← find?_isUrgent_filter scanned.options, h.options, find?_isUrgent_filter]

/-- Such arguments ask for the same. -/
theorem alike (h : WorkAlike scanned other) :
    Alike ((Invocation.urgent? scanned).getD
        (ofCommandArguments (displayOf scanned) scanned.others))
      ((Invocation.urgent? other).getD (ofCommandArguments (displayOf other) other.others)) := by
  rw [h.urgent?, h.others]
  cases Invocation.urgent? other with
  | some invocation => exact .same _
  | none => exact alike_ofCommandArguments h.showAlike _

end WorkAlike

/-- **Command lines that differ only in how much is said ask for the same**, if something stands
behind the options in front. -/
theorem alike_ofArguments {lead lead' rest : List String} (hlead : AreOptions lead)
    (hlead' : AreOptions lead') (hrest : rest ≠ [])
    (hsame : (lead.filter fun argument => !isLoudness argument) =
      lead'.filter fun argument => !isLoudness argument) :
    Alike (ofArguments (lead ++ rest)) (ofArguments (lead' ++ rest)) := by
  have hsome : ∀ before : List String, ¬(before ++ rest).isEmpty = true := by
    intro before hempty
    exact hrest (List.append_eq_nil_iff.mp (List.isEmpty_iff.mp hempty)).2
  have hread : (Arguments.readEach displayRules lead).map (List.filter isOfWork) =
      (Arguments.readEach displayRules lead').map (List.filter isOfWork) := by
    rw [← readEach_filter lead, ← readEach_filter lead', hsame]
  unfold ofArguments
  rw [if_neg (hsome lead), if_neg (hsome lead'),
    Arguments.scan_append constant_of_mem_displayRules hlead,
    Arguments.scan_append constant_of_mem_displayRules hlead']
  cases hfound : Arguments.readEach displayRules lead with
  | error fault =>
    rw [hfound] at hread
    cases hfound' : Arguments.readEach displayRules lead' with
    | error fault' =>
      rw [hfound'] at hread
      cases hread
      exact .same _
    | ok found' =>
      rw [hfound'] at hread
      cases hread
  | ok found =>
    rw [hfound] at hread
    cases hfound' : Arguments.readEach displayRules lead' with
    | error fault' =>
      rw [hfound'] at hread
      cases hread
    | ok found' =>
      rw [hfound'] at hread
      cases Arguments.scan displayRules false rest with
      | error fault => exact .same _
      | ok scanned =>
        have hfilter : found.filter isOfWork = found'.filter isOfWork := Except.ok.inj hread
        have halike : WorkAlike (scanned.withOptions found) (scanned.withOptions found') := by
          refine ⟨?_, rfl⟩
          unfold Arguments.withOptions
          dsimp only
          rw [List.filter_append, List.filter_append, hfilter]
        exact halike.alike

end Invocation

end ClientGen
