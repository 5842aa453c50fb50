import ClientGen.Proofs.Command.Switches
import ClientGen.Proofs.Console
import ClientGen.Proofs.Settings.Verbosity

/-!
# How much is said changes no results

Two consoles without colours that show data in one format may differ in how much they say.  A
command that is carried out on them does the same to the files, and ends with the same standard
output, the same requests and the same exit code (`endAlike_run`); all that differs is what is
written to the error output.  So command lines that differ only in the options about how much is
said have the same results (`sameResults`).

Of the place where a command is carried out nothing is asked.  Its files answer in any way, and its
references are resolved in any way, with servers that change from one request to the next
(`Work.resolveFrom`) as well as with those of `Workplace.served`.
-/

namespace ClientGen

variable {σ : Type}

/-! ### Consoles -/

/-- Consoles without colours that show data in the same format. -/
structure Console.ShowAlike (console other : Console) : Prop where
  format : console.format = other.format
  colourless : console.colourless = true
  colourless' : other.colourless = true

theorem DisplayOptions.ShowAlike.console {display other : DisplayOptions}
    (h : display.ShowAlike other) {screen : Screen}
    (hcolourless : (display.noColour || screen.colourless) = true) :
    (display.console screen).ShowAlike (other.console screen) where
  format := by
    unfold DisplayOptions.console DisplayOptions.format? Console.create
    dsimp only
    rw [h.json, h.plain, h.noColour]
  colourless := hcolourless
  colourless' := by
    show (other.noColour || screen.colourless) = true
    rw [← h.noColour]
    exact hcolourless

/-- Transcripts with the same standard output, requests and exit code. -/
structure Transcript.Alike (format : OutputFormat) (transcript other : Transcript) : Prop where
  output : String.join (transcript.messages.map (Message.output format)) =
    String.join (other.messages.map (Message.output format))
  requests : transcript.requests = other.requests
  code : transcript.code = other.code

theorem Transcript.Alike.refl (format : OutputFormat) (transcript : Transcript) :
    transcript.Alike format transcript :=
  ⟨rfl, rfl, rfl⟩

/-- Two ends that differ in nothing but the error output. -/
structure Ending.Alike (ending other : Ending) : Prop where
  output : ending.streams.output = other.streams.output
  requests : ending.requests = other.requests
  code : ending.code = other.code

/-- Without colours nothing keeps a transcript from being shown. -/
theorem Console.exists_finish {console : Console} (hcolourless : console.colourless = true)
    (transcript : Transcript) :
    ∃ streams, console.finish transcript = .ok ⟨streams, transcript.requests, transcript.code⟩ ∧
      streams.output = String.join (transcript.messages.map (Message.output console.format)) := by
  obtain ⟨streams, hall, houtput⟩ :=
    Console.exists_renderAll_colourless hcolourless transcript.messages
  refine ⟨streams, ?_, houtput⟩
  unfold Console.finish
  rw [hall]

/-- Like transcripts end alike. -/
theorem Console.ShowAlike.finish {console other : Console} (h : console.ShowAlike other)
    {transcript transcript' : Transcript} (halike : transcript.Alike console.format transcript') :
    ∃ ending ending', console.finish transcript = .ok ending ∧
      other.finish transcript' = .ok ending' ∧ ending.Alike ending' := by
  obtain ⟨streams, hends, houtput⟩ := Console.exists_finish h.colourless transcript
  obtain ⟨streams', hends', houtput'⟩ := Console.exists_finish h.colourless' transcript'
  refine ⟨_, _, hends, hends', ?_, halike.requests, halike.code⟩
  dsimp only
  rw [houtput, houtput', ← h.format, halike.output]

/-! ### Commands -/

namespace Command

section Commands

variable {console other : Console} (h : console.ShowAlike other) (place : Workplace (StateM σ))

include h

/-- Without colours what is said never ends a command. -/
theorem saying_eq (messages : List Message) (next : StateM σ Transcript) :
    Workplace.saying console messages next = Workplace.saying other messages next := by
  unfold Workplace.saying
  rw [Console.canShow_colourless h.colourless, Console.canShow_colourless h.colourless']

theorem withConfiguration_eq (given : List (String × Value))
    (next : Configuration → StateM σ Transcript) :
    place.withConfiguration console given next = place.withConfiguration other given next := by
  unfold Workplace.withConfiguration
  congr 1
  funext loaded
  rcases loaded with fault | ⟨config, warned⟩
  · rfl
  · exact saying_eq h _ _

/-- A view is told the same way. -/
theorem inspectDocument_eq (view : View) (file : String) (resolveExternal : Bool) :
    inspectDocument place console view file resolveExternal =
      inspectDocument place other view file resolveExternal := by
  unfold inspectDocument
  rw [withConfiguration_eq h, h.format]

/-- Code is generated in the same way with configurations for the same work. -/
theorem generateWith_eq {config config' : Configuration} (hsame : config.SameWork config') :
    generateWith place console config = generateWith place other config' := by
  unfold generateWith
  rw [hsame.inputPath, hsame.outputDirectory, hsame.runOptions]
  dsimp only
  split
  · rfl
  · exact saying_eq h _ _

omit h in
/-- The settings that a command line gives for the generation of code are read alike, however much
is said. -/
theorem loadAlike_given (options : GenerateOptions) (verbose verbose' : Bool) (s : σ) :
    LoadAlike
        (Configuration.load place.files place.settingsFiles (options.given verbose) s).1
        (Configuration.load place.files place.settingsFiles (options.given verbose') s).1 ∧
      (Configuration.load place.files place.settingsFiles (options.given verbose) s).2 =
        (Configuration.load place.files place.settingsFiles (options.given verbose') s).2 := by
  have hquiet : "verbose" ∉ Entries.keys (options.given false) := by
    simp [GenerateOptions.given, Entries.keys]
  have hverbose : options.given true = options.given false ++ [("verbose", .bool true)] := by
    simp [GenerateOptions.given]
  have hmore := loadAlike_verbose place.files place.settingsFiles s hquiet
  rw [← hverbose] at hmore
  cases verbose with
  | false =>
    cases verbose' with
    | false => exact ⟨.refl _, rfl⟩
    | true => exact hmore
  | true =>
    cases verbose' with
    | false => exact ⟨hmore.1.symm, hmore.2.symm⟩
    | true => exact ⟨.refl _, rfl⟩

/-- The generation of code is told alike, and does the same to the files. -/
theorem alike_generateCode (options : GenerateOptions) (s : σ) :
    (generateCode place console options s).1.Alike console.format
        (generateCode place other options s).1 ∧
      (generateCode place console options s).2 = (generateCode place other options s).2 := by
  obtain ⟨hload, hstate⟩ := loadAlike_given place options console.verbose other.verbose s
  unfold generateCode Workplace.withConfiguration
  rw [bind_apply, bind_apply]
  generalize Configuration.load place.files place.settingsFiles (options.given console.verbose) s =
    run at hload hstate ⊢
  generalize Configuration.load place.files place.settingsFiles (options.given other.verbose) s =
    run' at hload hstate ⊢
  obtain ⟨loaded, t⟩ := run
  obtain ⟨loaded', t'⟩ := run'
  obtain rfl : t = t' := hstate
  dsimp only at hload ⊢
  cases hload with
  | unexpected u => exact ⟨.refl _ _, rfl⟩
  | invalid faults faults' => exact ⟨⟨rfl, rfl, rfl⟩, rfl⟩
  | loaded hsame warned =>
    dsimp only
    rw [saying_eq h, generateWith_eq h place hsame]
    exact ⟨.refl _ _, rfl⟩

/-- Every command is told alike, and does the same to the files. -/
theorem alike_transcript (command : Command) (s : σ) :
    (command.transcript place console s).1.Alike console.format
        (command.transcript place other s).1 ∧
      (command.transcript place console s).2 = (command.transcript place other s).2 := by
  cases command with
  | generate options => exact alike_generateCode h place options s
  | validate files policy workers => exact ⟨.refl _ _, rfl⟩
  | inspect view file resolveExternal =>
    have hview : (Command.inspect view file resolveExternal).transcript place console =
        (Command.inspect view file resolveExternal).transcript place other :=
      inspectDocument_eq h place view file resolveExternal
    rw [hview]
    exact ⟨.refl _ _, rfl⟩

end Commands

end Command

/-- Two runs that leave the same files and end alike. -/
structure EndAlike (run other : Except Markup.Fault Ending × σ) : Prop where
  ends : ∃ ending ending', run.1 = .ok ending ∧ other.1 = .ok ending' ∧ ending.Alike ending'
  files : run.2 = other.2

/-- **How much is said changes no results**: without colours, a command does the same to the files
and ends with the same standard output, the same requests and the same exit code. -/
theorem endAlike_run {display other : DisplayOptions} (h : display.ShowAlike other)
    {screen : Screen} (hcolourless : (display.noColour || screen.colourless) = true)
    (place : Workplace (StateM σ)) (command : Command) (s : σ) :
    EndAlike (command.run place screen display s) (command.run place screen other s) := by
  have hconsoles := h.console hcolourless
  obtain ⟨halike, hfiles⟩ := Command.alike_transcript hconsoles place command s
  refine ⟨?_, hfiles⟩
  exact hconsoles.finish halike

/-! ### Command lines -/

/-- Invocations with the same results: they are the same, and perform no command, or perform the
same command, which ends alike without colours at every place and on every screen. -/
inductive SameResults (invocation other : Invocation) : Prop where
  | idle (h : invocation = other)
    (hidle : ∀ display command, invocation ≠ .perform display command)
  | performed (display display' : DisplayOptions) (command : Command)
    (h : invocation = .perform display command) (h' : other = .perform display' command)
    (hcolour : display.noColour = display'.noColour)
    (hruns : ∀ {σ : Type} (place : Workplace (StateM σ)) (screen : Screen) (s : σ),
      (display.noColour || screen.colourless) = true →
        EndAlike (command.run place screen display s) (command.run place screen display' s))

theorem sameResults_of_alike {invocation other : Invocation} (h : invocation.Alike other) :
    SameResults invocation other := by
  have hperforms : ∀ {display display' : DisplayOptions} (command : Command),
      display.ShowAlike display' →
      SameResults (.perform display command) (.perform display' command) := by
    intro display display' command hshow
    refine .performed display display' command rfl rfl hshow.noColour ?_
    intro σ place screen s hcolourless
    exact endAlike_run hshow hcolourless place command s
  cases h with
  | same invocation =>
    cases invocation with
    | perform display command => exact hperforms command ⟨rfl, rfl, rfl⟩
    | help wanted => exact .idle rfl fun _ _ h => by cases h
    | version => exact .idle rfl fun _ _ h => by cases h
    | misuse fault => exact .idle rfl fun _ _ h => by cases h
  | perform hshow command => exact hperforms command hshow

/-- **Options about how much is said change no results**: they may be added, repeated, moved and
left out in front of a command. -/
theorem sameResults {lead lead' rest : List String} (hlead : Arguments.AreOptions lead)
    (hlead' : Arguments.AreOptions lead') (hrest : rest ≠ [])
    (hsame : (lead.filter fun argument => !Invocation.isLoudness argument) =
      lead'.filter fun argument => !Invocation.isLoudness argument) :
    SameResults (Invocation.ofArguments (lead ++ rest)) (Invocation.ofArguments (lead' ++ rest)) :=
  sameResults_of_alike (Invocation.alike_ofArguments hlead hlead' hrest hsame)

/-- The files that an invocation validates. -/
def validated? : Invocation → Option (List String)
  | .perform _ (.validate files _ _) => some files
  | _ => none

/-- Validation without colours, once as it is and once with more and less to be said. -/
theorem sameResults_quietAndVerbose :
    Arguments.AreOptions ["--no-color"] ∧
    Arguments.AreOptions ["-q", "--no-color", "--verbose", "-vv"] ∧
    validated? (Invocation.ofArguments ["--no-color", "validate", "pets.json"]) =
      some ["pets.json"] ∧
    SameResults (Invocation.ofArguments ["--no-color", "validate", "pets.json"])
      (Invocation.ofArguments
        ["-q", "--no-color", "--verbose", "-vv", "validate", "pets.json"]) := by
  have hlead : Arguments.AreOptions ["--no-color"] := by decide
  have hlead' : Arguments.AreOptions ["-q", "--no-color", "--verbose", "-vv"] := by decide
  refine ⟨hlead, hlead', by decide +kernel, ?_⟩
  have hrest : ["validate", "pets.json"] ≠ [] := List.cons_ne_nil _ _
  exact sameResults hlead hlead' hrest (by decide)

end ClientGen
