import Typeset.Command.Run
import Typeset.Proofs.Command.Arguments
import Typeset.Proofs.Settings.Environment

namespace Typeset

namespace BuildRequest

def layer (request : BuildRequest) : Layer where
  engine? := request.engine?
  flags? := if request.flags = [] then none else some request.flags
  warnLevel? := request.warnLevel?
  master? := request.master?
  debug := request.debug
  rule? := request.rule?
  policy? := if request.strict then some .strict else none
  linkTemplate? := request.link?

theorem override_eq_laidOver (request : BuildRequest) (settings : Settings) :
    request.override settings = request.layer.laidOver settings := by
  have flags : (if request.flags = [] then settings.flags else request.flags) =
      (if request.flags = [] then none else some request.flags).getD settings.flags := by
    split <;> rfl
  have policy : (if request.strict then .strict else settings.policy) =
      (if request.strict then some FaultPolicy.strict else none).getD settings.policy := by
    split <;> rfl
  rw [override, flags, policy]
  rfl

def runUnder (context : CommandContext) (path : Path) (settings : Settings) : Report :=
  let noted := Settings.discoverJournal context.workspace path ++
    Plan.makeJournal context.workspace settings path
  match Plan.make context.workspace settings path with
  | .error failure => .failed failure [] noted
  | .ok plan => carryOut context settings plan noted

variable {request : BuildRequest} {context : CommandContext} {file : Path} {failure : Failure}
  {settings : Settings}

theorem run_resolved
    (resolved : Settings.resolve context.workspace context.environment
      (absoluteFile context file) = .ok settings) :
    request.run context file =
      runUnder context (absoluteFile context file) (request.layer.laidOver settings) := by
  rw [← override_eq_laidOver]
  unfold run
  simp only [resolved]
  rfl

theorem run_unresolved
    (unresolved : Settings.resolve context.workspace context.environment
      (absoluteFile context file) = .error failure) :
    request.run context file =
      .failed failure [] (Settings.discoverJournal context.workspace
        (absoluteFile context file)) := by
  unfold run
  simp only [unresolved]

end BuildRequest

def Layer.ofArguments (given : List Argument) : Layer :=
  (BuildRequest.ofGiven given).layer

namespace Request

theorem of_ofArguments {arguments : List Text} {file : Path} {request : BuildRequest}
    (accepted : ofArguments arguments = .ok (.build file request)) :
    ∃ texts, arguments = buildName :: texts ∧
      Argument.readAll (fun name => buildForms.lookup name) takeBuild {} texts = .ok request ∧
      request.file? = some file := by
  cases arguments with
  | nil => cases accepted
  | cons name texts =>
      unfold ofArguments at accepted
      simp only at accepted
      split at accepted
      · next isBuild =>
          obtain ⟨other, read, found⟩ := exists_of_bind accepted
          cases named : other.file? with
          | none => simp [named] at found
          | some path =>
              simp only [named, Except.ok.injEq, build.injEq] at found
              obtain ⟨rfl, rfl⟩ := found
              exact ⟨texts, by rw [isBuild], read, named⟩
      split at accepted
      · obtain ⟨other, -, found⟩ := exists_of_bind accepted
        cases named : other.file? <;> simp [named] at found
      split at accepted
      · cases accepted
      · split at accepted <;> cases accepted

variable {context : CommandContext} {arguments : List Text} {file : Path} {request : BuildRequest}

theorem runArguments_of_accepted (accepted : ofArguments arguments = .ok (.build file request)) :
    runArguments context arguments = .done (request.run context file) := by
  rw [runArguments, accepted]
  rfl

/-- Whatever programs there are, the command fails before it prints anything. -/
def FailsEarly (context : CommandContext) (arguments : List Text) (failure : Failure) : Prop :=
  ∃ report : Report, report.failure? = some failure ∧ report.status = 1 ∧ report.stdout = [] ∧
    ∀ programs, runArguments { context with programs } arguments = .done report

theorem failsEarly_of_unresolved {failure : Failure}
    (accepted : ofArguments arguments = .ok (.build file request))
    (unresolved : Settings.resolve context.workspace context.environment
      (BuildRequest.absoluteFile context file) = .error failure) :
    FailsEarly context arguments failure := by
  let path := BuildRequest.absoluteFile context file
  refine ⟨.failed failure [] (Settings.discoverJournal context.workspace path), rfl, rfl, rfl,
    fun programs => ?_⟩
  have ran : request.run { context with programs } file =
      .failed failure [] (Settings.discoverJournal context.workspace path) :=
    BuildRequest.run_unresolved unresolved
  rw [runArguments_of_accepted accepted, ran]

end Request

/-- A build whose arguments are accepted runs under the settings that its arguments, the environment
and the file next to the document supply, each over those that follow, and all over the defaults.
If the file does not load, or else if the value of a variable is refused, the build fails with this
before any program runs. -/
theorem build_settings_are_layered (context : CommandContext) {arguments : List Text}
    {file : Path} {request : BuildRequest}
    (accepted : Request.ofArguments arguments = .ok (.build file request)) :
    let path := BuildRequest.absoluteFile context file
    let workspace := context.workspace
    let environment := context.environment
    ∃ texts given, arguments = Request.buildName :: texts ∧
      Argument.Spell (fun name => Request.buildForms.lookup name) texts given ∧
      request = .ofGiven given ∧ request.file? = some file ∧
      (Settings.Discoverable workspace path → environment.Accepted →
        (environment.map Prod.fst).Nodup →
          Request.runArguments context arguments =
            .done (BuildRequest.runUnder context path (Layer.stacked
              [.ofArguments given, .ofEnvironment environment,
                .ofFile workspace (Settings.fileFor path)]))) ∧
      (∀ failure, workspace.isFile (Settings.fileFor path) = true →
        Settings.load workspace (Settings.fileFor path) = .error failure →
          Request.FailsEarly context arguments failure) ∧
      (Settings.Discoverable workspace path → ¬environment.Accepted →
        ∃ name value failure, (name, value) ∈ environment ∧
          Environment.Refuses name value failure ∧
            Request.FailsEarly context arguments failure) := by
  intro path workspace environment
  obtain ⟨texts, rfl, read, named⟩ := Request.of_ofArguments accepted
  obtain ⟨given, spelled, taken⟩ := Argument.exists_spell read
  have made := BuildRequest.eq_ofGiven taken
  refine ⟨texts, given, rfl, spelled, made, named, ?_, ?_, ?_⟩
  · intro discoverable values distinct
    rw [Request.runArguments_of_accepted accepted,
      BuildRequest.run_resolved (Settings.resolve_eq discoverable values distinct), made]
    rfl
  · intro failure isFile unloaded
    exact Request.failsEarly_of_unresolved accepted (Settings.resolve_unloaded isFile unloaded)
  · intro discoverable refused
    obtain ⟨name, value, failure, member, refuses, unresolved⟩ :=
      Settings.resolve_refused discoverable refused
    exact ⟨name, value, failure, member, refuses,
      Request.failsEarly_of_unresolved accepted unresolved⟩

/-- A blank level supplies nothing, and a variable without flags supplies none.  The engine prints
its name and what it is called with, so that each source shows through where those over it supply
nothing. -/
theorem engine_is_supplied_by_environment :
    let engine (name : Text) : Program := {
      path := name
      run := fun workspace args => {
        stdout := Text.encode ("This is pdfTeX\n(/b.tex (/c.tex\n)\nLaTeX Warning: " ++ name ++
          args.flatMap (' ' :: ·) ++ "\n)\n)\nLaTeX Warning: lost\n".toList)
        workspace } }
    let context (settings : Text) (environment : Environment) : CommandContext := {
      workspace := { home := [], entries := [(["texfeed.json"], .file (Text.encode settings))] }
      environment
      programs := fun name => some (engine name) }
    let named : Text :=
      "\x7b\"tracker\":\"strict\",\"policy\":\"strict\",\"link_template\":\"edit:\x7bpath\x7d\"," ++
        "\"master\":\"book.tex\",\"warn_level\":2,\"flags\":[\"-draft\"],\"engine\":\"xelatex\"\x7d"
    let listed : Text := "[\"xelatex\",[\"-draft\"],1,null,true]"
    let arguments : List Text := ["build", "--warn-level=1", "--tracker", "fragment", "a.tex"]
    let environment : Environment :=
      [("TEXFEED_WARN_LEVEL", " "), ("TEXFEED_FLAGS", ""), ("TEXFEED_ENGINE", " lualatex ")]
    let ends (settings : Text) (environment : Environment) (arguments : List Text) (status : Nat)
        (lines : List Text) : Prop :=
      ∃ report, Request.runArguments (context settings environment) arguments = .done report ∧
        report.status = status ∧ report.stdout = Report.printLines lines
    ends named environment arguments 2
        ["This is pdfTeX", "<p><a href=\"edit:/book.tex\">book.tex</a> lualatex book.tex</p>", ")",
          ")", "LaTeX Warning: lost"] ∧
      ends named [("TEXFEED_FLAGS", "-a '-b c'")] ["build", "a.tex"] 0
        ["This is pdfTeX", "<p><a href=\"edit:/b.tex\">b.tex</a> xelatex -a -b c book.tex</p>", ")",
          "LaTeX Warning: lost"] ∧
      ends listed [] ["build", "a.tex"] 0
        ["This is pdfTeX", "(/b.tex (/c.tex", ")", "LaTeX Warning: xelatex -draft a.tex", ")", ")",
          "LaTeX Warning: lost"] ∧
      Request.FailsEarly (context named [("TEXFEED_WARN_LEVEL", "lots")]) arguments
        (.invalidWarnLevel "lots" .invalidDigit) ∧
      Request.FailsEarly (context ['['] environment) arguments
        (.invalidSettings "/texfeed.json") := by
  intro engine context named listed arguments environment ends
  have path (settings : Text) (environment : Environment) :
      BuildRequest.absoluteFile (context settings environment) "a.tex" = "/a.tex" := by
    change Path.absolute (Path.ofNames true []) "a.tex" = "/a.tex"
    decide +kernel
  have place : Settings.fileFor "/a.tex" = "/texfeed.json" := by decide +kernel
  have options : Request.ofArguments arguments =
      .ok (.build "a.tex"
        { file? := some "a.tex", warnLevel? := some 1, rule? := some .fragment }) := by
    decide +kernel
  have plain : Request.ofArguments ["build", "a.tex"] =
      .ok (.build "a.tex" { file? := some "a.tex" }) := by decide +kernel
  have loads : Settings.load (context named []).workspace "/texfeed.json" =
      .ok { engine? := some "xelatex", flags := ["-draft"], warnLevel := 2
            master? := some "book.tex", rule := .strict, policy := .strict
            linkTemplate? := some "edit:\x7bpath\x7d" } := by
    decide +kernel
  have listedLoads : Settings.load (context listed []).workspace "/texfeed.json" =
      .ok { engine? := some "xelatex", flags := ["-draft"], warnLevel := 1, debug := true } := by
    decide +kernel
  have discoverable {settings : Text} {environment : Environment} {loaded : Settings}
      (loads : Settings.load (context settings []).workspace "/texfeed.json" = .ok loaded) :
      Settings.Discoverable (context settings environment).workspace "/a.tex" := by
    rw [Settings.Discoverable, place]
    exact .inr ⟨loaded, loads⟩
  have layered {settings : Text} {environment : Environment} {arguments : List Text}
      {request : BuildRequest} {loaded : Settings}
      (accepted : Request.ofArguments arguments = .ok (.build "a.tex" request))
      (loads : Settings.load (context settings []).workspace "/texfeed.json" = .ok loaded)
      (values : environment.Accepted) (distinct : (environment.map Prod.fst).Nodup) :
      Request.runArguments (context settings environment) arguments =
        .done (BuildRequest.runUnder (context settings environment) "/a.tex"
          (request.layer.laidOver ((Layer.ofEnvironment environment).laidOver loaded))) := by
    obtain ⟨_, given, -, -, rfl, -, ran, -⟩ :=
      build_settings_are_layered (context settings environment) accepted
    rw [path, place] at ran
    rw [Settings.of_load loads]
    exact ran (discoverable loads) values distinct
  refine ⟨⟨_, layered options loads (by decide +kernel) (by decide +kernel), by decide +kernel⟩,
    ⟨_, layered plain loads (by decide +kernel) (by decide +kernel), by decide +kernel⟩,
    ⟨_, layered plain listedLoads (by decide +kernel) List.nodup_nil, by decide +kernel⟩, ?_, ?_⟩
  · obtain ⟨_, _, -, -, -, -, -, -, refused⟩ :=
      build_settings_are_layered (context named [("TEXFEED_WARN_LEVEL", "lots")]) options
    rw [path] at refused
    have unaccepted : ¬Environment.Accepted [("TEXFEED_WARN_LEVEL", "lots")] := by decide +kernel
    obtain ⟨name, value, failure, member, refuses, fails⟩ :=
      refused (discoverable loads) unaccepted
    cases List.mem_singleton.mp member
    have noLevel : Settings.override? "TEXFEED_WARN_LEVEL" "lots" =
        .error (.invalidWarnLevel "lots" .invalidDigit) := by decide +kernel
    rw [← Settings.override?_eq_error_iff, noLevel] at refuses
    exact Except.error.inj refuses ▸ fails
  · obtain ⟨_, _, -, -, -, -, -, unloads, -⟩ :=
      build_settings_are_layered (context ['['] environment) options
    have isFile : (context ['['] environment).workspace.isFile "/texfeed.json" = true := by
      decide +kernel
    have unloaded : Settings.load (context ['['] environment).workspace "/texfeed.json" =
        .error (.invalidSettings "/texfeed.json") := by decide +kernel
    rw [path, place] at unloads
    exact unloads _ isFile unloaded

end Typeset
