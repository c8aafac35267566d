import UtilityCss.Proofs.Command.Perform
import UtilityCss.Proofs.Compile.Isolation

/-!
In which stage a command stops. A build goes on from configuration, rules and tokens to content and
output; the other commands go through the same first stages, and what a build is told besides its
configuration makes no difference there. So a check finds all that can go wrong with a build before
the content is looked at.
-/
namespace UtilityCss

namespace Command

inductive Stage where
  | configuration
  | rules
  | tokens
  | content
  | output
  deriving DecidableEq

/-- A build comes through all stages in front of one, and stops there with an error. -/
inductive StopsIn (fs : FileSystem) (o : BuildOptions) : Stage → CommandError → Prop
  | configuration {cause : ProjectError} (h : Project.load fs o.config = .error cause) :
    StopsIn fs o .configuration (.project cause)
  | rules {p : Project} {cause : RuleError} (hp : Project.load fs o.config = .ok p)
    (h : (p.override o).config.style.ruleTable (some Regex.sizeLimit) = .error cause) :
    StopsIn fs o .rules (.rules cause)
  | tokens {p : Project} {table : RuleTable} {cause : Token.LoadError}
    (hp : Project.load fs o.config = .ok p) (htable : (p.override o).ruleTable = .ok table)
    (h : Token.loadRegistry fs (p.override o).tokenSources = .error cause) :
    StopsIn fs o .tokens (.tokens cause)
  | content {p : Project} {table : RuleTable} {registry : Theme.Registry} {file : Path}
    (hp : Project.load fs o.config = .ok p) (htable : (p.override o).ruleTable = .ok table)
    (hregistry : (p.override o).registry fs = .ok registry)
    (h : Content.scan fs ((p.override o).contentFiles fs) = .error file) :
    StopsIn fs o .content (.content file)
  | output {p : Project} {css : String} {file : Path} {e : CommandError}
    (hp : Project.load fs o.config = .ok p) (hcss : (p.override o).stylesheet fs = .ok css)
    (hfile : (p.override o).destination o.output = some file)
    (h : writeOutput fs file css = .error e) :
    StopsIn fs o .output e

variable {fs : FileSystem} {o : BuildOptions} {e : CommandError}

def front {α : Type} (fs : FileSystem) (config : Option Path)
    (rest : Project → RuleTable → Except CommandError α) : Except CommandError α := do
  let p ← (Project.load fs config).mapError .project
  let table ← p.ruleTable
  rest p table

def render (fs : FileSystem) (p : Project) (table : RuleTable) : Except CommandError String := do
  let registry ← p.registry fs
  let tokens ← (Content.scan fs (p.contentFiles fs)).mapError .content
  return (Compiler.compile ⟨registry, table, p.config.style⟩ tokens).css

def deliver (fs : FileSystem) (destination : Option Path) (css : String) :
    Except CommandError Effect :=
  match destination with
  | none => return ⟨css, fs⟩
  | some file => return ⟨"", ← writeOutput fs file css⟩

theorem runBuild_eq (fs : FileSystem) (o : BuildOptions) :
    runBuild fs o = front fs o.config fun p table =>
      render fs (p.override o) table >>= deliver fs ((p.override o).destination o.output) := by
  have hstylesheet : ∀ p : Project, (p.override o).stylesheet fs =
      p.ruleTable >>= fun table => render fs (p.override o) table := fun _ => rfl
  unfold runBuild front
  simp only [hstylesheet, bind_assoc]
  rfl

theorem front_eq_error_iff {α : Type} {rest : Project → RuleTable → Except CommandError α} :
    front fs o.config rest = .error e ↔
      (∃ stage ∈ [Stage.configuration, .rules], StopsIn fs o stage e) ∨
        ∃ p table, Project.load fs o.config = .ok p ∧ p.ruleTable = .ok table ∧
          rest p table = .error e := by
  constructor
  · intro h
    obtain hload | ⟨p, hp, h⟩ := bind_eq_error.1 h
    · obtain ⟨cause, hcause, rfl⟩ := mapError_eq_error.1 hload
      exact .inl ⟨.configuration, by decide, .configuration hcause⟩
    rw [mapError_eq_ok] at hp
    obtain htable | ⟨table, htable, h⟩ := bind_eq_error.1 h
    · obtain ⟨cause, hcause, rfl⟩ := mapError_eq_error.1 htable
      exact .inl ⟨.rules, by decide, .rules hp hcause⟩
    · exact .inr ⟨p, table, hp, htable, h⟩
  · rintro (⟨stage, hstage, hstops⟩ | ⟨p, table, hp, htable, h⟩)
    · cases hstops with
      | configuration h => exact bind_eq_error.2 (.inl (mapError_eq_error.2 ⟨_, h, rfl⟩))
      | @rules p cause hp h =>
        have htable : p.ruleTable = .error (.rules cause) := mapError_eq_error.2 ⟨cause, h, rfl⟩
        exact bind_eq_error.2 (.inr ⟨p, mapError_eq_ok.2 hp, bind_eq_error.2 (.inl htable)⟩)
      | tokens | content | output => nomatch hstage
    · exact bind_eq_error.2 (.inr ⟨p, mapError_eq_ok.2 hp, bind_eq_error.2 (.inr ⟨table, htable, h⟩)⟩)

theorem runRules_eq_error_iff :
    runRules fs o.config = .error e ↔
      ∃ stage ∈ [Stage.configuration, .rules], StopsIn fs o stage e := by
  refine front_eq_error_iff.trans (or_iff_left ?_)
  rintro ⟨p, table, -, -, h⟩
  nomatch h

theorem runCheck_eq_error_iff :
    runCheck fs o.config = .error e ↔
      ∃ stage ∈ [Stage.configuration, .rules, .tokens], StopsIn fs o stage e := by
  refine front_eq_error_iff.trans ?_
  constructor
  · rintro (⟨stage, hstage, hstops⟩ | ⟨p, table, hp, htable, h⟩)
    · exact ⟨stage, List.mem_append_left [Stage.tokens] hstage, hstops⟩
    · obtain hregistry | ⟨registry, -, h⟩ := bind_eq_error.1 h
      · obtain ⟨cause, hcause, rfl⟩ := mapError_eq_error.1 hregistry
        exact ⟨.tokens, by decide, .tokens hp htable hcause⟩
      · nomatch h
  · rintro ⟨stage, hstage, hstops⟩
    cases hstops with
    | configuration h => exact .inl ⟨.configuration, by decide, .configuration h⟩
    | rules hp h => exact .inl ⟨.rules, by decide, .rules hp h⟩
    | @tokens p table cause hp htable h =>
      have hregistry : p.registry fs = .error (.tokens cause) :=
        mapError_eq_error.2 ⟨cause, h, rfl⟩
      exact .inr ⟨p, table, hp, htable, bind_eq_error.2 (.inl hregistry)⟩
    | content | output => nomatch hstage

theorem deliver_eq_error_iff {destination : Option Path} {css : String} :
    deliver fs destination css = .error e ↔
      ∃ file, destination = some file ∧ writeOutput fs file css = .error e := by
  cases destination with
  | none => simp [deliver, pure, Except.pure]
  | some file => simp [deliver, bind_eq_error, pure, Except.pure]

theorem runBuild_eq_error_iff : runBuild fs o = .error e ↔ ∃ stage, StopsIn fs o stage e := by
  rw [runBuild_eq, front_eq_error_iff]
  constructor
  · rintro (⟨stage, -, hstops⟩ | ⟨p, table, hp, htable, h⟩)
    · exact ⟨stage, hstops⟩
    obtain hrender | ⟨css, hcss, h⟩ := bind_eq_error.1 h
    · obtain hregistry | ⟨registry, hregistry, h⟩ := bind_eq_error.1 hrender
      · obtain ⟨cause, hcause, rfl⟩ := mapError_eq_error.1 hregistry
        exact ⟨.tokens, .tokens hp htable hcause⟩
      obtain hscan | ⟨tokens, -, h⟩ := bind_eq_error.1 h
      · obtain ⟨file, hfile, rfl⟩ := mapError_eq_error.1 hscan
        exact ⟨.content, .content hp htable hregistry hfile⟩
      · nomatch h
    · obtain ⟨file, hfile, h⟩ := deliver_eq_error_iff.1 h
      have hstylesheet : (p.override o).stylesheet fs = .ok css :=
        bind_eq_ok.2 ⟨table, htable, hcss⟩
      exact ⟨.output, .output hp hstylesheet hfile h⟩
  · rintro ⟨stage, hstops⟩
    cases hstops with
    | configuration h => exact .inl ⟨.configuration, by decide, .configuration h⟩
    | rules hp h => exact .inl ⟨.rules, by decide, .rules hp h⟩
    | @tokens p table cause hp htable h =>
      have hrender : render fs (p.override o) table = .error (.tokens cause) :=
        bind_eq_error.2 (.inl (mapError_eq_error.2 ⟨cause, h, rfl⟩))
      exact .inr ⟨p, table, hp, htable, bind_eq_error.2 (.inl hrender)⟩
    | @content p table registry file hp htable hregistry h =>
      have hscan : (Content.scan fs ((p.override o).contentFiles fs)).mapError CommandError.content =
          .error (.content file) := mapError_eq_error.2 ⟨file, h, rfl⟩
      have hrender : render fs (p.override o) table = .error (.content file) :=
        bind_eq_error.2 (.inr ⟨registry, hregistry, bind_eq_error.2 (.inl hscan)⟩)
      exact .inr ⟨p, table, hp, htable, bind_eq_error.2 (.inl hrender)⟩
    | @output p css file e hp hcss hfile h =>
      obtain ⟨table, htable, hrender⟩ := bind_eq_ok.1 hcss
      have hdeliver := deliver_eq_error_iff.2 ⟨file, hfile, h⟩
      exact .inr ⟨p, table, hp, htable, bind_eq_error.2 (.inr ⟨css, hrender, hdeliver⟩)⟩

def errorStage : CommandError → Stage
  | .project _ => .configuration
  | .rules _ => .rules
  | .tokens _ => .tokens
  | .content _ => .content
  | .makeDirectory _ | .write _ => .output

/-- A file's directory cannot be made, or the file cannot be written in it. -/
inductive CannotWrite (fs : FileSystem) (file : Path) (text : String) : CommandError → Prop
  | directory {d : Path} (hd : file.parent? = some d) (h : fs.makeDirectory d = none) :
    CannotWrite fs file text (.makeDirectory d)
  | file {made : FileSystem}
    (hmade : made = fs ∨ ∃ d, file.parent? = some d ∧ fs.makeDirectory d = some made)
    (h : made.write file text = none) : CannotWrite fs file text (.write file)

theorem cannotWrite_of_writeText {made : FileSystem} {file : Path} {text : String}
    (hmade : made = fs ∨ ∃ d, file.parent? = some d ∧ fs.makeDirectory d = some made)
    (h : writeText made file text = .error e) : CannotWrite fs file text e := by
  unfold writeText at h
  split at h
  · cases h
  · next hnone =>
    obtain rfl := Except.error.inj h
    exact .file hmade hnone

theorem cannotWrite_of_writeOutput {file : Path} {text : String}
    (h : writeOutput fs file text = .error e) : CannotWrite fs file text e := by
  unfold writeOutput at h
  split at h
  · exact cannotWrite_of_writeText (.inl rfl) h
  · next d hd =>
    split at h
    · exact cannotWrite_of_writeText (.inl rfl) h
    · split at h
      · next made hmade => exact cannotWrite_of_writeText (.inr ⟨d, hd, hmade⟩) h
      · next hnone =>
        obtain rfl := Except.error.inj h
        exact .directory hd hnone

theorem unreadable_of_scan {files : List Path} {file : Path}
    (h : Content.scan fs files = .error file) : file ∈ files ∧ fs.read file = none := by
  obtain h | ⟨texts, -, h⟩ := bind_eq_error.1 h
  · obtain ⟨front, p, back, rfl, -, hp⟩ := mapM_eq_error_iff.1 h
    split at hp
    · nomatch hp
    · next hnone =>
      obtain rfl := Except.error.inj hp
      exact ⟨List.mem_append_right _ List.mem_cons_self, hnone⟩
  · nomatch h

theorem StopsIn.errorStage_eq {stage : Stage} (h : StopsIn fs o stage e) : errorStage e = stage := by
  cases h with
  | configuration | rules | tokens | content => rfl
  | output _ _ _ h => cases cannotWrite_of_writeOutput h <;> rfl

/-- There is one stage in which a build stops, and one error there. -/
theorem StopsIn.unique {stage other : Stage} {f : CommandError} (h : StopsIn fs o stage e)
    (hother : StopsIn fs o other f) : stage = other ∧ e = f := by
  have hbuild : runBuild fs o = .error e := runBuild_eq_error_iff.2 ⟨stage, h⟩
  rw [runBuild_eq_error_iff.2 ⟨other, hother⟩] at hbuild
  obtain rfl := Except.error.inj hbuild
  exact ⟨h.errorStage_eq.symm.trans hother.errorStage_eq, rfl⟩

end Command

namespace Outcome

open Command (Stage StopsIn CannotWrite)

variable {fs : FileSystem} {e : CommandError}

def FailsWith (r : Outcome) (e : CommandError) : Prop := r.code ≠ 0 ∧ r.error = some e

variable {arguments : List String} {command : Command}

theorem failsWith_iff (h : Arguments.request arguments = .run command) :
    (ofArguments fs arguments).FailsWith e ↔ command.run fs = .error e := by
  obtain ⟨left, hexec⟩ := Command.performs_run fs command
  rw [ofArguments_run h, hexec]
  cases command.run fs with
  | ok effect => simp [FailsWith, ofExec]
  | error e' => simp [FailsWith, ofExec]

theorem exists_failsWith (h : Arguments.request arguments = .run command)
    (hcode : (ofArguments fs arguments).code ≠ 0) : ∃ e, (ofArguments fs arguments).FailsWith e := by
  cases hrun : command.run fs with
  | error e => exact ⟨e, (failsWith_iff h).2 hrun⟩
  | ok effect =>
    obtain ⟨left, hexec⟩ := Command.performs_run fs command
    simp [ofArguments_run h, hexec, hrun, ofExec] at hcode

/-- A check finds what a build would find before the content, and the listing of rules what it would
find before the tokens. -/
theorem check_predicts_build (fs : FileSystem) {build check rules : List String} {o : BuildOptions}
    (hbuild : Arguments.request build = .run (.build o))
    (hcheck : Arguments.request check = .run (.check o.config))
    (hrules : Arguments.request rules = .run (.rules o.config)) :
    let b := ofArguments fs build
    let c := ofArguments fs check
    let r := ofArguments fs rules
    (∀ outcome ∈ [b, c, r], outcome.code ≠ 0 → ∃ e, outcome.FailsWith e) ∧
      ((∀ e, b.FailsWith e ↔ ∃ stage, StopsIn fs o stage e) ∧
        ∀ {stage other e f}, StopsIn fs o stage e → StopsIn fs o other f → stage = other ∧ e = f) ∧
      (∀ e, c.FailsWith e ↔ b.FailsWith e ∧
        ∃ stage ∈ [Stage.configuration, .rules, .tokens], StopsIn fs o stage e) ∧
      (∀ e, r.FailsWith e ↔ b.FailsWith e ∧
        ∃ stage ∈ [Stage.configuration, .rules], StopsIn fs o stage e) ∧
      (c.code = 0 → ∀ e, b.FailsWith e → ∃ p, Project.load fs o.config = .ok p ∧
        ((∃ file ∈ (p.override o).contentFiles fs, fs.read file = none ∧ e = .content file) ∨
          ∃ css file, (p.override o).stylesheet fs = .ok css ∧
            (p.override o).destination o.output = some file ∧ CannotWrite fs file css e)) := by
  intro b c r
  have hb : ∀ e, b.FailsWith e ↔ ∃ stage, StopsIn fs o stage e :=
    fun e => (failsWith_iff hbuild).trans Command.runBuild_eq_error_iff
  have hc : ∀ e, c.FailsWith e ↔
      ∃ stage ∈ [Stage.configuration, .rules, .tokens], StopsIn fs o stage e :=
    fun e => (failsWith_iff hcheck).trans Command.runCheck_eq_error_iff
  have hr : ∀ e, r.FailsWith e ↔ ∃ stage ∈ [Stage.configuration, .rules], StopsIn fs o stage e :=
    fun e => (failsWith_iff hrules).trans Command.runRules_eq_error_iff
  have hbuildToo : ∀ stages : List Stage, ∀ e,
      (∃ stage ∈ stages, StopsIn fs o stage e) → b.FailsWith e :=
    fun _ e ⟨stage, _, hstops⟩ => (hb e).2 ⟨stage, hstops⟩
  refine ⟨?_, ⟨hb, StopsIn.unique⟩, ?_, ?_, ?_⟩
  · intro outcome houtcome
    simp only [List.mem_cons, List.not_mem_nil, or_false] at houtcome
    obtain rfl | rfl | rfl := houtcome
    · exact exists_failsWith hbuild
    · exact exists_failsWith hcheck
    · exact exists_failsWith hrules
  · intro e
    rw [hc, iff_and_self]
    exact hbuildToo _ e
  · intro e
    rw [hr, iff_and_self]
    exact hbuildToo _ e
  · intro hcode e hfails
    obtain ⟨stage, hstops⟩ := (hb e).1 hfails
    have hlate : stage ∉ [Stage.configuration, .rules, .tokens] :=
      fun hstage => ((hc e).2 ⟨stage, hstage, hstops⟩).1 hcode
    cases hstops with
    | configuration | rules | tokens => exact absurd (by decide) hlate
    | content hp htable hregistry h =>
      obtain ⟨hfile, hread⟩ := Command.unreadable_of_scan h
      exact ⟨_, hp, .inl ⟨_, hfile, hread, rfl⟩⟩
    | output hp hcss hfile h =>
      exact ⟨_, hp, .inr ⟨_, _, hcss, hfile, Command.cannotWrite_of_writeOutput h⟩⟩

theorem check_predicts_build_binary :
    let fs : FileSystem := ⟨⟨[(["src", "design-tokens", "colors.json"], .binary ⟨#[255]⟩)]⟩, []⟩
    let e : CommandError := .tokens (.unreadable ⟨"./src/design-tokens/colors.json"⟩)
    (ofArguments fs ["build", "--flatten"]).FailsWith e ∧ (ofArguments fs ["check"]).FailsWith e ∧
      (ofArguments fs ["rules"]).code = 0 := by
  intro fs e
  let o : BuildOptions := { flatten := true }
  have hbuild : Arguments.request ["build", "--flatten"] = .run (.build o) := by decide +kernel
  have hcheck : Arguments.request ["check"] = .run (.check o.config) := by decide +kernel
  have hrules : Arguments.request ["rules"] = .run (.rules o.config) := by decide +kernel
  obtain ⟨hsome, ⟨hb, hunique⟩, hc, hr, -⟩ :=
    check_predicts_build fs hbuild hcheck hrules
  have hstops : StopsIn fs o .tokens e := by
    have hp : Project.load fs o.config = .ok ⟨⟨"."⟩, {}⟩ := rfl
    have hregistry : Token.loadRegistry fs (Project.tokenSources ⟨⟨"."⟩, {}⟩) =
        .error (.unreadable ⟨"./src/design-tokens/colors.json"⟩) := rfl
    obtain ⟨table, htable⟩ : ∃ table, StyleConfig.ruleTable (some Regex.sizeLimit) {} = .ok table :=
      StyleConfig.exists_ruleTable fun _ hspec => absurd hspec List.not_mem_nil
    exact .tokens hp (mapError_eq_ok.2 htable) hregistry
  have hfails := (hb e).2 ⟨.tokens, hstops⟩
  refine ⟨hfails, (hc e).2 ⟨hfails, .tokens, by decide, hstops⟩, ?_⟩
  by_contra hcode
  obtain ⟨f, hf⟩ := hsome _ (by simp) hcode
  obtain ⟨-, stage, hstage, hother⟩ := (hr f).1 hf
  obtain ⟨rfl, -⟩ := hunique hstops hother
  exact absurd hstage (by decide)

end Outcome

end UtilityCss
