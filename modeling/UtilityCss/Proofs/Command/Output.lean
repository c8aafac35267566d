import UtilityCss.Proofs.Command.Stages
import UtilityCss.Proofs.File.Change

/-!
What a command leaves behind. Only a build writes, and only when there is nothing left to do but that:
one that stops earlier has changed and printed nothing, and one that succeeds has either printed the
stylesheet or written it to a single file.
-/
namespace UtilityCss

namespace Procedure

variable {α β : Type}

def KeepsFiles (a : Procedure α) : Prop := ∀ w, (a.exec w).2.files = w.files

theorem keepsFiles_look (f : FileSystem → Except CommandError α) : (look f).KeepsFiles :=
  fun _ => rfl

theorem keepsFiles_print (text : String) : (print text).KeepsFiles := fun _ => rfl

theorem KeepsFiles.bind {a : Procedure α} {f : α → Procedure β} (ha : a.KeepsFiles)
    (hf : ∀ x, (f x).KeepsFiles) : (a >>= f).KeepsFiles := by
  intro w
  have hfiles := ha w
  rw [exec_bind]
  rcases h : a.exec w with ⟨r, w'⟩
  rw [h] at hfiles
  cases r with
  | ok x => exact (hf x w').trans hfiles
  | error e => exact hfiles

end Procedure

namespace Command

open Procedure (KeepsFiles keepsFiles_look keepsFiles_print)

theorem keepsFiles_performCheck (config : Option Path) : (performCheck config).KeepsFiles :=
  (keepsFiles_look _).bind fun _ => (keepsFiles_look _).bind fun _ =>
    (keepsFiles_look _).bind fun _ => keepsFiles_print _

theorem keepsFiles_performRules (config : Option Path) : (performRules config).KeepsFiles :=
  (keepsFiles_look _).bind fun _ => (keepsFiles_look _).bind fun _ => keepsFiles_print _

variable {fs : FileSystem} {o : BuildOptions} {e : CommandError}

/-- Before the output there is no step that changes anything. -/
theorem exec_performBuild_of_error (h : runBuild fs o = .error e) (he : errorStage e ≠ .output) :
    (performBuild o).exec ⟨fs, ""⟩ = (.error e, ⟨fs, ""⟩) := by
  rw [exec_performBuild]
  obtain hload | ⟨p, hp, h⟩ := bind_eq_error.1 h
  · obtain ⟨cause, hcause, rfl⟩ := mapError_eq_error.1 hload
    rw [hcause]
  rw [mapError_eq_ok.1 hp]
  obtain hcss | ⟨css, -, hdeliver⟩ := bind_eq_error.1 h
  · simp only [hcss]
  · obtain ⟨file, -, hwrite⟩ := deliver_eq_error_iff.1 hdeliver
    cases cannotWrite_of_writeOutput hwrite with
    | directory | file => exact absurd rfl he

theorem runBuild_eq_ok {effect : Effect} (h : runBuild fs o = .ok effect) :
    ∃ p css, Project.load fs o.config = .ok p ∧ (p.override o).stylesheet fs = .ok css ∧
      ((p.override o).destination o.output = none ∧ effect = ⟨css, fs⟩ ∨
        ∃ file gs, (p.override o).destination o.output = some file ∧
          writeOutput fs file css = .ok gs ∧ effect = ⟨"", gs⟩) := by
  obtain ⟨p, hp, h⟩ := bind_eq_ok.1 h
  obtain ⟨css, hcss, h⟩ := bind_eq_ok.1 h
  refine ⟨p, css, mapError_eq_ok.1 hp, hcss, ?_⟩
  split at h
  · next hnone => exact .inl ⟨hnone, (Except.ok.inj h).symm⟩
  · next file hfile =>
    obtain ⟨gs, hgs, h⟩ := bind_eq_ok.1 h
    exact .inr ⟨file, gs, hfile, hgs, (Except.ok.inj h).symm⟩

end Command

namespace FileSystem

variable {fs gs : FileSystem} {file : Path} {text : String}

theorem working_withDirectoryFor (fs : FileSystem) (file : Path) :
    (fs.withDirectoryFor file).working = fs.working := by
  unfold withDirectoryFor
  split
  · rfl
  · split
    · rfl
    · exact working_afterMaking fs _

theorem keeps_withDirectoryFor (fs : FileSystem) (file : Path) :
    fs.tree.Keeps [] (fs.withDirectoryFor file).tree := by
  unfold withDirectoryFor
  split
  · exact .refl [] fs.tree
  · split
    · exact .refl [] fs.tree
    · exact keeps_afterMaking fs _

theorem write_of_writeText (h : writeText fs file text = .ok gs) :
    fs.write file text = some gs := by
  unfold writeText at h
  split at h
  · next hwrite => exact hwrite.trans (congrArg some (Except.ok.inj h))
  · nomatch h

theorem write_of_writeOutput (h : writeOutput fs file text = .ok gs) :
    (fs.withDirectoryFor file).write file text = some gs := by
  unfold writeOutput at h
  unfold withDirectoryFor
  split at h
  · exact write_of_writeText h
  · next directory _ =>
    split at h
    · next hempty =>
      rw [if_pos hempty]
      exact write_of_writeText h
    · next hempty =>
      rw [if_neg hempty]
      split at h
      · next made hmade =>
        obtain rfl := eq_afterMaking hmade
        exact write_of_writeText h
      · nomatch h

theorem exists_of_writeOutput (h : writeOutput fs file text = .ok gs) :
    ∃ l, gs.locate file = some l ∧ gs.read file = some text ∧ gs.working = fs.working ∧
      fs.tree.Keeps [l] gs.tree := by
  obtain ⟨l, hlocate, hread, hworking, hkeeps⟩ := exists_of_write (write_of_writeOutput h)
  exact ⟨l, hlocate, hread, hworking.trans (working_withDirectoryFor fs file),
    (keeps_withDirectoryFor fs file).trans hkeeps⟩

end FileSystem

namespace Outcome

open Command (Stage StopsIn)

variable {fs : FileSystem} {arguments : List String} {o : BuildOptions} {e : CommandError}

theorem files_ofExec (x : Except CommandError Unit × World) : (ofExec x).files = x.2.files := by
  obtain ⟨r, w⟩ := x
  cases r <;> rfl

theorem ofArguments_of_stopsIn {stage : Stage} (h : Arguments.request arguments = .run (.build o))
    (hstops : StopsIn fs o stage e) (hstage : stage ≠ .output) :
    ofArguments fs arguments = ⟨1, "", some e, fs⟩ := by
  have hbuild := Command.runBuild_eq_error_iff.2 ⟨stage, hstops⟩
  rw [ofArguments_run h, Command.perform, Command.exec_performBuild_of_error hbuild]
  · rfl
  · rwa [hstops.errorStage_eq]

/-- Where the output cannot be written, directories for it may have been made, but nothing else. -/
theorem keeps_of_stopsIn_output (h : Arguments.request arguments = .run (.build o))
    (hstops : StopsIn fs o .output e) :
    (ofArguments fs arguments).output = "" ∧
      fs.tree.Keeps [] (ofArguments fs arguments).files.tree := by
  rw [ofArguments_run h, Command.perform, Command.exec_performBuild]
  cases hstops with
  | @output p css file e hp hcss hfile hwrite =>
    simp only [hp, hcss, hfile, Procedure.exec_writeOutput, hwrite]
    exact ⟨rfl, FileSystem.keeps_withDirectoryFor fs file⟩

theorem exists_effect {c : Command} (h : Arguments.request arguments = .run c)
    (hcode : (ofArguments fs arguments).code = 0) :
    ∃ effect, c.run fs = .ok effect ∧
      ofArguments fs arguments = ⟨0, effect.output, none, effect.files⟩ := by
  obtain ⟨left, hexec⟩ := Command.performs_run fs c
  rw [ofArguments_run h, hexec] at hcode ⊢
  cases hrun : c.run fs with
  | ok effect => exact ⟨effect, rfl, rfl⟩
  | error e =>
    rw [hrun] at hcode
    nomatch hcode

/-- A build changes nothing and prints nothing until the stylesheet is made. Then it prints it, or
writes it to a file and leaves all others as they are. The other commands never write. -/
theorem build_all_or_nothing (fs : FileSystem) (arguments : List String) :
    let r := ofArguments fs arguments
    (∀ o, Arguments.request arguments = .run (.build o) →
      (∀ stage ≠ Stage.output, ∀ e, StopsIn fs o stage e →
        r.FailsWith e ∧ r.files = fs ∧ r.output = "") ∧
      (r.code = 0 → ∃ p css, Project.load fs o.config = .ok p ∧
        (p.override o).stylesheet fs = .ok css ∧
        ((p.override o).destination o.output = none ∧ r.files = fs ∧ r.output = css ∨
          ∃ file l, (p.override o).destination o.output = some file ∧ r.output = "" ∧
            r.files.locate file = some l ∧ r.files.read file = some css ∧
            r.files.working = fs.working ∧ fs.tree.Keeps [l] r.files.tree))) ∧
    ∀ config, Arguments.request arguments = .run (.check config) ∨
      Arguments.request arguments = .run (.rules config) → r.files = fs := by
  intro r
  refine ⟨fun o h => ⟨?_, ?_⟩, ?_⟩
  · intro stage hstage e hstops
    have hr : r = _ := ofArguments_of_stopsIn h hstops hstage
    rw [hr]
    exact ⟨⟨Nat.one_ne_zero, rfl⟩, rfl, rfl⟩
  · intro hcode
    obtain ⟨effect, hrun, hr⟩ := exists_effect h hcode
    obtain ⟨p, css, hp, hcss, hdelivered⟩ := Command.runBuild_eq_ok hrun
    have hr : r = _ := hr
    rw [hr]
    refine ⟨p, css, hp, hcss, ?_⟩
    obtain ⟨hnone, rfl⟩ | ⟨file, gs, hfile, hwrite, rfl⟩ := hdelivered
    · exact .inl ⟨hnone, rfl, rfl⟩
    · obtain ⟨l, hwritten⟩ := FileSystem.exists_of_writeOutput hwrite
      exact .inr ⟨file, l, hfile, rfl, hwritten⟩
  · intro config h
    have hfiles : ∀ {c : Command}, Arguments.request arguments = .run c → c.perform.KeepsFiles →
        r.files = fs := by
      intro c hc hkeeps
      have hr : r = _ := ofArguments_run hc
      rw [hr, files_ofExec]
      exact hkeeps ⟨fs, ""⟩
    exact h.elim (fun hcheck => hfiles hcheck (Command.keepsFiles_performCheck config))
      fun hrules => hfiles hrules (Command.keepsFiles_performRules config)

theorem build_all_or_nothing_directory :
    let arguments := ["build", "-o", "out/a.css"]
    let fs : FileSystem := ⟨⟨[(["a.txt"], .text "a")]⟩, []⟩
    let bad : FileSystem := ⟨⟨[(["src", "design-tokens", "colors.json"], .binary ⟨#[255]⟩)]⟩, []⟩
    let r := ofArguments fs arguments
    (∃ css, r.output = "" ∧ r.files.read ⟨"out/a.css"⟩ = some css ∧
      r.files.tree.file? ["a.txt"] = some (.text "a")) ∧
    (ofArguments bad arguments).code ≠ 0 ∧ (ofArguments bad arguments).files = bad := by
  intro arguments fs bad r
  let o : BuildOptions := { output := some "out/a.css" }
  have hrequest : Arguments.request arguments = .run (.build o) := by decide +kernel
  let p : Project := ⟨⟨"."⟩, {}⟩
  obtain ⟨table, htable⟩ : ∃ table, StyleConfig.ruleTable (some Regex.sizeLimit) {} = .ok table :=
    StyleConfig.exists_ruleTable fun _ hspec => absurd hspec List.not_mem_nil
  have hrules : (p.override o).ruleTable = .ok table := mapError_eq_ok.2 htable
  constructor
  · obtain ⟨hbuild, -⟩ := build_all_or_nothing fs arguments
    obtain ⟨-, hsuccess⟩ := hbuild o hrequest
    have hcode : r.code = 0 := by
      have hload : Token.loadRegistry fs (Project.tokenSources ⟨⟨"."⟩, {}⟩) = .ok .empty := rfl
      have hregistry : (p.override o).registry fs = .ok .empty := mapError_eq_ok.2 hload
      have hfiles : (p.override o).contentFiles fs = [] := by
        have hnone : (p.override o).contentPaths.flatMap
            (Content.filesAt fs (p.override o).config.content.extensions) = [] := by decide
        rw [Project.contentFiles, Content.files, hnone, List.mergeSort_nil]
        simp [Content.dropSame]
      obtain ⟨tokens, hscan⟩ :
          ∃ tokens, Content.scan fs ((p.override o).contentFiles fs) = .ok tokens := by
        rw [hfiles]
        exact ⟨_, rfl⟩
      obtain ⟨css, hcss⟩ : ∃ css, (p.override o).stylesheet fs = .ok css :=
        ⟨_, bind_eq_ok.2 ⟨table, hrules, bind_eq_ok.2 ⟨.empty, hregistry,
          bind_eq_ok.2 ⟨tokens, mapError_eq_ok.2 hscan, rfl⟩⟩⟩⟩
      obtain ⟨gs, hgs⟩ : ∃ gs, writeOutput fs ⟨"out/a.css"⟩ css = .ok gs := ⟨_, rfl⟩
      have hrun : Command.run fs (.build o) = .ok ⟨"", gs⟩ :=
        bind_eq_ok.2 ⟨p, rfl, bind_eq_ok.2 ⟨css, hcss, bind_eq_ok.2 ⟨gs, hgs, rfl⟩⟩⟩
      obtain ⟨left, hexec⟩ := Command.performs_run fs (.build o)
      have hr : r = _ := ofArguments_run hrequest
      rw [hr, hexec, hrun]
      rfl
    obtain ⟨q, css, hq, -, hdelivered⟩ := hsuccess hcode
    obtain rfl : p = q := Except.ok.inj hq
    obtain ⟨hnone, -⟩ | ⟨file, l, hfile, houtput, hlocate, hread, hworking, hkeeps⟩ := hdelivered
    · cases hnone
    · obtain rfl := Option.some.inj hfile
      have hplace := FileSystem.place_of_locate hlocate
      rw [hworking] at hplace
      refine ⟨css, houtput, hread, (hkeeps.file? ["a.txt"] ?_).trans rfl⟩
      rw [← hplace]
      decide
  · obtain ⟨hbuild, -⟩ := build_all_or_nothing bad arguments
    obtain ⟨hfails, -⟩ := hbuild o hrequest
    have hregistry : Token.loadRegistry bad (Project.tokenSources ⟨⟨"."⟩, {}⟩) =
        .error (.unreadable ⟨"./src/design-tokens/colors.json"⟩) := rfl
    have hp : Project.load bad o.config = .ok p := rfl
    obtain ⟨⟨hcode, -⟩, hfiles, -⟩ :=
      hfails .tokens (by decide) _ (.tokens hp hrules hregistry)
    exact ⟨hcode, hfiles⟩

end Outcome

end UtilityCss
