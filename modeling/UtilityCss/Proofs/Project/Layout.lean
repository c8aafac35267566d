import Mathlib.Logic.Relation
import UtilityCss.Command.Build
import UtilityCss.Proofs.Compile.Order
import UtilityCss.Proofs.Content.Extract
import UtilityCss.Proofs.Content.Selected
import UtilityCss.Proofs.Project.Reads
import UtilityCss.Proofs.Rule.BuiltIn

/-!
The same content in other files. A stylesheet is made from the tokens of all content files together,
so it stays what it is when content paths overlap and when content is moved, copied, cut at a
separator or put together. Steps between file trees say which of these is done; a build cannot tell
the trees of a run apart.
-/
namespace UtilityCss

namespace Content

/-- The same texts at other places, or the parts of a text apart or together. -/
inductive Rearranged : List (Location × String) → List (Location × String) → Prop
  | rename (l m : Location) (text : String) : Rearranged [(l, text)] [(m, text)]
  | duplicate (l m : Location) (text : String) : Rearranged [(l, text)] [(l, text), (m, text)]
  | split (l m n : Location) (a b : String) {c : Char} (h : isSeparator c) :
    Rearranged [(l, a.push c ++ b)] [(m, a), (n, b)]
  | join (l m n : Location) (a b : String) {c : Char} (h : isSeparator c) :
    Rearranged [(m, a), (n, b)] [(l, a.push c ++ b)]

theorem Rearranged.extractTokens {before after : List (Location × String)}
    (h : Rearranged before after) (token : String) :
    (∃ f ∈ before, token ∈ extractTokens f.2) ↔ ∃ f ∈ after, token ∈ extractTokens f.2 := by
  cases h with
  | rename l m text => simp
  | duplicate l m text => simp
  | split l m n a b h => simp [mem_extractTokens_push_append h]
  | join l m n a b h => simp [mem_extractTokens_push_append h]

end Content

def FileTree.Holds (t kept : FileTree) (files : List (Location × String)) : Prop :=
  ∀ l text, t.text? l = some text ↔ (l, text) ∈ files ∨ kept.text? l = some text

theorem FileTree.holds_self (t : FileTree) : t.Holds t [] := by
  intro l text
  simp

theorem FileTree.Holds.cons {t kept : FileTree} {files : List (Location × String)} {l : Location}
    (h : t.Holds kept files) (hl : t.text? l = none) (text : String) :
    (FileTree.mk ((l, .text text) :: t.entries)).Holds kept ((l, text) :: files) := by
  intro m s
  by_cases hm : m = l
  · subst hm
    have hget : (FileTree.mk ((m, .text text) :: t.entries)).text? m = some text := by
      simp [text?, get?]
    have hnot : ¬ ((m, s) ∈ files ∨ kept.text? m = some s) := by
      rw [← h m s, hl]
      nofun
    rw [not_or] at hnot
    simp [hget, hnot.1, hnot.2, eq_comm]
  · have hget : (FileTree.mk ((l, .text text) :: t.entries)).text? m = t.text? m := by
      simp [text?, get?, List.lookup_cons, beq_false_of_ne hm]
    rw [hget, h m s]
    simp [hm]

theorem Content.isUsed_iff_of_holds {fs : FileSystem} {paths : List Path}
    {extensions : List String} {files : List (Location × String)} {token : String}
    (h : fs.tree.Holds .empty files) : IsUsed fs paths extensions token ↔
      ∃ f ∈ files, IsSelected fs paths extensions f.1 ∧ token ∈ extractTokens f.2 := by
  constructor
  · rintro ⟨l, text, hselected, htext, htoken⟩
    rcases (h l text).1 htext with hmem | hempty
    · exact ⟨_, hmem, hselected, htoken⟩
    · nomatch hempty
  · rintro ⟨f, hf, hselected, htoken⟩
    exact ⟨f.1, f.2, hselected, (h f.1 f.2).2 (.inl hf), htoken⟩

namespace Project

/-- The given files of a tree are found by walking content directories, and none of them is looked
up for anything else. -/
structure Lays (p : Project) (config : Option Path) (working : Location) (t kept : FileTree)
    (files : List (Location × String)) : Prop where
  plain : t.IsPlain
  holds : t.Holds kept files
  walked : ∀ f ∈ files,
    Content.IsWalked ⟨t, working⟩ p.contentPaths p.config.content.extensions f.1
  apart : ∀ f ∈ files, ∀ q ∈ p.settingFiles config,
    (FileSystem.mk t working).locate q ≠ some f.1

/-- The trees have the same files but for some content that is rearranged, and the same directories
where a path that a build looks up steps up out of one. -/
def Relaid (p : Project) (config : Option Path) (working : Location) (t u : FileTree) : Prop :=
  ∃ kept before after, Content.Rearranged before after ∧ p.Lays config working t kept before ∧
    p.Lays config working u kept after ∧
    ∀ q ∈ p.settingFiles config ++ p.contentPaths, t.Steady u working q

variable {p : Project} {config : Option Path} {working : Location} {t u kept : FileTree}
  {before after : List (Location × String)}

theorem read_of_lays (ht : p.Lays config working t kept before)
    (hu : p.Lays config working u kept after) {q : Path} (hq : q ∈ p.settingFiles config)
    (hsteady : t.Steady u working q) {text : String}
    (h : (FileSystem.mk t working).read q = some text) :
    (FileSystem.mk u working).read q = some text := by
  obtain ⟨l, hl, htext⟩ := FileSystem.read_eq_some_iff.1 h
  have hplace : q.place working = l := FileSystem.place_of_locate hl
  rcases (ht.holds l text).1 htext with hmem | hkept
  · exact absurd hl (ht.apart _ hmem q hq)
  · apply FileSystem.read_transfer ht.plain hu.plain hsteady h
    rw [hplace]
    exact (hu.holds l text).2 (.inr hkept)

/-- A content file that is kept stays one, and the tokens of one that is not are found elsewhere. -/
theorem isUsed_of_lays (ht : p.Lays config working t kept before)
    (hu : p.Lays config working u kept after)
    (hsteady : ∀ q ∈ p.contentPaths, t.Steady u working q) {token : String}
    (htokens : (∃ f ∈ before, token ∈ Content.extractTokens f.2) →
      ∃ f ∈ after, token ∈ Content.extractTokens f.2)
    (h : Content.IsUsed ⟨t, working⟩ p.contentPaths p.config.content.extensions token) :
    Content.IsUsed ⟨u, working⟩ p.contentPaths p.config.content.extensions token := by
  obtain ⟨l, text, hselected, htext, htoken⟩ := h
  rcases (ht.holds l text).1 htext with hmem | hkept
  · obtain ⟨f, hf, hftoken⟩ := htokens ⟨_, hmem, htoken⟩
    exact ⟨f.1, f.2, .inl (hu.walked f hf), (hu.holds f.1 f.2).2 (.inl hf), hftoken⟩
  · have hutext : u.text? l = some text := (hu.holds l text).2 (.inr hkept)
    have htl : t.isFile l := FileTree.isFile_of_text? htext
    have hul : u.isFile l := FileTree.isFile_of_text? hutext
    refine ⟨l, text, ?_, hutext, htoken⟩
    rcases hselected with ⟨-, hname, q, hq, d, hd, hbelow⟩ | ⟨-, q, hq, hl⟩
    · have hd' := FileSystem.locate_transfer ht.plain hu.plain (hsteady q hq) hd
        (FileTree.isBelow_iff.1 hbelow).1 htl hul
      exact .inl ⟨hul, hname, q, hq, d, hd', hbelow⟩
    · have hl' := FileSystem.locate_transfer ht.plain hu.plain (hsteady q hq) hl
        (List.prefix_refl l) htl hul
      exact .inr ⟨hul, q, hq, hl'⟩

theorem stylesheet_eq {fs : FileSystem} (h : fs.tree.IsPlain) (p : Project) {tokens : List String}
    (htokens : ∀ token,
      token ∈ tokens ↔ Content.IsUsed fs p.contentPaths p.config.content.extensions token) :
    p.stylesheet fs = (do
      let rules ← p.ruleTable
      let registry ← p.registry fs
      return (Compiler.compile ⟨registry, rules, p.config.style⟩ tokens).css) := by
  obtain ⟨found, hscan, hfound⟩ := Content.scan_files h p.contentPaths p.config.content.extensions
  have hcompile : ∀ c : Compiler, c.compile found = c.compile tokens := by
    intro c
    rw [Compiler.compile_eq, Compiler.compile_eq,
      Compiler.requested_congr fun token _ => (hfound token).trans (htokens token).symm]
  simp only [stylesheet, contentFiles, hscan, Except.mapError, hcompile, ok_bind]

theorem stylesheet_congr {fs gs : FileSystem} (hf : fs.tree.IsPlain) (hg : gs.tree.IsPlain)
    {p q : Project} (hstyle : q.config.style = p.config.style)
    (hregistry : q.registry gs = p.registry fs)
    (hused : ∀ token, Content.IsUsed gs q.contentPaths q.config.content.extensions token ↔
      Content.IsUsed fs p.contentPaths p.config.content.extensions token) :
    q.stylesheet gs = p.stylesheet fs := by
  obtain ⟨tokens, -, htokens⟩ := Content.scan_files hf p.contentPaths p.config.content.extensions
  rw [stylesheet_eq hf p htokens,
    stylesheet_eq hg q fun token => (htokens token).trans (hused token).symm, hregistry, ruleTable,
    ruleTable, hstyle]

theorem stylesheet_of_relaid (h : p.Relaid config working t u) :
    load ⟨u, working⟩ config = load ⟨t, working⟩ config ∧
      p.stylesheet ⟨u, working⟩ = p.stylesheet ⟨t, working⟩ := by
  obtain ⟨kept, before, after, hrearranged, ht, hu, hsteady⟩ := h
  obtain ⟨hsettings, hcontent⟩ := List.forall_mem_append.1 hsteady
  have hread : ∀ q ∈ p.settingFiles config,
      (FileSystem.mk u working).read q = (FileSystem.mk t working).read q := by
    intro q hq
    apply Option.ext
    intro text
    exact ⟨read_of_lays hu ht hq (hsettings q hq).symm, read_of_lays ht hu hq (hsettings q hq)⟩
  have hfile : ∀ q ∈ p.settingFiles config,
      (FileSystem.mk u working).isFile q = (FileSystem.mk t working).isFile q := by
    intro q hq
    rw [FileSystem.isFile_eq_isSome_read hu.plain, FileSystem.isFile_eq_isSome_read ht.plain,
      hread q hq]
  obtain ⟨hconfig, htokens⟩ := List.forall_mem_cons.1 hread
  obtain ⟨hconfigFile, htokenFiles⟩ := List.forall_mem_cons.1 hfile
  constructor
  · exact load_congr hconfigFile hconfig
  · apply stylesheet_congr ht.plain hu.plain rfl
    · rw [registry, registry, Token.loadRegistry_congr htokenFiles htokens]
    · intro token
      have htoken := hrearranged.extractTokens token
      exact ⟨isUsed_of_lays hu ht (fun q hq => (hcontent q hq).symm) htoken.2,
        isUsed_of_lays ht hu hcontent htoken.1⟩

theorem stylesheet_of_run (h : Relation.ReflTransGen (p.Relaid config working) t u) :
    load ⟨u, working⟩ config = load ⟨t, working⟩ config ∧
      p.stylesheet ⟨u, working⟩ = p.stylesheet ⟨t, working⟩ := by
  induction h with
  | refl => exact ⟨rfl, rfl⟩
  | tail _ hstep ih =>
    obtain ⟨hload, hstylesheet⟩ := stylesheet_of_relaid hstep
    exact ⟨hload.trans ih.1, hstylesheet.trans ih.2⟩

def withPaths (p : Project) (paths : List Path) : Project :=
  { p with config := { p.config with content := { p.config.content with paths } } }

/-- A stylesheet depends on the content through the set of its tokens alone. The content paths may
come in any order, repeat and overlap; files that are found by walking content directories may be
renamed, copied, cut in two at a separator and joined by one. -/
theorem stylesheet_layout {fs : FileSystem} (h : fs.tree.IsPlain) (p : Project) :
    (∀ tokens : List String,
      (∀ token, token ∈ tokens ↔
        Content.IsUsed fs p.contentPaths p.config.content.extensions token) →
      p.stylesheet fs = (do
        let rules ← p.ruleTable
        let registry ← p.registry fs
        return (Compiler.compile ⟨registry, rules, p.config.style⟩ tokens).css)) ∧
    (∀ paths : List Path,
      let q := p.withPaths paths
      (∀ path ∈ q.contentPaths, path ∈ p.contentPaths ∨
        Content.Overlaps fs p.contentPaths p.config.content.extensions path) →
      (∀ path ∈ p.contentPaths, path ∈ q.contentPaths ∨
        Content.Overlaps fs q.contentPaths p.config.content.extensions path) →
      q.stylesheet fs = p.stylesheet fs) ∧
    (∀ (config : Option Path) (u : FileTree),
      Relation.ReflTransGen (p.Relaid config fs.working) fs.tree u →
      load ⟨u, fs.working⟩ config = load fs config ∧
        p.stylesheet ⟨u, fs.working⟩ = p.stylesheet fs) := by
  refine ⟨fun tokens => stylesheet_eq h p, ?_, fun config u => stylesheet_of_run⟩
  intro paths q hothers hpaths
  exact stylesheet_congr h h rfl rfl (Content.isUsed_congr_paths hothers hpaths)

theorem stylesheet_layout_split :
    let kept : FileTree := ⟨[(["src", "notes.txt"], .text "region")]⟩
    let t : FileTree := ⟨(["src", "index.html"], .text "flow,cluster") :: kept.entries⟩
    let u : FileTree :=
      ⟨(["src", "a.html"], .text "flow") :: (["src", "sub", "b.html"], .text "cluster") ::
        kept.entries⟩
    let p : Project := ⟨⟨"."⟩, {}⟩
    (∃ tokens, "cluster" ∈ tokens ∧ p.stylesheet ⟨t, []⟩ = (do
        let rules ← p.ruleTable
        let registry ← p.registry ⟨t, []⟩
        return (Compiler.compile ⟨registry, rules, p.config.style⟩ tokens).css)) ∧
      (p.withPaths [⟨"src/sub"⟩, ⟨"src"⟩, ⟨"src/."⟩]).stylesheet ⟨u, []⟩ = p.stylesheet ⟨u, []⟩ ∧
      load ⟨u, []⟩ none = load ⟨t, []⟩ none ∧ p.stylesheet ⟨u, []⟩ = p.stylesheet ⟨t, []⟩ := by
  intro kept t u p
  have ht : (FileSystem.mk t []).tree.IsPlain := ⟨by decide, by decide, by decide⟩
  have hu : (FileSystem.mk u []).tree.IsPlain := ⟨by decide, by decide, by decide⟩
  have hsrc : (FileSystem.mk u []).locate ⟨"./src"⟩ = some ["src"] := by decide
  have hbefore : p.Lays none [] t kept [(["src", "index.html"], "flow,cluster")] := by
    refine ⟨ht, kept.holds_self.cons rfl _, List.forall_mem_singleton.2 ?_, by decide⟩
    exact ⟨by decide, by decide, ⟨"./src"⟩, by decide, ["src"], by decide, by decide⟩
  have hafter : p.Lays none [] u kept
      [(["src", "a.html"], "flow"), (["src", "sub", "b.html"], "cluster")] := by
    refine ⟨hu, (kept.holds_self.cons rfl _).cons rfl _, ?_, by decide⟩
    refine List.forall_mem_cons.2 ⟨?_, List.forall_mem_singleton.2 ?_⟩
    · exact ⟨by decide, by decide, ⟨"./src"⟩, by decide, ["src"], hsrc, by decide⟩
    · exact ⟨by decide, by decide, ⟨"./src"⟩, by decide, ["src"], hsrc, by decide⟩
  have hstep : p.Relaid none [] t u := by
    have hcomma : Content.isSeparator ',' := by decide
    have hup : ∀ q ∈ p.settingFiles none ++ p.contentPaths, ".." ∉ q.segments := by decide
    exact ⟨kept, _, _, .split _ _ _ "flow" "cluster" hcomma, hbefore, hafter,
      fun q hq => FileTree.steady_of_notMem (hup q hq)⟩
  obtain ⟨hload, hcss⟩ := (stylesheet_layout ht p).2.2 none u (.single hstep)
  refine ⟨?_, (stylesheet_layout hu p).2.1 _ ?_ ?_, hload, hcss⟩
  · obtain ⟨tokens, -, htokens⟩ :=
      Content.scan_files ht p.contentPaths p.config.content.extensions
    have hcluster : "cluster" ∈ tokens :=
      (htokens _).2 ⟨["src", "index.html"], "flow,cluster",
        .inl (hbefore.walked _ (List.mem_singleton_self _)), rfl,
        Content.mem_extractTokens.2 (by decide)⟩
    exact ⟨tokens, hcluster, (stylesheet_layout ht p).1 tokens htokens⟩
  · have hinside : ∀ path l, (FileSystem.mk u []).locate path = some l →
        l = ["src"] ∨ FileTree.isBelow ["src"] l ∧ u.isDirectory l →
        Content.Overlaps ⟨u, []⟩ p.contentPaths p.config.content.extensions path := by
      intro path l hl hinside m hm
      obtain rfl : l = m := Option.some.inj (hl.symm.trans hm)
      exact ⟨⟨"./src"⟩, by decide, ["src"], hsrc, hinside.imp_right fun h => ⟨h.1, .inl h.2⟩⟩
    have hsub := hinside (p.resolve ⟨"src/sub"⟩) ["src", "sub"] (by decide) (by decide)
    have hstill := hinside (p.resolve ⟨"src/."⟩) ["src"] (by decide) (by decide)
    refine List.forall_mem_cons.2 ⟨.inr hsub, List.forall_mem_cons.2 ⟨.inl (by decide), ?_⟩⟩
    exact List.forall_mem_singleton.2 (.inr hstill)
  · exact List.forall_mem_singleton.2 (.inl (by decide))

/-- A content path may lead through a directory that only comes with a renamed file. -/
theorem stylesheet_rename_steps_up :
    let kept : FileTree := ⟨[(["other", "b.html"], .text "flow")]⟩
    let t : FileTree := ⟨(["src", "a.html"], .text "") :: kept.entries⟩
    let u : FileTree := ⟨(["src", "new", "a.html"], .text "") :: kept.entries⟩
    let p : Project :=
      ⟨⟨"."⟩, { tokens := { viewports := none, groups := [] }
                content := { paths := [⟨"src"⟩, ⟨"src/new/../../other"⟩] } }⟩
    Content.Rearranged [(["src", "a.html"], "")] [(["src", "new", "a.html"], "")] ∧
      p.Lays none [] t kept [(["src", "a.html"], "")] ∧
      p.Lays none [] u kept [(["src", "new", "a.html"], "")] ∧
      p.stylesheet ⟨u, []⟩ ≠ p.stylesheet ⟨t, []⟩ := by
  intro kept t u p
  have ht : p.Lays none [] t kept [(["src", "a.html"], "")] := by
    refine ⟨⟨by decide, by decide, by decide⟩, kept.holds_self.cons rfl _,
      List.forall_mem_singleton.2 ?_, by decide⟩
    exact ⟨by decide, by decide, ⟨"./src"⟩, by decide, ["src"], by decide, by decide⟩
  have hu : p.Lays none [] u kept [(["src", "new", "a.html"], "")] := by
    refine ⟨⟨by decide, by decide, by decide⟩, kept.holds_self.cons rfl _,
      List.forall_mem_singleton.2 ?_, by decide⟩
    exact ⟨by decide, by decide, ⟨"./src"⟩, by decide, ["src"], by decide, by decide⟩
  refine ⟨.rename _ _ _, ht, hu, ?_⟩
  have hempty : ∀ token, token ∉ Content.extractTokens "" := by
    have hcandidates : Content.candidates "".toList = [] := by decide
    intro token
    rw [Content.mem_extractTokens, hcandidates]
    exact List.not_mem_nil
  have hflow : ∀ token, token ∈ Content.extractTokens "flow" ↔ token ∈ ["flow"] := by
    have hcandidates : Content.candidates "flow".toList = ["flow".toList] := by decide
    intro token
    rw [Content.mem_extractTokens, hcandidates, List.mem_singleton, List.mem_singleton,
      String.toList_inj]
  have hbefore : ∀ token, token ∈ [] ↔
      Content.IsUsed ⟨t, []⟩ p.contentPaths p.config.content.extensions token := by
    have hfiles : t.Holds .empty [(["src", "a.html"], ""), (["other", "b.html"], "flow")] :=
      (FileTree.empty.holds_self.cons rfl _).cons rfl _
    have hnot : ¬ Content.IsSelected ⟨t, []⟩ p.contentPaths p.config.content.extensions
        ["other", "b.html"] := by
      have hpaths : ∀ q ∈ p.contentPaths, ∀ d ∈ (FileSystem.mk t []).locate q,
          ¬ d <+: ["other", "b.html"] := by decide
      rintro (⟨-, -, q, hq, d, hd, hbelow⟩ | ⟨-, q, hq, hl⟩)
      · exact hpaths q hq d hd (FileTree.isBelow_iff.1 hbelow).1
      · exact hpaths q hq _ hl (List.prefix_refl _)
    intro token
    rw [Content.isUsed_iff_of_holds hfiles]
    simp [hempty, hnot]
  have hafter : ∀ token, token ∈ ["flow"] ↔
      Content.IsUsed ⟨u, []⟩ p.contentPaths p.config.content.extensions token := by
    have hfiles : u.Holds .empty
        [(["src", "new", "a.html"], ""), (["other", "b.html"], "flow")] :=
      (FileTree.empty.holds_self.cons rfl _).cons rfl _
    have hselected : Content.IsSelected ⟨u, []⟩ p.contentPaths p.config.content.extensions
        ["other", "b.html"] :=
      .inl ⟨by decide, by decide, ⟨"./src/new/../../other"⟩, by decide, ["other"], by decide,
        by decide⟩
    intro token
    rw [Content.isUsed_iff_of_holds hfiles, ← hflow]
    simp [hempty, hselected]
  obtain ⟨table, htable⟩ : ∃ table,
      RuleTable.ofRules (some Regex.sizeLimit) BuiltIn.rules = .ok table :=
    RuleTable.exists_ofRules_iff.2 fun r hr => BuiltIn.exists_compile hr
  let f : Css.Fragment :=
    ⟨".flow > * + *", .components, .singleton "margin-block-start" "var(--flow-space, 1em)"⟩
  have hdispatch : table.dispatch "flow" = some ⟨0, [f]⟩ := by
    have hsplit : BuiltIn.layouts = [] ++ BuiltIn.flow :: BuiltIn.layouts.tail := rfl
    exact BuiltIn.dispatch_layout htable hsplit
  have hrules : p.ruleTable = .ok table := congrArg (Except.mapError CommandError.rules) htable
  have hregistry : p.registry ⟨t, []⟩ = .ok .empty ∧ p.registry ⟨u, []⟩ = .ok .empty := ⟨rfl, rfl⟩
  have hcss := Compiler.css_of_dispatch ⟨.empty, table, p.config.style⟩ (by decide) hdispatch
    (by simp)
  have hdiffer : Css.Stylesheet.compose [f] {} ≠ Css.Stylesheet.compose [] {} := by decide
  rw [stylesheet_eq hu.plain p hafter, stylesheet_eq ht.plain p hbefore, hrules, hregistry.1,
    hregistry.2]
  simp only [ok_bind, hcss, Compiler.css_nil]
  exact fun hsame => hdiffer (Except.ok.inj hsame)

end Project

end UtilityCss
