import UtilityCss.Content.Files
import UtilityCss.Proofs.Except
import UtilityCss.Proofs.File.Below

/-!
The content files by the places at which they are. The paths under which they are found, their
order and how often they are found do not matter for the tokens in them.
-/
namespace UtilityCss.Content

variable {fs : FileSystem} {paths : List Path} {extensions : List String} {p q : Path}
  {l : Location}

def hasSelectedName (extensions : List String) (l : Location) : Bool :=
  (l.getLast?.bind fun name => (Path.extensionOf name.toList).map String.ofList).any
    extensions.contains

def IsWalked (fs : FileSystem) (paths : List Path) (extensions : List String) (l : Location) :
    Prop :=
  fs.tree.isFile l ∧ hasSelectedName extensions l ∧
    ∃ p ∈ paths, ∃ d, fs.locate p = some d ∧ FileTree.isBelow d l

/-- The file is a content file: one to which a content path leads, or one that is found below. -/
def IsSelected (fs : FileSystem) (paths : List Path) (extensions : List String) (l : Location) :
    Prop :=
  IsWalked fs paths extensions l ∨ fs.tree.isFile l ∧ ∃ p ∈ paths, fs.locate p = some l

def IsUsed (fs : FileSystem) (paths : List Path) (extensions : List String) (token : String) :
    Prop :=
  ∃ l text, IsSelected fs paths extensions l ∧ fs.tree.text? l = some text ∧
    token ∈ extractTokens text

theorem hasExtension_foldl_join {d names : Location} (ht : fs.tree.HasNames)
    (hp : p.isEmpty = false) (hne : names ≠ []) (hfile : fs.tree.isFile (d ++ names)) :
    hasExtension extensions (names.foldl (fun p name => p.join ⟨name⟩) p) =
      hasSelectedName extensions (d ++ names) := by
  have hnames := ht.all_right hfile
  obtain ⟨front, last, rfl⟩ := List.eq_nil_or_concat' names |>.resolve_left hne
  rw [hasExtension, hasSelectedName, Path.extension?,
    Path.fileName?_foldl_join hp hnames List.getLast?_concat, ← List.append_assoc,
    List.getLast?_concat]

theorem ne_nil_of_isDirectory {t : FileTree} {d names : Location} (hd : t.isDirectory d)
    (hfile : t.isFile (d ++ names)) : names ≠ [] := by
  rintro rfl
  rw [List.append_nil] at hfile
  rw [FileTree.isDirectory_of_isFile hfile] at hd
  nomatch hd

theorem mem_filesAt (ht : fs.tree.HasNames) : q ∈ filesAt fs extensions p ↔
    (fs.isFile p ∧ q = p) ∨ ∃ d names, fs.locate p = some d ∧ fs.tree.isDirectory d ∧
      fs.tree.isFile (d ++ names) ∧ hasSelectedName extensions (d ++ names) ∧
      names.foldl (fun p name => p.join ⟨name⟩) p = q := by
  rw [filesAt]
  split
  · next hp =>
    obtain ⟨l, hl, hfile⟩ := (Option.any_eq_true _ _).1 hp
    rw [List.mem_singleton]
    constructor
    · intro hq
      exact .inl ⟨hp, hq⟩
    · rintro (⟨-, hq⟩ | ⟨d, names, hd, hdirectory, -⟩)
      · exact hq
      · obtain rfl : l = d := Option.some.inj (hl.symm.trans hd)
        rw [FileTree.isDirectory_of_isFile hfile] at hdirectory
        nomatch hdirectory
  · next hp =>
    rw [List.mem_filter, FileSystem.mem_filesBelow]
    constructor
    · rintro ⟨⟨d, names, hd, hne, hfile, rfl⟩, hextension⟩
      obtain ⟨hnonempty, -, hpresent⟩ := FileSystem.locate_eq_some_iff.1 hd
      rw [hasExtension_foldl_join ht hnonempty hne hfile] at hextension
      have hdirectory : fs.tree.isDirectory d := by
        rw [FileSystem.isFile, hd] at hp
        exact (Bool.or_eq_true_iff.1 hpresent).resolve_left hp
      exact .inr ⟨d, names, hd, hdirectory, hfile, hextension, rfl⟩
    · rintro (⟨hfile, -⟩ | ⟨d, names, hd, hdirectory, hfile, hname, rfl⟩)
      · exact absurd hfile hp
      · have hne := ne_nil_of_isDirectory hdirectory hfile
        refine ⟨⟨d, names, hd, hne, hfile, rfl⟩, ?_⟩
        rwa [hasExtension_foldl_join ht (FileSystem.locate_eq_some_iff.1 hd).1 hne hfile]

theorem exists_isSelected (ht : fs.tree.IsPlain) (hp : p ∈ paths)
    (hq : q ∈ filesAt fs extensions p) :
    ∃ l, fs.locate q = some l ∧ IsSelected fs paths extensions l := by
  rcases (mem_filesAt ht.names).1 hq with
    ⟨hfile, rfl⟩ | ⟨d, names, hd, hdirectory, hfile, hname, rfl⟩
  · obtain ⟨l, hl, hfile⟩ := (Option.any_eq_true _ _).1 hfile
    exact ⟨l, hl, .inr ⟨hfile, q, hp, hl⟩⟩
  · have hne := ne_nil_of_isDirectory hdirectory hfile
    have hbelow : FileTree.isBelow d (d ++ names) :=
      FileTree.isBelow_iff.2 ⟨List.prefix_append .., by simpa using hne⟩
    exact ⟨_, FileSystem.locate_foldl_join ht hd hfile, .inl ⟨hfile, hname, p, hp, d, hd, hbelow⟩⟩

theorem exists_mem_filesAt (ht : fs.tree.IsPlain) (h : IsSelected fs paths extensions l) :
    ∃ p ∈ paths, ∃ q ∈ filesAt fs extensions p, fs.locate q = some l := by
  rcases h with ⟨hfile, hname, p, hp, d, hd, hbelow⟩ | ⟨hfile, p, hp, hl⟩
  · obtain ⟨⟨names, rfl⟩, hne⟩ := FileTree.isBelow_iff.1 hbelow
    have hdirectory : fs.tree.isDirectory d :=
      (ht.isDirectory_iff_ne hfile (List.prefix_append ..)).2 hne
    exact ⟨p, hp, _, (mem_filesAt ht.names).2 (.inr ⟨d, names, hd, hdirectory, hfile, hname, rfl⟩),
      FileSystem.locate_foldl_join ht hd hfile⟩
  · refine ⟨p, hp, p, (mem_filesAt ht.names).2 (.inl ⟨?_, rfl⟩), hl⟩
    rw [FileSystem.isFile, hl]
    exact hfile

theorem mem_of_mem_dropSame {files : List Path} (h : p ∈ dropSame files) : p ∈ files := by
  fun_induction dropSame files with
  | case1 a b rest hsame ih =>
    rcases List.mem_cons.1 (ih h) with rfl | hrest
    · exact List.mem_cons_self ..
    · exact List.mem_cons_of_mem _ (List.mem_cons_of_mem _ hrest)
  | case2 a b rest hsame ih =>
    rcases List.mem_cons.1 h with rfl | hrest
    · exact List.mem_cons_self ..
    · exact List.mem_cons_of_mem _ (ih hrest)
  | case3 => exact h

theorem exists_same_dropSame {files : List Path} (h : p ∈ files) :
    ∃ q ∈ dropSame files, p.same q := by
  have hrefl : ∀ p : Path, p.same p := fun p => decide_eq_true rfl
  fun_induction dropSame files generalizing p with
  | case1 a b rest hsame ih =>
    rcases List.mem_cons.1 h with rfl | hb
    · exact ih (List.mem_cons_self ..)
    rcases List.mem_cons.1 hb with rfl | hrest
    · obtain ⟨q, hq, haq⟩ := ih (List.mem_cons_self ..)
      refine ⟨q, hq, decide_eq_true ?_⟩
      exact (of_decide_eq_true hsame).symm.trans (of_decide_eq_true haq)
    · exact ih (List.mem_cons_of_mem _ hrest)
  | case2 a b rest hsame ih =>
    rcases List.mem_cons.1 h with rfl | hrest
    · exact ⟨p, List.mem_cons_self .., hrefl p⟩
    · obtain ⟨q, hq, hpq⟩ := ih hrest
      exact ⟨q, List.mem_cons_of_mem _ hq, hpq⟩
  | case3 => exact ⟨p, h, hrefl p⟩

theorem isSelected_of_mem_files (ht : fs.tree.IsPlain) (h : q ∈ files fs paths extensions) :
    ∃ l, fs.locate q = some l ∧ IsSelected fs paths extensions l := by
  obtain ⟨p, hp, hq⟩ := List.mem_flatMap.1 (List.mem_mergeSort.1 (mem_of_mem_dropSame h))
  exact exists_isSelected ht hp hq

theorem exists_mem_files (ht : fs.tree.IsPlain) (h : IsSelected fs paths extensions l) :
    ∃ q ∈ files fs paths extensions, fs.locate q = some l := by
  obtain ⟨p, hp, a, ha, hl⟩ := exists_mem_filesAt ht h
  obtain ⟨q, hq, hsame⟩ :=
    exists_same_dropSame (List.mem_mergeSort.2 (List.mem_flatMap.2 ⟨p, hp, ha⟩))
  obtain ⟨m, hm, -⟩ := isSelected_of_mem_files ht hq
  have hplace := Path.place_of_same fs.working hsame
  rw [FileSystem.place_of_locate hl, FileSystem.place_of_locate hm] at hplace
  exact ⟨q, hq, hplace ▸ hm⟩

theorem scan_files (ht : fs.tree.IsPlain) (paths : List Path) (extensions : List String) :
    ∃ tokens, scan fs (files fs paths extensions) = .ok tokens ∧
      ∀ token, token ∈ tokens ↔ IsUsed fs paths extensions token := by
  let text (p : Path) : String := (fs.read p).getD ""
  have hread : ∀ q ∈ files fs paths extensions, fs.read q = some (text q) := by
    intro q hq
    obtain ⟨l, hl, hselected⟩ := isSelected_of_mem_files ht hq
    have hfile : fs.tree.isFile l := hselected.elim And.left And.left
    have hsome : (fs.read q).isSome := by
      rw [FileSystem.read, hl]
      exact ht.isSome_text?.trans hfile
    obtain ⟨s, hs⟩ := Option.isSome_iff_exists.1 hsome
    simp [text, hs]
  have hscan : scan fs (files fs paths extensions) =
      .ok (Text.distinct (((files fs paths extensions).map text).flatMap extractTokens)) := by
    rw [scan, mapM_eq_ok_map (g := text)]
    · rfl
    · intro q hq
      rw [hread q hq]
  refine ⟨_, hscan, ?_⟩
  intro token
  rw [Text.mem_distinct, List.flatMap_map, List.mem_flatMap]
  constructor
  · rintro ⟨q, hq, htoken⟩
    obtain ⟨l, hl, hselected⟩ := isSelected_of_mem_files ht hq
    obtain ⟨m, hm, htext⟩ := FileSystem.read_eq_some_iff.1 (hread q hq)
    obtain rfl : l = m := Option.some.inj (hl.symm.trans hm)
    exact ⟨l, text q, hselected, htext, htoken⟩
  · rintro ⟨l, s, hselected, htext, htoken⟩
    obtain ⟨q, hq, hl⟩ := exists_mem_files ht hselected
    have hs : fs.read q = some s := FileSystem.read_eq_some_iff.2 ⟨l, hl, htext⟩
    refine ⟨q, hq, ?_⟩
    rwa [Option.some.inj ((hread q hq).symm.trans hs)]

variable {others : List Path}

def Overlaps (fs : FileSystem) (paths : List Path) (extensions : List String) (q : Path) : Prop :=
  ∀ l, fs.locate q = some l → ∃ p ∈ paths, ∃ d, fs.locate p = some d ∧
    (l = d ∨ FileTree.isBelow d l ∧ (fs.tree.isDirectory l ∨ hasSelectedName extensions l))

theorem IsSelected.of_overlaps (h : IsSelected fs others extensions l)
    (hothers : ∀ q ∈ others, q ∈ paths ∨ Overlaps fs paths extensions q) :
    IsSelected fs paths extensions l := by
  rcases h with ⟨hfile, hname, q, hq, d, hd, hbelow⟩ | ⟨hfile, q, hq, hl⟩
  · refine .inl ⟨hfile, hname, ?_⟩
    rcases hothers q hq with hmem | hoverlaps
    · exact ⟨q, hmem, d, hd, hbelow⟩
    obtain ⟨p, hp, top, htop, rfl | ⟨htopd, -⟩⟩ := hoverlaps d hd
    · exact ⟨p, hp, d, htop, hbelow⟩
    · exact ⟨p, hp, top, htop, FileTree.isBelow_trans htopd hbelow⟩
  · rcases hothers q hq with hmem | hoverlaps
    · exact .inr ⟨hfile, q, hmem, hl⟩
    obtain ⟨p, hp, top, htop, rfl | ⟨hbelow, hdirectory | hname⟩⟩ := hoverlaps l hl
    · exact .inr ⟨hfile, p, hp, htop⟩
    · rw [FileTree.isDirectory_of_isFile hfile] at hdirectory
      nomatch hdirectory
    · exact .inl ⟨hfile, hname, p, hp, top, htop, hbelow⟩

theorem isUsed_congr_paths (hothers : ∀ q ∈ others, q ∈ paths ∨ Overlaps fs paths extensions q)
    (hpaths : ∀ q ∈ paths, q ∈ others ∨ Overlaps fs others extensions q) (token : String) :
    IsUsed fs others extensions token ↔ IsUsed fs paths extensions token := by
  constructor
  · rintro ⟨l, text, hselected, htext⟩
    exact ⟨l, text, hselected.of_overlaps hothers, htext⟩
  · rintro ⟨l, text, hselected, htext⟩
    exact ⟨l, text, hselected.of_overlaps hpaths, htext⟩

end UtilityCss.Content
