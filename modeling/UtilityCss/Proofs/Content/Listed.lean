import Mathlib.Data.List.Sort
import UtilityCss.Proofs.Content.Selected
import UtilityCss.Proofs.File.Order

/-!
The content files as a list of paths: each path that content paths give is there once, in the order of
components. It does not matter in which order content paths come, how often, and whether one of them
lies inside another.
-/
namespace UtilityCss.Content

/-- The path is given by a content path: it is one that leads to a file, or it leads by way of one
that is a directory to a file with one of the extensions. -/
inductive IsListed (fs : FileSystem) (paths : List Path) (extensions : List String) : Path → Prop
  | file {p} (hp : p ∈ paths) (hfile : fs.isFile p) : IsListed fs paths extensions p
  | below {p q d names} (hp : p ∈ paths) (hd : fs.locate p = some d)
    (hdirectory : fs.tree.isDirectory d) (hfile : fs.tree.isFile (d ++ names))
    (hname : hasSelectedName extensions (d ++ names))
    (hq : q.components = p.components ++ names.map .name) : IsListed fs paths extensions q

variable {fs : FileSystem} {paths others : List Path} {extensions : List String} {p q : Path}

theorem pairwise_dropSame {files : List Path} (h : files.Pairwise fun p q => p.le q) :
    (dropSame files).Pairwise Path.Before := by
  fun_induction dropSame files with
  | case1 a b rest hsame ih =>
    obtain ⟨ha, hrest⟩ := List.pairwise_cons.1 h
    obtain ⟨-, hrest⟩ := List.pairwise_cons.1 hrest
    exact ih (List.pairwise_cons.2 ⟨fun p hp => ha p (List.mem_cons_of_mem _ hp), hrest⟩)
  | case2 a b rest hdiffer ih =>
    obtain ⟨ha, hrest⟩ := List.pairwise_cons.1 h
    have hab : a.Before b :=
      Path.before_of_le (ha b List.mem_cons_self) (Bool.eq_false_iff.2 hdiffer)
    refine List.pairwise_cons.2 ⟨?_, ih hrest⟩
    intro p hp
    obtain rfl | hp := List.mem_cons.1 (mem_of_mem_dropSame hp)
    · exact hab
    · obtain hsame | hbefore := Path.le_iff.1 ((List.pairwise_cons.1 hrest).1 p hp)
      · rwa [Path.Before, ← hsame]
      · exact hab.trans hbefore
  | case3 short hshort =>
    obtain _ | ⟨p, _ | ⟨b, rest⟩⟩ := short
    · exact .nil
    · exact List.pairwise_singleton _ p
    · exact absurd rfl (hshort p b rest)

theorem pairwise_files (fs : FileSystem) (paths : List Path) (extensions : List String) :
    (files fs paths extensions).Pairwise Path.Before := by
  apply pairwise_dropSame
  apply List.pairwise_mergeSort
  · intro p q r hpq hqr
    exact Path.le_trans hpq hqr
  · intro p q
    exact Path.le_total p q

theorem mem_flatMap_of_mem_files (h : q ∈ files fs paths extensions) :
    q ∈ paths.flatMap (filesAt fs extensions) :=
  List.mem_mergeSort.1 (mem_of_mem_dropSame h)

theorem exists_same_of_mem_flatMap (h : q ∈ paths.flatMap (filesAt fs extensions)) :
    ∃ p ∈ files fs paths extensions, q.same p :=
  exists_same_dropSame (List.mem_mergeSort.2 h)

theorem isListed_of_mem_files (ht : fs.tree.HasNames) (h : q ∈ files fs paths extensions) :
    IsListed fs paths extensions q := by
  obtain ⟨p, hp, hq⟩ := List.mem_flatMap.1 (mem_flatMap_of_mem_files h)
  obtain ⟨hfile, rfl⟩ | ⟨d, names, hd, hdirectory, hfile, hname, rfl⟩ := (mem_filesAt ht).1 hq
  · exact .file hp hfile
  · exact .below hp hd hdirectory hfile hname (FileSystem.components_walked ht hd hfile)

theorem exists_same_of_isListed (ht : fs.tree.HasNames) (h : IsListed fs paths extensions q) :
    ∃ p ∈ files fs paths extensions, q.same p := by
  cases h with
  | file hp hfile =>
    have hq : q ∈ filesAt fs extensions q := (mem_filesAt ht).2 (.inl ⟨hfile, rfl⟩)
    exact exists_same_of_mem_flatMap (List.mem_flatMap.2 ⟨q, hp, hq⟩)
  | @below p q d names hp hd hdirectory hfile hname hq =>
    have hwalked : names.foldl (fun p name => p.join ⟨name⟩) p ∈ filesAt fs extensions p :=
      (mem_filesAt ht).2 (.inr ⟨d, names, hd, hdirectory, hfile, hname, rfl⟩)
    obtain ⟨f, hf, hsame⟩ := exists_same_of_mem_flatMap (List.mem_flatMap.2 ⟨p, hp, hwalked⟩)
    refine ⟨f, hf, decide_eq_true ?_⟩
    rw [hq, ← FileSystem.components_walked ht hd hfile]
    exact of_decide_eq_true hsame

theorem mem_components_files (ht : fs.tree.HasNames) {l : List Path.Component} :
    l ∈ (files fs paths extensions).map Path.components ↔
      ∃ q, IsListed fs paths extensions q ∧ q.components = l := by
  rw [List.mem_map]
  constructor
  · rintro ⟨q, hq, hl⟩
    exact ⟨q, isListed_of_mem_files ht hq, hl⟩
  · rintro ⟨q, hq, rfl⟩
    obtain ⟨p, hp, hsame⟩ := exists_same_of_isListed ht hq
    exact ⟨p, hp, (of_decide_eq_true hsame).symm⟩

theorem files_congr (ht : fs.tree.HasNames)
    (h : ∀ q, IsListed fs others extensions q ↔ IsListed fs paths extensions q) :
    (files fs others extensions).map Path.components =
      (files fs paths extensions).map Path.components := by
  have hpairwise : ∀ paths : List Path, ((files fs paths extensions).map Path.components).Pairwise
      (List.Lex Path.Component.Before) :=
    fun paths => List.pairwise_map.2 (pairwise_files fs paths extensions)
  apply (hpairwise others).eq_of_mem_iff (hpairwise paths)
  intro l
  rw [mem_components_files ht, mem_components_files ht]
  exact exists_congr fun q => and_congr_left' (h q)

/-- The path is one of a directory, and it goes on from a content path of a directory without a step
up. -/
def IsInside (fs : FileSystem) (paths : List Path) (q : Path) : Prop :=
  ∃ p ∈ paths, ∃ d e rest, fs.locate p = some d ∧ fs.tree.isDirectory d ∧
    fs.locate q = some e ∧ fs.tree.isDirectory e ∧
      q.components = p.components ++ rest ∧ .parent ∉ rest

theorem IsListed.of_isInside (h : IsListed fs others extensions q)
    (hothers : ∀ p ∈ others, p ∈ paths ∨ IsInside fs paths p) :
    IsListed fs paths extensions q := by
  cases h with
  | file hq hfile =>
    obtain hmem | ⟨-, -, -, e, -, -, -, he, hdirectory, -⟩ := hothers q hq
    · exact .file hmem hfile
    · rw [FileSystem.isFile, he] at hfile
      exact absurd hdirectory (Bool.eq_false_iff.1 (FileTree.isDirectory_of_isFile hfile))
  | @below p q e names hp he hdirectory hfile hname hq =>
    obtain hmem | ⟨top, htop, d, e', rest, hd, htopdirectory, he', -, hrest, hup⟩ := hothers p hp
    · exact .below hmem he hdirectory hfile hname hq
    obtain rfl : e = e' := Option.some.inj (he.symm.trans he')
    obtain ⟨inner, rfl⟩ :=
      Path.eq_map_name (FileSystem.locate_eq_some_iff.1 hd).1 hrest hup
    obtain rfl := FileSystem.locate_append_names hd he hrest
    rw [List.append_assoc] at hfile hname
    refine .below htop hd htopdirectory hfile hname ?_
    rw [hq, hrest, List.append_assoc, List.map_append]

theorem filesAt_of_absent (h : fs.isPresent p = false) : filesAt fs extensions p = [] := by
  have hnone : fs.locate p = none := Option.isSome_eq_false_iff.1 h |> Option.isNone_iff_eq_none.1
  rw [filesAt, FileSystem.isFile, FileSystem.filesBelow, hnone]
  rfl

theorem files_filter_isPresent (fs : FileSystem) (paths : List Path) (extensions : List String) :
    files fs (paths.filter fs.isPresent) extensions = files fs paths extensions := by
  have hpresent : (paths.filter fs.isPresent).flatMap (filesAt fs extensions) =
      paths.flatMap (filesAt fs extensions) := by
    induction paths with
    | nil => rfl
    | cons p rest ih =>
      rw [List.flatMap_cons, ← ih, List.filter_cons]
      split
      · rfl
      · next habsent =>
        rw [filesAt_of_absent (Bool.eq_false_iff.2 habsent), List.nil_append]
  rw [files, hpresent, files]

/-- What the content files are, and which other content paths give the same ones. -/
theorem files_listed (ht : fs.tree.HasNames) (paths : List Path) (extensions : List String) :
    (files fs paths extensions).Pairwise Path.Before ∧
    (∀ q ∈ files fs paths extensions, IsListed fs paths extensions q) ∧
    (∀ q, IsListed fs paths extensions q → ∃ p ∈ files fs paths extensions, q.same p) ∧
    files fs (paths.filter fs.isPresent) extensions = files fs paths extensions ∧
    ∀ others : List Path, paths ⊆ others →
      (∀ p ∈ others, p ∈ paths ∨ IsInside fs paths p) →
      (files fs others extensions).map Path.components =
        (files fs paths extensions).map Path.components := by
  refine ⟨pairwise_files fs paths extensions, fun q => isListed_of_mem_files ht,
    fun q => exists_same_of_isListed ht, files_filter_isPresent fs paths extensions, ?_⟩
  intro others hsubset hothers
  apply files_congr ht
  intro q
  constructor
  · intro h
    exact h.of_isInside hothers
  · intro h
    apply h.of_isInside
    intro p hp
    exact .inl (hsubset hp)

theorem files_listed_overlapping :
    let fs : FileSystem := ⟨⟨[(["src", "deep", "b.html"], .text "cluster"),
      (["src", "a.html"], .text "flow"), (["src", "note.txt"], .text "")]⟩, []⟩
    fs.tree.HasNames ∧
      files fs [⟨"src"⟩, ⟨"src/note.txt"⟩, ⟨"gone"⟩] ["html"] =
        [⟨"src/a.html"⟩, ⟨"src/deep/b.html"⟩, ⟨"src/note.txt"⟩] ∧
      (files fs [⟨"src/deep"⟩, ⟨"src/note.txt"⟩, ⟨"gone"⟩, ⟨"src"⟩, ⟨"src"⟩]
          ["html"]).map Path.components =
        (files fs [⟨"src"⟩, ⟨"src/note.txt"⟩, ⟨"gone"⟩] ["html"]).map Path.components := by
  intro fs
  have ht : fs.tree.HasNames := by
    unfold FileTree.HasNames
    decide
  refine ⟨ht, ?_, ?_⟩
  · have hfound : [⟨"src"⟩, ⟨"src/note.txt"⟩, ⟨"gone"⟩].flatMap (filesAt fs ["html"]) =
        [⟨"src/deep/b.html"⟩, ⟨"src/a.html"⟩, ⟨"src/note.txt"⟩] := by decide
    have hle : (Path.mk "src/deep/b.html").le ⟨"src/a.html"⟩ = false ∧
        (Path.mk "src/deep/b.html").le ⟨"src/note.txt"⟩ ∧
        (Path.mk "src/a.html").le ⟨"src/note.txt"⟩ := by decide
    have hdiffer : (Path.mk "src/a.html").same ⟨"src/deep/b.html"⟩ = false ∧
        (Path.mk "src/deep/b.html").same ⟨"src/note.txt"⟩ = false := by decide
    simp [files, hfound, List.mergeSort, hle, dropSame, hdiffer]
  · have hdeep : IsInside fs [⟨"src"⟩, ⟨"src/note.txt"⟩, ⟨"gone"⟩] ⟨"src/deep"⟩ :=
      ⟨⟨"src"⟩, List.mem_cons_self, ["src"], ["src", "deep"], [.name "deep"], by decide, by decide,
        by decide, by decide, by decide, by decide⟩
    refine (files_listed ht [⟨"src"⟩, ⟨"src/note.txt"⟩, ⟨"gone"⟩] ["html"]).2.2.2.2 _ ?_ ?_
    · simp
    · simp [hdeep]

/-- A step up goes on from the path of a listed directory, but leads out of it. -/
theorem files_stepping_up :
    let fs : FileSystem :=
      ⟨⟨[(["src", "a.html"], .text "flow"), (["b.html"], .text "cluster")]⟩, []⟩
    fs.tree.HasNames ∧
      fs.locate ⟨"src"⟩ = some ["src"] ∧ fs.tree.isDirectory ["src"] ∧
      fs.locate ⟨"src/.."⟩ = some [] ∧ fs.tree.isDirectory [] ∧
      (Path.mk "src/..").components = (Path.mk "src").components ++ [.parent] ∧
      (files fs [⟨"src"⟩, ⟨"src/.."⟩] ["html"]).map Path.components ≠
        (files fs [⟨"src"⟩] ["html"]).map Path.components := by
  intro fs
  have ht : fs.tree.HasNames := by
    unfold FileTree.HasNames
    decide
  refine ⟨ht, by decide, by decide, by decide, by decide, by decide, ?_⟩
  intro hsame
  obtain ⟨p, hp, hup⟩ : ∃ p ∈ files fs [⟨"src"⟩, ⟨"src/.."⟩] ["html"],
    (Path.mk "src/../b.html").same p := exists_same_of_mem_flatMap (by decide)
  obtain ⟨q, hq, hpq⟩ := List.mem_map.1 (hsame ▸ List.mem_map_of_mem hp)
  have hnot : ∀ q ∈ [⟨"src"⟩].flatMap (filesAt fs ["html"]),
    q.components ≠ (Path.mk "src/../b.html").components := by decide
  exact hnot q (mem_flatMap_of_mem_files hq) (hpq.trans (of_decide_eq_true hup).symm)

end UtilityCss.Content
