import Mathlib.Data.List.Basic
import Mathlib.Data.Set.List
import UtilityCss.Proofs.File.Locate

/-!
Files below a directory: the paths by which a walk finds them lead to them, and go on from the path
of the directory by the names on the way.
-/
namespace UtilityCss

namespace Path

variable {p q : Path} {name : String} {names : List String} {rest : List Component}

theorem slash_notMem_of_isName (h : isName name) : '/' ∉ name.toList := by
  simp only [isName, Bool.and_eq_true, Bool.not_eq_true'] at h
  intro hmem
  rw [List.contains_iff_mem.2 hmem] at h
  exact Bool.noConfusion h.2

theorem isAbsolute_of_isName (h : isName name) : (Path.mk name).isAbsolute = false := by
  rw [isAbsolute, decide_eq_false_iff_not]
  intro hhead
  exact slash_notMem_of_isName h (List.mem_of_head? hhead)

theorem segments_of_isName (h : isName name) : (Path.mk name).segments = [name] := by
  rw [segments, List.splitOn_eq_singleton (slash_notMem_of_isName h), List.map_singleton,
    String.ofList_toList]

theorem segments_of_slash {front back : List Char} (h : p.text.toList = front ++ '/' :: back) :
    p.segments =
      (Path.mk (String.ofList front)).segments ++ (Path.mk (String.ofList back)).segments := by
  rw [segments, h, List.splitOn_append_cons_self, List.map_append, segments, segments,
    String.toList_ofList, String.toList_ofList]

theorem segments_join (hp : p.isEmpty = false) (h : isName name) :
    ∃ front, front ≠ [] ∧ (p.join ⟨name⟩).segments = front ++ [name] ∧
      (p.segments = front ∨ p.segments = front ++ [""]) := by
  have hname : (Path.mk (String.ofList name.toList)).segments = [name] := by
    rw [String.ofList_toList, segments_of_isName h]
  rw [join, isAbsolute_of_isName h, if_neg Bool.false_ne_true, hp, Bool.false_or]
  split
  · next hlast =>
    obtain ⟨front, hfront⟩ := List.getLast?_eq_some_iff.1 (of_decide_eq_true hlast)
    have hjoined : (Path.mk (p.text ++ name)).text.toList = front ++ '/' :: name.toList := by
      rw [String.toList_append, hfront, List.append_assoc, List.singleton_append]
    refine ⟨(Path.mk (String.ofList front)).segments, segments_ne_nil _, ?_, .inr ?_⟩
    · rw [segments_of_slash hjoined, hname]
    · rw [segments_of_slash hfront]
      rfl
  · have hjoined : (Path.mk (p.text ++ "/" ++ name)).text.toList =
        p.text.toList ++ '/' :: name.toList := by
      rw [String.toList_append, String.toList_append, List.append_assoc]
      rfl
    refine ⟨p.segments, p.segments_ne_nil, ?_, .inl rfl⟩
    rw [segments_of_slash hjoined, hname, String.ofList_toList]

theorem toList_join (h : isName name) :
    ∃ back, (p.join ⟨name⟩).text.toList = p.text.toList ++ back := by
  rw [join, isAbsolute_of_isName h, if_neg Bool.false_ne_true]
  split
  · exact ⟨_, String.toList_append⟩
  · rw [String.toList_append, String.toList_append, List.append_assoc]
    exact ⟨_, rfl⟩

theorem toList_ne_nil (hp : p.isEmpty = false) : p.text.toList ≠ [] := by
  intro hnil
  rw [isEmpty, String.toList_eq_nil_iff.1 hnil] at hp
  nomatch hp

theorem isAbsolute_join (hp : p.isEmpty = false) (h : isName name) :
    (p.join ⟨name⟩).isAbsolute = p.isAbsolute := by
  obtain ⟨back, hback⟩ := toList_join (p := p) h
  rw [isAbsolute, hback, List.head?_append_of_ne_nil _ (toList_ne_nil hp), isAbsolute]

theorem isEmpty_join (hp : p.isEmpty = false) (h : isName name) :
    (p.join ⟨name⟩).isEmpty = false := by
  obtain ⟨back, hback⟩ := toList_join (p := p) h
  rw [isEmpty, Bool.eq_false_iff]
  intro hempty
  rw [String.isEmpty_iff.1 hempty] at hback
  exact toList_ne_nil hp (List.append_eq_nil_iff.1 hback.symm).1

theorem components_join (hp : p.isEmpty = false) (h : isName name) :
    (p.join ⟨name⟩).components = p.components ++ [.name name] := by
  obtain ⟨front, hne, hsegments, hfront⟩ := segments_join hp h
  obtain ⟨first, rest, rfl⟩ := List.exists_cons_of_ne_nil hne
  have hlast : [name].filterMap componentOf = [.name name] := by
    rw [List.filterMap_cons, componentOf_of_isName h]
    rfl
  have hstill : [""].filterMap componentOf = [] := rfl
  rw [components, components, hsegments, isAbsolute_join hp h]
  obtain hfront | hfront := hfront <;> rw [hfront]
  · simp only [List.cons_append, List.filterMap_append, hlast, List.append_assoc]
  · simp only [List.cons_append, List.filterMap_append, hlast, hstill, List.append_nil,
      List.append_assoc]

theorem components_foldl_join (hp : p.isEmpty = false) (h : names.all isName) :
    (names.foldl (fun p name => p.join ⟨name⟩) p).components =
      p.components ++ names.map .name := by
  induction names generalizing p with
  | nil => exact (List.append_nil _).symm
  | cons name rest ih =>
    obtain ⟨hname, hrest⟩ := Bool.and_eq_true_iff.1 h
    rw [List.foldl_cons, ih (isEmpty_join hp hname) hrest, components_join hp hname,
      List.append_assoc]
    rfl

theorem fileName?_foldl_join (hp : p.isEmpty = false) (h : names.all isName)
    (hlast : names.getLast? = some name) :
    (names.foldl (fun p name => p.join ⟨name⟩) p).fileName? = some name := by
  have hne : names ≠ [] := by
    rintro rfl
    nomatch hlast
  rw [fileName?, components_foldl_join hp h, List.getLast?_append_of_ne_nil _ (by simpa using hne),
    List.getLast?_map, hlast]
  rfl

theorem isAbsolute_of_segments {back : List String} (hp : p.isEmpty = false)
    (h : p.segments = "" :: back) : p.isAbsolute := by
  obtain ⟨first, back', hsplit, hfirst, -⟩ := List.map_eq_cons_iff.1 h
  obtain rfl : first = [] := String.ofList_injective hfirst
  have htext : ['/'].intercalate ([] :: back') = p.text.toList := by
    rw [← hsplit, List.intercalate_splitOn]
  cases back' with
  | nil => exact absurd htext.symm (toList_ne_nil hp)
  | cons a back' =>
    rw [isAbsolute, ← htext]
    rfl

theorem components_ne_nil (hp : p.isEmpty = false) : p.components ≠ [] := by
  intro hnil
  obtain ⟨first, back, hsegments⟩ := List.exists_cons_of_ne_nil p.segments_ne_nil
  rw [components, hsegments] at hnil
  obtain ⟨hstart, -⟩ := List.append_eq_nil_iff.1 hnil
  cases habsolute : p.isAbsolute with
  | true => simp [habsolute] at hstart
  | false =>
    have hfirst : first ≠ "" := by
      rintro rfl
      exact absurd (isAbsolute_of_segments hp hsegments) (Bool.eq_false_iff.1 habsolute)
    rw [habsolute, if_neg Bool.false_ne_true, componentOf, staysPut] at hstart
    split_ifs at hstart <;> simp_all

theorem eq_parent_or_name {c : Component} (h : c ∈ p.components.tail) :
    c = .parent ∨ ∃ s, c = .name s := by
  obtain ⟨first, back, hsegments⟩ := List.exists_cons_of_ne_nil p.segments_ne_nil
  rw [components, hsegments] at h
  have hback : c ∈ back.filterMap componentOf := by
    obtain ⟨start, hstart⟩ : ∃ start : Option Component,
      c ∈ (start.toList ++ back.filterMap componentOf).tail := ⟨_, h⟩
    cases start with
    | none => exact List.mem_of_mem_tail hstart
    | some start => exact hstart
  obtain ⟨s, -, hs⟩ := List.mem_filterMap.1 hback
  exact (componentOf_eq_some hs).imp_right fun hname => ⟨s, hname⟩

theorem eq_map_name (hp : p.isEmpty = false) (hq : q.components = p.components ++ rest)
    (hup : .parent ∉ rest) : ∃ names : List String, rest = names.map .name := by
  have hrest : ∀ c ∈ rest, c ∈ q.components.tail := by
    intro c hc
    rw [hq, List.tail_append_of_ne_nil (components_ne_nil hp)]
    exact List.mem_append_right _ hc
  have hnames : ∀ c ∈ rest, ∃ s, Component.name s = c := by
    intro c hc
    obtain rfl | ⟨s, rfl⟩ := eq_parent_or_name (hrest c hc)
    · exact absurd hc hup
    · exact ⟨s, rfl⟩
  obtain ⟨names, hnames⟩ : rest ∈ Set.range (List.map Component.name) := by
    rw [Set.range_list_map]
    exact hnames
  exact ⟨names, hnames.symm⟩

theorem foldl_move_names (l : Location) (names : List String) :
    (names.map Component.name).foldl Component.move l = l ++ names := by
  induction names generalizing l with
  | nil => exact (List.append_nil l).symm
  | cons name rest ih =>
    rw [List.map_cons, List.foldl_cons, ih, Component.move, List.append_assoc]
    rfl

end Path

/-- No name can be taken for anything else in a path. -/
def FileTree.HasNames (t : FileTree) : Prop := ∀ e ∈ t.entries, e.1.all Path.isName

theorem FileTree.HasNames.all_right {t : FileTree} {d names : Location} (h : t.HasNames)
    (hfile : t.isFile (d ++ names)) : names.all Path.isName := by
  obtain ⟨e, he⟩ := FileTree.exists_entry_of_isFile hfile
  have hall := h _ he
  rw [List.all_append, Bool.and_eq_true] at hall
  exact hall.2

namespace FileSystem

variable {fs : FileSystem} {p q : Path} {d e : Location} {name : String} {names : List String}

theorem locate_join (hd : fs.locate p = some d) (hdirectory : fs.tree.isDirectory d)
    (hname : Path.isName name) (hpresent : fs.tree.isPresent (d ++ [name])) :
    fs.locate (p.join ⟨name⟩) = some (d ++ [name]) := by
  obtain ⟨hp, hfollow, -⟩ := locate_eq_some_iff.1 hd
  obtain ⟨front, -, hsegments, hfront⟩ := Path.segments_join hp hname
  have horigin : (p.join ⟨name⟩).origin fs.working = p.origin fs.working := by
    rw [Path.origin, Path.isAbsolute_join hp hname, Path.origin]
  have hstart : fs.tree.follow (p.origin fs.working) front = some d := by
    rcases hfront with hfront | hfront
    · rw [← hfront, hfollow]
    · rw [hfront, FileTree.follow_append] at hfollow
      obtain ⟨l, hl, hstay⟩ := Option.bind_eq_some_iff.1 hfollow
      obtain rfl : l = d := (FileTree.follow_eq_some_iff.1 hstay).1
      exact hl
  refine locate_eq_some_iff.2 ⟨Path.isEmpty_join hp hname, ?_, hpresent⟩
  rw [horigin, hsegments, FileTree.follow_append, hstart, Option.bind_some, FileTree.follow_cons,
    if_pos hdirectory, Path.move_of_isName hname]
  rfl

/-- The path by which a walk finds a file leads to it. -/
theorem locate_foldl_join (ht : fs.tree.IsPlain) (hd : fs.locate p = some d)
    (hfile : fs.tree.isFile (d ++ names)) :
    fs.locate (names.foldl (fun p name => p.join ⟨name⟩) p) = some (d ++ names) := by
  induction names generalizing p d with
  | nil => rwa [List.append_nil]
  | cons name rest ih =>
    have hnames := FileTree.HasNames.all_right ht.names hfile
    rw [List.all_cons, Bool.and_eq_true] at hnames
    have hmove : d ++ name :: rest = (d ++ [name]) ++ rest := by simp
    have hdirectory : fs.tree.isDirectory d :=
      (ht.isDirectory_iff_ne hfile (List.prefix_append ..)).2 (by simp)
    rw [hmove] at hfile ⊢
    have hpresent := ht.isPresent_of_prefix hfile (List.prefix_append ..)
    exact ih (locate_join hd hdirectory hnames.1 hpresent) hfile

theorem locate_append_names (hd : fs.locate p = some d) (he : fs.locate q = some e)
    (hq : q.components = p.components ++ names.map .name) : e = d ++ names := by
  have hne : p.components ≠ [] := Path.components_ne_nil (locate_eq_some_iff.1 hd).1
  have habsolute : q.isAbsolute = p.isAbsolute :=
    Path.isAbsolute_congr (by rw [hq, List.head?_append_of_ne_nil _ hne])
  calc e = q.place fs.working := (FileSystem.place_of_locate he).symm
    _ = (names.map Path.Component.name).foldl Path.Component.move (p.place fs.working) := by
      rw [Path.place_eq_components, Path.place_eq_components, hq, List.foldl_append, Path.origin,
        habsolute, Path.origin]
    _ = p.place fs.working ++ names := Path.foldl_move_names _ names
    _ = d ++ names := by rw [FileSystem.place_of_locate hd]

theorem components_walked (ht : fs.tree.HasNames) (hd : fs.locate p = some d)
    (hfile : fs.tree.isFile (d ++ names)) :
    (names.foldl (fun p name => p.join ⟨name⟩) p).components =
      p.components ++ names.map .name :=
  Path.components_foldl_join (locate_eq_some_iff.1 hd).1 (ht.all_right hfile)

theorem mem_filesBelow : q ∈ fs.filesBelow p ↔
    ∃ d names, fs.locate p = some d ∧ names ≠ [] ∧ fs.tree.isFile (d ++ names) ∧
      names.foldl (fun p name => p.join ⟨name⟩) p = q := by
  rw [filesBelow]
  cases fs.locate p with
  | none => simp
  | some d =>
    simp only [FileTree.filesBelow, List.mem_map, List.mem_filter, Bool.and_eq_true]
    constructor
    · rintro ⟨names, ⟨e, ⟨-, hbelow, hfile⟩, rfl⟩, rfl⟩
      obtain ⟨⟨names, hl⟩, hne⟩ := FileTree.isBelow_iff.1 hbelow
      rw [← hl] at hfile hne ⊢
      rw [List.drop_left]
      exact ⟨d, names, rfl, by simpa using hne, hfile, rfl⟩
    · rintro ⟨d, names, ⟨⟩, hne, hfile, rfl⟩
      obtain ⟨e, he⟩ := FileTree.exists_entry_of_isFile hfile
      refine ⟨names, ⟨_, ⟨he, FileTree.isBelow_iff.2 ⟨List.prefix_append .., ?_⟩, hfile⟩, ?_⟩, rfl⟩
      · simpa using hne
      · rw [List.drop_left]

end FileSystem

end UtilityCss
