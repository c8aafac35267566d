import UtilityCss.Proofs.File.Locate

/-!
What changes in a file tree. Making directories leaves all files as they are, and writing a file
leaves all others; the text that has been written is what is read at the same path.
-/
namespace UtilityCss

theorem Path.isEmpty_of_segments {p : Path} {front : List String} {name : String}
    (h : p.segments = front ++ [name]) (hne : name ≠ "") : p.isEmpty = false := by
  rw [Bool.eq_false_iff]
  intro hempty
  have hone : p.segments = [""] := by
    rw [segments, String.isEmpty_iff.1 hempty]
    rfl
  have hlast := congrArg List.getLast? (h.symm.trans hone)
  rw [List.getLast?_concat] at hlast
  exact hne (Option.some.inj hlast)

namespace FileTree

variable {t u v : FileTree} {l m : Location} {e : FileEntry} {segments : List String}

def file? (t : FileTree) (l : Location) : Option FileEntry := (t.get? l).filter (· ≠ .directory)

theorem isFile_eq_isSome_file? (t : FileTree) (l : Location) : t.isFile l = (t.file? l).isSome := by
  unfold isFile file?
  cases t.get? l with
  | none => rfl
  | some e => cases e <;> rfl

theorem get?_put (t : FileTree) (l : Location) (e : FileEntry) (m : Location) :
    (t.put l e).get? m = if m = l then some e else t.get? m := by
  unfold get? put
  induction t.entries with
  | nil =>
    by_cases h : m = l
    · simp [putEntry, h]
    · simp [putEntry, List.lookup_cons, h, beq_false_of_ne h]
  | cons first rest ih =>
    obtain ⟨k, d⟩ := first
    simp only at ih
    by_cases hk : k = l
    · subst hk
      by_cases hm : m = k
      · simp [putEntry, hm]
      · simp [putEntry, List.lookup_cons, hm, beq_false_of_ne hm]
    · by_cases hm : m = k
      · subst hm
        simp [putEntry, hk]
      · simp [putEntry, List.lookup_cons, hk, beq_false_of_ne hm, ih]

theorem file?_put_of_ne (e : FileEntry) (h : m ≠ l) : (t.put l e).file? m = t.file? m := by
  rw [file?, file?, get?_put, if_neg h]

theorem exists_mem_putEntry {entries : List (Location × FileEntry)} {d : FileEntry}
    (h : (m, d) ∈ entries) : ∃ d', (m, d') ∈ putEntry l e entries := by
  induction entries with
  | nil => nomatch h
  | cons first rest ih =>
    obtain ⟨k, c⟩ := first
    simp only [putEntry]
    obtain hfirst | hrest := List.mem_cons.1 h
    · cases hfirst
      split
      · next hml => exact ⟨e, hml ▸ List.mem_cons_self⟩
      · exact ⟨d, List.mem_cons_self⟩
    · split
      · exact ⟨d, List.mem_cons_of_mem _ hrest⟩
      · obtain ⟨d', hd'⟩ := ih hrest
        exact ⟨d', List.mem_cons_of_mem _ hd'⟩

theorem isDirectory_put (h : m = l → e = .directory) (hm : t.isDirectory m) :
    (t.put l e).isDirectory m := by
  rw [isDirectory, get?_put]
  rw [isDirectory] at hm
  by_cases hml : m = l
  · rw [if_pos hml, h hml]
  · rw [if_neg hml]
    cases hget : t.get? m with
    | some d =>
      rw [hget] at hm
      cases d with
      | directory => rfl
      | text | binary => cases hm
    | none =>
      simp only [hget, Bool.or_eq_true] at hm ⊢
      refine hm.imp_right fun hany => ?_
      obtain ⟨⟨k, d⟩, hk, hbelow⟩ := List.any_eq_true.1 hany
      obtain ⟨d', hd'⟩ := exists_mem_putEntry hk
      exact List.any_eq_true.2 ⟨(k, d'), hd', hbelow⟩

/-- All files but those that are written hold what they held, and no directory is lost. -/
structure Keeps (written : List Location) (t u : FileTree) : Prop where
  file? : ∀ m, m ∉ written → u.file? m = t.file? m
  isDirectory : ∀ m, t.isDirectory m → u.isDirectory m

theorem Keeps.refl (written : List Location) (t : FileTree) : t.Keeps written t :=
  ⟨fun _ _ => rfl, fun _ h => h⟩

theorem Keeps.trans {first second : List Location} (h : Keeps first t u) (h' : Keeps second u v) :
    Keeps (first ++ second) t v where
  file? m hm := by
    obtain ⟨hfirst, hsecond⟩ := not_or.1 (mt List.mem_append.2 hm)
    rw [h'.file? m hsecond, h.file? m hfirst]
  isDirectory m hm := h'.isDirectory m (h.isDirectory m hm)

theorem keeps_put_directory (h : t.isFile l = false) : Keeps [] t (t.put l .directory) where
  file? m _ := by
    by_cases hml : m = l
    · have hnone : t.file? m = none := by
        rw [hml, ← Option.not_isSome_iff_eq_none, ← isFile_eq_isSome_file?, h]
        nofun
      rw [hnone, file?, get?_put, if_pos hml]
      rfl
    · exact file?_put_of_ne _ hml
  isDirectory _ := isDirectory_put fun _ => rfl

theorem keeps_put_text (s : String) (h : t.isDirectory l = false) :
    Keeps [l] t (t.put l (.text s)) where
  file? m hm := file?_put_of_ne _ (mt List.mem_singleton.2 hm)
  isDirectory m hm := isDirectory_put (fun hml => by rw [hml, h] at hm; nomatch hm) hm

theorem keeps_makeDirectories (t : FileTree) (l : Location) (segments : List String) :
    Keeps [] t (t.makeDirectories l segments).1 := by
  induction segments generalizing t l with
  | nil => exact .refl [] t
  | cons s rest ih =>
    rw [makeDirectories]
    split
    · exact ih t l
    · split
      · exact ih t l.dropLast
      · dsimp only
        split
        · exact .refl [] t
        · next hfile =>
          split
          · exact ih t _
          · split
            · exact .refl [] t
            · exact (keeps_put_directory (Bool.eq_false_iff.2 hfile)).trans (ih _ _)

theorem Passes.mono (h : ∀ m, t.isDirectory m → u.isDirectory m) (ht : t.Passes l segments) :
    u.Passes l segments :=
  fun front s hfront => h _ (ht front s hfront)

end FileTree

namespace FileSystem

variable {fs gs : FileSystem} {p : Path} {l : Location} {text : String}

theorem keeps_afterMaking (fs : FileSystem) (p : Path) :
    fs.tree.Keeps [] (fs.afterMaking p).tree := by
  rw [afterMaking]
  split
  · exact FileTree.keeps_makeDirectories ..
  · exact .refl [] fs.tree

theorem working_afterMaking (fs : FileSystem) (p : Path) :
    (fs.afterMaking p).working = fs.working := by
  rw [afterMaking]
  split <;> rfl

theorem eq_afterMaking (h : fs.makeDirectory p = some gs) : gs = fs.afterMaking p := by
  rw [makeDirectory] at h
  split at h
  · exact (Option.some.inj h).symm
  · nomatch h

theorem locateNew_eq_some (h : fs.locateNew p = some l) :
    ∃ front name directory, p.segments = front ++ [name] ∧ name ≠ "" ∧
      Path.move directory name = directory ++ [name] ∧
      fs.tree.follow (fs.start p) front = some directory ∧
      fs.tree.isDirectory directory ∧ fs.tree.isDirectory l = false ∧ l = directory ++ [name] := by
  unfold locateNew at h
  split at h
  · nomatch h
  · next name hname =>
    split at h
    · nomatch h
    · next hproper =>
      split at h
      · nomatch h
      · next directory hfollow =>
        dsimp only at h
        split at h
        · next hplace =>
          obtain rfl := Option.some.inj h
          obtain ⟨hdirectory, hfree⟩ := Bool.and_eq_true_iff.1 hplace
          simp only [Bool.or_eq_true, not_or, decide_eq_true_eq] at hproper
          obtain ⟨⟨hstays, hup⟩, -⟩ := hproper
          have hmove : Path.move directory name = directory ++ [name] := by
            rw [Path.move, if_neg hstays, if_neg hup]
          have hne : name ≠ "" := by
            rintro rfl
            exact hstays rfl
          obtain ⟨front, hsegments⟩ := List.getLast?_eq_some_iff.1 hname
          rw [hsegments, List.dropLast_concat] at hfollow
          exact ⟨front, name, directory, hsegments, hne, hmove, hfollow, hdirectory,
            Bool.not_eq_eq_eq_not.1 hfree, rfl⟩
        · nomatch h

theorem exists_of_write_eq_some (h : fs.write p text = some gs) :
    ∃ l, fs.locateNew p = some l ∧ gs = { fs with tree := fs.tree.put l (.text text) } := by
  rw [write] at h
  split at h
  · obtain ⟨l, hl, rfl⟩ := Option.map_eq_some_iff.1 h
    exact ⟨l, hl, rfl⟩
  · nomatch h

/-- What has been written can be read, and nothing else has changed. -/
theorem exists_of_write (h : fs.write p text = some gs) :
    ∃ l, gs.locate p = some l ∧ gs.read p = some text ∧ gs.working = fs.working ∧
      fs.tree.Keeps [l] gs.tree := by
  obtain ⟨l, hnew, rfl⟩ := exists_of_write_eq_some h
  obtain ⟨front, name, directory, hsegments, hne, hmove, hfollow, hdirectory, hfree, rfl⟩ :=
    locateNew_eq_some hnew
  have hkeeps := FileTree.keeps_put_text text hfree
  have htext : (fs.tree.put (directory ++ [name]) (.text text)).text? (directory ++ [name]) =
      some text := by
    rw [FileTree.text?, FileTree.get?_put, if_pos rfl]
  generalize fs.tree.put (directory ++ [name]) (.text text) = u at hkeeps htext ⊢
  have hend : u.follow (p.origin fs.working) p.segments = some (directory ++ [name]) := by
    obtain ⟨hplace, hpasses⟩ := FileTree.follow_eq_some_iff.1 hfollow
    have hto : u.follow (p.origin fs.working) front = some directory :=
      FileTree.follow_eq_some_iff.2 ⟨hplace, hpasses.mono hkeeps.isDirectory⟩
    rw [hsegments, FileTree.follow_append, hto, Option.bind_some, FileTree.follow_cons,
      if_pos (hkeeps.isDirectory directory hdirectory), hmove]
    rfl
  have hpresent : u.isPresent (directory ++ [name]) := by
    rw [FileTree.isPresent, FileTree.isFile_of_text? htext, Bool.true_or]
  have hlocate : FileSystem.locate ⟨u, fs.working⟩ p = some (directory ++ [name]) :=
    locate_eq_some_iff.2 ⟨Path.isEmpty_of_segments hsegments hne, hend, hpresent⟩
  exact ⟨_, hlocate, read_eq_some_iff.2 ⟨_, hlocate, htext⟩, rfl, hkeeps⟩

end FileSystem

end UtilityCss
