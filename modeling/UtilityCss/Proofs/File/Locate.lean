import UtilityCss.File.System

/-!
Where paths lead. The segments of a path alone say at which place it ends, and the directories on
the way say whether it gets there. Two paths of the same components end at the same place, and a
path gets to the same file in two trees unless it steps up out of a directory that only one of them
has.
-/
namespace UtilityCss

namespace Path

variable {l : Location} {p : Path}

def move (l : Location) (segment : String) : Location :=
  if staysPut segment then l else if segment = ".." then l.dropLast else l ++ [segment]

def Component.move (l : Location) : Component → Location
  | .root | .current => l
  | .parent => l.dropLast
  | .name s => l ++ [s]

def origin (working : Location) (p : Path) : Location := if p.isAbsolute then [] else working

def place (working : Location) (p : Path) : Location := p.segments.foldl move (p.origin working)

def isName (s : String) : Bool := !staysPut s && s ≠ ".." && !s.toList.contains '/'

theorem move_of_isName {s : String} (h : isName s) : move l s = l ++ [s] := by
  simp only [isName, Bool.and_eq_true, Bool.not_eq_true', decide_eq_true_eq] at h
  rw [move, h.1.1, if_neg Bool.false_ne_true, if_neg h.1.2]

theorem componentOf_of_isName {s : String} (h : isName s) : componentOf s = some (.name s) := by
  simp only [isName, Bool.and_eq_true, Bool.not_eq_true', decide_eq_true_eq] at h
  rw [componentOf, h.1.1, if_neg Bool.false_ne_true, if_neg h.1.2]

theorem componentOf_eq_some {s : String} {c : Component} (h : componentOf s = some c) :
    c = .parent ∨ c = .name s := by
  rw [componentOf] at h
  split at h
  · nomatch h
  split at h
  · exact .inl (Option.some.inj h).symm
  · exact .inr (Option.some.inj h).symm

theorem prefix_move {s : String} (h : s ≠ "..") : l <+: move l s := by
  rw [move, if_neg h]
  split
  · exact List.prefix_refl l
  · exact List.prefix_append l [s]

theorem move_eq_componentOf (l : Location) (s : String) :
    move l s = (componentOf s).elim l (Component.move l) := by
  rw [move, componentOf]
  split
  · rfl
  · split
    · rfl
    · rfl

theorem foldl_filterMap_componentOf (segments : List String) (l : Location) :
    (segments.filterMap componentOf).foldl Component.move l = segments.foldl move l := by
  rw [List.foldl_filterMap]
  congr 1
  funext l s
  rw [move_eq_componentOf]
  cases componentOf s <;> rfl

theorem head_segments_of_isAbsolute (h : p.isAbsolute) : ∃ rest, p.segments = "" :: rest := by
  obtain ⟨back, hback⟩ := List.head?_eq_some_iff.1 (of_decide_eq_true h)
  rw [segments, hback, ← List.nil_append ('/' :: back), List.splitOn_append_cons_self,
    List.splitOn_nil]
  exact ⟨_, rfl⟩

theorem segments_ne_nil (p : Path) : p.segments ≠ [] := by
  rw [segments, ne_eq, List.map_eq_nil_iff]
  exact List.splitOn_ne_nil '/' p.text.toList

theorem head?_components : p.components.head? = some .root ↔ p.isAbsolute := by
  have hnot : ∀ s, componentOf s ≠ some .root := by
    intro s hs
    obtain hup | hname := componentOf_eq_some hs
    · nomatch hup
    · nomatch hname
  have hrest : ∀ rest : List String, (rest.filterMap componentOf).head? ≠ some .root := by
    intro rest h
    obtain ⟨s, -, hs⟩ := List.mem_filterMap.1 (List.mem_of_head? h)
    exact hnot s hs
  rw [components]
  cases hsegments : p.segments with
  | nil => exact absurd hsegments p.segments_ne_nil
  | cons first rest =>
    cases habsolute : p.isAbsolute with
    | true => simp
    | false =>
      simp only [Bool.false_eq_true, if_false, iff_false]
      split
      · simp
      · cases hfirst : componentOf first with
        | none => simpa using hrest rest
        | some c => simpa [hfirst] using hnot first

theorem isAbsolute_congr {q : Path} (h : p.components.head? = q.components.head?) :
    p.isAbsolute = q.isAbsolute := by
  rw [Bool.eq_iff_iff, ← head?_components, ← head?_components, h]

theorem place_eq_components (working : Location) (p : Path) :
    p.place working = p.components.foldl Component.move (p.origin working) := by
  rw [place, components]
  cases hsegments : p.segments with
  | nil => rfl
  | cons first rest =>
    rw [List.foldl_cons, List.foldl_append, foldl_filterMap_componentOf]
    congr 1
    cases habsolute : p.isAbsolute with
    | true =>
      obtain ⟨back, hback⟩ := head_segments_of_isAbsolute habsolute
      obtain rfl := (List.cons.inj (hsegments.symm.trans hback)).1
      rfl
    | false =>
      rw [if_neg Bool.false_ne_true, move_eq_componentOf]
      split
      · next hcurrent =>
        subst hcurrent
        rfl
      · cases componentOf first <;> rfl

theorem place_of_same {q : Path} (working : Location) (h : p.same q) :
    p.place working = q.place working := by
  have hcomponents : p.components = q.components := of_decide_eq_true h
  have habsolute : p.isAbsolute = q.isAbsolute := isAbsolute_congr (hcomponents ▸ rfl)
  rw [place_eq_components, place_eq_components, hcomponents, origin, origin, habsolute]

end Path

namespace FileTree

variable {t u : FileTree} {l m : Location} {segments : List String}

theorem follow_cons (t : FileTree) (l : Location) (s : String) (rest : List String) :
    t.follow l (s :: rest) = if t.isDirectory l then t.follow (Path.move l s) rest else none := by
  rw [follow, Path.move]
  cases t.isDirectory l with
  | false => rfl
  | true =>
    simp only [Bool.not_true, Bool.false_eq_true, if_false, if_true]
    split
    · rfl
    · split <;> rfl

theorem follow_append (t : FileTree) (l : Location) (front back : List String) :
    t.follow l (front ++ back) = (t.follow l front).bind fun m => t.follow m back := by
  induction front generalizing l with
  | nil => rfl
  | cons s rest ih =>
    rw [List.cons_append, follow_cons, follow_cons]
    split
    · exact ih (Path.move l s)
    · rfl

def Passes (t : FileTree) (l : Location) (segments : List String) : Prop :=
  ∀ front s, front ++ [s] <+: segments → t.isDirectory (front.foldl Path.move l)

theorem passes_nil (t : FileTree) (l : Location) : t.Passes l [] := by
  intro front s hfront
  simp at hfront

theorem passes_cons {s : String} {rest : List String} :
    t.Passes l (s :: rest) ↔ t.isDirectory l ∧ t.Passes (Path.move l s) rest := by
  constructor
  · intro h
    refine ⟨h [] s ⟨rest, rfl⟩, ?_⟩
    intro front next hfront
    exact h (s :: front) next (List.cons_prefix_cons.2 ⟨rfl, hfront⟩)
  · rintro ⟨hl, hrest⟩ front next hfront
    cases front with
    | nil => exact hl
    | cons a front =>
      obtain ⟨rfl, hback⟩ := List.cons_prefix_cons.1 hfront
      exact hrest front next hback

theorem follow_eq_some_iff :
    t.follow l segments = some m ↔ segments.foldl Path.move l = m ∧ t.Passes l segments := by
  induction segments generalizing l with
  | nil => simp [follow, passes_nil]
  | cons s rest ih =>
    rw [follow_cons, passes_cons, List.foldl_cons]
    cases t.isDirectory l with
    | false => simp
    | true => simp [ih]

theorem isBelow_iff : isBelow l m ↔ l <+: m ∧ l ≠ m := by
  rw [isBelow, Bool.and_eq_true, List.isPrefixOf_iff_prefix, decide_eq_true_eq]
  constructor
  · rintro ⟨hpre, hlength⟩
    refine ⟨hpre, ?_⟩
    rintro rfl
    omega
  · rintro ⟨hpre, hne⟩
    refine ⟨hpre, ?_⟩
    have hle := hpre.length_le
    have hlength : l.length ≠ m.length := fun h => hne (hpre.eq_of_length h)
    omega

theorem isBelow_trans {n : Location} (h : isBelow l m) (h' : isBelow m n) : isBelow l n := by
  obtain ⟨hpre, hne⟩ := isBelow_iff.1 h
  obtain ⟨hpre', -⟩ := isBelow_iff.1 h'
  refine isBelow_iff.2 ⟨hpre.trans hpre', ?_⟩
  rintro rfl
  exact hne (hpre.eq_of_length_le hpre'.length_le)

theorem mem_entries_of_get? {e : FileEntry} (h : t.get? l = some e) : (l, e) ∈ t.entries := by
  obtain ⟨front, back, hentries, -⟩ := List.lookup_eq_some_iff.1 h
  rw [hentries]
  exact List.mem_append_right front (List.mem_cons_self ..)

theorem exists_entry_of_isFile (h : t.isFile l) : ∃ e, (l, e) ∈ t.entries := by
  cases hget : t.get? l with
  | none => simp [isFile, hget] at h
  | some e => exact ⟨e, mem_entries_of_get? hget⟩

theorem isFile_of_text? {s : String} (h : t.text? l = some s) : t.isFile l := by
  unfold text? at h
  split at h
  · next hget => simp [isFile, hget]
  · nomatch h

theorem isDirectory_of_isFile (h : t.isFile l) : t.isDirectory l = false := by
  unfold isFile at h
  split at h
  · next hget => simp [isDirectory, hget]
  · next hget => simp [isDirectory, hget]
  · nomatch h

/-- Files are texts and have nothing below them, and no name can be taken for anything else in a
path. -/
structure IsPlain (t : FileTree) : Prop where
  names : ∀ e ∈ t.entries, e.1.all Path.isName
  texts : ∀ e ∈ t.entries, t.isFile e.1 → (t.text? e.1).isSome
  leaves : ∀ e ∈ t.entries, t.isFile e.1 → ∀ e' ∈ t.entries, isBelow e.1 e'.1 = false

namespace IsPlain

theorem isSome_text? (h : t.IsPlain) : (t.text? l).isSome = t.isFile l := by
  rw [Bool.eq_iff_iff]
  constructor
  · intro htext
    obtain ⟨s, hs⟩ := Option.isSome_iff_exists.1 htext
    exact isFile_of_text? hs
  · intro hfile
    obtain ⟨e, he⟩ := exists_entry_of_isFile hfile
    exact h.texts _ he hfile

theorem isDirectory_of_entry (h : t.IsPlain) {e : Location × FileEntry} (he : e ∈ t.entries)
    (hbelow : isBelow l e.1) : t.isDirectory l := by
  have hnot : t.isFile l = false := by
    rw [Bool.eq_false_iff]
    intro hl
    obtain ⟨e', he'⟩ := exists_entry_of_isFile hl
    rw [h.leaves _ he' hl _ he] at hbelow
    nomatch hbelow
  unfold isFile at hnot
  unfold isDirectory
  cases hget : t.get? l with
  | none => exact Bool.or_eq_true_iff.2 (.inr (List.any_eq_true.2 ⟨e, he, hbelow⟩))
  | some entry =>
    cases entry with
    | text s => simp [hget] at hnot
    | binary bytes => simp [hget] at hnot
    | directory => rfl

theorem isDirectory_of_prefix (h : t.IsPlain) (hm : t.isDirectory m) (hpre : l <+: m) :
    t.isDirectory l := by
  by_cases hlm : l = m
  · exact hlm ▸ hm
  have hbelow : isBelow l m := isBelow_iff.2 ⟨hpre, hlm⟩
  unfold isDirectory at hm
  split at hm
  · next hget => exact h.isDirectory_of_entry (mem_entries_of_get? hget) hbelow
  · nomatch hm
  · rcases Bool.or_eq_true_iff.1 hm with hroot | hany
    · obtain rfl := List.isEmpty_iff.1 hroot
      exact absurd (List.prefix_nil.1 hpre) hlm
    · obtain ⟨e, he, hme⟩ := List.any_eq_true.1 hany
      exact h.isDirectory_of_entry he (isBelow_trans hbelow hme)

theorem isDirectory_iff_ne (h : t.IsPlain) (hfile : t.isFile m) (hpre : l <+: m) :
    t.isDirectory l ↔ l ≠ m := by
  constructor
  · rintro hl rfl
    rw [isDirectory_of_isFile hfile] at hl
    nomatch hl
  · intro hne
    obtain ⟨e, he⟩ := exists_entry_of_isFile hfile
    exact h.isDirectory_of_entry he (isBelow_iff.2 ⟨hpre, hne⟩)

theorem isPresent_of_prefix (h : t.IsPlain) (hfile : t.isFile m) (hpre : l <+: m) :
    t.isPresent l := by
  rw [isPresent, Bool.or_eq_true]
  by_cases hlm : l = m
  · exact .inl (hlm ▸ hfile)
  · exact .inr ((h.isDirectory_iff_ne hfile hpre).2 hlm)

end IsPlain

/-- A walk that gets to a directory above a file, or to the file, does so in every tree that has the
file and the directories out of which the walk steps up. -/
theorem Passes.transfer (ht : t.IsPlain) (hu : u.IsPlain) (h : t.Passes l segments)
    (hup : ∀ front, front ++ [".."] <+: segments → t.isDirectory (front.foldl Path.move l) →
      u.isDirectory (front.foldl Path.move l))
    (hend : segments.foldl Path.move l <+: m) (htm : t.isFile m) (hum : u.isFile m) :
    u.Passes l segments := by
  induction segments generalizing l with
  | nil => exact passes_nil u l
  | cons s rest ih =>
    obtain ⟨hl, hrest⟩ := passes_cons.1 h
    have hpasses : u.Passes (Path.move l s) rest := by
      apply ih hrest _ hend
      intro front hfront
      exact hup (s :: front) (List.cons_prefix_cons.2 ⟨rfl, hfront⟩)
    refine passes_cons.2 ⟨?_, hpasses⟩
    by_cases hs : s = ".."
    · exact hup [] (hs ▸ List.prefix_append [s] rest) hl
    -- A step that is not up goes deeper, so what comes next tells about the directory.
    have hmove : l <+: Path.move l s := Path.prefix_move hs
    cases rest with
    | nil =>
      have hpre : l <+: m := hmove.trans hend
      exact (hu.isDirectory_iff_ne hum hpre).2 ((ht.isDirectory_iff_ne htm hpre).1 hl)
    | cons next rest => exact hu.isDirectory_of_prefix (passes_cons.1 hpasses).1 hmove

/-- The directories out of which the path steps up are there in both trees or in neither. -/
def Steady (t u : FileTree) (working : Location) (p : Path) : Prop :=
  ∀ front, front ++ [".."] <+: p.segments →
    t.isDirectory (front.foldl Path.move (p.origin working)) =
      u.isDirectory (front.foldl Path.move (p.origin working))

theorem Steady.symm {working : Location} {p : Path} (h : t.Steady u working p) :
    u.Steady t working p :=
  fun front hfront => (h front hfront).symm

theorem steady_of_notMem {working : Location} {p : Path} (h : ".." ∉ p.segments) :
    t.Steady u working p := by
  intro front hfront
  exact absurd (hfront.subset (List.mem_append_right front (List.mem_singleton_self _))) h

end FileTree

namespace FileSystem

variable {t u : FileTree} {working l m : Location} {p : Path}

theorem locate_eq_some_iff {fs : FileSystem} : fs.locate p = some l ↔
    p.isEmpty = false ∧ fs.tree.follow (p.origin fs.working) p.segments = some l ∧
      fs.tree.isPresent l := by
  have hstart : fs.start p = p.origin fs.working := rfl
  rw [locate, hstart]
  cases p.isEmpty with
  | true => simp
  | false => simp [Option.filter_eq_some_iff]

theorem place_of_locate {fs : FileSystem} (h : fs.locate p = some l) :
    p.place fs.working = l :=
  (FileTree.follow_eq_some_iff.1 (locate_eq_some_iff.1 h).2.1).1

/-- What leads to a file, or to a directory above it, does so in every tree that has the file. -/
theorem locate_transfer (ht : t.IsPlain) (hu : u.IsPlain) (hsteady : t.Steady u working p)
    (h : (FileSystem.mk t working).locate p = some l) (hpre : l <+: m) (htm : t.isFile m)
    (hum : u.isFile m) : (FileSystem.mk u working).locate p = some l := by
  obtain ⟨hne, hfollow, -⟩ := locate_eq_some_iff.1 h
  obtain ⟨hend, hpasses⟩ := FileTree.follow_eq_some_iff.1 hfollow
  have hup : ∀ front, front ++ [".."] <+: p.segments →
      t.isDirectory (front.foldl Path.move (p.origin working)) →
        u.isDirectory (front.foldl Path.move (p.origin working)) :=
    fun front hfront hdirectory => (hsteady front hfront).symm.trans hdirectory
  have hpasses' : u.Passes (p.origin working) p.segments :=
    hpasses.transfer ht hu hup (hend ▸ hpre) htm hum
  exact locate_eq_some_iff.2 ⟨hne, FileTree.follow_eq_some_iff.2 ⟨hend, hpasses'⟩,
    hu.isPresent_of_prefix hum hpre⟩

theorem read_eq_some_iff {fs : FileSystem} {s : String} :
    fs.read p = some s ↔ ∃ l, fs.locate p = some l ∧ fs.tree.text? l = some s := by
  rw [read, Option.bind_eq_some_iff]

theorem isFile_eq_isSome_read {fs : FileSystem} (h : fs.tree.IsPlain) :
    fs.isFile p = (fs.read p).isSome := by
  rw [isFile, read]
  cases fs.locate p with
  | none => rfl
  | some l => exact h.isSome_text?.symm

theorem read_transfer {s : String} (ht : t.IsPlain) (hu : u.IsPlain)
    (hsteady : t.Steady u working p) (h : (FileSystem.mk t working).read p = some s)
    (hs : u.text? (p.place working) = some s) : (FileSystem.mk u working).read p = some s := by
  obtain ⟨l, hl, htext⟩ := read_eq_some_iff.1 h
  obtain rfl := place_of_locate hl
  have hl' := locate_transfer ht hu hsteady hl (List.prefix_refl _) (FileTree.isFile_of_text? htext)
    (FileTree.isFile_of_text? hs)
  exact read_eq_some_iff.2 ⟨_, hl', hs⟩

end FileSystem

end UtilityCss
