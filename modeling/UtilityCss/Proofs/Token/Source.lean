import UtilityCss.Proofs.Except
import UtilityCss.Token.Sources

/-!
What the sources of a registry come to, each taken by itself: the viewports, and one group. Either
of them is there, or something is wrong with its file.
-/
namespace UtilityCss.Token

open Theme (Registry TokenGroup)

def Holds {α : Type} (fs : FileSystem) (decode : String → Option α) (file : Path) (a : α) : Prop :=
  ∃ text, fs.read file = some text ∧ decode text = some a

inductive Fails {α : Type} (fs : FileSystem) (decode : String → Option α) (file : Path) :
    LoadError → Prop
  | unreadable (h : fs.read file = none) : Fails fs decode file (.unreadable file)
  | invalid {text : String} (h : fs.read file = some text) (hdecode : decode text = none) :
    Fails fs decode file (.invalid file)

def Item.HasBounds (i : Item) : Prop := i.min.isSome ∧ i.max.isSome

instance (i : Item) : Decidable i.HasBounds := inferInstanceAs (Decidable (_ ∧ _))

namespace Sources

def pathOf (s : Sources) (g : GroupSource) : Path := s.directory.join g.file

def present (fs : FileSystem) (s : Sources) : List GroupSource :=
  s.groups.filter fun g => fs.isFile (s.pathOf g)

inductive HasViewports (fs : FileSystem) (s : Sources) : Viewports → Prop
  | unset (h : s.viewports = none) : HasViewports fs s .default
  | missing {file : Path} (h : s.viewports = some file)
    (hfile : fs.isFile (s.directory.join file) = false) : HasViewports fs s .default
  | given {file : Path} {v : Viewports} (h : s.viewports = some file)
    (hfile : fs.isFile (s.directory.join file))
    (hv : Holds fs Viewports.ofJson? (s.directory.join file) v) (hwider : ¬ v.max ≤ v.min) :
    HasViewports fs s v

inductive LacksViewports (fs : FileSystem) (s : Sources) : LoadError → Prop
  | broken {file : Path} {e : LoadError} (h : s.viewports = some file)
    (hfile : fs.isFile (s.directory.join file))
    (he : Fails fs Viewports.ofJson? (s.directory.join file) e) : LacksViewports fs s e
  | crossed {file : Path} {v : Viewports} (h : s.viewports = some file)
    (hfile : fs.isFile (s.directory.join file))
    (hv : Holds fs Viewports.ofJson? (s.directory.join file) v) (hcrossed : v.max ≤ v.min) :
    LacksViewports fs s (.fluid (.invalidViewports v.min v.max))

def IsReady (fs : FileSystem) (s : Sources) (g : GroupSource) : Prop :=
  ∃ file, Holds fs File.ofJson? (s.pathOf g) file ∧ (g.fluid → ∀ i ∈ file.items, i.HasBounds)

theorem isReady_iff {fs : FileSystem} {s : Sources} {g : GroupSource} : s.IsReady fs g ↔
    ∃ file ∈ (fs.read (s.pathOf g)).bind File.ofJson?, g.fluid → ∀ i ∈ file.items, i.HasBounds := by
  simp [IsReady, Holds, Option.bind_eq_some_iff]

instance (fs : FileSystem) (s : Sources) (g : GroupSource) : Decidable (s.IsReady fs g) :=
  decidable_of_iff _ isReady_iff.symm

/-- The group that a source stands for: the items of its file, with sizes made into values if it is
fluid. -/
def Gives (fs : FileSystem) (s : Sources) (g : GroupSource) (tokens : TokenGroup) : Prop :=
  ∃ file, Holds fs File.ofJson? (s.pathOf g) file ∧
    if g.fluid then ∃ v items, s.HasViewports fs v ∧ fluidItems file.items v = .ok items ∧
      tokens = groupOf items
    else tokens = groupOf file.items

/-- What is wrong with the file of a source. -/
inductive GoesWrong (fs : FileSystem) (s : Sources) (g : GroupSource) : LoadError → Prop
  | broken {e : LoadError} (hfile : fs.isFile (s.pathOf g))
    (he : Fails fs File.ofJson? (s.pathOf g) e) : GoesWrong fs s g e
  | unbounded {file : File} {front back : List Item} {item : Item}
    (hfile : fs.isFile (s.pathOf g)) (h : Holds fs File.ofJson? (s.pathOf g) file)
    (hfluid : g.fluid) (hitems : file.items = front ++ item :: back)
    (hfront : ∀ i ∈ front, i.HasBounds) (hitem : ¬ item.HasBounds) :
    GoesWrong fs s g (.fluid (.missingBounds item.name))

end Sources

variable {fs : FileSystem} {s : Sources} {g : GroupSource} {v : Viewports} {e : LoadError}

theorem readJson_eq_ok_iff {α : Type} {decode : String → Option α} {file : Path} {a : α} :
    readJson fs decode file = .ok a ↔ Holds fs decode file a := by
  unfold readJson Holds
  cases hread : fs.read file with
  | none => simp
  | some text => cases hdecode : decode text <;> simp [hdecode]

theorem readJson_eq_error_iff {α : Type} {decode : String → Option α} {file : Path} :
    readJson fs decode file = .error e ↔ Fails fs decode file e := by
  unfold readJson
  constructor
  · intro h
    split at h
    · next hread =>
      obtain rfl := Except.error.inj h
      exact .unreadable hread
    · next text hread =>
      split at h
      · nomatch h
      · next hdecode =>
        obtain rfl := Except.error.inj h
        exact .invalid hread hdecode
  · rintro (h | ⟨h, hdecode⟩)
    · rw [h]
    · simp only [h, hdecode]

theorem validate_eq_ok_iff : v.validate = .ok () ↔ ¬ v.max ≤ v.min := by
  simp [Viewports.validate]

theorem validate_eq_error_iff {cause : FluidError} :
    v.validate = .error cause ↔ v.max ≤ v.min ∧ cause = .invalidViewports v.min v.max := by
  unfold Viewports.validate
  split
  · next h => simp [h, eq_comm]
  · next h => simp [h]

theorem loadViewports_eq_ok_iff : loadViewports fs s = .ok v ↔ s.HasViewports fs v := by
  unfold loadViewports
  constructor
  · intro h
    split at h
    · next hunset =>
      obtain rfl := Except.ok.inj h
      exact .unset hunset
    · next file hset =>
      cases hfile : fs.isFile (s.directory.join file) with
      | false =>
        simp only [hfile] at h
        obtain rfl := Except.ok.inj h
        exact .missing hset hfile
      | true =>
        simp only [hfile] at h
        obtain ⟨w, hw, h⟩ := bind_eq_ok.1 h
        obtain ⟨_, hvalid, h⟩ := bind_eq_ok.1 h
        obtain rfl := Except.ok.inj h
        exact .given hset hfile (readJson_eq_ok_iff.1 hw)
          (validate_eq_ok_iff.1 (mapError_eq_ok.1 hvalid))
  · intro h
    cases h with
    | unset h => rw [h]
    | missing h hfile => simp [h, hfile]
    | given h hfile hv hwider =>
      have hvalid := mapError_eq_ok (f := LoadError.fluid).2 (validate_eq_ok_iff.2 hwider)
      simp [h, hfile, readJson_eq_ok_iff.2 hv, hvalid, ok_bind, pure, Except.pure]

theorem loadViewports_eq_error_iff : loadViewports fs s = .error e ↔ s.LacksViewports fs e := by
  unfold loadViewports
  constructor
  · intro h
    split at h
    · nomatch h
    · next file hset =>
      cases hfile : fs.isFile (s.directory.join file) with
      | false =>
        simp only [hfile] at h
        nomatch h
      | true =>
        simp only [hfile] at h
        obtain h | ⟨w, hw, h⟩ := bind_eq_error.1 h
        · exact .broken hset hfile (readJson_eq_error_iff.1 h)
        obtain h | ⟨_, -, h⟩ := bind_eq_error.1 h
        · obtain ⟨cause, hcause, rfl⟩ := mapError_eq_error.1 h
          obtain ⟨hcrossed, rfl⟩ := validate_eq_error_iff.1 hcause
          exact .crossed hset hfile (readJson_eq_ok_iff.1 hw) hcrossed
        · nomatch h
  · intro h
    cases h with
    | broken h hfile he => simp [h, hfile, readJson_eq_error_iff.2 he, bind, Except.bind]
    | crossed h hfile hv hcrossed =>
      have hvalid := mapError_eq_error (f := LoadError.fluid).2
        ⟨_, validate_eq_error_iff.2 ⟨hcrossed, rfl⟩, rfl⟩
      simp [h, hfile, readJson_eq_ok_iff.2 hv, hvalid, bind, Except.bind]

theorem Sources.HasViewports.unique {w : Viewports} (hv : s.HasViewports fs v)
    (hw : s.HasViewports fs w) : v = w :=
  Except.ok.inj ((loadViewports_eq_ok_iff.2 hv).symm.trans (loadViewports_eq_ok_iff.2 hw))

theorem Sources.HasViewports.not_le (h : s.HasViewports fs v) : ¬ v.max ≤ v.min := by
  cases h with
  | unset | missing => decide
  | given _ _ _ hwider => exact hwider

theorem fluid_eq_ok_iff {i : Item} : (∃ j, i.fluid v = .ok j) ↔ i.HasBounds := by
  unfold Item.fluid Item.HasBounds
  cases i.min <;> cases i.max <;> simp

theorem fluid_eq_error_iff {i : Item} {cause : FluidError} :
    i.fluid v = .error cause ↔ ¬ i.HasBounds ∧ cause = .missingBounds i.name := by
  unfold Item.fluid Item.HasBounds
  cases i.min <;> cases i.max <;> simp [eq_comm]

theorem exists_fluidItems_iff (hv : ¬ v.max ≤ v.min) {items : List Item} :
    (∃ sized, fluidItems items v = .ok sized) ↔ ∀ i ∈ items, i.HasBounds := by
  rw [fluidItems, validate_eq_ok_iff.2 hv, ok_bind, exists_mapM_iff]
  simp only [fluid_eq_ok_iff]

theorem fluidItems_eq_error_iff (hv : ¬ v.max ≤ v.min) {items : List Item} {cause : FluidError} :
    fluidItems items v = .error cause ↔ ∃ front i back, items = front ++ i :: back ∧
      (∀ x ∈ front, x.HasBounds) ∧ ¬ i.HasBounds ∧ cause = .missingBounds i.name := by
  rw [fluidItems, validate_eq_ok_iff.2 hv, ok_bind, mapM_eq_error_iff]
  simp only [fluid_eq_ok_iff, fluid_eq_error_iff]

theorem exists_gives_iff (hv : g.fluid → s.HasViewports fs v) :
    (∃ tokens, s.Gives fs g tokens) ↔ s.IsReady fs g := by
  constructor
  · rintro ⟨tokens, file, hfile, h⟩
    refine ⟨file, hfile, fun hfluid => ?_⟩
    rw [if_pos hfluid] at h
    obtain ⟨w, items, hw, hitems, -⟩ := h
    exact (exists_fluidItems_iff hw.not_le).1 ⟨items, hitems⟩
  · rintro ⟨file, hfile, hbounds⟩
    by_cases hfluid : g.fluid
    · obtain ⟨items, hitems⟩ := (exists_fluidItems_iff (hv hfluid).not_le).2 (hbounds hfluid)
      refine ⟨groupOf items, file, hfile, ?_⟩
      rw [if_pos hfluid]
      exact ⟨v, items, hv hfluid, hitems, rfl⟩
    · refine ⟨groupOf file.items, file, hfile, ?_⟩
      rw [if_neg hfluid]

theorem loadGroup_eq_ok_iff {tokens : TokenGroup} (hv : g.fluid → s.HasViewports fs v) :
    loadGroup fs (if g.fluid then some v else none) (s.pathOf g) = .ok tokens ↔
      s.Gives fs g tokens := by
  unfold loadGroup Sources.Gives
  by_cases hfluid : g.fluid
  · simp only [hfluid, if_true]
    constructor
    · intro h
      obtain ⟨file, hfile, h⟩ := bind_eq_ok.1 h
      obtain ⟨items, hitems, h⟩ := bind_eq_ok.1 h
      exact ⟨file, readJson_eq_ok_iff.1 hfile, v, items, hv hfluid, mapError_eq_ok.1 hitems,
        (Except.ok.inj h).symm⟩
    · rintro ⟨file, hfile, w, items, hw, hitems, rfl⟩
      obtain rfl := hw.unique (hv hfluid)
      rw [readJson_eq_ok_iff.2 hfile, ok_bind, mapError_eq_ok.2 hitems]
      rfl
  · simp only [hfluid]
    constructor
    · intro h
      obtain ⟨file, hfile, h⟩ := bind_eq_ok.1 h
      exact ⟨file, readJson_eq_ok_iff.1 hfile, (Except.ok.inj h).symm⟩
    · rintro ⟨file, hfile, rfl⟩
      rw [readJson_eq_ok_iff.2 hfile]
      rfl

theorem loadGroup_eq_error_iff (hv : g.fluid → s.HasViewports fs v)
    (hfile : fs.isFile (s.pathOf g)) :
    loadGroup fs (if g.fluid then some v else none) (s.pathOf g) = .error e ↔
      s.GoesWrong fs g e := by
  unfold loadGroup
  constructor
  · intro h
    obtain h | ⟨file, hholds, h⟩ := bind_eq_error.1 h
    · exact .broken hfile (readJson_eq_error_iff.1 h)
    by_cases hfluid : g.fluid
    · simp only [hfluid, if_true] at h
      obtain h | ⟨items, -, h⟩ := bind_eq_error.1 h
      · obtain ⟨cause, hcause, rfl⟩ := mapError_eq_error.1 h
        obtain ⟨front, i, back, hitems, hfront, hi, rfl⟩ :=
          (fluidItems_eq_error_iff (hv hfluid).not_le).1 hcause
        exact .unbounded hfile (readJson_eq_ok_iff.1 hholds) hfluid hitems hfront hi
      · nomatch h
    · simp only [hfluid] at h
      nomatch h
  · intro h
    cases h with
    | broken _ he =>
      rw [readJson_eq_error_iff.2 he]
      rfl
    | unbounded _ hholds hfluid hitems hfront hi =>
      have hcause := mapError_eq_error (f := LoadError.fluid).2
        ⟨_, (fluidItems_eq_error_iff (hv hfluid).not_le).2 ⟨_, _, _, hitems, hfront, hi, rfl⟩, rfl⟩
      simp only [hfluid, if_true]
      rw [readJson_eq_ok_iff.2 hholds, ok_bind, hcause]
      rfl

/-- A group is never the reason why viewports are rejected: those it gets are in order. -/
theorem loadGroup_ne_invalidViewports (hv : ¬ v.max ≤ v.min) (path : Path) (min max : Float) :
    loadGroup fs (some v) path ≠ .error (.fluid (.invalidViewports min max)) := by
  intro h
  obtain h | ⟨file, -, h⟩ := bind_eq_error.1 h
  · cases readJson_eq_error_iff.1 h
  obtain h | ⟨items, -, h⟩ := bind_eq_error.1 h
  · obtain ⟨cause, hcause, hsame⟩ := mapError_eq_error.1 h
    obtain ⟨front, i, back, -, -, -, rfl⟩ := (fluidItems_eq_error_iff hv).1 hcause
    nomatch hsame
  · nomatch h

theorem addSource_of_missing {r : Registry} (hfile : fs.isFile (s.pathOf g) = false) :
    addSource fs s.directory v r g = .ok r := by
  have hfile' : fs.isFile (s.directory.join g.file) = false := hfile
  simp [addSource, hfile']

theorem addSource_of_isFile {r : Registry} (hfile : fs.isFile (s.pathOf g)) :
    addSource fs s.directory v r g =
      loadGroup fs (if g.fluid then some v else none) (s.pathOf g) >>= fun tokens =>
        .ok (r.insert g.group tokens) := by
  have hfile' : fs.isFile (s.directory.join g.file) = true := hfile
  simp only [addSource, hfile']
  rfl

theorem exists_addSource (hv : g.fluid → s.HasViewports fs v)
    (hready : fs.isFile (s.pathOf g) → s.IsReady fs g) (r : Registry) :
    ∃ r', addSource fs s.directory v r g = .ok r' := by
  cases hfile : fs.isFile (s.pathOf g) with
  | false => exact ⟨r, addSource_of_missing hfile⟩
  | true =>
    obtain ⟨tokens, htokens⟩ := (exists_gives_iff hv).2 (hready hfile)
    rw [addSource_of_isFile hfile, (loadGroup_eq_ok_iff hv).2 htokens]
    exact ⟨_, rfl⟩

theorem addSource_eq_error_iff (hv : g.fluid → s.HasViewports fs v) :
    addSource fs s.directory v r g = .error e ↔ s.GoesWrong fs g e := by
  cases hfile : fs.isFile (s.pathOf g) with
  | false =>
    rw [addSource_of_missing hfile]
    refine iff_of_false nofun fun h => ?_
    cases h with
    | broken h | unbounded h => exact absurd h (by simp [hfile])
  | true =>
    rw [addSource_of_isFile hfile, bind_eq_error, ← loadGroup_eq_error_iff hv hfile]
    simp

theorem addSource_congr {w : Viewports} {directory : Path} (h : g.fluid → v = w) (r : Registry) :
    addSource fs directory v r g = addSource fs directory w r g := by
  unfold addSource
  by_cases hfluid : g.fluid
  · rw [h hfluid]
  · simp only [hfluid]
    rfl

end UtilityCss.Token
