import UtilityCss.Proofs.Decimal.Order
import UtilityCss.Proofs.OrderedMap
import UtilityCss.Proofs.Token.Source

/-!
What becomes of the sources of a registry. A source whose file is missing counts for nothing; of
those that are there, the last one decides about its group, and the first one that is in error
decides about the whole. Viewports are looked at before all of them, if there is any use for them.
-/
namespace UtilityCss.Token

open Theme (Registry TokenGroup)

variable {fs : FileSystem} {s : Sources} {g : GroupSource} {v : Viewports} {e : LoadError}

variable {groups : List GroupSource} {r r' : Registry}

theorem foldlM_addSource_eq_ok (hv : ∀ g ∈ groups, g.fluid → s.HasViewports fs v)
    (h : groups.foldlM (addSource fs s.directory v) r = .ok r') :
    ∃ given : List (GroupSource × TokenGroup),
      given.map Prod.fst = groups.filter (fun g => fs.isFile (s.pathOf g)) ∧
      (∀ p ∈ given, s.Gives fs p.1 p.2) ∧
      r' = given.foldl (fun r p => r.insert p.1.group p.2) r := by
  induction groups generalizing r with
  | nil =>
    obtain rfl := Except.ok.inj h
    exact ⟨[], rfl, by simp, rfl⟩
  | cons g rest ih =>
    obtain ⟨hg, hrest⟩ := List.forall_mem_cons.1 hv
    rw [List.foldlM_cons] at h
    obtain ⟨r₁, hr₁, h⟩ := bind_eq_ok.1 h
    obtain ⟨given, hgiven, hgives, hr'⟩ := ih hrest h
    cases hfile : fs.isFile (s.pathOf g) with
    | false =>
      rw [addSource_of_missing hfile] at hr₁
      obtain rfl := Except.ok.inj hr₁
      refine ⟨given, ?_, hgives, hr'⟩
      rw [hgiven, List.filter_cons_of_neg (by simp [hfile])]
    | true =>
      rw [addSource_of_isFile hfile] at hr₁
      obtain ⟨tokens, htokens, hr₁⟩ := bind_eq_ok.1 hr₁
      obtain rfl := Except.ok.inj hr₁
      refine ⟨(g, tokens) :: given, ?_, ?_, hr'⟩
      · simp [hgiven, hfile]
      · exact List.forall_mem_cons.2 ⟨(loadGroup_eq_ok_iff hg).1 htokens, hgives⟩

theorem exists_foldlM_addSource_iff (hv : ∀ g ∈ groups, g.fluid → s.HasViewports fs v) :
    (∃ r', groups.foldlM (addSource fs s.directory v) r = .ok r') ↔
      ∀ g ∈ groups, fs.isFile (s.pathOf g) → s.IsReady fs g := by
  constructor
  · rintro ⟨r', h⟩ g hg hfile
    obtain ⟨given, hgiven, hgives, -⟩ := foldlM_addSource_eq_ok hv h
    have hmem : g ∈ given.map Prod.fst := hgiven ▸ List.mem_filter.2 ⟨hg, hfile⟩
    obtain ⟨p, hp, rfl⟩ := List.mem_map.1 hmem
    exact (exists_gives_iff (hv _ hg)).1 ⟨p.2, hgives p hp⟩
  · intro hready
    induction groups generalizing r with
    | nil => exact ⟨r, rfl⟩
    | cons g rest ih =>
      obtain ⟨hg, hrest⟩ := List.forall_mem_cons.1 hv
      obtain ⟨hgready, hrestready⟩ := List.forall_mem_cons.1 hready
      obtain ⟨r₁, hr₁⟩ := exists_addSource hg hgready r
      rw [List.foldlM_cons, hr₁, ok_bind]
      exact ih hrest hrestready

theorem foldlM_addSource_eq_error_iff (hv : ∀ g ∈ groups, g.fluid → s.HasViewports fs v) :
    groups.foldlM (addSource fs s.directory v) r = .error e ↔
      ∃ front g back, groups = front ++ g :: back ∧
        (∀ x ∈ front, fs.isFile (s.pathOf x) → s.IsReady fs x) ∧ s.GoesWrong fs g e := by
  rw [foldlM_eq_error_iff]
  constructor
  · rintro ⟨front, g, back, r₁, rfl, hfront, hg⟩
    obtain ⟨hvfront, hvg, -⟩ := by simpa only [List.forall_mem_append, List.forall_mem_cons] using hv
    exact ⟨front, g, back, rfl, (exists_foldlM_addSource_iff hvfront).1 ⟨r₁, hfront⟩,
      (addSource_eq_error_iff hvg).1 hg⟩
  · rintro ⟨front, g, back, rfl, hfront, hg⟩
    obtain ⟨hvfront, hvg, -⟩ := by simpa only [List.forall_mem_append, List.forall_mem_cons] using hv
    obtain ⟨r₁, hr₁⟩ := (exists_foldlM_addSource_iff (r := r) hvfront).2 hfront
    exact ⟨front, g, back, r₁, rfl, hr₁, (addSource_eq_error_iff hvg).2 hg⟩

def Sources.IsServed (fs : FileSystem) (s : Sources) : Prop :=
  (∀ g ∈ s.groups, g.fluid = false) ∨ ∃ v, s.HasViewports fs v

theorem isServed_iff :
    s.IsServed fs ↔ ∃ v, ∀ g ∈ s.groups, g.fluid → s.HasViewports fs v := by
  constructor
  · rintro (hnone | ⟨v, hv⟩)
    · exact ⟨.default, fun g hg hfluid => by simp [hnone g hg] at hfluid⟩
    · exact ⟨v, fun _ _ _ => hv⟩
  · rintro ⟨v, hv⟩
    by_cases hany : ∃ g ∈ s.groups, g.fluid
    · obtain ⟨g, hg, hfluid⟩ := hany
      exact .inr ⟨v, hv g hg hfluid⟩
    · exact .inl fun g hg => Bool.eq_false_iff.2 fun hfluid => hany ⟨g, hg, hfluid⟩

theorem not_isServed_iff :
    ¬ s.IsServed fs ↔ (∃ g ∈ s.groups, g.fluid) ∧ ∃ e, s.LacksViewports fs e := by
  have hlacks : (¬ ∃ v, s.HasViewports fs v) ↔ ∃ e, s.LacksViewports fs e := by
    simp only [← loadViewports_eq_ok_iff, ← loadViewports_eq_error_iff]
    cases loadViewports fs s <;> simp
  rw [← hlacks, Sources.IsServed, not_or]
  simp

theorem loadRegistry_eq (hv : ∀ g ∈ s.groups, g.fluid → s.HasViewports fs v) :
    loadRegistry fs s = s.groups.foldlM (addSource fs s.directory v) .empty := by
  unfold loadRegistry
  cases hany : s.groups.any GroupSource.fluid with
  | true =>
    obtain ⟨g, hg, hfluid⟩ := List.any_eq_true.1 hany
    simp only [if_true, loadViewports_eq_ok_iff.2 (hv g hg hfluid), ok_bind]
  | false =>
    have hnone : ∀ g ∈ s.groups, g.fluid → Viewports.default = v := by
      intro g hg hfluid
      exact absurd hfluid (List.any_eq_false.1 hany g hg)
    exact foldlM_congr (fun g hg r => addSource_congr (hnone g hg) r) _

theorem loadRegistry_of_lacksViewports (hany : ∃ g ∈ s.groups, g.fluid)
    (h : s.LacksViewports fs e) : loadRegistry fs s = .error e := by
  have hfluid : s.groups.any GroupSource.fluid = true := List.any_eq_true.2 hany
  unfold loadRegistry
  rw [if_pos hfluid, loadViewports_eq_error_iff.2 h]
  rfl

theorem exists_loadRegistry_iff :
    (∃ r, loadRegistry fs s = .ok r) ↔
      s.IsServed fs ∧ ∀ g ∈ s.groups, fs.isFile (s.pathOf g) → s.IsReady fs g := by
  by_cases hserved : s.IsServed fs
  · obtain ⟨v, hv⟩ := isServed_iff.1 hserved
    simp only [loadRegistry_eq hv, exists_foldlM_addSource_iff hv, hserved, true_and]
  · obtain ⟨hany, e, he⟩ := not_isServed_iff.1 hserved
    simp [loadRegistry_of_lacksViewports hany he, hserved]

theorem isServed_of_loadRegistry (h : loadRegistry fs s = .ok r) : s.IsServed fs :=
  (exists_loadRegistry_iff.1 ⟨r, h⟩).1

theorem loadRegistry_eq_error_iff :
    loadRegistry fs s = .error e ↔
      (∃ g ∈ s.groups, g.fluid) ∧ s.LacksViewports fs e ∨
      s.IsServed fs ∧ ∃ front g back, s.groups = front ++ g :: back ∧
        (∀ x ∈ front, fs.isFile (s.pathOf x) → s.IsReady fs x) ∧ s.GoesWrong fs g e := by
  by_cases hserved : s.IsServed fs
  · have hnot : ¬ ((∃ g ∈ s.groups, g.fluid) ∧ s.LacksViewports fs e) :=
      fun ⟨hany, he⟩ => not_isServed_iff.2 ⟨hany, e, he⟩ hserved
    obtain ⟨v, hv⟩ := isServed_iff.1 hserved
    simp only [loadRegistry_eq hv, foldlM_addSource_eq_error_iff hv, hserved, hnot, true_and,
      false_or]
  · obtain ⟨hany, e', he'⟩ := not_isServed_iff.1 hserved
    have hsame : e' = e ↔ s.LacksViewports fs e := by
      rw [← loadViewports_eq_error_iff, loadViewports_eq_error_iff.2 he', Except.error.injEq]
    rw [loadRegistry_of_lacksViewports hany he', Except.error.injEq, hsame]
    simp only [hany, hserved, true_and, false_and, or_false]

theorem loadRegistry_eq_ok (h : loadRegistry fs s = .ok r) :
    ∃ given : List (GroupSource × TokenGroup), given.map Prod.fst = s.present fs ∧
      (∀ p ∈ given, s.Gives fs p.1 p.2) ∧
      r = given.foldl (fun r p => r.insert p.1.group p.2) .empty := by
  obtain ⟨v, hv⟩ := isServed_iff.1 (isServed_of_loadRegistry h)
  rw [loadRegistry_eq hv] at h
  exact foldlM_addSource_eq_ok hv h

theorem keys_loadRegistry (h : loadRegistry fs s = .ok r) :
    r.keys = ((s.present fs).map GroupSource.group).eraseDups := by
  obtain ⟨given, hgiven, -, rfl⟩ := loadRegistry_eq_ok h
  rw [OrderedMap.keys_foldl_insert_empty, ← hgiven, List.map_map]
  rfl

theorem get?_loadRegistry (h : loadRegistry fs s = .ok r) {front back : List GroupSource}
    (hpresent : s.present fs = front ++ g :: back) (hlast : ∀ x ∈ back, x.group ≠ g.group) :
    ∃ tokens, s.Gives fs g tokens ∧ r.get? g.group = some tokens := by
  obtain ⟨given, hgiven, hgives, rfl⟩ := loadRegistry_eq_ok h
  rw [hpresent] at hgiven
  obtain ⟨before, rest, rfl, rfl, hrest⟩ := List.map_eq_append_iff.1 hgiven
  obtain ⟨p, after, rfl, rfl, rfl⟩ := List.map_eq_cons_iff.1 hrest
  refine ⟨p.2, hgives p (by simp), ?_⟩
  have hnames : ∀ q ∈ after, q.1.group ≠ p.1.group := fun q hq => hlast q.1 (List.mem_map_of_mem hq)
  exact OrderedMap.get?_foldl_insert_last hnames

theorem loadRegistry_skip {front back : List GroupSource} (h : loadRegistry fs s = .ok r)
    (hgroups : s.groups = front ++ g :: back) (hfile : fs.isFile (s.pathOf g) = false) :
    loadRegistry fs { s with groups := front ++ back } = .ok r := by
  obtain ⟨v, hv⟩ := isServed_iff.1 (isServed_of_loadRegistry h)
  have hv' : ∀ x ∈ front ++ back, x.fluid →
      Sources.HasViewports fs { s with groups := front ++ back } v := by
    intro x hx hfluid
    have hmem : x ∈ s.groups := by
      rw [hgroups]
      exact ((List.sublist_cons_self g back).append_left front).subset hx
    have hload : loadViewports fs { s with groups := front ++ back } = loadViewports fs s := rfl
    exact loadViewports_eq_ok_iff.1 (hload.trans (loadViewports_eq_ok_iff.2 (hv x hmem hfluid)))
  rw [loadRegistry_eq hv, hgroups, List.foldlM_append] at h
  rw [loadRegistry_eq hv', List.foldlM_append, ← h]
  simp only [List.foldlM_cons, addSource_of_missing hfile, ok_bind]

/-- A registry is loaded if the viewports are there, where they are needed, and all files that are
there are in order. It has the groups of those files, the last of each name; the first thing that is
wrong is the error. -/
theorem loadRegistry_last_present_source (fs : FileSystem) (s : Sources) :
    ((∃ r, loadRegistry fs s = .ok r) ↔
      s.IsServed fs ∧ ∀ g ∈ s.groups, fs.isFile (s.pathOf g) → s.IsReady fs g) ∧
    (∀ r, loadRegistry fs s = .ok r →
      r.keys = ((s.present fs).map GroupSource.group).eraseDups ∧
      (∀ front g back, s.present fs = front ++ g :: back → (∀ x ∈ back, x.group ≠ g.group) →
        ∃ tokens, s.Gives fs g tokens ∧ r.get? g.group = some tokens) ∧
      ∀ front g back, s.groups = front ++ g :: back → fs.isFile (s.pathOf g) = false →
        loadRegistry fs { s with groups := front ++ back } = .ok r) ∧
    (∀ e, loadRegistry fs s = .error e ↔
      (∃ g ∈ s.groups, g.fluid) ∧ s.LacksViewports fs e ∨
      s.IsServed fs ∧ ∃ front g back, s.groups = front ++ g :: back ∧
        (∀ x ∈ front, fs.isFile (s.pathOf x) → s.IsReady fs x) ∧ s.GoesWrong fs g e) ∧
    (∀ v, s.HasViewports fs v → ∀ path min max,
      loadGroup fs (some v) path ≠ .error (.fluid (.invalidViewports min max))) ∧
    ∀ v : Viewports, v.min.isNaN = false → v.max.isNaN = false →
      (¬ v.max ≤ v.min ↔ v.min < v.max) := by
  refine ⟨exists_loadRegistry_iff, ?_, fun _ => loadRegistry_eq_error_iff, ?_, ?_⟩
  · intro r h
    exact ⟨keys_loadRegistry h, fun _ _ _ => get?_loadRegistry h, fun _ _ _ => loadRegistry_skip h⟩
  · intro v hv
    exact loadGroup_ne_invalidViewports hv.not_le
  · intro v hmin hmax
    exact Decimal.not_le_iff_lt hmin hmax

/-- A missing file leaves the group of an earlier source as it is. -/
theorem loadRegistry_last_present_source_missing :
    let fs : FileSystem := ⟨⟨[(["t", "a.json"],
        .text "\x7b\"items\": [\x7b\"name\": \"S\", \"min\": 4, \"max\": 8\x7d]\x7d"),
      (["t", "b.json"], .text "\x7b\x7d")]⟩, []⟩
    let sized : GroupSource := ⟨"spacing", ⟨"a.json"⟩, true⟩
    let s : Sources := ⟨⟨"t"⟩, none,
      [sized, ⟨"colors", ⟨"b.json"⟩, false⟩, ⟨"spacing", ⟨"c.json"⟩, false⟩]⟩
    ∃ r, loadRegistry fs s = .ok r ∧ r.keys = ["spacing", "colors"] ∧
      ∃ tokens, s.Gives fs sized tokens ∧ r.get? "spacing" = some tokens := by
  intro fs sized s
  obtain ⟨hloads, hloaded, -⟩ := loadRegistry_last_present_source fs s
  have hready : ∀ g ∈ s.groups, fs.isFile (s.pathOf g) → s.IsReady fs g := by decide +kernel
  obtain ⟨r, hr⟩ := hloads.2 ⟨.inr ⟨_, .unset rfl⟩, hready⟩
  obtain ⟨hkeys, hlast, -⟩ := hloaded r hr
  refine ⟨r, hr, hkeys.trans (by decide), ?_⟩
  exact hlast [] sized [⟨"colors", ⟨"b.json"⟩, false⟩] (by decide) (by decide)

end UtilityCss.Token
