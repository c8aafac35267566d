import Mathlib.Data.List.Nodup
import Mathlib.Data.List.Perm.Subperm
import UtilityCss.OrderedMap

/-! What holds of all entries of a map is kept as long as it holds of what is stored, and what is
found after entries have been stored one after another. -/
namespace UtilityCss.OrderedMap

variable {α : Type} {m : OrderedMap α} {key : String} {value : α} {e : String × α}
  {p : String × α → Prop}

theorem mem_put {entries : List (String × α)} (h : e ∈ put key value entries) :
    e = (key, value) ∨ e ∈ entries := by
  induction entries with
  | nil => exact .inl (List.mem_singleton.1 h)
  | cons first rest ih =>
    obtain ⟨k, v⟩ := first
    simp only [put] at h
    split at h
    · obtain rfl | hrest := List.mem_cons.1 h
      · exact .inl rfl
      · exact .inr (List.mem_cons_of_mem _ hrest)
    · obtain rfl | hrest := List.mem_cons.1 h
      · exact .inr List.mem_cons_self
      · exact (ih hrest).imp_right (List.mem_cons_of_mem _)

theorem forall_insert (hm : ∀ e ∈ m.entries, p e) (h : p (key, value)) :
    ∀ e ∈ (m.insert key value).entries, p e := by
  intro e he
  obtain rfl | hold := mem_put he
  · exact h
  · exact hm e hold

theorem forall_singleton (h : p (key, value)) : ∀ e ∈ (singleton key value).entries, p e :=
  forall_insert (fun _ he => nomatch he) h

theorem forall_foldl_insert {β : Type} {key : β → String} {value : β → α} {items : List β}
    (hm : ∀ e ∈ m.entries, p e) (h : ∀ b ∈ items, p (key b, value b)) :
    ∀ e ∈ (items.foldl (fun m b => m.insert (key b) (value b)) m).entries, p e := by
  induction items generalizing m with
  | nil => exact hm
  | cons b rest ih =>
    exact ih (forall_insert hm (h b List.mem_cons_self)) fun x hx =>
      h x (List.mem_cons_of_mem _ hx)

theorem forall_ofList {pairs : List (String × α)} (h : ∀ e ∈ pairs, p e) :
    ∀ e ∈ (ofList pairs).entries, p e :=
  forall_foldl_insert (fun _ he => nomatch he) h

theorem lookup_eq_some_iff_mem {entries : List (String × α)}
    (hnodup : (entries.map Prod.fst).Nodup) :
    entries.lookup key = some value ↔ (key, value) ∈ entries := by
  constructor
  · intro h
    obtain ⟨front, back, rfl, _⟩ := List.lookup_eq_some_iff.1 h
    exact List.mem_append_right front List.mem_cons_self
  · intro h
    obtain ⟨front, back, rfl⟩ := List.append_of_mem h
    rw [List.map_append, List.map_cons, List.nodup_middle] at hnodup
    refine List.lookup_eq_some_iff.2 ⟨front, back, rfl, fun e he => ?_⟩
    rw [bne_iff_ne]
    intro hkey
    have hmem : key ∈ front.map Prod.fst := hkey ▸ List.mem_map_of_mem he
    exact (List.nodup_cons.1 hnodup).1 (List.mem_append_left _ hmem)

theorem lookup_of_perm {entries others : List (String × α)} (h : entries.Perm others)
    (hnodup : (entries.map Prod.fst).Nodup) (key : String) :
    entries.lookup key = others.lookup key := by
  have hothers : (others.map Prod.fst).Nodup := (h.map Prod.fst).nodup_iff.1 hnodup
  apply Option.ext
  intro value
  rw [lookup_eq_some_iff_mem hnodup, lookup_eq_some_iff_mem hothers, h.mem_iff]

theorem mem_of_get? (h : m.get? key = some value) : (key, value) ∈ m.entries :=
  (lookup_eq_some_iff_mem m.nodup).1 h

theorem get?_of_mem (h : (key, value) ∈ m.entries) : m.get? key = some value :=
  (lookup_eq_some_iff_mem m.nodup).2 h

theorem filter_entries (h : m.get? key = some value) :
    (m.entries.filter fun e => e.1 = key) = [(key, value)] := by
  obtain ⟨front, back, hentries⟩ := List.append_of_mem (mem_of_get? h)
  have hnodup : (front ++ (key, value) :: back).map Prod.fst |>.Nodup := hentries ▸ m.nodup
  rw [List.map_append, List.map_cons, List.nodup_middle, ← List.map_append] at hnodup
  have hnone : (front ++ back).filter (fun e => e.1 = key) = [] := by
    rw [List.filter_eq_nil_iff]
    intro e he hkey
    have hmem : e.1 ∈ (front ++ back).map Prod.fst := List.mem_map_of_mem he
    rw [of_decide_eq_true hkey] at hmem
    exact (List.nodup_cons.1 hnodup).1 hmem
  rw [List.filter_append, List.append_eq_nil_iff] at hnone
  rw [hentries, List.filter_append, List.filter_cons_of_pos (by simp), hnone.1, hnone.2]
  rfl

theorem isSome_get?_foldl_insert {pairs : List (String × α)}
    (h : key ∈ pairs.map Prod.fst ∨ (m.get? key).isSome) :
    ((pairs.foldl (fun m e => m.insert e.1 e.2) m).get? key).isSome := by
  induction pairs generalizing m with
  | nil => exact h.resolve_left List.not_mem_nil
  | cons e rest ih =>
    apply ih
    rw [get?_insert]
    split
    · exact .inr rfl
    · next hne =>
      refine h.imp_left fun hmem => ?_
      exact (List.mem_cons.1 hmem).resolve_left hne

theorem isSome_get?_ofList {pairs : List (String × α)} (h : key ∈ pairs.map Prod.fst) :
    ((ofList pairs).get? key).isSome :=
  isSome_get?_foldl_insert (.inl h)

theorem put_of_not_mem {entries : List (String × α)} (h : key ∉ entries.map Prod.fst) :
    put key value entries = entries ++ [(key, value)] := by
  induction entries with
  | nil => rfl
  | cons e rest ih =>
    obtain ⟨hne, hrest⟩ := not_or.1 (mt List.mem_cons.2 h)
    rw [put, if_neg (Ne.symm hne), ih hrest, List.cons_append]

section Items

variable {β : Type} {name : β → String} {f : β → α} {items : List β}

theorem entries_foldl_insert (hnodup : (items.map name).Nodup) (hnew : ∀ b ∈ items, name b ∉ m.keys) :
    (items.foldl (fun m b => m.insert (name b) (f b)) m).entries =
      m.entries ++ items.map fun b => (name b, f b) := by
  induction items generalizing m with
  | nil => exact (List.append_nil _).symm
  | cons b rest ih =>
    obtain ⟨hb, hrest⟩ := List.nodup_cons.1 hnodup
    obtain ⟨hbnew, hrestnew⟩ := List.forall_mem_cons.1 hnew
    have hnew' : ∀ x ∈ rest, name x ∉ (m.insert (name b) (f b)).keys := by
      intro x hx
      rw [keys_insert, if_neg hbnew, List.mem_append, List.mem_singleton]
      rintro (hold | hsame)
      · exact hrestnew x hx hold
      · exact hb (hsame ▸ List.mem_map_of_mem hx)
    rw [List.foldl_cons, ih hrest hnew', entries_insert, put_of_not_mem hbnew]
    simp

/-- Storing one after another lists every key once, where it came first. -/
theorem keys_foldl_insert (items : List β) (m : OrderedMap α) :
    (items.foldl (fun m b => m.insert (name b) (f b)) m).keys =
      m.keys ++ ((items.map name).removeAll m.keys).eraseDups := by
  induction items generalizing m with
  | nil => exact (List.append_nil _).symm
  | cons b rest ih =>
    rw [List.foldl_cons, ih, keys_insert, List.map_cons, List.cons_removeAll]
    by_cases hold : name b ∈ m.keys
    · simp [hold]
    · have hrest : (rest.map name).removeAll (m.keys ++ [name b]) =
          ((rest.map name).removeAll m.keys).filter fun k => !k == name b := by
        simp only [List.removeAll, List.filter_filter]
        apply List.filter_congr
        intro k _
        simp [Bool.and_comm, Bool.beq_eq_decide_eq]
      simp [hold, hrest, List.eraseDups_cons]

theorem keys_foldl_insert_empty (items : List β) :
    (items.foldl (fun m b => m.insert (name b) (f b)) (empty : OrderedMap α)).keys =
      (items.map name).eraseDups := by
  have hnone : (items.map name).removeAll [] = items.map name := by simp [List.removeAll]
  rw [keys_foldl_insert]
  exact (List.nil_append _).trans (congrArg List.eraseDups hnone)

theorem get?_foldl_insert_of_forall_ne (h : ∀ b ∈ items, name b ≠ key) :
    (items.foldl (fun m b => m.insert (name b) (f b)) m).get? key = m.get? key := by
  induction items generalizing m with
  | nil => rfl
  | cons b rest ih =>
    obtain ⟨hb, hrest⟩ := List.forall_mem_cons.1 h
    rw [List.foldl_cons, ih hrest, get?_insert, if_neg hb.symm]

theorem get?_foldl_insert_last {front back : List β} {b : β} (h : ∀ x ∈ back, name x ≠ name b) :
    ((front ++ b :: back).foldl (fun m b => m.insert (name b) (f b)) m).get? (name b) =
      some (f b) := by
  rw [List.foldl_append, List.foldl_cons, get?_foldl_insert_of_forall_ne h, get?_insert, if_pos rfl]

theorem size_foldl_insert_iff :
    (items.foldl (fun m b => m.insert (name b) (f b)) (empty : OrderedMap α)).size = items.length ↔
      (items.map name).Nodup := by
  constructor
  · intro hsize
    -- The keys are distinct and are among the names; as many as these, they are the names.
    generalize hm : items.foldl (fun m b => m.insert (name b) (f b)) (empty : OrderedMap α) = m
      at hsize
    have hsub : m.keys ⊆ items.map name := by
      intro k hk
      obtain ⟨e, he, rfl⟩ := List.mem_map.1 hk
      exact forall_foldl_insert (p := fun e => e.1 ∈ items.map name) (fun _ he => absurd he List.not_mem_nil)
        (fun b hb => List.mem_map_of_mem hb) e (hm ▸ he)
    have hperm : m.keys.Perm (items.map name) := by
      refine (List.subperm_of_subset m.nodup hsub).perm_of_length_le ?_
      rw [List.length_map, ← hsize]
      exact Nat.le_of_eq (List.length_map Prod.fst).symm
    exact hperm.nodup_iff.1 m.nodup
  · intro hnodup
    rw [size, entries_foldl_insert hnodup fun _ _ => List.not_mem_nil]
    simp

end Items

theorem get?_foldl_insert_map {β : Type} {entries : List (String × β)}
    (hnodup : (entries.map Prod.fst).Nodup) {rename : String → String}
    (hrename : Function.Injective rename) (f : β → α) (m : OrderedMap α) (key : String) :
    (entries.foldl (fun m e => m.insert (rename e.1) (f e.2)) m).get? (rename key) =
      ((entries.lookup key).map f).or (m.get? (rename key)) := by
  induction entries generalizing m with
  | nil => rfl
  | cons e rest ih =>
    obtain ⟨hnew, hrest⟩ := List.nodup_cons.1 hnodup
    rw [List.foldl_cons, ih hrest, get?_insert, List.lookup_cons]
    by_cases hkey : key = e.1
    · have hnone : rest.lookup key = none := by
        rw [List.lookup_eq_none_iff]
        intro x hx
        rw [bne_iff_ne]
        rintro rfl
        exact hnew (hkey ▸ List.mem_map_of_mem hx)
      rw [hnone, if_pos (congrArg rename hkey), hkey, beq_self_eq_true]
      rfl
    · rw [if_neg (hrename.ne hkey), beq_false_of_ne hkey]

end UtilityCss.OrderedMap
