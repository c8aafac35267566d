import UtilityCss.Proofs.OrderedMap
import UtilityCss.Theme.Emit

/-!
References to groups that a registry lacks. An emitter uses either all references whose groups are
there or, if it depends on all of them, none. Without missing groups the policy about them has no
say; leaving them out by hand comes to the same as having them skipped.
-/
namespace UtilityCss.Theme

/-- The referenced groups that an emitter uses, in the order of the references. -/
def resolve {α : Type} (registry : Registry) (policy : MissingGroups) (group : α → String)
    (refs : List α) : List (α × TokenGroup) :=
  let found := refs.filterMap fun ref => (registry.get? (group ref)).map fun tokens => (ref, tokens)
  match policy with
  | .skipGroup => found
  | .skipEmitter => if refs.all fun ref => (registry.get? (group ref)).isSome then found else []

variable {α σ : Type} {registry : Registry} {group : α → String} {refs : List α}
  {policy : MissingGroups} {add : σ → α → TokenGroup → σ} {nothing : σ}

theorem resolve_of_present (h : ∀ ref ∈ refs, (registry.get? (group ref)).isSome)
    (policy : MissingGroups) :
    resolve registry policy group refs = resolve registry .skipGroup group refs := by
  cases policy with
  | skipGroup => rfl
  | skipEmitter => exact if_pos (List.all_eq_true.2 h)

theorem resolve_of_missing {ref : α} (href : ref ∈ refs) (h : registry.get? (group ref) = none) :
    resolve registry .skipEmitter group refs = [] := by
  apply if_neg
  intro hall
  have hsome := List.all_eq_true.1 hall ref href
  rw [h] at hsome
  nomatch hsome

theorem mem_resolve {found : α × TokenGroup} (h : found ∈ resolve registry policy group refs) :
    found.1 ∈ refs ∧ (group found.1, found.2) ∈ registry.entries := by
  have hfound : found ∈ refs.filterMap fun ref =>
      (registry.get? (group ref)).map fun tokens => (ref, tokens) := by
    unfold resolve at h
    cases policy with
    | skipGroup => exact h
    | skipEmitter =>
      simp only at h
      split at h
      · exact h
      · exact absurd h List.not_mem_nil
  obtain ⟨ref, href, hmap⟩ := List.mem_filterMap.1 hfound
  obtain ⟨tokens, htokens, rfl⟩ := Option.map_eq_some_iff.1 hmap
  exact ⟨href, OrderedMap.mem_of_get? htokens⟩

theorem emitEach_skipGroup (emitted : σ) :
    emitEach registry .skipGroup group add nothing emitted refs =
      (resolve registry .skipGroup group refs).foldl (fun s r => add s r.1 r.2) emitted := by
  induction refs generalizing emitted with
  | nil => rfl
  | cons ref rest ih =>
    rw [emitEach, resolve, List.filterMap_cons]
    cases registry.get? (group ref) with
    | none => exact ih emitted
    | some tokens => exact ih (add emitted ref tokens)

theorem emitEach_of_present (h : ∀ ref ∈ refs, (registry.get? (group ref)).isSome) (emitted : σ) :
    emitEach registry policy group add nothing emitted refs =
      emitEach registry .skipGroup group add nothing emitted refs := by
  induction refs generalizing emitted with
  | nil => rfl
  | cons ref rest ih =>
    obtain ⟨href, hrest⟩ := List.forall_mem_cons.1 h
    obtain ⟨tokens, htokens⟩ := Option.isSome_iff_exists.1 href
    simp only [emitEach, htokens]
    exact ih hrest _

/-- Whatever has been added before the missing group is met is given up. -/
theorem emitEach_of_missing {ref : α} (href : ref ∈ refs)
    (h : registry.get? (group ref) = none) (emitted : σ) :
    emitEach registry .skipEmitter group add nothing emitted refs = nothing := by
  induction refs generalizing emitted with
  | nil => nomatch href
  | cons first rest ih =>
    rw [emitEach]
    cases hfirst : registry.get? (group first) with
    | none => rfl
    | some tokens =>
      have hne : ref ≠ first := by
        rintro rfl
        nomatch h.symm.trans hfirst
      exact ih ((List.mem_cons.1 href).resolve_left hne) _

theorem emitEach_eq_foldl_resolve (registry : Registry) (policy : MissingGroups)
    (group : α → String) (add : σ → α → TokenGroup → σ) (nothing : σ) (refs : List α) :
    emitEach registry policy group add nothing nothing refs =
      (resolve registry policy group refs).foldl (fun s r => add s r.1 r.2) nothing := by
  cases policy with
  | skipGroup => exact emitEach_skipGroup nothing
  | skipEmitter =>
    cases hall : refs.all fun ref => (registry.get? (group ref)).isSome with
    | true =>
      have hpresent := List.all_eq_true.1 hall
      rw [emitEach_of_present hpresent, emitEach_skipGroup,
        resolve_of_present hpresent .skipEmitter]
    | false =>
      obtain ⟨ref, href, hmissing⟩ := List.all_eq_false.1 hall
      have hnone := Option.not_isSome_iff_eq_none.1 hmissing
      rw [emitEach_of_missing href hnone, resolve_of_missing href hnone, List.foldl_nil]

theorem customProperties_eq_foldl (registry : Registry) (groups : List PropertyGroup)
    (policy : MissingGroups) :
    customProperties registry groups policy =
      (resolve registry policy PropertyGroup.group groups).foldl
        (fun properties r => r.1.declare properties r.2) .empty :=
  emitEach_eq_foldl_resolve ..

theorem utilities_eq_flatMap (registry : Registry) (families : List UtilityFamily)
    (policy : MissingGroups) :
    utilities registry families policy =
      (resolve registry policy UtilityFamily.group families).flatMap
        fun r => r.1.fragments r.2 := by
  rw [utilities, emitEach_eq_foldl_resolve, List.flatMap_eq_foldl]

def present (registry : Registry) (group : α → String) (refs : List α) : List α :=
  refs.filter fun ref => (registry.get? (group ref)).isSome

theorem resolve_present (registry : Registry) (group : α → String) (refs : List α)
    (policy : MissingGroups) :
    resolve registry policy group (present registry group refs) =
      resolve registry .skipGroup group refs := by
  have hpresent : ∀ ref ∈ present registry group refs, (registry.get? (group ref)).isSome :=
    fun ref h => (List.mem_filter.1 h).2
  rw [resolve_of_present hpresent, resolve, resolve, present, List.filterMap_filter]
  congr 1
  funext ref
  cases registry.get? (group ref) with
  | none => rfl
  | some tokens => rfl

end UtilityCss.Theme
