import Mathlib.Data.List.Perm.Basic
import UtilityCss.Data.Decode
import UtilityCss.Proofs.OrderedMap

/-!
Data in another order. The order of the entries of a table means nothing, so what a record is decoded
to must not depend on where its fields stand, nor on where the fields of the records in it stand.
-/
namespace UtilityCss.Data

mutual

/-- The entries of any tables, at any depth, may have changed places. -/
inductive Reordered : Data → Data → Prop
  | refl (value : Data) : Reordered value value
  | list {items others : List Data} (h : List.Forall₂ Reordered items others) :
    Reordered (.list items) (.list others)
  | table {entries inside others : List (Option String × Data)}
    (hvalues : List.Forall₂ ReorderedEntry entries inside) (hplaces : inside.Perm others) :
    Reordered (.table entries) (.table others)

inductive ReorderedEntry : Option String × Data → Option String × Data → Prop
  | value (key : Option String) {value other : Data} (h : Reordered value other) :
    ReorderedEntry (key, value) (key, other)

end

theorem reorderedEntry_self (entries : List (Option String × Data)) :
    List.Forall₂ ReorderedEntry entries entries :=
  List.forall₂_same.2 fun e _ => .value e.1 (.refl e.2)

theorem Reordered.of_perm {entries others : List (Option String × Data)} (h : entries.Perm others) :
    Reordered (.table entries) (.table others) :=
  .table (reorderedEntry_self entries) h

variable {v : Data}

theorem Reordered.eq_text {s : Option String} (h : Reordered (.text s) v) : v = .text s := by
  cases h
  rfl

theorem Reordered.exists_items {items : List Data} (h : Reordered (.list items) v) :
    ∃ others, v = .list others ∧ List.Forall₂ Reordered items others := by
  cases h with
  | refl => exact ⟨items, rfl, List.forall₂_same.2 fun item _ => .refl item⟩
  | list h => exact ⟨_, rfl, h⟩

theorem Reordered.exists_entries {entries : List (Option String × Data)}
    (h : Reordered (.table entries) v) : ∃ inside others, v = .table others ∧
      List.Forall₂ ReorderedEntry entries inside ∧ inside.Perm others := by
  cases h with
  | refl => exact ⟨entries, entries, rfl, reorderedEntry_self entries, .refl entries⟩
  | table hvalues hplaces => exact ⟨_, _, rfl, hvalues, hplaces⟩

namespace Fields

def entries (fields : Fields) : List (Option String × Data) := fields.map fun e => (some e.1, e.2)

def Match (fields others : Fields) : Prop :=
  List.Forall₂ (fun e f => e.1 = f.1 ∧ Reordered e.2 f.2) fields others

/-- Under each name the same value, up to order, or none in both. -/
def Agree (fields others : Fields) : Prop :=
  ∀ name, Option.Rel Reordered (fields.lookup name) (others.lookup name)

variable {fields others : Fields}

theorem Match.names_eq (h : Match fields others) : fields.map Prod.fst = others.map Prod.fst := by
  induction h with
  | nil => rfl
  | cons hhead _ ih => rw [List.map_cons, List.map_cons, hhead.1, ih]

theorem Match.agree (h : Match fields others) : Agree fields others := by
  intro name
  induction h with
  | nil => exact .none
  | @cons e f _ _ hhead _ ih =>
    rw [List.lookup_cons, List.lookup_cons, hhead.1]
    cases name == f.1 with
    | true => exact .some hhead.2
    | false => exact ih

theorem exists_match {inside : List (Option String × Data)}
    (h : List.Forall₂ ReorderedEntry fields.entries inside) :
    ∃ others : Fields, inside = others.entries ∧ Match fields others := by
  induction fields generalizing inside with
  | nil =>
    cases h
    exact ⟨[], rfl, .nil⟩
  | cons e rest ih =>
    cases h with
    | cons hentry hrest =>
      obtain ⟨others, rfl, hothers⟩ := ih hrest
      cases hentry with
      | @value _ _ other hvalue => exact ⟨(e.1, other) :: others, rfl, .cons ⟨rfl, hvalue⟩ hothers⟩

theorem exists_entries_of_perm {table : List (Option String × Data)}
    (h : fields.entries.Perm table) : ∃ others : Fields, table = others.entries ∧
      fields.Perm others := by
  have hcomp := List.eq_map_comp_perm fun e : String × Data => (some e.1, e.2)
  obtain ⟨others, hothers, hperm⟩ := (congrFun₂ hcomp table fields).mpr h.symm
  exact ⟨others, hothers, hperm.symm⟩

end Fields

theorem keys?_entries (fields : Fields) : keys? fields.entries = some fields := by
  induction fields with
  | nil => rfl
  | cons e rest ih =>
    rw [keys?, Fields.entries] at ih ⊢
    simp [ih]

variable {names : List String} {fields : Fields}

theorem fields?_ofFields (d : Dialect) (hnodup : (fields.map Prod.fst).Nodup)
    (hnames : ∀ name ∈ fields.map Prod.fst, name ∈ names) :
    (ofFields fields).fields? d names = some fields := by
  have hknown : (fields.filter fun e => names.contains e.1) = fields :=
    List.filter_eq_self.2 fun e he => List.contains_iff_mem.2 (hnames e.1 (List.mem_map_of_mem he))
  have hkeys : keys? (fields.map fun e => (some e.1, e.2)) = some fields := keys?_entries fields
  rw [ofFields, fields?, hkeys, Option.bind_eq_bind, Option.bind_some, hknown, if_pos hnodup]

/-- Whichever of its fields a record is given, in whatever order, those that are read agree with
those that were written. -/
theorem exists_agree (d : Dialect) (hnodup : names.Nodup)
    (hnames : (fields.map Prod.fst).Sublist names) (h : Reordered (ofFields fields) v) :
    ∃ read, v.fields? d names = some read ∧ fields.Agree read := by
  obtain ⟨_, _, rfl, hvalues, hplaces⟩ := h.exists_entries
  obtain ⟨inside, rfl, hmatch⟩ := Fields.exists_match hvalues
  obtain ⟨read, rfl, hperm⟩ := Fields.exists_entries_of_perm hplaces
  -- `inside` has the places of `fields` and the values of `read`.
  have hinside : (inside.map Prod.fst).Sublist names := hmatch.names_eq ▸ hnames
  have hread : (inside.map Prod.fst).Perm (read.map Prod.fst) := hperm.map Prod.fst
  refine ⟨read, fields?_ofFields d (hread.nodup_iff.1 (hnodup.sublist hinside)) ?_, fun name => ?_⟩
  · intro name hname
    exact hinside.subset (hread.mem_iff.2 hname)
  · rw [← OrderedMap.lookup_of_perm hperm (hnodup.sublist hinside)]
    exact hmatch.agree name

end UtilityCss.Data
