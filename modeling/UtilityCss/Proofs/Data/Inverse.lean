import UtilityCss.Proofs.Data.Reordered

/-!
Decoders that take back what was encoded, in whatever order it arrives. That passes from what stands
in a list to the list, and from the fields of a record to the record; a field that was left out is
read as its default.
-/
namespace UtilityCss.Data

variable {α : Type} {decode : Data → Option α} {encode : α → Data} {a : α}

def Inverts (decode : Data → Option α) (encode : α → Data) : Prop :=
  ∀ ⦃a v⦄, Reordered (encode a) v → decode v = some a

theorem inverts_string : Inverts string? ofString := by
  intro s v h
  obtain rfl := h.eq_text
  rfl

theorem inverts_choice {d : Dialect} {name : α → String} {ofName? : String → Option α}
    (h : ∀ a, ofName? (name a) = some a) :
    Inverts (fun v => (v.choice? d).bind ofName?) fun a => ofString (name a) := by
  intro a v hv
  obtain rfl := hv.eq_text
  exact h a

theorem Inverts.list (h : Inverts decode encode) :
    Inverts (list? decode) fun items => .list (items.map encode) := by
  intro items v hv
  obtain ⟨others, rfl, hothers⟩ := hv.exists_items
  rw [list?]
  clear hv
  induction items generalizing others with
  | nil =>
    cases hothers
    rfl
  | cons a rest ih =>
    cases hothers with
    | cons hhead htail =>
      rw [List.mapM_cons, h hhead, ih _ htail]
      rfl

theorem nullable?_eq_some (hnull : decode .null = none) {v : Data} (h : decode v = some a) :
    nullable? decode v = some (some a) := by
  have hv : v ≠ .null := by
    rintro rfl
    rw [hnull] at h
    nomatch h
  rw [nullable?.eq_2 decode v hv, h, Option.map_some]

namespace Fields

variable {fields read : Fields} {name : String} {default : α} {removed : List String}

def without (fields : Fields) (removed : List String) : Fields :=
  fields.filter fun e => e.1 ∉ removed

theorem without_nil (fields : Fields) : fields.without [] = fields :=
  List.filter_eq_self.2 fun _ _ => decide_eq_true List.not_mem_nil

theorem without_cons (key : String) (value : Data) (fields : Fields) (removed : List String) :
    without ((key, value) :: fields) removed =
      if key ∈ removed then fields.without removed else (key, value) :: fields.without removed := by
  by_cases h : key ∈ removed <;> simp [without, h]

theorem lookup_without (fields : Fields) (removed : List String) (name : String) :
    (fields.without removed).lookup name =
      if name ∈ removed then none else fields.lookup name := by
  induction fields with
  | nil => simp [without]
  | cons e rest ih =>
    obtain ⟨key, value⟩ := e
    rw [without_cons]
    by_cases hname : name = key
    · subst hname
      split
      · next hremoved => rw [ih, if_pos hremoved]
      · rw [List.lookup_cons_self, List.lookup_cons_self]
    · have hne := beq_false_of_ne hname
      split <;> simp only [List.lookup_cons, hne, ih]

theorem sublist_without (fields : Fields) (removed : List String) :
    List.Sublist ((fields.without removed).map Prod.fst) (fields.map Prod.fst) :=
  List.filter_sublist.map Prod.fst

theorem Agree.exists_value (h : fields.Agree read) {value : Data}
    (hfield : fields.lookup name = some value) :
    ∃ v, read.lookup name = some v ∧ Reordered value v := by
  have hrel := h name
  rw [hfield] at hrel
  cases hlookup : read.lookup name with
  | none =>
    rw [hlookup] at hrel
    nomatch hrel
  | some v =>
    rw [hlookup] at hrel
    cases hrel with
    | some hv => exact ⟨v, rfl, hv⟩

theorem Agree.lookup_eq_none (h : fields.Agree read) (hfield : fields.lookup name = none) :
    read.lookup name = none := by
  have hrel := h name
  rw [hfield] at hrel
  cases hlookup : read.lookup name with
  | none => rfl
  | some v =>
    rw [hlookup] at hrel
    nomatch hrel

theorem Agree.required (h : fields.Agree read) (hdecode : Inverts decode encode)
    (hfield : fields.lookup name = some (encode a)) : read.required name decode = some a := by
  obtain ⟨v, hlookup, hv⟩ := h.exists_value hfield
  rw [Fields.required, hlookup, Option.bind_some, hdecode hv]

theorem Agree.optional (h : fields.Agree read) (hdecode : Inverts decode encode)
    (hfield : fields.lookup name = some (encode a)) :
    read.optional name default decode = some a := by
  obtain ⟨v, hlookup, hv⟩ := h.exists_value hfield
  rw [Fields.optional, hlookup]
  exact hdecode hv

theorem Agree.optional_of_absent (h : fields.Agree read) (hfield : fields.lookup name = none) :
    read.optional name default decode = some default := by
  rw [Fields.optional, h.lookup_eq_none hfield]

theorem Agree.optional_nullable (h : fields.Agree read) (hdecode : Inverts decode encode)
    (hnull : decode .null = none) {value : Option α}
    (hfield : fields.lookup name = value.map encode) :
    read.optional name none (nullable? decode) = some value := by
  cases value with
  | none => exact h.optional_of_absent hfield
  | some a =>
    obtain ⟨v, hlookup, hv⟩ := h.exists_value hfield
    rw [Fields.optional, hlookup]
    exact nullable?_eq_some hnull (hdecode hv)

theorem Agree.optional_without (h : (fields.without removed).Agree read)
    (hdecode : Inverts decode encode) (hfield : fields.lookup name = some (encode a)) :
    read.optional name default decode = some (if name ∈ removed then default else a) := by
  have hlookup := lookup_without fields removed name
  by_cases hremoved : name ∈ removed
  · rw [if_pos hremoved] at hlookup ⊢
    exact h.optional_of_absent hlookup
  · rw [if_neg hremoved] at hlookup ⊢
    exact h.optional hdecode (hlookup.trans hfield)

end Fields

end UtilityCss.Data
