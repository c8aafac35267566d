import UtilityCss.Config.Codec
import UtilityCss.Proofs.Data.Inverse

/-!
Configurations as data and back. Each kind of record is read back from what is written of it, in any
dialect and any order, and what is left of a configuration after some of its fields were taken out
is read with the defaults in their place.
-/
namespace UtilityCss

open Data (Dialect Inverts Reordered exists_agree inverts_choice inverts_string)

namespace Css

theorem Layer.inverts_decode (d : Dialect) : Inverts (decode d) fun l => Data.ofString l.name :=
  inverts_choice ofName?_name

theorem OutputOptions.inverts_decode (d : Dialect) : Inverts (decode d) encode := by
  intro o v h
  have hnodup : ["layers", "style"].Nodup := by decide
  obtain ⟨read, hread, hagree⟩ := exists_agree d hnodup (.refl _) h
  have hlayers : read.optional "layers" .layered
      (fun v => (v.choice? d).bind LayerMode.ofName?) = some o.layers :=
    hagree.optional (inverts_choice LayerMode.ofName?_name) rfl
  have hstyle : read.optional "style" .expanded
      (fun v => (v.choice? d).bind OutputStyle.ofName?) = some o.style :=
    hagree.optional (inverts_choice OutputStyle.ofName?_name) rfl
  simp [decode, hread, hlayers, hstyle]

end Css

namespace Theme

theorem PropertyGroup.inverts_decode (d : Dialect) : Inverts (decode d) encode := by
  intro g v h
  have hnodup : ["group", "prefix"].Nodup := by decide
  obtain ⟨read, hread, hagree⟩ := exists_agree d hnodup (.refl _) h
  have hgroup : read.required "group" Data.string? = some g.group :=
    hagree.required inverts_string rfl
  have hstem : read.required "prefix" Data.string? = some g.stem :=
    hagree.required inverts_string rfl
  simp [decode, hread, hgroup, hstem]

theorem UtilityFamily.inverts_decode (d : Dialect) : Inverts (decode d) encode := by
  intro f v h
  have hnodup : ["group", "prefix", "property"].Nodup := by decide
  obtain ⟨read, hread, hagree⟩ := exists_agree d hnodup (.refl _) h
  have hgroup : read.required "group" Data.string? = some f.group :=
    hagree.required inverts_string rfl
  have hstem : read.required "prefix" Data.string? = some f.stem :=
    hagree.required inverts_string rfl
  have hproperty : read.required "property" Data.string? = some f.property :=
    hagree.required inverts_string rfl
  simp [decode, hread, hgroup, hstem, hproperty]

end Theme

theorem RuleSpec.inverts_decode (d : Dialect) : Inverts (decode d) encode := by
  intro s v h
  have hnodup : ["name", "pattern", "property", "value", "layer"].Nodup := by decide
  obtain ⟨read, hread, hagree⟩ := exists_agree d hnodup (by cases s.layer <;> simp) h
  have hname : read.required "name" Data.string? = some s.name :=
    hagree.required inverts_string rfl
  have hpattern : read.required "pattern" Data.string? = some s.pattern :=
    hagree.required inverts_string rfl
  have hproperty : read.required "property" Data.string? = some s.property :=
    hagree.required inverts_string rfl
  have hvalue : read.required "value" Data.string? = some s.value :=
    hagree.required inverts_string rfl
  have hlayer : read.optional "layer" none (Data.nullable? (Css.Layer.decode d)) = some s.layer :=
    hagree.optional_nullable (Css.Layer.inverts_decode d) rfl (by cases s.layer <;> rfl)
  simp [decode, hread, hname, hpattern, hproperty, hvalue, hlayer]

namespace StyleConfig

/-- The configuration with the named fields as they are by default. -/
def withDefaults (c : StyleConfig) (names : List String) : StyleConfig :=
  let default : StyleConfig := {}
  { customProperties :=
      if "custom-properties" ∈ names then default.customProperties else c.customProperties
    utilities := if "utilities" ∈ names then default.utilities else c.utilities
    rules := if "rules" ∈ names then default.rules else c.rules
    missingGroups := if "missing-groups" ∈ names then default.missingGroups else c.missingGroups
    output := if "output" ∈ names then default.output else c.output }

theorem withDefaults_nil (c : StyleConfig) : c.withDefaults [] = c := by
  simp [withDefaults]

theorem map_fst_fields (c : StyleConfig) : c.fields.map Prod.fst = fieldNames := rfl

theorem decode_without (d : Dialect) (c : StyleConfig) (removed : List String) {v : Data}
    (h : Reordered (.ofFields (c.fields.without removed)) v) :
    decode d v = some (c.withDefaults removed) := by
  have hnodup : fieldNames.Nodup := by decide
  obtain ⟨read, hread, hagree⟩ := exists_agree d hnodup (c.fields.sublist_without removed) h
  have hcustom : read.optional "custom-properties" Theme.PropertyGroup.defaults
      (Data.list? (Theme.PropertyGroup.decode d)) =
        some (c.withDefaults removed).customProperties :=
    hagree.optional_without (Theme.PropertyGroup.inverts_decode d).list rfl
  have hutilities : read.optional "utilities" Theme.UtilityFamily.defaults
      (Data.list? (Theme.UtilityFamily.decode d)) = some (c.withDefaults removed).utilities :=
    hagree.optional_without (Theme.UtilityFamily.inverts_decode d).list rfl
  have hrules : read.optional "rules" [] (Data.list? (RuleSpec.decode d)) =
      some (c.withDefaults removed).rules :=
    hagree.optional_without (RuleSpec.inverts_decode d).list rfl
  have hmissing : read.optional "missing-groups" .skipGroup
      (fun v => (v.choice? d).bind Theme.MissingGroups.ofName?) =
        some (c.withDefaults removed).missingGroups :=
    hagree.optional_without (inverts_choice Theme.MissingGroups.ofName?_name) rfl
  have houtput : read.optional "output" {} (Css.OutputOptions.decode d) =
      some (c.withDefaults removed).output :=
    hagree.optional_without (Css.OutputOptions.inverts_decode d) rfl
  simp [decode, hread, ofFields?, hcustom, hutilities, hrules, hmissing, houtput]

/-- Decoding undoes encoding, in every dialect and in whatever order the entries of the object and
of the objects in it stand. A configuration has five named fields: those that are taken out of its
object are read as their defaults, all others as they were. -/
theorem decode_encode_without (d : Dialect) (c : StyleConfig) :
    c.fields.map Prod.fst = fieldNames ∧ decode d c.encode = some c ∧
      ∀ (removed : List String) (v : Data),
        Reordered (.ofFields (c.fields.without removed)) v →
          decode d v = some (c.withDefaults removed) := by
  refine ⟨map_fst_fields c, ?_, fun removed v => decode_without d c removed⟩
  have hwhole : Reordered (.ofFields (c.fields.without [])) c.encode := by
    rw [Data.Fields.without_nil]
    exact .refl c.encode
  rw [decode_without d c [] hwhole, withDefaults_nil]

theorem decode_encode_without_backwards :
    let measure : RuleSpec :=
      ⟨"measure", "measure-(.+)", "max-inline-size", "var(--measure-$1)", some .default⟩
    let c : StyleConfig :=
      { customProperties := [], utilities := [⟨"spacing", "gap", "gap"⟩], rules := [measure]
        missingGroups := .skipEmitter, output := ⟨.flattened, .compressed⟩ }
    let v : Data := .ofFields [("missing-groups", .ofString "skip-emitter"),
      ("rules", .list [.ofFields [("layer", .ofString "default"),
        ("value", .ofString "var(--measure-$1)"), ("property", .ofString "max-inline-size"),
        ("pattern", .ofString "measure-(.+)"), ("name", .ofString "measure")]]),
      ("custom-properties", .list [])]
    Reordered (.ofFields (c.fields.without ["output", "utilities"])) v ∧
      decode .json v =
        some { customProperties := [], rules := [measure], missingGroups := .skipEmitter } := by
  intro measure c v
  have hmeasure : Reordered measure.encode (.ofFields [("layer", .ofString "default"),
      ("value", .ofString "var(--measure-$1)"), ("property", .ofString "max-inline-size"),
      ("pattern", .ofString "measure-(.+)"), ("name", .ofString "measure")]) :=
    .of_perm (List.reverse_perm _).symm
  have hv : Reordered (.ofFields (c.fields.without ["output", "utilities"])) v :=
    .table (.cons (.value _ (.refl _)) (.cons (.value _ (.list (.cons hmeasure .nil)))
      (.cons (.value _ (.refl _)) .nil))) (List.reverse_perm _).symm
  exact ⟨hv, (decode_encode_without .json c).2.2 ["output", "utilities"] v hv⟩

end StyleConfig

end UtilityCss
