import UtilityCss.Data.Decode
import UtilityCss.Data.Json
import UtilityCss.Decimal.Text
import UtilityCss.Theme.Registry
import UtilityCss.Token.Slug

/-! Token files: lists of tokens by their display names, with values or with sizes. -/
namespace UtilityCss.Token

open Theme (TokenGroup TokenValue)

inductive ItemValue where
  | text (s : String)
  | number (x : Float)
  | list (items : List String)
  deriving Inhabited

def ItemValue.tokenValue : ItemValue → TokenValue
  | text s => .scalar s
  | number x => .scalar (Decimal.plain x)
  | list items => .list items

structure Item where
  name : String
  value : Option ItemValue := none
  /-- The smallest size in pixels. -/
  min : Option Float := none
  /-- The largest size in pixels. -/
  max : Option Float := none
  deriving Inhabited

structure File where
  title : Option String := none
  description : Option String := none
  items : List Item := []
  deriving Inhabited

/-- The tokens that have a value, under their slugs. Of two with one slug, the first decides about
the place and the last about the value. -/
def groupOf (items : List Item) : TokenGroup :=
  .ofList (items.filterMap fun i => i.value.map fun v => (slugify i.name, v.tokenValue))

def ItemValue.decode : Data → Option ItemValue
  | .text s => s.map text
  | .number x => x.map number
  | value => (value.list? Data.string?).map list

def Item.decode (value : Data) : Option Item := do
  let fields ← value.fields? .json ["name", "value", "min", "max"]
  return {
    name := ← fields.required "name" Data.string?
    value := ← fields.optional "value" none (Data.nullable? ItemValue.decode)
    min := ← fields.optional "min" none (Data.nullable? Data.number?)
    max := ← fields.optional "max" none (Data.nullable? Data.number?) }

def File.decode (value : Data) : Option File := do
  let fields ← value.fields? .json ["title", "description", "items"]
  return {
    title := ← fields.optional "title" none (Data.nullable? Data.string?)
    description := ← fields.optional "description" none (Data.nullable? Data.string?)
    items := ← fields.optional "items" [] (Data.list? Item.decode) }

def File.ofJson? (text : String) : Option File := (Data.ofJson? text).bind File.decode

end UtilityCss.Token
