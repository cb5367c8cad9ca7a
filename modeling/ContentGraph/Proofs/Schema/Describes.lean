import ContentGraph.Proofs.Calendar.Iso
import ContentGraph.Schema.Field

/-!
# What a field says of a value

A field says of a value what kind it is of, and of a list what kind its items
are of. Of objects it says more: their entries have fields of their own. So a
field *describes* a value if the value is of the kind, and every entry of an
object that has a field is described by it (`Field.Describes`). Entries that
are missing need no description, and entries without a field have none.
-/

namespace ContentGraph

/-- **The values that a kind admits.** -/
inductive FieldKind.Admits : FieldKind → Value → Prop
  /-- An identifier is a text. -/
  | id (s : String) : Admits .id (.string s)
  | string (s : String) : Admits .string (.string s)
  | int (n : Int) : Admits .int (.int n)
  /-- Integers are numbers too. -/
  | floatInt (n : Int) : Admits .float (.int n)
  | float (x : Double) : Admits .float (.float x)
  | decimal (d : Decimal) : Admits .float (.decimal d)
  | boolean (b : Bool) : Admits .boolean (.bool b)
  | date (d : Date) : Admits .date (.date d)
  | moment (m : Moment) : Admits .date (.moment m)
  /-- A text is a date if it is in the notation of dates, where a line end may stand
  after a time. -/
  | dateText {s : String} (h : s.toList ∈ Iso.line.matches') : Admits .date (.string s)
  /-- Values of no common kind can be anything. -/
  | json (v : Value) : Admits .json v
  | list (items : List Value) : Admits .list (.list items)
  | tuple (items : List Value) : Admits .list (.tuple items)
  | object (entries : Entries) : Admits .object (.map entries)
  /-- A node is referred to by a scalar. -/
  | node {v : Value} (hsequence : v.isSequence = false) (hmap : v.isMap = false) : Admits .node v

namespace Field

mutual

/-- **A field describes a value**: the value is of the kind of the field, or
it is a list and its items that are present are of the kind of the items. -/
inductive Describes : Field → Value → Prop
  | one {f : Field} {kind : FieldKind} {ne_list : kind ≠ .list} {v : Value}
      (htype : f.type = .one kind ne_list) (hv : Holds kind f.fields v) : Describes f v
  | listOf {f : Field} {kind : FieldKind} {v : Value} {items : List Value}
      (htype : f.type = .listOf kind) (hv : v.items? = some items)
      (hitems : ∀ item ∈ items, item.isMissing = false → Holds kind f.fields item) :
      Describes f v

/-- **A kind holds of a value**, given the fields of objects: an object is
described entry by entry. -/
inductive Holds : FieldKind → Option FieldMap → Value → Prop
  | plain {kind : FieldKind} {fields : Option FieldMap} {v : Value} (hkind : kind ≠ .object)
      (hv : kind.Admits v) : Holds kind fields v
  | object {fields : FieldMap} {entries : Entries}
      (hentries : ∀ name f, (name, f) ∈ fields → ∀ v, Entries.get? name entries = some v →
        v.isMissing = false → Describes f v) :
      Holds .object (some fields) (.map entries)

end

/-- **A field below another**: a field of its objects, or one below these. -/
inductive IsBelow (f : Field) : Field → Prop
  | field {fields : FieldMap} {name : String} {g : Field} (hfields : f.fields = some fields)
      (hg : (name, g) ∈ fields) : IsBelow f g
  | step {g h : Field} {fields : FieldMap} {name : String} (hg : IsBelow f g)
      (hfields : g.fields = some fields) (hh : (name, h) ∈ fields) : IsBelow f h

/-- A field that links to no node, neither by its values nor by the items of
lists, and follows no reference. -/
structure LinksNowhere (f : Field) : Prop where
  kind_ne : f.type.kind ≠ .node
  itemKind?_ne : f.type.itemKind? ≠ some .node
  followsReference_eq : f.followsReference = false

end Field

end ContentGraph
