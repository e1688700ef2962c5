/-
What a field of a message can come upon inside a value.

From a value a field goes on to its features, to its items, to its type and to the operations that
its type has.  Features and items of plain values are values again; all else can be shown, but
takes no layout.
-/
import ComputeNodes.Message.Layout
import ComputeNodes.Message.ValueType

namespace ComputeNodes.Message

/-- Why there is no such part. -/
inductive PartFault where
  | noFeature (typeName name : String)
  | notOfType (typeName name : String)
  | notAbstract
  | noEntry (shown : String)
  | pastEnd (typeName : String)
  | notIndexed (typeName : String)
  | typeNotIndexed (typeName : String)
  | textIndex
  | itemIndex (typeName : String)
  deriving DecidableEq, Repr

def PartFault.text : PartFault → String
  | .noFeature typeName name => "'" ++ typeName ++ "' object has no attribute '" ++ name ++ "'"
  | .notOfType typeName name =>
    "type object '" ++ typeName ++ "' has no attribute '" ++ name ++ "'"
  | .notAbstract => "__abstractmethods__"
  | .noEntry shown => shown
  | .pastEnd typeName => typeName ++ " index out of range"
  | .notIndexed typeName => "'" ++ typeName ++ "' object is not subscriptable"
  | .typeNotIndexed typeName => "type '" ++ typeName ++ "' is not subscriptable"
  | .textIndex => "string indices must be integers, not 'str'"
  | .itemIndex typeName => typeName ++ " indices must be integers or slices, not str"

/-- What a step leads to. -/
inductive Part where
  | value (v : Value)
  | type (t : ValueType)
  /-- Types in a row. -/
  | types (ts : List ValueType)
  /-- Something a type has for its values, taken from one of them or from the type itself. -/
  | bound (sort : ValueType) (name qualified : String) (owner : ValueType) (self : Part)
  /-- Something a type has for its values, taken from none of them. -/
  | loose (sort : ValueType) (name : String) (owner : ValueType)
  /-- A type marked with what its items are. -/
  | marked (text : String)
  deriving Repr

/-- The key or the position that an item is asked for by. -/
inductive Index where
  | position (n : Nat)
  | key (name : String)
  deriving DecidableEq, Repr

/-- An index as it is shown inside brackets. -/
def Index.shown : Index → String
  | .position n => toString n
  | .key name => Text.quoted name

namespace Part

/-- The type of a part. -/
def valueType : Part → ValueType
  | .value v => ValueType.named v.typeName
  | .type _ => .type
  | .types _ => .tuple
  | .bound sort .. => sort
  | .loose sort .. => sort
  | .marked _ => .marked

/-- A type as it is shown. -/
def typeText (t : ValueType) : String := "<class '" ++ t.name ++ "'>"

/-- A part as it is shown, its texts in quotation marks. -/
def shown : Part → String
  | .value v => v.shown
  | .type t => typeText t
  | .types [t] => "(" ++ typeText t ++ ",)"
  | .types ts => "(" ++ ", ".intercalate (ts.map typeText) ++ ")"
  | .bound sort name _ _ self =>
    let word := if sort == .signOperation then "method-wrapper '" ++ name ++ "'"
      else "built-in method " ++ name
    "<" ++ word ++ " of " ++ self.valueType.name ++ " object>"
  | .loose sort name owner =>
    let word := if sort == .looseSign then "slot wrapper"
      else if sort == .looseOperation then "method"
      else if sort == .looseMember then "member" else "attribute"
    "<" ++ word ++ " '" ++ name ++ "' of '" ++ owner.name ++ "' objects>"
  | .marked text => text

/-- A part as it is shown on its own. -/
def plain : Part → String
  | .value v => v.plain
  | part => part.shown

/-- Lays a part out. -/
def layOut (layout : List Char) : Part → Except LayoutFault String
  | .value v => Layout.apply layout v
  | part =>
    if layout.isEmpty then .ok part.plain else .error (.notLaidOut part.valueType.name)

/-- A text, or nothing. -/
def ofText? : Option String → Part
  | some s => .value (.text s)
  | none => .value .null

/-! ### Features -/

/-- The number that a whole number or a truth value is. -/
def whole? : Value → Option Int
  | .int n => some n
  | .bool b => some (if b then 1 else 0)
  | _ => none

/-- A feature of a value; only numbers have some. -/
def ofValue (v : Value) (name : String) : Value :=
  match whole? v, v, name with
  | some n, _, "real" => .int n
  | some n, _, "numerator" => .int n
  | some _, _, "denominator" => .int 1
  | some _, _, _ => .int 0
  | none, .float x, "real" => .float x
  | none, .float _, _ => .float 0.0
  | none, _, _ => .null

/-- A feature of a part that is no type. -/
def feature (part : Part) (name : String) : Part :=
  match part, name with
  | _, "__class__" => .type part.valueType
  | .value v, _ => .value (ofValue v name)
  | .bound _ name _ _ _, "__name__" => .value (.text name)
  | .bound _ _ qualified _ _, "__qualname__" => .value (.text qualified)
  | .bound _ _ _ owner _, "__objclass__" => .type owner
  | .bound _ _ _ _ self, "__self__" => self
  | .loose _ name _, "__name__" => .value (.text name)
  | .loose _ name owner, "__qualname__" => .value (.text (owner.name ++ "." ++ name))
  | .loose _ _ owner, "__objclass__" => .type owner
  | _, _ => .value .null

/-- What a part that is no type has under a name. -/
def ofInstance (part : Part) (name : String) : Except PartFault Part :=
  let t := part.valueType
  if name == "__doc__" then .ok (ofText? t.doc)
  else
    match t.owner? name with
    | none => .error (.noFeature t.name name)
    | some owner =>
      let qualified (s : String) : String := s ++ "." ++ name
      let named := match part with
        | .type self => self
        | _ => t
      if owner.empty.contains name then .ok (.value .null)
      else if owner.signs.contains name then
        .ok (.bound .signOperation name (qualified owner.name) owner part)
      else if owner.operations.contains name then
        .ok (.bound .operation name (qualified named.name) owner part)
      else if owner.ofType.contains name then
        .ok (.bound .operation name (qualified t.name) owner (.type t))
      else if owner.functions.contains name then
        .ok (.bound .operation name (qualified owner.name) owner (.type owner))
      else .ok (part.feature name)

/-- What a type says about itself under a name. -/
def aboutType? (t : ValueType) : String → Option (Except PartFault Part)
  | "__class__" => some (.ok (.type .type))
  | "__name__" => some (.ok (.value (.text t.name)))
  | "__qualname__" => some (.ok (.value (.text t.name)))
  | "__module__" => some (.ok (.value (.text "builtins")))
  | "__doc__" => some (.ok (ofText? t.doc))
  | "__mro__" => some (.ok (.types t.line))
  | "__bases__" => some (.ok (.types (t.line.drop 1 |>.take 1)))
  | "__base__" => some (.ok ((t.line.drop 1).head?.elim (.value .null) .type))
  | "__annotations__" => some (.error (.notOfType t.name "__annotations__"))
  | "__abstractmethods__" => some (.error .notAbstract)
  | _ => none

/-- What a type has for its values under a name. -/
def forValues? (t : ValueType) (name : String) : Option Part :=
  (t.owner? name).map fun owner =>
    let bound (of : ValueType) : Part :=
      .bound .operation name (of.name ++ "." ++ name) owner (.type of)
    if owner.empty.contains name then .value .null
    else if owner.signs.contains name then .loose .looseSign name owner
    else if owner.operations.contains name then .loose .looseOperation name owner
    else if owner.ofType.contains name then bound t
    else if owner.functions.contains name then bound owner
    else if owner.features.contains name then .loose .looseFeature name owner
    else .loose .looseMember name owner

/-- What a type has under a name: what it says about itself comes first, then what it has for its
values, and last what all types have. -/
def ofType (t : ValueType) (name : String) : Except PartFault Part :=
  match aboutType? t name, forValues? t name with
  | some answer, _ => answer
  | none, some part => .ok part
  | none, none => (ofInstance (.type t) name).mapError fun _ => .notOfType t.name name

/-- What a part has under a name. -/
def named : Part → String → Except PartFault Part
  | .type t, name => ofType t name
  | part, name => ofInstance part name

/-! ### Items -/

/-- An item of a list. -/
def item {α : Type} (typeName : String) (items : List α) : Index → Except PartFault α
  | .key _ => .error (.itemIndex typeName)
  | .position n =>
    match items[n]? with
    | some found => .ok found
    | none => .error (.pastEnd typeName)

/-- An item of a value. -/
def itemOfValue (v : Value) (index : Index) : Except PartFault Value :=
  match v, index with
  | .list items, index => item "list" items index
  | .text s, .position n =>
    match s.toList[n]? with
    | some c => .ok (.text c.toString)
    | none => .error (.pastEnd "string")
  | .text _, .key _ => .error .textIndex
  | .table entries, .key name =>
    match Entries.find? entries name with
    | some found => .ok found
    | none => .error (.noEntry (Text.quoted name))
  | .table _, .position n => .error (.noEntry (toString n))
  | other, _ => .error (.notIndexed other.typeName)

/-- An item of a part.  Types whose values have items can be marked with what those are. -/
def itemAt (part : Part) (index : Index) : Except PartFault Part :=
  match part with
  | .value v => (itemOfValue v index).map .value
  | .types ts => (item "tuple" ts index).map .type
  | .type t =>
    if t == .type || t.ofType.contains "__class_getitem__" then
      .ok (.marked (t.name ++ "[" ++ index.shown ++ "]"))
    else .error (.typeNotIndexed t.name)
  | other => .error (.notIndexed other.valueType.name)

end Part

end ComputeNodes.Message
