import FaultPlane.Json.Codec

/-!
# Records

Records are read from objects, whose keys may come in any order, and from arrays of their fields in
order. Unknown keys are passed over, a known key may come once. Each field says what stands for it
when it is absent.
-/

namespace FaultPlane.Json

/-! ### Fields -/

/-- One field of a record. -/
structure Field (α : Type) where
  key : String
  codec : Codec α
  /-- The value when the key does not occur; nothing if it has to. -/
  absent : Option α
  /-- The value when an array ends before the field; nothing if it must not. -/
  beyond : Option α
  /-- Whether the value is left out when the record is written. -/
  isOmitted : α → Bool

namespace Field

/-- A field that has to be there. -/
def required {α : Type} (key : String) (codec : Codec α) : Field α :=
  ⟨key, codec, none, none, fun _ => false⟩

/-- A field with a value of its own when it is absent. -/
def withDefault {α : Type} (key : String) (codec : Codec α) (default : α) : Field α :=
  ⟨key, codec, some default, some default, fun _ => false⟩

/-- An optional field that is written as `null` when it is unset. -/
def nullable {α : Type} (key : String) (codec : Codec α) : Field (Option α) :=
  ⟨key, .option codec, some none, some none, fun _ => false⟩

/-- An optional field that is left out when it is unset. -/
def optional {α : Type} (key : String) (codec : Codec α) : Field (Option α) :=
  ⟨key, .option codec, some none, some none, Option.isNone⟩

/-- An optional field that is left out when it is unset, but that an array must hold. -/
def optionalKey {α : Type} (key : String) (codec : Codec α) : Field (Option α) :=
  ⟨key, .option codec, some none, none, Option.isNone⟩

end Field

/-- The fields of a record in order. `β` is the type of all their values, `σ` that of the values
found so far. -/
inductive Fields : Type → Type → Type 1 where
  | nil : Fields Unit Unit
  | cons {α β σ : Type} (field : Field α) (rest : Fields β σ) : Fields (α × β) (Option α × σ)

namespace Fields

/-- Nothing found yet. -/
def blank : {β σ : Type} → Fields β σ → σ
  | _, _, .nil => ()
  | _, _, .cons _ rest => (none, rest.blank)

def size : {β σ : Type} → Fields β σ → Nat
  | _, _, .nil => 0
  | _, _, .cons _ rest => rest.size + 1

/-- Reads the value of a known key, after the key; nothing for an unknown key. A key that has been
found already is a problem before its value is looked at. -/
def fill : {β σ : Type} → Fields β σ → String → σ → Option (Reader σ)
  | _, _, .nil, _, _ => none
  | _, _, .cons field rest, key, (found, others) =>
    if key = field.key then
      some fun cs => do
        if found.isSome then throw (.repeatedField key)
        let (_, cs) ← expectColon cs
        let (a, cs) ← field.codec.read cs
        pure ((some a, others), cs)
    else
      (rest.fill key others).map fun reader cs => do
        let (others, cs) ← reader cs
        pure ((found, others), cs)

/-- Reads one entry of an object, after its key. -/
def entry {β σ : Type} (fields : Fields β σ) (key : String) (found : σ) : Reader σ :=
  match fields.fill key found with
  | some reader => reader
  | none => fun cs => do
    let (_, cs) ← expectColon cs
    let (_, cs) ← skipValue cs
    pure (found, cs)

/-- The values of all fields, once the object is read. -/
def complete : {β σ : Type} → Fields β σ → σ → Except Problem β
  | _, _, .nil, _ => pure ()
  | _, _, .cons field rest, (found, others) => do
    let a ← match found <|> field.absent with
      | some a => pure a
      | none => throw (.missingField field.key)
    let b ← rest.complete others
    pure (a, b)

/-- Reads the values of all fields from an array. `name` and `total` describe the whole record and
`index` is the number of fields before these. -/
def readItems (name : String) (total : Nat) :
    {β σ : Type} → Fields β σ → Nat → Reader β
  | _, _, .nil, _ => fun cs => pure ((), cs)
  | _, _, .cons field rest, index => fun cs => do
    let (a, cs) ← match ← nextItem (index = 0) cs with
      | (true, cs) => field.codec.read cs
      | (false, cs) =>
        match field.beyond with
        | some a => pure (a, cs)
        | none => throw (.wrongLength index name total)
    let (b, cs) ← rest.readItems name total (index + 1) cs
    pure ((a, b), cs)

/-- The entries that a record is written as. -/
def entries : {β σ : Type} → Fields β σ → β → List (String × Json)
  | _, _, .nil, _ => []
  | _, _, .cons field rest, (a, b) =>
    if field.isOmitted a then rest.entries b
    else (field.key, field.codec.write a) :: rest.entries b

end Fields

/-! ### Records -/

/-- The record `name` with the given fields, built from their values by `make` and taken apart by
`parts`. -/
def Codec.record {α β σ : Type} (name : String) (fields : Fields β σ) (make : β → α)
    (parts : α → β) : Codec α where
  read cs :=
    match dropBlanks cs with
    | '{' :: cs => do
      let (found, cs) ← foldEntries fields.entry (cs.length + 1) true fields.blank cs
      let b ← fields.complete found
      let (_, cs) ← endObject cs
      pure (make b, cs)
    | '[' :: cs => do
      let (b, cs) ← fields.readItems name fields.size 0 cs
      let (_, cs) ← endList cs
      pure (make b, cs)
    | _ => refuse ("struct " ++ name) cs
  write a := .object (fields.entries (parts a))

end FaultPlane.Json
