import FaultPlane.Json.Codec
import FaultPlane.Table

/-!
# Variants and dictionaries

A value of a sum type is written as the name of its variant, or as an object with the name as its
only key when the variant carries a value. A dictionary is an object with keys of any kind.
-/

namespace FaultPlane.Json

/-! ### Variants -/

/-- What a variant carries. -/
inductive Variant (α : Type) where
  | bare (a : α)
  | carrying (read : Reader α)

/-- The closing brace of an object with one key. -/
def endVariant : Reader Unit := fun cs =>
  match dropBlanks cs with
  | [] => throw .endInObject
  | '}' :: cs => pure ((), cs)
  | _ => throw .expectedValue

/-- The `null` that stands for the value of a bare variant. -/
def readUnit : Reader Unit := fun cs =>
  match dropBlanks cs with
  | 'n' :: cs => expectWord ['u', 'l', 'l'] cs
  | _ => refuse "unit" cs

/-- The variant with the name, or a refusal that lists the names there are. -/
def findVariant {α : Type} (variants : List (String × Variant α)) (name : String) :
    Except Problem (Variant α) :=
  match variants.lookup name with
  | some v => pure v
  | none => throw (.unknownVariant name (variants.map (·.1)))

/-- A value of a sum type. -/
def readVariant {α : Type} (variants : List (String × Variant α)) : Reader α := fun cs =>
  match dropBlanks cs with
  | [] => throw .endInValue
  | '"' :: cs => do
    let (name, cs) ← textBody cs
    match ← findVariant variants name with
    | .bare a => pure (a, cs)
    | .carrying _ => throw (.wrongType .unitVariant "newtype variant")
  | '{' :: cs => do
    let (name, cs) ← readText "variant identifier" cs
    let variant ← findVariant variants name
    let (_, cs) ← expectColon cs
    let (a, cs) ← match variant with
      | .bare a => do
        let (_, cs) ← readUnit cs
        pure (a, cs)
      | .carrying read => read cs
    let (_, cs) ← endVariant cs
    pure (a, cs)
  | _ => throw .expectedValue

/-- A type whose variants are all bare, listed with their names. -/
def Codec.choice {α : Type} (all : List α) (name : α → String) : Codec α where
  read := readVariant (all.map fun a => (name a, .bare a))
  write a := .text (name a)

/-! ### Dictionaries -/

/-- Texts by key; of a repeated key the last text counts. -/
def Codec.dictionary : Codec (Table String) where
  read cs :=
    match dropBlanks cs with
    | '{' :: cs => do
      let entry (key : String) (table : Table String) : Reader (Table String) := fun cs => do
        let (_, cs) ← expectColon cs
        let (value, cs) ← readText "a string" cs
        pure (table.insert key value, cs)
      let (table, cs) ← foldEntries entry (cs.length + 1) true .empty cs
      let (_, cs) ← endObject cs
      pure (table, cs)
    | _ => refuse "a map" cs
  write table := .object (table.entries.map fun (key, value) => (key, .text value))

end FaultPlane.Json
