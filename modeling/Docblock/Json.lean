import Docblock.Text.Basic

/-! JSON values. Whole numbers are kept apart from numbers with a fraction or an exponent, and objects
keep the order of their fields. -/

set_option autoImplicit false

namespace Docblock

/-- A value whose strings are of the type `σ`: texts, or rows of code points. -/
inductive Json (σ : Type := Text) where
  | null
  | bool (value : Bool)
  | int (value : Int)
  /-- `mantissa` times ten to the power of `exponent`. -/
  | decimal (mantissa exponent : Int)
  | infinity (negative : Bool)
  | notANumber
  | text (value : σ)
  | array (items : List (Json σ))
  | object (fields : List (σ × Json σ))
  deriving Repr

namespace Json

def str (value : String) : Json := text value.toList

def record (fields : List (String × Json)) : Json :=
  object (fields.map fun (name, value) => (name.toList, value))

def ofOption {α : Type} (encode : α → Json) : Option α → Json
  | some value => encode value
  | none => null

def ofList {α : Type} (encode : α → Json) (values : List α) : Json :=
  array (values.map encode)

def lookup {σ : Type} [BEq σ] (name : σ) : Json σ → Option (Json σ)
  | object fields => fields.lookup name
  | _ => none

def field? (name : String) (value : Json) : Option Json := value.lookup name.toList

mutual

/-- The value with its strings, names included, put through a function. -/
def map {σ τ : Type} (f : σ → τ) : Json σ → Json τ
  | null => null
  | bool value => bool value
  | int value => int value
  | decimal mantissa exponent => decimal mantissa exponent
  | infinity negative => infinity negative
  | notANumber => notANumber
  | text value => text (f value)
  | array items => array (mapItems f items)
  | object fields => object (mapFields f fields)

def mapItems {σ τ : Type} (f : σ → τ) : List (Json σ) → List (Json τ)
  | [] => []
  | item :: rest => item.map f :: mapItems f rest

def mapFields {σ τ : Type} (f : σ → τ) : List (σ × Json σ) → List (τ × Json τ)
  | [] => []
  | (name, value) :: rest => (f name, value.map f) :: mapFields f rest

end

end Json

end Docblock
