import Docblock.Text.Quoted

/-! Declarations: their kinds, the sites where they stand, and how far a search for one may go. -/

set_option autoImplicit false

namespace Docblock

/-- `type` stands for classes, interfaces and enums alike. -/
inductive Kind where
  | type
  | method
  | constructor
  | property
  | enumValue
  | function
  | var
  deriving DecidableEq, Repr

namespace Kind

def name : Kind → String
  | type => "class"
  | method => "method"
  | constructor => "constructor"
  | property => "property"
  | enumValue => "enum_value"
  | function => "function"
  | var => "variable"

def all : List Kind := [type, method, constructor, property, enumValue, function, var]

def ofName? (name : Text) : Option Kind := all.find? (·.name.toList == name)

theorem mem_all (kind : Kind) : kind ∈ all := by
  cases kind <;> decide

theorem ofName?_name (kind : Kind) : ofName? kind.name.toList = some kind := by
  cases kind <;> decide

end Kind

/-- The line that starts or characterises a declaration. -/
structure Site where
  kind : Kind
  line : Nat
  deriving DecidableEq, Repr

inductive SiteError where
  | unknownKind (name : Text)
  | negativeLine
  deriving DecidableEq, Repr

def SiteError.message : SiteError → String
  | unknownKind name => String.ofList name.quoted ++ " is not a valid DeclarationKind"
  | negativeLine => "DeclarationSite line must be >= 0"

def Kind.read (name : Text) : Except SiteError Kind :=
  match ofName? name with
  | some kind => .ok kind
  | none => .error (.unknownKind name)

def Site.make (kind : Text) (line : Int) : Except SiteError Site := do
  let kind ← Kind.read kind
  if line < 0 then .error .negativeLine else return ⟨kind, line.toNat⟩

/-- How many lines the bounded scans may look at. -/
structure Windows where
  commentLookback : Int := 100
  annotationRun : Int := 10
  signature : Int := 50
  declaration : Int := 200
  enumBlock : Int := 200
  enclosingType : Int := 400
  deriving DecidableEq, Repr

end Docblock
