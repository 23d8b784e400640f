import AsyncBody.Text.Quoted

/-!
The options of the lowering and the reasons to refuse it: the name of the import hook must be an
identifier, free at the top level, and visible wherever the hook is used.
-/
namespace AsyncBody

structure Options where
  importName : String := "$import"
deriving DecidableEq, Repr

inductive ConfigError where
  | invalidImportName (name : String)
  | importNameCollision (name : String)
  | importNameShadowed (name : String)
deriving DecidableEq, Repr

def ConfigError.message : ConfigError → String
  | .invalidImportName name => "import name " ++ Text.quoted name ++ " is not a valid identifier"
  | .importNameCollision name =>
    "import name " ++ Text.quoted name ++ " is already bound at the top level of the module"
  | .importNameShadowed name =>
    "import name " ++ Text.quoted name ++ " is shadowed where `import()` or `import.meta` is used"

inductive OptionsError where
  | notAString (found : Json)
  | notOptions (found : Json)
  | tooLong (length : Nat)

namespace OptionsError

/-- A decimal that has at least one place and no further trailing zeros. -/
def pointText (d : Decimal) : String :=
  let text := (Json.decimalText d).toList.reverse
  let trimmed := text.dropWhile (· == '0')
  String.ofList (match trimmed with
    | '.' :: _ => ('0' :: trimmed).reverse
    | _ => trimmed.reverse)

/-- How a value is named in a complaint about it. -/
def describe : Json → String
  | .null => "null"
  | .bool b => "boolean `" ++ toString b ++ "`"
  | .number ⟨digits,0⟩ => "integer `" ++ toString digits ++ "`"
  | .number d => "floating point `" ++ pointText d ++ "`"
  | .string s => "string " ++ Text.quoted s
  | .array _ => "sequence"
  | .object _ => "map"

def message : OptionsError → String
  | .notAString found => "invalid type: " ++ describe found ++ ", expected a string"
  | .notOptions found =>
    "invalid type: " ++ describe found ++ ", expected struct ModuleToFunctionOptions"
  | .tooLong length =>
    "invalid length " ++ toString length ++ ", expected fewer elements in array"

end OptionsError

namespace Options

def validate (o : Options) : Except ConfigError Unit :=
  if Text.isBindingIdentifier o.importName then .ok ()
  else .error (.invalidImportName o.importName)

theorem importName_ne_arguments {o : Options} (h : o.validate = .ok ()) :
    o.importName ≠ "arguments" := by
  intro hname
  rw [validate,hname] at h
  cases h

def toJson (o : Options) : Json := .object [("importName", .string o.importName)]

def nameOf : Json → Except OptionsError Options
  | .string name => .ok ⟨name⟩
  | other => .error (.notAString other)

/-- Options are an object with the field `importName`, or a list that holds the name alone; what is
left out has its default. -/
def ofJson : Json → Except OptionsError Options
  | .object fields =>
    match fields.lookup "importName" with
    | some name => nameOf name
    | none => .ok {}
  | .array [] => .ok {}
  | .array [name] => nameOf name
  | .array (name :: rest) => do
    let _ ← nameOf name
    .error (.tooLong (rest.length + 1))
  | other => .error (.notOptions other)

end Options
end AsyncBody
