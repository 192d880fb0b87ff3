import CommonExpr.Number.Text
import CommonExpr.Text.Quoted

/-! The limits that are set on expressions, and how settings of the environment
change them. -/

namespace CommonExpr

/-- How deep sub-expressions and operators before an operand may nest, and how many
characters an expression may have. -/
structure Limits where
  maxDepth : Int := 48
  maxSourceLength : Int := 100000
deriving DecidableEq, Repr

inductive SettingError where
  | notAnInteger (name text : String)
  | notPositive (name : String) (value : Int)
deriving DecidableEq, Repr

def SettingError.message : SettingError → String
  | .notAnInteger name text => s!"{name} must be an integer, got {Text.quoted text}"
  | .notPositive name value => s!"{name} must be positive, got {value}"

namespace Limits

/-- A setting that is missing or blank leaves the default. -/
def setting (name : String) (default : Int) (text? : Option String) : Except SettingError Int :=
  match text? with
  | none => .ok default
  | some text =>
    if (Text.trim text).isEmpty then .ok default
    else match readInteger? text with
      | none => .error (.notAnInteger name text)
      | some value => if value ≤ 0 then .error (.notPositive name value) else .ok value

/-- The depth is read first. -/
def ofEnvironment (lookup? : String → Option String) : Except SettingError Limits := do
  let depth ← setting depthName ({} : Limits).maxDepth (lookup? depthName)
  let length ← setting lengthName ({} : Limits).maxSourceLength (lookup? lengthName)
  return ⟨depth, length⟩
where
  depthName := "LIBCEL_MAX_DEPTH"
  lengthName := "LIBCEL_MAX_SOURCE_LENGTH"

end Limits
end CommonExpr
