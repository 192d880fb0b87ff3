import CommonExpr.Pattern.Search
import CommonExpr.Registry.Basic
import CommonExpr.Text.Case

/-! The standard functions: conversions, collections, text and mathematics. -/

namespace CommonExpr.Standard

def reject (cause : Rejection) : Except Failure α :=
  .error (.rejected cause)

/-- An implementation of one argument. Calls with another count of arguments do not
get as far as this. -/
def unary (body : Value → Except Failure Value) : List Value → Except Failure Value
  | value :: _ => body value
  | [] => .error (.broken (.reported .type "missing argument"))

def binary (body : Value → Value → Except Failure Value) : List Value → Except Failure Value
  | first :: second :: _ => body first second
  | _ => .error (.broken (.reported .type "missing argument"))

def ternary (body : Value → Value → Value → Except Failure Value) : List Value → Except Failure Value
  | first :: second :: third :: _ => body first second third
  | _ => .error (.broken (.reported .type "missing argument"))

def conversion (name returnType description : String) (examples : List String)
    (implementation : Value → Except Failure Value) : Definition where
  name := name
  description := description
  category := .conversion
  parameters := [{ name := "value", type := "any", description := "The value to convert" }]
  returnType := returnType
  implementation := unary implementation
  examples := examples

def conversions : List Definition :=
  [conversion "int" "int" "Converts a number, integer string or bool to int" ["int(\"42\") == 42", "int(3.9) == 3"]
    fun value => return .int (← value.toInt),
   conversion "uint" "uint" "Converts to a non-negative integer" ["uint(\"7\") == 7u"]
    fun value => return .int (← value.toUnsigned),
   conversion "double" "double" "Converts a number or numeric string to double" ["double(\"2.5\") > 2.0"]
    fun value => return .double (← value.toDouble),
   conversion "string" "string" "Formats any value as text" ["\"total: \" + string(count)"]
    fun value => return .string (← value.format),
   conversion "bool" "bool" "Interprets a value as true/false (non-zero, non-empty)" ["bool(items)"]
    fun value => return .bool value.toBool,
   conversion "type" "string" "Returns the simple type name of a value" ["type(value) == \"string\""]
    fun value => return .string value.typeName]

/-- A part of a text, or an element of a list. -/
def containment (target item : Value) : Except Failure Value :=
  match target, item with
  | .text _ content, .text _ sought => return .bool (Text.contains content sought)
  | .text _ _, _ => reject (.stringsRequired "contains")
  | .list elements, _ => return .bool (elements.any (·.deepEquals item))
  | _, _ => reject (.noContainment target.typeName)

def collections : List Definition :=
  [{ name := "size", description := "Returns length of a string, list or map; 0 for null", category := .collection
     parameters := [{ name := "value", type := "string|list|map", description := "The value to measure" }]
     returnType := "int"
     implementation := unary fun value => return .int (← value.sizeOf)
     examples := ["size(tags) >= 1", "size(\"\") == 0"] },
   { name := "size", description := "Returns length of the target string, list or map", category := .collection
     parameters := []
     returnType := "int"
     implementation := unary fun value => return .int (← value.sizeOf)
     method := true
     examples := ["tags.size() > 0"] },
   { name := "has", description := "Returns true if a map contains the given key", category := .collection
     parameters :=
       [{ name := "target", type := "map", description := "The map to inspect" },
        { name := "field", type := "string", description := "The key to look for" }]
     returnType := "bool"
     implementation := binary fun target field => return .bool (target.hasField field)
     examples := ["has(user, \"email\")"] },
   { name := "max", description := "Returns the greatest argument", category := .collection
     parameters := [{ name := "values", type := "any", description := "Values to compare", variadic := true }]
     returnType := "any"
     implementation := Value.greatest
     examples := ["max(a, b, c)"] },
   { name := "min", description := "Returns the least argument", category := .collection
     parameters := [{ name := "values", type := "any", description := "Values to compare", variadic := true }]
     returnType := "any"
     implementation := Value.least
     examples := ["min(limit, requested)"] },
   { name := "contains", description := "Tests for a substring (strings) or an element (lists)"
     category := .collection
     parameters := [{ name := "item", type := "any", description := "The substring or element" }]
     returnType := "bool"
     implementation := binary containment
     method := true
     examples := ["email.contains(\"@\")", "roles.contains(\"admin\")"] }]

/-- A method on text without arguments. -/
def onText (name : String) (body : String → Value) (target : Value) : Except Failure Value :=
  match target with
  | .text _ content => return body content
  | _ => reject (.stringsRequired name)

/-- A method on text with one text as its argument. -/
def onTexts (name : String) (body : String → String → Value) (target argument : Value) : Except Failure Value :=
  match target, argument with
  | .text _ content, .text _ other => return body content other
  | _, _ => reject (.stringsRequired name)

def replacement (target old new : Value) : Except Failure Value :=
  match target, old, new with
  | .text _ content, .text _ sought, .text _ substitute => return .string (Text.replace content sought substitute)
  | _, _, _ => reject (.stringsRequired "replace")

def startsWith (content start : String) : Bool :=
  start.toList.isPrefixOf content.toList

def endsWith (content ending : String) : Bool :=
  ending.toList.isSuffixOf content.toList

def textMethod (name returnType description : String) (parameters : List Parameter) (examples : List String)
    (implementation : List Value → Except Failure Value) : Definition where
  name := name
  description := description
  category := .string
  parameters := parameters
  returnType := returnType
  implementation := implementation
  method := true
  examples := examples

def texts : List Definition :=
  [{ name := "matches", description := "Tests if a regex pattern matches anywhere in the text", category := .string
     parameters :=
       [{ name := "text", type := "string", description := "The string to search" },
        { name := "pattern", type := "string", description := "Regular expression pattern" }]
     returnType := "bool"
     implementation := binary fun text pattern => return .bool (← text.matchesPattern pattern)
     examples := ["matches(email, \"@example\\\\.com$\")"] },
   { name := "matches", description := "Tests if a regex pattern matches anywhere in the target"
     category := .string
     parameters := [{ name := "pattern", type := "string", description := "Regular expression pattern" }]
     returnType := "bool"
     implementation := binary fun text pattern => return .bool (← text.matchesPattern pattern)
     method := true
     examples := ["code.matches(\"^[A-Z]\x7b3\x7d$\")"] },
   textMethod "startsWith" "bool" "Tests if the target starts with prefix"
    [{ name := "prefix", type := "string", description := "Expected prefix" }] ["name.startsWith(\"Dr.\")"]
    (binary (onTexts "startsWith" fun content start => .bool (startsWith content start))),
   textMethod "endsWith" "bool" "Tests if the target ends with suffix"
    [{ name := "suffix", type := "string", description := "Expected suffix" }]
    ["email.endsWith(\"@example.com\")"]
    (binary (onTexts "endsWith" fun content ending => .bool (endsWith content ending))),
   textMethod "toLowerCase" "string" "Converts the target to lowercase" [] ["country.toLowerCase() == \"us\""]
    (unary (onText "toLowerCase" fun content => .string (Text.lower content))),
   textMethod "toUpperCase" "string" "Converts the target to uppercase" [] ["code.toUpperCase() == \"ABC\""]
    (unary (onText "toUpperCase" fun content => .string (Text.upper content))),
   textMethod "trim" "string" "Removes whitespace from both ends" [] ["name.trim() != \"\""]
    (unary (onText "trim" fun content => .string (Text.trim content))),
   textMethod "replace" "string" "Replaces every literal occurrence of old with new"
    [{ name := "old", type := "string", description := "Text to replace" },
     { name := "new", type := "string", description := "Replacement text" }] ["phone.replace(\"-\", \"\")"]
    (ternary replacement),
   textMethod "split" "list" "Splits the target on a literal separator"
    [{ name := "separator", type := "string", description := "Literal separator" }]
    ["tags.split(\",\").size() <= 5"]
    (binary (onTexts "split" fun content separator => .list ((Text.split content separator).map .string)))]

/-- Whole numbers are what they round to. -/
def wholePart (name : String) (rounded : Double → Option Int) (value : Value) : Except Failure Value :=
  match value with
  | .int whole => return .int whole
  | .double number =>
    match rounded number with
    | some whole => return .int whole
    | none => reject (.finiteRequired name number.text)
  | other => reject (.numberRequired name other.typeName)

def magnitude (value : Value) : Except Failure Value :=
  match value with
  | .number number => return .number number.absolute
  | other => reject (.numberRequired "abs" other.typeName)

/-- The number is checked before the count of places, and an integer stays as it is. -/
def rounding (value places : Value) : Except Failure Value :=
  match value, places with
  | .int _, .int _ => return value
  | .double number, .int count =>
    if !number.isFinite then reject (.finiteRequired "round" number.text)
    else match number.roundHalfUp count with
      | .ok result => return .double result
      | .error .precision => .error (.broken .decimalPrecision)
      | .error .range => .error (.broken .decimalRange)
  | .double number, _ =>
    reject (if number.isFinite then .wholePlacesRequired else .finiteRequired "round" number.text)
  | .int _, _ => reject .wholePlacesRequired
  | other, _ => reject (.numberRequired "round" other.typeName)

def mathematics : List Definition :=
  [{ name := "abs", description := "Returns absolute value of a number", category := .math
     parameters := [{ name := "value", type := "number", description := "The number" }]
     returnType := "number"
     implementation := unary magnitude
     examples := ["abs(balance) < 1000"] },
   { name := "floor", description := "Rounds down to the nearest integer", category := .math
     parameters := [{ name := "value", type := "number", description := "The number to round down" }]
     returnType := "int"
     implementation := unary (wholePart "floor" Double.floor?)
     examples := ["floor(rating) >= 3"] },
   { name := "ceil", description := "Rounds up to the nearest integer", category := .math
     parameters := [{ name := "value", type := "number", description := "The number to round up" }]
     returnType := "int"
     implementation := unary (wholePart "ceil" Double.ceil?)
     examples := ["ceil(hours) <= 8"] },
   { name := "round", description := "Rounds a number to specified decimal places (half-up)", category := .math
     parameters :=
       [{ name := "value", type := "number", description := "The number to round" },
        { name := "decimals", type := "int", description := "Number of decimal places", required := false }]
     returnType := "number"
     implementation := fun arguments =>
       match arguments with
       | [value] => rounding value (.int 0)
       | _ => binary rounding arguments
     examples := ["round(price, 2) == 9.99"] }]

def definitions : List Definition :=
  conversions ++ collections ++ texts ++ mathematics

end CommonExpr.Standard

namespace CommonExpr.Registries

/-- Registers the standard functions with a registry. -/
def registerStandard (registries : Registries) (id : Nat) : Registries :=
  Standard.definitions.foldl (fun current definition => current.register id definition) registries

/-- One registry, number zero, which holds the standard functions. -/
def standard : Registries :=
  let (registries, id) := empty.create .none
  registries.registerStandard id

end CommonExpr.Registries
