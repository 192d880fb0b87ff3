/-! Failures of evaluation as causes, and their wording. A failure is either a fault
of the expression, a call that the registry could not carry out, or a breakdown of
an operation below the language. -/

namespace CommonExpr

/-- What a fault of the expression is about. Types are given by name and values by
their text, as they stood when the fault was found. -/
inductive Fault where
  | unknownNode (node : String)
  | undefinedVariable (name : String)
  | selectionFrom (field typeName : String)
  | fieldNotFound (field : String)
  | indexOutOfBounds (position typeName : String) (size : Nat)
  | keyNotFound (key : String)
  | notIndexable (typeName : String)
  | indexNotNumber (typeName : String)
  | indexNotFinite (index : String)
  | loopShape (name : String)
  | loopVariable (name : String)
  | loopTarget (name typeName : String)
  | unknownLoop (name : String)
  | loopOutsideList (name : String)
  | comprehensionRange (typeName : String)
  | keyNotScalar (typeName : String)
  | notOperand (typeName : String)
  | negationOperand (typeName : String)
  | logicalOperand (operator typeName : String)
  | overflow (operator : String)
  | arithmeticOperands (operation left right : String)
  | addition (left right : String)
  | multiplication (left right : String)
  | repetitionCount (count : String)
  | divisionByZero
  | moduloByZero
  | notComparable (left right : String)
  | substringOperand (typeName : String)
  | membershipOperand (typeName : String)
  | nestedTooDeeply
  | notBool (typeName : String)
  | reported (text : String)
deriving DecidableEq, Repr

/-- The kinds of breakdown that a function of the host may report. -/
inductive ReportKind where
  | type
  | value
  | zeroDivision
  | overflow
  | lookup
deriving DecidableEq, Repr

/-- A failure of an operation that the language relies on. -/
inductive Breakdown where
  | numberTooLong
  | tooManyDigits (count : Nat)
  | infiniteDividend
  | overflow
  | decimalPrecision
  | decimalRange
  | conflictingFlags
  | repetitionLimit
  | lookLimit
  | crossedGroup
  | patternNesting
  | memory
  | reported (kind : ReportKind) (text : String)
deriving DecidableEq, Repr

/-- Why a function refused its arguments. -/
inductive Rejection where
  | arity (signature expected : String) (given : Nat)
  | nullTarget (method : String)
  | broken (signature : String) (cause : Breakdown)
  | noSize (typeName : String)
  | conversion (subject target : String)
  | negativeUnsigned (value : String)
  | matchOperands
  | badPattern (pattern detail : String)
  | noArguments (function : String)
  | stringsRequired (function : String)
  | noContainment (typeName : String)
  | numberRequired (function typeName : String)
  | finiteRequired (function value : String)
  | wholePlacesRequired
deriving DecidableEq, Repr

inductive Failure where
  | fault (cause : Fault)
  | unknownFunction (name : String)
  | unknownMethod (name : String)
  | reportedMissing (text : String)
  | rejected (cause : Rejection)
  | reportedRegistry (text : String)
  | broken (cause : Breakdown)
deriving DecidableEq, Repr

def Fault.message : Fault → String
  | .unknownNode node => "Unknown node type: " ++ node
  | .undefinedVariable name => "Undefined variable: " ++ name
  | .selectionFrom field typeName => s!"Cannot select field {field} from {typeName}"
  | .fieldNotFound field => s!"Field {field} not found"
  | .indexOutOfBounds position typeName size =>
    s!"Index {position} out of bounds for {typeName} of size {size}"
  | .keyNotFound key => "Map key not found: " ++ key
  | .notIndexable typeName => "Cannot index into " ++ typeName
  | .indexNotNumber typeName => "Index must be a number, got " ++ typeName
  | .indexNotFinite index => "Invalid index: " ++ index
  | .loopShape name => s!"Macro {name} requires a variable and an expression"
  | .loopVariable name => s!"First argument to macro {name} must be a variable name"
  | .loopTarget name typeName => s!"Macro {name} requires a list target, got {typeName}"
  | .unknownLoop name => "Unknown macro: " ++ name
  | .loopOutsideList name => s!"Macro '{name}' must be called on a list with a variable and an expression"
  | .comprehensionRange typeName => "Comprehension requires a list range, got " ++ typeName
  | .keyNotScalar typeName => "Map key must be a scalar, got " ++ typeName
  | .notOperand typeName => "'!' requires a bool operand, got " ++ typeName
  | .negationOperand typeName => "Cannot negate non-numeric value of type " ++ typeName
  | .logicalOperand operator typeName => s!"'{operator}' requires bool operands, got {typeName}"
  | .overflow operator => s!"Numeric overflow in '{operator}'"
  | .arithmeticOperands operation left right =>
    s!"{operation} requires numeric operands, got {left} and {right}"
  | .addition left right => s!"Cannot add {left} and {right}"
  | .multiplication left right => s!"Cannot multiply {left} and {right}"
  | .repetitionCount count => "Repetition count must be a non-negative integer, got " ++ count
  | .divisionByZero => "Division by zero"
  | .moduloByZero => "Modulo by zero"
  | .notComparable left right => s!"Values of type {left} and {right} are not comparable"
  | .substringOperand typeName => "'in' on a string requires a string operand, got " ++ typeName
  | .membershipOperand typeName => "'in' operator requires list, map, or string, got " ++ typeName
  | .nestedTooDeeply => "Expression nested too deeply"
  | .notBool typeName => "Expression must evaluate to bool, got " ++ typeName
  | .reported text => text

def Breakdown.message : Breakdown → String
  | .numberTooLong =>
    "Exceeds the limit (4300 digits) for integer string conversion; use sys.set_int_max_str_digits() to increase the limit"
  | .tooManyDigits count =>
    s!"Exceeds the limit (4300 digits) for integer string conversion: value has {count} digits; use sys.set_int_max_str_digits() to increase the limit"
  | .infiniteDividend => "math domain error"
  | .overflow => "int too large to convert to float"
  | .decimalPrecision => "[<class 'decimal.InvalidOperation'>]"
  | .decimalRange => "[<class 'decimal.Overflow'>]"
  | .conflictingFlags => "ASCII and UNICODE flags are incompatible"
  | .repetitionLimit => "the repetition number is too large"
  | .lookLimit => "invalid SRE code"
  | .crossedGroup => "The span of capturing group is wrong, please report a bug for the re module."
  | .patternNesting => "maximum recursion depth exceeded"
  | .memory => ""
  | .reported _ text => text

/-- The name under which a kind of breakdown is reported. -/
def ReportKind.name : ReportKind → String
  | .type => "TypeError"
  | .value => "ValueError"
  | .zeroDivision => "ZeroDivisionError"
  | .overflow => "OverflowError"
  | .lookup => "LookupError"

def Breakdown.name : Breakdown → String
  | .numberTooLong | .tooManyDigits _ | .infiniteDividend | .conflictingFlags => "ValueError"
  | .overflow | .repetitionLimit => "OverflowError"
  | .decimalPrecision => "InvalidOperation"
  | .decimalRange => "Overflow"
  | .lookLimit => "RuntimeError"
  | .crossedGroup => "SystemError"
  | .patternNesting => "RecursionError"
  | .memory => "MemoryError"
  | .reported kind _ => kind.name

/-- A breakdown that a registered function may have caused by its choice of
arguments. -/
def Breakdown.blamesArguments : Breakdown → Bool
  | .memory | .lookLimit | .crossedGroup | .patternNesting | .reported .lookup _ => false
  | _ => true

/-- To an evaluation, a pattern with too many groups inside each other is an expression
that is nested too deeply. -/
def Failure.overNesting : Failure → Failure
  | .broken .patternNesting => .fault .nestedTooDeeply
  | failure => failure

/-- The wording without what only the operation below the language has to say. -/
def Rejection.summary : Rejection → String
  | .arity signature expected given => s!"{signature} expects {expected} argument(s), got {given}"
  | .nullTarget method => s!"Cannot call method '{method}' on null"
  | .broken signature (.reported _ text) => s!"Invalid arguments for {signature}: {text}"
  | .broken signature _ => "Invalid arguments for " ++ signature
  | .noSize typeName => "size() not supported for type " ++ typeName
  | .conversion subject target => s!"Cannot convert {subject} to {target}"
  | .negativeUnsigned value => "Cannot convert negative value to uint: " ++ value
  | .matchOperands => "matches() requires string text and pattern"
  | .badPattern pattern _ => "Invalid regex pattern " ++ pattern
  | .noArguments function => function ++ "() requires at least one argument"
  | .stringsRequired function => function ++ "() requires string arguments"
  | .noContainment typeName => "contains() not supported for type " ++ typeName
  | .numberRequired function typeName => s!"{function}() requires a number, got {typeName}"
  | .finiteRequired function value => s!"{function}() requires a finite number, got {value}"
  | .wholePlacesRequired => "round() requires an integer number of digits"

def Rejection.message (cause : Rejection) : String :=
  match cause with
  | .broken signature breakdown => s!"Invalid arguments for {signature}: {breakdown.message}"
  | .badPattern _ detail => s!"{cause.summary}: {detail}"
  | _ => cause.summary

def Failure.messageBy (wording : Rejection → String) : Failure → String
  | .fault cause => cause.message
  | .unknownFunction name => "Unknown function: " ++ name
  | .unknownMethod name => "Unknown method: " ++ name
  | .reportedMissing text => text
  | .rejected cause => wording cause
  | .reportedRegistry text => text
  | .broken cause => cause.message

def Failure.message : Failure → String :=
  Failure.messageBy Rejection.message

def Failure.summary : Failure → String :=
  Failure.messageBy Rejection.summary

/-- The name under which a failure is reported. -/
def Failure.name : Failure → String
  | .fault _ => "EvaluationError"
  | .unknownFunction _ | .unknownMethod _ | .reportedMissing _ => "FunctionNotFoundError"
  | .rejected _ => "InvalidArgumentsError"
  | .reportedRegistry _ => "RegistryError"
  | .broken cause => cause.name

end CommonExpr
