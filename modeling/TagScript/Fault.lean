import TagScript.Json.Basic
import TagScript.Number.Reader
import TagScript.Position
import TagScript.Text.Quoted

/-!
# Faults

Every way in which reading, running, building, configuring and writing can fail, by its cause. The
wording of a fault is `Fault.message`; what a report adds to it is `Fault.details`.
-/

namespace TagScript

/-- Why a block text is refused. -/
inductive SyntaxProblem where
  /-- A character that begins no token. -/
  | unexpectedCharacter (c : Char)
  /-- A bracket that is never closed. -/
  | unclosed (opener : Char)
  /-- A closing bracket without its opening one. -/
  | unbalanced (closer : Char)
  /-- A backtick that does not end its line. -/
  | strayBacktick
  /-- A string without its closing quote. -/
  | unterminatedString
  /-- A variable in braces without its closing brace. -/
  | unterminatedVariable
  /-- A dollar sign without a name. -/
  | missingVariableName
  /-- A cast without its closing bracket. -/
  | unterminatedCast
  /-- A cast whose text is no type name. -/
  | invalidTypeName (name : String)
  /-- A hyphen without a parameter name. -/
  | missingParameterName
  /-- Nothing to read after a token that needs an operand. -/
  | missingOperand (after : String)
  /-- A token that begins no operand. -/
  | unexpectedToken (text : String)
  /-- A variable in braces inside a string without its closing brace. -/
  | unterminatedInterpolation
  deriving Repr, DecidableEq

/-- The wording of a syntax problem. -/
def SyntaxProblem.message : SyntaxProblem → String
  | .unexpectedCharacter c => "Unexpected character " ++ Text.quoted (String.singleton c)
  | .unclosed opener => "Unclosed '" ++ String.singleton opener ++ "'"
  | .unbalanced closer => "Unbalanced '" ++ String.singleton closer ++ "'"
  | .strayBacktick => "Backtick outside a string must end the line"
  | .unterminatedString => "Unterminated string literal"
  | .unterminatedVariable => "Unterminated $\x7b...\x7d variable"
  | .missingVariableName => "Expected a variable name after '$'"
  | .unterminatedCast => "Unterminated type cast"
  | .invalidTypeName name => "Invalid type name " ++ Text.quoted name
  | .missingParameterName => "Expected a parameter name after '-'"
  | .missingOperand after => "Missing operand after " ++ after
  | .unexpectedToken text => "Unexpected " ++ Text.quoted text
  | .unterminatedInterpolation => "Unterminated $\x7b...\x7d in string"

/-- Why a value is refused. -/
inductive InvalidValue where
  /-- A qualified name without a local part. -/
  | emptyLocalName
  /-- A name that opens a brace and does not close it. -/
  | malformedName (text : String)
  /-- A namespace without a URI. -/
  | emptyNamespace
  /-- A cast to a namespace of nothing. -/
  | missingNamespace
  /-- A variable without a name. -/
  | emptyVariableName
  /-- A command name that is empty or holds blanks. -/
  | commandName
  /-- A token on a line before the first. -/
  | tokenLine
  /-- A token in a column before the first. -/
  | tokenColumn
  /-- A token of negative length. -/
  | tokenLength
  /-- A constructor name that is empty or holds blanks. -/
  | constructorName
  /-- A negative cache size. -/
  | cacheSize
  /-- A greatest depth that is not positive. -/
  | maxDepth
  /-- A content marker that is not a word of letters. -/
  | contentMarker
  /-- A version of the XML declaration other than 1.0 and 1.1. -/
  | version
  /-- A standalone flag other than yes and no. -/
  | standalone
  /-- An encoding nobody knows. -/
  | encoding (name : String)
  /-- A name of an encoding that holds the null character. -/
  | nullCharacter
  /-- A report without a message. -/
  | emptyMessage
  /-- A report without a component. -/
  | emptyComponent
  /-- A log level nobody knows. -/
  | logLevel
  /-- A text that is no whole number. -/
  | notWhole (text : String)
  /-- A whole number with too many digits. -/
  | tooManyDigits (digits : Nat)
  /-- A whole number with too many digits to be written. -/
  | tooManyDigitsToWrite
  /-- The number that is none, read as a whole number. -/
  | wholeOfNan
  /-- A text that is no decimal. -/
  | notDecimal (text : String)
  /-- A node of an XML tree that is no element. -/
  | notElementNode
  /-- A text that holds a character XML forbids. -/
  | forbiddenCharacter
  /-- An element name that is no XML name. -/
  | tagName (name : String)
  /-- An attribute name that is no XML name. -/
  | attributeName (name : String)
  /-- A namespace prefix that is no XML name. -/
  | prefixName (name : String)
  /-- A namespace URI that is none. -/
  | namespaceUri (uri : String)
  /-- The text of a comment that would end it. -/
  | commentText
  /-- The target of a processing instruction that is kept for declarations. -/
  | instructionTarget (target : String)
  /-- The text of a processing instruction that would end it. -/
  | instructionText
  /-- A text without encoding that should declare one. -/
  | undeclaredEncoding
  /-- A command's own complaint. -/
  | complaint (text : String)
  /-- A text that is no JSON value. -/
  | notJson
  /-- Bytes that a reader of an encoding refuses: its name, the places of the first and the last of
  them, the byte if there is one only, and the reason. -/
  | notDecodable (codec : String) (first last : Nat) (byte : Option Nat) (reason : String)
  deriving Repr, DecidableEq

/-- How much of a text that is no whole number is shown, its quotes and escapes counted. -/
def wholeExcerptLength : Nat := 200

/-- The wording of an invalid value. -/
def InvalidValue.message : InvalidValue → String
  | .emptyLocalName => "Local name cannot be empty"
  | .malformedName text => "Malformed qualified name: " ++ Text.quoted text
  | .emptyNamespace => "Namespace URI cannot be empty"
  | .missingNamespace => "a namespace URI is required"
  | .emptyVariableName => "Variable name cannot be empty"
  | .commandName => "Command name must be a non-empty word"
  | .tokenLine => "Line number must be >= 1"
  | .tokenColumn => "Column number must be >= 1"
  | .tokenLength => "Length must be >= 0"
  | .constructorName => "element_ctor_name must be a non-empty word"
  | .cacheSize => "cache_size_limit must be >= 0"
  | .maxDepth => "max_depth must be > 0"
  | .contentMarker => "content_marker must be a non-empty alphabetic word"
  | .version => "version must be '1.0' or '1.1'"
  | .standalone => "standalone must be 'yes' or 'no'"
  | .encoding name => "unknown encoding: " ++ name
  | .nullCharacter => "embedded null character"
  | .emptyMessage => "Diagnostic message cannot be empty"
  | .emptyComponent => "Diagnostic component cannot be empty"
  | .logLevel =>
    "logging level must be one of ['DEBUG', 'INFO', 'WARNING', 'ERROR', 'CRITICAL']"
  | .notWhole text =>
    "invalid literal for int() with base 10: " ++ Text.quotedExcerpt wholeExcerptLength text
  | .tooManyDigits digits =>
    "Exceeds the limit (" ++ toString Number.digitLimit
      ++ " digits) for integer string conversion: value has " ++ toString digits
      ++ " digits; use sys.set_int_max_str_digits() to increase the limit"
  | .tooManyDigitsToWrite =>
    "Exceeds the limit (" ++ toString Number.digitLimit
      ++ " digits) for integer string conversion; use sys.set_int_max_str_digits() to increase the limit"
  | .wholeOfNan => "cannot convert float NaN to integer"
  | .notDecimal text => "could not convert string to float: " ++ Text.quoted text
  | .notElementNode => "Only element nodes can be converted"
  | .forbiddenCharacter =>
    "All strings must be XML compatible: Unicode or ASCII, no NULL bytes or control characters"
  | .tagName name => "Invalid tag name " ++ Text.quoted name
  | .attributeName name => "Invalid attribute name " ++ Text.quoted name
  | .prefixName name => "Invalid namespace prefix " ++ Text.quoted name
  | .namespaceUri uri => "Invalid namespace URI " ++ Text.quoted uri
  | .commentText => "Comment may not contain '--' or end with '-'"
  | .instructionTarget target => "Invalid PI name 'b'" ++ target ++ "''"
  | .instructionText => "PI text must not contain '?>'"
  | .undeclaredEncoding => "Serialisation to unicode must not request an XML declaration"
  | .complaint text => text
  | .notJson => "Expecting value"
  | .notDecodable codec first last byte reason =>
    let place := match byte with
      | some byte =>
        "byte 0x" ++ String.ofList (Text.hex 2 byte) ++ " in position " ++ toString first
      | none => "bytes in position " ++ toString first ++ "-" ++ toString last
    "'" ++ codec ++ "' codec can't decode " ++ place ++ ": " ++ reason

/-- Why a value is of the wrong kind. -/
inductive WrongKind where
  /-- An element whose tag is no qualified name. -/
  | elementTag
  /-- A document whose root is no element. -/
  | documentRoot
  /-- A command without something to call. -/
  | commandFunction
  /-- A value that cannot be read as a whole number; its type name. -/
  | notWhole (type : String)
  /-- A value that cannot be read as a decimal; its type name. -/
  | notDecimal (type : String)
  /-- A component built with a field it does not have. -/
  | unknownField (component field : String)
  /-- A component built with a field that has a value already. -/
  | repeatedField (component field : String)
  /-- Two values that have no order: the comparison and the names of their types. -/
  | noOrder (sign left right : String)
  /-- A value without items; its type name. -/
  | notIterable (type : String)
  /-- A value that is no name of an encoding; its type name. -/
  | notEncodingName (type : String)
  /-- An operation that a value does not have. -/
  | unsupported
  /-- A command's own complaint. -/
  | complaint (text : String)
  deriving Repr, DecidableEq

/-- The wording of a value of the wrong kind. -/
def WrongKind.message : WrongKind → String
  | .elementTag => "Element tag must be a QualifiedName"
  | .documentRoot => "Document root must be an Element"
  | .commandFunction => "Command function must be callable"
  | .notWhole type =>
    "int() argument must be a string, a bytes-like object or a real number, not '" ++ type ++ "'"
  | .notDecimal type =>
    "float() argument must be a string or a real number, not '" ++ type ++ "'"
  | .unknownField component field =>
    component ++ ".__init__() got an unexpected keyword argument '" ++ field ++ "'"
  | .repeatedField component field =>
    component ++ ".__init__() got multiple values for argument '" ++ field ++ "'"
  | .noOrder sign left right =>
    "'" ++ sign ++ "' not supported between instances of '" ++ left ++ "' and '" ++ right ++ "'"
  | .notIterable type => "'" ++ type ++ "' object is not iterable"
  | .notEncodingName type => "lookup() argument must be str, not " ++ type
  | .unsupported => "unsupported operation"
  | .complaint text => text

/-- Why a statement fails while a block runs. -/
inductive RuntimeProblem where
  /-- Something was run that is no block; its type name. -/
  | notBlock (type : String)
  /-- A cast to an unknown type: the cast as written, the type, and the place. -/
  | unknownType (cast type : String) (pos : Position)
  /-- A cast that a value refuses. -/
  | refusedCast (value cast reason type : String) (pos : Position)
  /-- A command that failed on a value. -/
  | commandFailed (command reason : String)
  /-- An element constructor without an element name. -/
  | elementNameRequired (command : String)
  /-- A namespace constructor without exactly one URI. -/
  | oneUriRequired (command : String)
  /-- A loop without exactly an item list and a block. -/
  | itemsAndBlockRequired (command : String)
  /-- A loop whose last argument is no block. -/
  | blockRequired (command : String)
  /-- A parameter that stands at the end without its value. -/
  | valueRequired (parameter : String)
  /-- Arguments that the date command does not take. -/
  | unexpectedArguments (values : String)
  /-- A command's own complaint. -/
  | complaint (text : String)
  deriving Repr, DecidableEq

/-- The wording of a runtime problem. -/
def RuntimeProblem.message : RuntimeProblem → String
  | .notBlock type => "Not a content block: " ++ type
  | .unknownType cast _ _ => "Unknown type " ++ cast
  | .refusedCast value cast reason _ _ =>
    "Cannot convert " ++ value ++ " to " ++ cast ++ ": " ++ reason
  | .commandFailed command reason => "Command " ++ command ++ " failed: " ++ reason
  | .elementNameRequired command => command ++ " requires an element name"
  | .oneUriRequired command => command ++ " requires exactly one namespace URI"
  | .itemsAndBlockRequired command => command ++ " expects an item list and a block"
  | .blockRequired command => command ++ " expects a block as its last argument"
  | .valueRequired parameter => "Parameter " ++ parameter ++ " requires a value"
  | .unexpectedArguments values => "Get-Date: unexpected arguments " ++ values
  | .complaint text => text

/-- A place as report fields. -/
def Position.fields (p : Position) : List (String × Json) :=
  [("line", .int p.line), ("column", .int p.column)]

/-- What a report adds to a runtime problem. -/
def RuntimeProblem.details : RuntimeProblem → List (String × Json)
  | .notBlock type => [("type", .str type)]
  | .unknownType _ type pos => ("type", .str type) :: pos.fields
  | .refusedCast _ _ _ type pos => ("type", .str type) :: pos.fields
  | .commandFailed command _ => [("command", .str command)]
  | _ => []

/-- Why an argument of an element cannot be used. -/
inductive ArgumentProblem where
  /-- A value that is no name stands where a name is read. -/
  | notAName (value : String)
  /-- A name without a value. -/
  | noValue (value : String)
  /-- An attribute without a name. -/
  | emptyName
  /-- A text that is no namespace prefix. -/
  | invalidPrefix (name : String)
  /-- A value of a type that cannot be content. -/
  | notContent (type : String)
  /-- A comment or processing instruction where content is read. -/
  | notElementContent
  deriving Repr, DecidableEq

/-- The wording of an argument problem. -/
def ArgumentProblem.message : ArgumentProblem → String
  | .notAName value => "Argument " ++ value ++ " cannot name an attribute"
  | .noValue value => "Argument " ++ value ++ " has no value"
  | .emptyName => "Empty attribute name"
  | .invalidPrefix name => "Invalid namespace prefix " ++ name
  | .notContent type => "Value of type " ++ type ++ " cannot be content"
  | .notElementContent => "Only lxml element nodes can be content"

/-- Why a configuration is refused. -/
inductive ConfigProblem where
  /-- A component does not pass its checks. -/
  | component (wording : String) (name : Option String)
  /-- A policy nobody knows. -/
  | unknownPolicy (value field : String) (known : List String)
  /-- A component nobody knows. -/
  | unknownComponent (part key : String)
  /-- The built-in constructor is named while the built-in commands are off. -/
  | missingConstructor
  deriving Repr, DecidableEq

/-- The wording of a configuration problem. -/
def ConfigProblem.message : ConfigProblem → String
  | .component wording _ => wording
  | .unknownPolicy value field _ => "Invalid value " ++ value ++ " for " ++ field
  | .unknownComponent part _ => "Unknown configuration component: " ++ part
  | .missingConstructor =>
    "Built-in commands are disabled but the element constructor name still refers to the "
      ++ "built-in command"

/-- The field that a configuration problem is about. -/
def ConfigProblem.field? : ConfigProblem → Option String
  | .component _ name => name
  | .unknownPolicy _ field _ => some field
  | .unknownComponent _ key => some key
  | .missingConstructor => some "runtime.register_builtins"

/-- What to try instead. -/
def ConfigProblem.suggestions : ConfigProblem → List String
  | .unknownPolicy _ _ known => known
  | .missingConstructor => [
    "Enable runtime.register_builtins",
    "Register a custom constructor and set compiler.element_ctor_name"]
  | _ => []

/-- A failure, by its cause. -/
inductive Fault where
  /-- A block text is malformed. -/
  | badSyntax (problem : SyntaxProblem) (pos : Position)
  /-- Something the compiler needs was not supplied. -/
  | missingCapability (name : String)
  /-- A command nobody knows was invoked. -/
  | unknownCommand (name : String)
  /-- A variable nobody defined was read. -/
  | undefinedVariable (name : String)
  /-- A statement failed. -/
  | runtime (problem : RuntimeProblem)
  /-- A prefix was bound to a second URI. -/
  | collision (pfx existing rebound : String)
  /-- An argument of an element cannot be used. -/
  | malformed (problem : ArgumentProblem) (tag value : String)
  /-- An element got the same attribute twice. -/
  | duplicateAttribute (tag name : String)
  /-- Elements are nested too deeply. -/
  | tooDeep (limit : Json) (limitText tag : String)
  /-- A configuration is refused. -/
  | config (problem : ConfigProblem)
  /-- A value is refused. -/
  | invalid (problem : InvalidValue)
  /-- A value is of the wrong kind. -/
  | wrongKind (problem : WrongKind)
  /-- A key is missing; the text given with it. -/
  | missingKey (text : String)
  /-- The serializer does not know the encoding. -/
  | unknownEncoding (name : String)
  /-- The encoding has no signs to mark up a document with. -/
  | notWritable
  /-- A double is too large or infinite where a whole number is needed, or the other way round. -/
  | overflow (wording : String)
  /-- An index lies outside a list. -/
  | outOfRange
  /-- A value does not have a member that is needed. -/
  | missingMember
  /-- Blocks are nested deeper than the evaluator goes. -/
  | exhausted
  deriving Inhabited

namespace Fault

/-- The wording of a fault. -/
def message : Fault → String
  | .badSyntax problem pos =>
    problem.message ++ " (line " ++ toString pos.line ++ ", column " ++ toString pos.column ++ ")"
  | .missingCapability name => "Host capability unavailable: " ++ name
  | .unknownCommand name => "Unknown command: " ++ name
  | .undefinedVariable name => "Undefined variable: $" ++ name
  | .runtime problem => problem.message
  | .collision pfx existing rebound =>
    "Namespace prefix '" ++ pfx ++ "' is already bound to '" ++ existing ++ "', cannot rebind to '"
      ++ rebound ++ "'"
  | .malformed problem _ _ => problem.message
  | .duplicateAttribute tag name =>
    "Duplicate attribute '" ++ name ++ "' on element '" ++ tag ++ "'"
  | .tooDeep _ limitText tag =>
    "Element nesting deeper than " ++ limitText ++ " at '" ++ tag ++ "'"
  | .config problem => problem.message
  | .invalid problem => problem.message
  | .wrongKind problem => problem.message
  | .missingKey text => Text.quoted text
  | .unknownEncoding name => "unknown encoding: '" ++ name ++ "'"
  | .notWritable => "the encoding has no signs for markup"
  | .overflow wording => wording
  | .outOfRange => "list index out of range"
  | .missingMember => "no such member"
  | .exhausted => "maximum recursion depth exceeded"

/-- What a report adds to a fault. -/
def details : Fault → List (String × Json)
  | .badSyntax _ pos => pos.fields
  | .missingCapability name => [("capability", .str name)]
  | .unknownCommand name => [("command", .str name)]
  | .undefinedVariable name => [("variable", .str name)]
  | .runtime problem => problem.details
  | .collision pfx existing rebound =>
    [("prefix", .str pfx), ("existing_uri", .str existing), ("new_uri", .str rebound)]
  | .malformed _ tag value => [("tag", .str tag), ("value", .str value)]
  | .duplicateAttribute tag name => [("tag", .str tag), ("attribute", .str name)]
  | .tooDeep limit _ tag => [("tag", .str tag), ("max_depth", limit)]
  | _ => []

/-- Whether a fault is about a value given to an operation; such a fault inside a command or a cast
is reported as a failure of the command or the cast. -/
def isAboutValue : Fault → Bool
  | .invalid _ | .wrongKind _ => true
  | _ => false

/-- Whether a fault is one that a document build reports in the log before it ends. -/
def isOfBuild : Fault → Bool
  | .badSyntax .. | .missingCapability _ | .unknownCommand _ | .undefinedVariable _ | .runtime _
  | .collision .. | .malformed .. | .duplicateAttribute .. | .tooDeep .. | .config _ => true
  | _ => false

end Fault

end TagScript
