import ConfigLayers.Json.Basic

/-! Everything that can go wrong, by cause. The library's own errors carry a message and the facts it is
about; faults of the surroundings have no wording. -/
namespace ConfigLayers

/-- Why a file cannot be opened. -/
inductive FileFault where
  | missing
  | denied
  | exists
  | notDirectory
  | isDirectory
  | nameTooLong
  deriving DecidableEq, Repr

namespace FileFault

def number : FileFault → Nat
  | .missing => 2
  | .denied => 13
  | .exists => 17
  | .notDirectory => 20
  | .isDirectory => 21
  | .nameTooLong => 36

def text : FileFault → String
  | .missing => "No such file or directory"
  | .denied => "Permission denied"
  | .exists => "File exists"
  | .notDirectory => "Not a directory"
  | .isDirectory => "Is a directory"
  | .nameTooLong => "File name too long"

def message (f : FileFault) (path : String) : String :=
  "[Errno " ++ Integer.natText f.number ++ "] " ++ f.text ++ ": " ++ Text.quoted path

end FileFault

inductive Error where
  | invalidValue (key : Option String) (value expected : String)
  | notAuthority (key : Option String) (target : String)
  | noReplacement (key : Option String)
  | nullName
  | nullValue (name : String)
  | unsupportedReference (value : Json)
  | noEnumeration (name : String)
  | noAddress (name : String)
  | unsupportedFormat (format : String)
  | notDerivedArgument (name type base : String)
  | propertyNotFound (name : String)
  | substitutionTooDeep (label : String) (limit : Int)
  | unfetched (uri reason : String)
  | unsupportedScheme (scheme uri : String)
  | resourceNotFound (name : String)
  | unreadableStream (name reason : String)
  | unreadableFile (path : String) (fault : FileFault)
  | includeUnavailable (target : String) (base : Option String)
  | malformedDocument (label : String)
  | wrongRoot (label tag : String)
  | includeWithoutTarget
  | nestingTooDeep
  | emptyTypeName
  | typeNotFound (name : String)
  | typeNotListed (name : String)
  | notDerived (name type base : String) (typeName : Option String)
  | readOnlyProvider (provider entry : String)
  | unsupportedLocation (uri : String)
  | unreadableCredentials (path : String) (fault : Option FileFault)
  | credentialsNotRecord (path : String)
  | credentialExists (entry path : String)
  | credentialMissing (entry path : String)
  | unknownProvider (uri : String)
  | duplicateResourceType (name : String)
  | reservedResourceType (name : String)
  | mandatoryConflict (name expectedKind expectedUnits actualKind actualUnits : String)
  | unregistered (key registry : String) (available : Option (List String))
  | tooManyDigits
  | valueTooDeep
  | malformedUrl
  | nulInPath
  | illegalXmlText
  | emptyModuleName
  | relativeModuleName
  | nameRequired
  | undecodableText
  | malformedPattern
  | file (fault : FileFault)
  | unknownName
  deriving Inhabited

namespace Error

/-- Classes of errors: those a caller can tell apart, and the general ones they belong to. -/
inductive Kind where
  | invalidValue
  | invalidArgument
  | propertyNotFound
  | substitution
  | resourceUnavailable
  | documentParse
  | typeResolution
  | credential
  | resourceType
  | notFound
  | value
  | decode
  | pattern
  | missingFile
  | denied
  | fileExists
  | notDirectory
  | isDirectory
  | system
  | key
  | attribute
  | type
  | recursion
  | properties
  | validation
  | configuration
  | serialization
  | resource
  | package
  | lookup
  | exception
  deriving DecidableEq, Repr

namespace Kind

/-- The kind itself and the kinds it belongs to, the most special first. -/
def lineage : Kind → List Kind
  | .invalidValue => [.invalidValue, .properties, .validation, .package, .value, .exception]
  | .invalidArgument => [.invalidArgument, .properties, .validation, .package, .value, .exception]
  | .propertyNotFound => [.propertyNotFound, .properties, .notFound, .package, .lookup, .exception]
  | .substitution => [.substitution, .properties, .configuration, .package, .exception]
  | .resourceUnavailable => [.resourceUnavailable, .properties, .resource, .package, .exception]
  | .documentParse => [.documentParse, .properties, .serialization, .package, .exception]
  | .typeResolution => [.typeResolution, .properties, .notFound, .package, .lookup, .exception]
  | .credential => [.credential, .properties, .configuration, .package, .exception]
  | .resourceType => [.resourceType, .properties, .configuration, .package, .exception]
  | .properties => [.properties, .package, .exception]
  | .notFound => [.notFound, .package, .exception]
  | .validation => [.validation, .package, .exception]
  | .configuration => [.configuration, .package, .exception]
  | .serialization => [.serialization, .package, .exception]
  | .resource => [.resource, .package, .exception]
  | .package => [.package, .exception]
  | .exception => [.exception]
  | .missingFile => [.missingFile, .system, .exception]
  | .denied => [.denied, .system, .exception]
  | .fileExists => [.fileExists, .system, .exception]
  | .notDirectory => [.notDirectory, .system, .exception]
  | .isDirectory => [.isDirectory, .system, .exception]
  | kind => [kind, .exception]

end Kind

def kind : Error → Kind
  | .invalidValue .. => .invalidValue
  | .notAuthority .. | .noReplacement _ | .nullName | .nullValue _ | .unsupportedReference _ => .invalidArgument
  | .noEnumeration _ | .noAddress _ | .unsupportedFormat _ | .notDerivedArgument .. => .invalidArgument
  | .propertyNotFound _ => .propertyNotFound
  | .substitutionTooDeep .. => .substitution
  | .unfetched .. | .unsupportedScheme .. | .resourceNotFound _ | .unreadableStream .. => .resourceUnavailable
  | .unreadableFile .. | .includeUnavailable .. => .resourceUnavailable
  | .malformedDocument _ | .wrongRoot .. | .includeWithoutTarget => .documentParse
  | .emptyTypeName | .typeNotFound _ | .typeNotListed _ | .notDerived .. => .typeResolution
  | .readOnlyProvider .. | .unsupportedLocation _ | .unreadableCredentials .. => .credential
  | .credentialsNotRecord _ | .credentialExists .. | .credentialMissing .. | .unknownProvider _ => .credential
  | .duplicateResourceType _ | .reservedResourceType _ | .mandatoryConflict .. => .resourceType
  | .unregistered .. => .notFound
  | .tooManyDigits | .malformedUrl | .nulInPath | .illegalXmlText | .emptyModuleName => .value
  | .nestingTooDeep | .valueTooDeep => .recursion
  | .nameRequired => .attribute
  | .relativeModuleName => .type
  | .undecodableText => .decode
  | .malformedPattern => .pattern
  | .file .missing => .missingFile
  | .file .denied => .denied
  | .file .exists => .fileExists
  | .file .notDirectory => .notDirectory
  | .file .isDirectory => .isDirectory
  | .file .nameTooLong => .system
  | .unknownName => .key

/-- The wording and the facts about a value that is not what was expected. -/
def invalidValueReport (key value expected : Json) : String × List (String × Json) :=
  let about := match key with
    | .null => ""
    | key => " for property '" ++ key.plain ++ "'"
  ("Invalid " ++ expected.plain ++ " value " ++ value.literal ++ about,
    [("key", key), ("value", value), ("expected", expected)])

/-- The facts of an error that is given them in one of two ways; the second wins unless it is empty. -/
def contextOf (context details : Json) : Json :=
  let given (v : Json) : Bool := match v with
    | .null | .record [] => false
    | _ => true
  if given details then details else if given context then context else .record []

/-- The wording and the facts of an error of the library; none for a fault of the surroundings. -/
def report? : Error → Option (String × List (String × Json))
  | .invalidValue key value expected =>
    some (invalidValueReport (.ofOption key) (.text value) (.text expected))
  | .notAuthority key target =>
    let about := match key with
      | some "" | none => ""
      | some key => " (configuration property '" ++ key ++ "')"
    some ("Does not contain a valid host:port authority: " ++ target ++ about,
      [("key", .ofOption key), ("value", .text target)])
  | .noReplacement key =>
    some ("A deprecation needs a key and at least one replacement", [("key", .ofOption key)])
  | .nullName => some ("Property name must not be null", [])
  | .nullValue name => some ("The value of property " ++ name ++ " must not be null", [("key", .text name)])
  | .unsupportedReference value =>
    some ("Unsupported resource type: " ++ value.typeName, [("resource", .text value.literal)])
  | .noEnumeration name => some ("An enum type is needed to read " ++ name, [("key", .text name)])
  | .noAddress name => some ("No address configured for " ++ name, [("key", .text name)])
  | .unsupportedFormat format => some ("Unsupported dump format: " ++ format, [("format", .text format)])
  | .notDerivedArgument name type base => some (type ++ " not " ++ base, [("key", .text name)])
  | .propertyNotFound name => some ("Property " ++ name ++ " not found", [("key", .text name)])
  | .substitutionTooDeep label limit =>
    some ("Variable substitution depth too large: " ++ Integer.text limit ++ " " ++ label,
      [("key", .text label), ("max_depth", .int limit)])
  | .unfetched uri reason => some ("Unable to fetch " ++ uri ++ ": " ++ reason, [("locator", .text uri)])
  | .unsupportedScheme scheme uri =>
    some ("Unsupported URI scheme '" ++ scheme ++ "' for " ++ uri, [("locator", .text uri)])
  | .resourceNotFound name => some (name ++ " not found", [("locator", .text name)])
  | .unreadableStream name reason =>
    some ("Unable to read " ++ name ++ ": " ++ reason, [("locator", .text name)])
  | .unreadableFile path fault =>
    some (path ++ " not found: " ++ fault.message path, [("locator", .text path)])
  | .includeUnavailable target base =>
    some ("Fetch fail on include for '" ++ target ++ "' with no fallback",
      [("href", .text target), ("base", .ofOption base)])
  | .malformedDocument label => some ("Failed to parse " ++ label, [("locator", .text label)])
  | .wrongRoot label tag =>
    some ("bad conf file: top-level element not <configuration> in " ++ label,
      [("locator", .text label), ("tag", .text tag)])
  | .includeWithoutTarget => some ("Include element without href", [])
  | .emptyTypeName => some ("Empty type name", [("type_name", .text "")])
  | .typeNotFound name => some ("Class " ++ name ++ " not found", [("type_name", .text name)])
  | .typeNotListed name => some ("fixed: " ++ name, [("type_name", .text name)])
  | .notDerived name type base typeName =>
    some ("class " ++ type ++ " not " ++ base, [("key", .text name), ("type_name", .ofOption typeName)])
  | .readOnlyProvider provider entry => some (provider ++ " is read-only", [("alias", .text entry)])
  | .unsupportedLocation uri =>
    some ("Unsupported location in credential provider URI: " ++ uri, [("uri", .text uri)])
  | .unreadableCredentials path fault =>
    let reason := match fault with
      | some fault => ": " ++ fault.message path
      | none => ""
    some ("Failed to read credential file " ++ path ++ reason, [("path", .text path)])
  | .credentialsNotRecord path =>
    some ("Credential file must contain an object: " ++ path, [("path", .text path)])
  | .credentialExists entry path =>
    some ("Credential " ++ entry ++ " already exists in " ++ path, [("alias", .text entry)])
  | .credentialMissing entry path =>
    some ("Credential " ++ entry ++ " does not exist in " ++ path, [("alias", .text entry)])
  | .unknownProvider uri => some ("No CredentialProviderFactory for " ++ uri, [("uri", .text uri)])
  | .duplicateResourceType name =>
    some ("Error in config, key '" ++ name ++ "' specified twice", [("resource", .text name)])
  | .reservedResourceType name =>
    some ("Attempt to re-define mandatory resource '" ++ name ++ "'.", [("resource", .text name)])
  | .mandatoryConflict name expectedKind expectedUnits actualKind actualUnits =>
    some ("Defined mandatory resource type=" ++ name ++ ", however its type or unit conflicts with mandatory "
        ++ "resource types, expected type=" ++ expectedKind ++ ", unit=" ++ expectedUnits ++ "; actual type="
        ++ actualKind ++ " actual unit=" ++ actualUnits,
      [("resource", .text name)])
  | .unregistered key registry available =>
    let listed := match available with
      | some keys => [("available_keys", .list (keys.map .text))]
      | none => []
    some ("Item not found: " ++ key, [("key", .text key), ("registry", .text registry)] ++ listed)
  | _ => none

end Error
end ConfigLayers
