/-!
# The shapes of the messages that describe files

What fields each message has: their names, numbers and kinds. The messages are those of file
descriptions, of generator requests and of generator responses.
-/

namespace Regen

/-- The message types. -/
inductive Shape where
  | request | version | response | responseFile
  | file | message | extensionRange | reservedRange | extensionRangeOptions | declaration
  | field | oneof | enum | enumReservedRange | enumValue | service | method
  | fileOptions | messageOptions | fieldOptions | editionDefault | featureSupport
  | oneofOptions | enumOptions | enumValueOptions | serviceOptions | methodOptions
  | uninterpreted | namePart | features | sourceInfo | location
  | codeInfo | span
  deriving DecidableEq

namespace Shape

/-- What a field holds. A choice is a number out of a closed list. -/
inductive Kind where
  | int32
  | int64
  | uint64
  | bool
  | double
  | text
  | octets
  | choice (values : List Int)
  | nested (shape : Shape)
  deriving DecidableEq

/-- One field of a message type. -/
structure Slot where
  name : String
  number : Nat
  kind : Kind
  repeated : Bool
  deriving DecidableEq

/-- A field that stands at most once. -/
def one (number : Nat) (name : String) (kind : Kind) : Slot := ⟨name, number, kind, false⟩

/-- A field that stands any number of times. -/
def many (number : Nat) (name : String) (kind : Kind) : Slot := ⟨name, number, kind, true⟩

/-- The editions of the description language. -/
def editions : Kind :=
  .choice [0, 900, 998, 999, 1000, 1001, 9999, 1, 2, 99997, 99998, 99999, 2147483647]

def visibilities : Kind := .choice [0, 1, 2]

def labels : List Int := [1, 2, 3]

def types : List Int := [1, 2, 3, 4, 5, 6, 7, 8, 9, 10, 11, 12, 13, 14, 15, 16, 17, 18]

def semantics : List Int := [0, 1, 2]

/-- Options that nothing has interpreted yet stand in every options message. -/
def leftOver : Slot := many 999 "uninterpreted_option" (.nested .uninterpreted)

/-- The fields of a message type, in ascending order of their numbers. -/
def slots : Shape → List Slot
  | request =>
    [many 1 "file_to_generate" .text, one 2 "parameter" .text,
     one 3 "compiler_version" (.nested version), many 15 "proto_file" (.nested file),
     many 17 "source_file_descriptors" (.nested file)]
  | version =>
    [one 1 "major" .int32, one 2 "minor" .int32, one 3 "patch" .int32, one 4 "suffix" .text]
  | response =>
    [one 1 "error" .text, one 2 "supported_features" .uint64, one 3 "minimum_edition" .int32,
     one 4 "maximum_edition" .int32, many 15 "file" (.nested responseFile)]
  | responseFile =>
    [one 1 "name" .text, one 2 "insertion_point" .text, one 15 "content" .text,
     one 16 "generated_code_info" (.nested codeInfo)]
  | file =>
    [one 1 "name" .text, one 2 "package" .text, many 3 "dependency" .text,
     many 4 "message_type" (.nested message), many 5 "enum_type" (.nested enum),
     many 6 "service" (.nested service), many 7 "extension" (.nested field),
     one 8 "options" (.nested fileOptions), one 9 "source_code_info" (.nested sourceInfo),
     many 10 "public_dependency" .int32, many 11 "weak_dependency" .int32, one 12 "syntax" .text,
     one 14 "edition" editions, many 15 "option_dependency" .text]
  | message =>
    [one 1 "name" .text, many 2 "field" (.nested field), many 3 "nested_type" (.nested message),
     many 4 "enum_type" (.nested enum), many 5 "extension_range" (.nested extensionRange),
     many 6 "extension" (.nested field), one 7 "options" (.nested messageOptions),
     many 8 "oneof_decl" (.nested oneof), many 9 "reserved_range" (.nested reservedRange),
     many 10 "reserved_name" .text, one 11 "visibility" visibilities]
  | extensionRange =>
    [one 1 "start" .int32, one 2 "end" .int32, one 3 "options" (.nested extensionRangeOptions)]
  | reservedRange => [one 1 "start" .int32, one 2 "end" .int32]
  | extensionRangeOptions =>
    [many 2 "declaration" (.nested declaration), one 3 "verification" (.choice [0, 1]),
     one 50 "features" (.nested features), leftOver]
  | declaration =>
    [one 1 "number" .int32, one 2 "full_name" .text, one 3 "type" .text, one 5 "reserved" .bool,
     one 6 "repeated" .bool]
  | field =>
    [one 1 "name" .text, one 2 "extendee" .text, one 3 "number" .int32,
     one 4 "label" (.choice labels), one 5 "type" (.choice types), one 6 "type_name" .text,
     one 7 "default_value" .text, one 8 "options" (.nested fieldOptions),
     one 9 "oneof_index" .int32, one 10 "json_name" .text, one 17 "proto3_optional" .bool]
  | oneof => [one 1 "name" .text, one 2 "options" (.nested oneofOptions)]
  | enum =>
    [one 1 "name" .text, many 2 "value" (.nested enumValue), one 3 "options" (.nested enumOptions),
     many 4 "reserved_range" (.nested enumReservedRange), many 5 "reserved_name" .text,
     one 6 "visibility" visibilities]
  | enumReservedRange => [one 1 "start" .int32, one 2 "end" .int32]
  | enumValue =>
    [one 1 "name" .text, one 2 "number" .int32, one 3 "options" (.nested enumValueOptions)]
  | service =>
    [one 1 "name" .text, many 2 "method" (.nested method),
     one 3 "options" (.nested serviceOptions)]
  | method =>
    [one 1 "name" .text, one 2 "input_type" .text, one 3 "output_type" .text,
     one 4 "options" (.nested methodOptions), one 5 "client_streaming" .bool,
     one 6 "server_streaming" .bool]
  | fileOptions =>
    [one 1 "java_package" .text, one 8 "java_outer_classname" .text,
     one 9 "optimize_for" (.choice [1, 2, 3]), one 10 "java_multiple_files" .bool,
     one 11 "go_package" .text, one 16 "cc_generic_services" .bool,
     one 17 "java_generic_services" .bool, one 18 "py_generic_services" .bool,
     one 20 "java_generate_equals_and_hash" .bool, one 23 "deprecated" .bool,
     one 27 "java_string_check_utf8" .bool, one 31 "cc_enable_arenas" .bool,
     one 36 "objc_class_prefix" .text, one 37 "csharp_namespace" .text,
     one 39 "swift_prefix" .text, one 40 "php_class_prefix" .text, one 41 "php_namespace" .text,
     one 44 "php_metadata_namespace" .text, one 45 "ruby_package" .text,
     one 50 "features" (.nested features), leftOver]
  | messageOptions =>
    [one 1 "message_set_wire_format" .bool, one 2 "no_standard_descriptor_accessor" .bool,
     one 3 "deprecated" .bool, one 7 "map_entry" .bool,
     one 11 "deprecated_legacy_json_field_conflicts" .bool,
     one 12 "features" (.nested features), leftOver]
  | fieldOptions =>
    [one 1 "ctype" (.choice [0, 1, 2]), one 2 "packed" .bool, one 3 "deprecated" .bool,
     one 5 "lazy" .bool, one 6 "jstype" (.choice [0, 1, 2]), one 10 "weak" .bool,
     one 15 "unverified_lazy" .bool, one 16 "debug_redact" .bool,
     one 17 "retention" (.choice [0, 1, 2]),
     many 19 "targets" (.choice [0, 1, 2, 3, 4, 5, 6, 7, 8, 9]),
     many 20 "edition_defaults" (.nested editionDefault), one 21 "features" (.nested features),
     one 22 "feature_support" (.nested featureSupport), leftOver]
  | editionDefault => [one 2 "value" .text, one 3 "edition" editions]
  | featureSupport =>
    [one 1 "edition_introduced" editions, one 2 "edition_deprecated" editions,
     one 3 "deprecation_warning" .text, one 4 "edition_removed" editions]
  | oneofOptions => [one 1 "features" (.nested features), leftOver]
  | enumOptions =>
    [one 2 "allow_alias" .bool, one 3 "deprecated" .bool,
     one 6 "deprecated_legacy_json_field_conflicts" .bool,
     one 7 "features" (.nested features), leftOver]
  | enumValueOptions =>
    [one 1 "deprecated" .bool, one 2 "features" (.nested features), one 3 "debug_redact" .bool,
     one 4 "feature_support" (.nested featureSupport), leftOver]
  | serviceOptions =>
    [one 33 "deprecated" .bool, one 34 "features" (.nested features), leftOver]
  | methodOptions =>
    [one 33 "deprecated" .bool, one 34 "idempotency_level" (.choice [0, 1, 2]),
     one 35 "features" (.nested features), leftOver]
  | uninterpreted =>
    [many 2 "name" (.nested namePart), one 3 "identifier_value" .text,
     one 4 "positive_int_value" .uint64, one 5 "negative_int_value" .int64,
     one 6 "double_value" .double, one 7 "string_value" .octets, one 8 "aggregate_value" .text]
  | namePart => [one 1 "name_part" .text, one 2 "is_extension" .bool]
  | features =>
    [one 1 "field_presence" (.choice [0, 1, 2, 3]), one 2 "enum_type" (.choice [0, 1, 2]),
     one 3 "repeated_field_encoding" (.choice [0, 1, 2]),
     one 4 "utf8_validation" (.choice [0, 2, 3]), one 5 "message_encoding" (.choice [0, 1, 2]),
     one 6 "json_format" (.choice [0, 1, 2]), one 7 "enforce_naming_style" (.choice [0, 1, 2]),
     one 8 "default_symbol_visibility" (.choice [0, 1, 2, 3, 4])]
  | sourceInfo => [many 1 "location" (.nested location)]
  | location =>
    [many 1 "path" .int32, many 2 "span" .int32, one 3 "leading_comments" .text,
     one 4 "trailing_comments" .text, many 6 "leading_detached_comments" .text]
  | codeInfo => [many 1 "annotation" (.nested span)]
  | span =>
    [many 1 "path" .int32, one 2 "source_file" .text, one 3 "begin" .int32, one 4 "end" .int32,
     one 5 "semantic" (.choice semantics)]

def slot? (s : Shape) (number : Nat) : Option Slot := s.slots.find? (·.number == number)

/-- The repeated number fields whose elements are written as one chunk. -/
def isPacked (s : Shape) (number : Nat) : Bool :=
  match s with
  | location => number == 1 || number == 2
  | span => number == 1
  | _ => false

end Shape

/-- The field can hold the integer. -/
def Shape.Kind.holds (k : Shape.Kind) (n : Int) : Bool :=
  match k with
  | .int32 => -Int.pow 2 31 ≤ n && n < Int.pow 2 31
  | .int64 => -Int.pow 2 63 ≤ n && n < Int.pow 2 63
  | .uint64 => 0 ≤ n && n < Int.pow 2 64
  | .bool => n == 0 || n == 1
  | .choice values => values.contains n
  | _ => false

end Regen
