import ApiContracts.Text.Basic

/-!
Built-in value types and the names under which they are known.
-/

namespace ApiContracts

inductive Scalar where
  | string | integer | long | float | double | bool | date | dateTime | uuid | duration | binary
  | any
  | unit
deriving DecidableEq, Repr

namespace Scalar

def all : List Scalar :=
  [.string, .integer, .long, .float, .double, .bool, .date, .dateTime, .uuid, .duration, .binary,
    .any, .unit]

def spelling : Scalar → String
  | string => "String"
  | integer => "i32"
  | long => "i64"
  | float => "f32"
  | double => "f64"
  | bool => "bool"
  | date => "chrono::NaiveDate"
  | dateTime => "chrono::DateTime<chrono::Utc>"
  | uuid => "uuid::Uuid"
  | duration => "std::time::Duration"
  | binary => "Vec<u8>"
  | any => "serde_json::Value"
  | unit => "()"

def aliases : Scalar → List String
  | string => ["String", "string", "str", "char"]
  | integer => ["i32", "int", "integer", "i16", "short", "u32", "u8", "byte"]
  | long => ["i64", "long", "u64", "Int64"]
  | float => ["f32", "float"]
  | double => ["f64", "double", "decimal", "number"]
  | bool => ["bool", "boolean", "Boolean"]
  | date => ["NaiveDate", "Date", "DateOnly", "date"]
  | dateTime => ["DateTime", "DateTimeOffset", "date-time"]
  | uuid => ["Uuid", "Guid", "uuid"]
  | duration => ["Duration", "TimeSpan", "duration"]
  | binary => ["Bytes", "binary"]
  | any => ["Value", "object", "JsonElement"]
  | unit => ["()", "Unit"]

def untilColons : List Char → List Char
  | [] => []
  | ':' :: ':' :: _ => []
  | c :: rest => c :: untilColons rest

def lastSegment (path : List Char) : List Char := (untilColons path.reverse).reverse

/-- The scalar that a name declares: blanks around it and question marks after it do not count,
and of a path only the last segment does. -/
def ofName? (name : List Char) : Option Scalar :=
  let word := lastSegment (Text.dropEndWhile (· == '?') (Text.trim name))
  all.find? fun scalar => scalar.aliases.contains (String.ofList word)

end Scalar

end ApiContracts
