-- Data types. A word that is no type of the language names a type of the user, so every
-- word can be read as a type; the caller decides whether such a type is wanted.
import ColumnMask.Sql.Grammar.Columns

namespace ColumnMask.Sql

/-! ## Sizes -/

/-- A whole number with a sign if it has one. -/
def signedNumber : Rule Int := do
  let negative ← symbol "-"
  if !negative then let _ ← symbol "+"
  let t ← peek
  match t.token with
  | .number digits _ =>
    let _ ← next
    let n ← boundedNumber 63 "i64" digits t.span.start
    return if negative then -(n : Int) else n
  | _ => unexpected "number" t

/-- Precision and scale: nothing, a precision, or both. -/
def exactNumber : Rule Part := do
  if ← symbol "(" then
    let precision ← wholeNumber
    let scale ← if ← symbol "," then do pure (some (← signedNumber)) else pure none
    let _ ← expectSymbol ")"
    match scale with
    | none => return .node ⟨.newtype "Precision", [.word "(", .part 0, .word ")"]⟩ [.number precision]
    | some s =>
      return .node ⟨.tuple "PrecisionAndScale", [.word "(", .part 0, .word ",", .part 1, .word ")"]⟩
        [.number precision, .number s]
  return .choice "None" ""

/-- A number of characters, `MAX`, or nothing. -/
def characterLength : Rule Part := do
  if ← symbol "(" then
    let length ← if ← keyword "MAX" then pure (Part.choice "Max" "MAX") else do
      let n ← wholeNumber
      let unit ← oneOf ["CHARACTERS", "OCTETS"]
      let unit := optional (fun u => .choice (if u == "OCTETS" then "Octets" else "Characters") u) unit
      pure (.node ⟨.variant "IntegerLength" ["length", "unit"], [.part 0, .opt 1 " " ""]⟩
        [.number n, unit])
    let _ ← expectSymbol ")"
    return length
  return .absent

/-- A number of bytes, `MAX`, or nothing. -/
def binaryLength : Rule Part := do
  if ← symbol "(" then
    let length ← if ← keyword "MAX" then pure (Part.choice "Max" "MAX") else do
      let n ← wholeNumber
      pure (.node ⟨.variant "IntegerLength" ["length"], [.part 0]⟩ [.number n])
    let _ ← expectSymbol ")"
    return length
  return .absent

/-! ## Families of types -/

def namedType (name spelling : String) : ReadType := { tree := .choice name spelling }

/-- A type whose only part follows its word. -/
def typeWith (name word : String) (detail : Part) : ReadType :=
  { tree := .node ⟨.newtype name, [.word word, .part 0]⟩ [detail] }

/-- A type whose only part follows its word in parentheses. -/
def typeSized (name word : String) (detail : Part) : ReadType :=
  { tree := .node ⟨.newtype name, [.word word, .opt 0 "(" ")"]⟩ [detail] }

def precisionPart : Rule Part := return optional (fun n => .number (Int.ofNat n)) (← optionalPrecision)

/-- An integer type: its name in the tree notation, its word, and whether it may be called signed. -/
def integerType (name word : String) (maySign : Bool) : Rule ReadType := do
  let precision ← precisionPart
  if ← keyword "UNSIGNED" then
    return { tree := .node ⟨.newtype (name ++ "Unsigned"), [.word word, .opt 0 "(" ")",
      .word " UNSIGNED"]⟩ [precision] }
  if maySign then let _ ← keyword "SIGNED"
  return typeSized name word precision

/-- A type with precision and scale that may be unsigned. -/
def exactType (name word : String) : Rule ReadType := do
  let info ← exactNumber
  if ← keyword "UNSIGNED" then
    return { tree := .node ⟨.newtype (name ++ "Unsigned"), [.word word, .part 0,
      .word " UNSIGNED"]⟩ [info] }
  return typeWith name word info

/-- A time of day or a time stamp, with precision and time zone. -/
def timeType (name word : String) : Rule ReadType := do
  let precision ← precisionPart
  let zone ← if ← keyword "WITH" then do
      expectKeywords ["TIME", "ZONE"]
      pure (Part.choice "WithTimeZone" " WITH TIME ZONE")
    else if ← keyword "WITHOUT" then do
      expectKeywords ["TIME", "ZONE"]
      pure (.choice "WithoutTimeZone" " WITHOUT TIME ZONE")
    else pure (.choice "None" "")
  return { tree := .node ⟨.tuple name, [.word word, .opt 0 "(" ")", .part 1]⟩ [precision, zone] }

def zonedType (name word : String) : Rule ReadType := do
  let precision ← precisionPart
  return { tree := .node ⟨.tuple name, [.word word, .opt 0 "(" ")"]⟩ [precision, .choice "Tz" "TZ"] }

/-- The closing angle bracket of a type; `>>` closes two of them. -/
def closeAngle (closed : Bool) : Rule Bool := do
  if closed then return false
  let t ← peek
  if t.token.isSymbol ">" then
    let _ ← next
    return false
  if t.token.isSymbol ">>" then
    let _ ← next
    return true
  unexpected ">" t

/-! ## Types with parts -/

def Form.structField : Form :=
  ⟨.record ["field_name", "field_type", "options"],
    [.opt 0 "" " ", .part 1, .opt 2 " OPTIONS(" ")"]⟩

/-- A field of a structure type: a name and a type, or a type alone, and options. -/
def structField : Rule (Part × Bool) := do
  let isNamed := (← peek).token.isWord && (← peekAfter 1).token.isWord
  let name ← if isNamed then some <$> identifier else pure none
  let type ← readType
  let options ← after "OPTIONS" sqlOptions
  return (.node .structField [optional .ident name, type.tree, optional .list options],
    type.isClosed)

/-- The fields between angle brackets after `STRUCT`, and whether a bracket too many was read. -/
def structFields : Rule (List Part × Bool) := do
  if !(← peekSymbol "<") then return ([], false)
  let _ ← next
  let (fields, closed) ← iterate (([] : List Part), false) fun (fields, _) => do
    let (field, closed) ← structField
    if closed then return ((field :: fields, true), false)
    return ((field :: fields, false), ← symbol ",")
  return (fields.reverse, ← closeAngle closed)

/-- The words of a type of the user in parentheses. -/
def typeModifiers : Rule (List String) := do
  let found ← iterate ([] : List String) fun found => do
    let t ← next
    match t.token with
    | .word .. => return (t.token.show :: found, true)
    | .number digits _ => return (digits :: found, true)
    | .literal .plain text => return (text :: found, true)
    | .symbol "," => return (found, true)
    | .symbol ")" => return (found, false)
    | _ => unexpected "type modifiers" t
  return found.reverse

def Form.customType : Form := ⟨.tuple "Custom", [.part 0, .someList 1 "(" ", " ")"]⟩

/-- The type in parentheses inside another one. -/
def innerType (name word : String) : Rule ReadType := do
  let inner ← parenthesized dataType
  return { tree := .node ⟨.newtype name, [.word word, .word "(", .part 0, .word ")"]⟩ [inner] }

/-- The fields of an interval type. -/
def intervalFields : Rule (Option Part) := do
  let upTo (first shown : String) (ends : List String) : Rule (Option Part) := do
    if ← keyword "TO" then
      let last ← expectOneOf ends
      return some (.choice (first ++ "To" ++ String.ofList (last.toList.take 1) ++
        (String.ofList (last.toList.drop 1)).toLower) (shown ++ " TO " ++ last))
    return some (.choice first shown)
  match ← oneOf ["YEAR", "DAY", "HOUR", "MINUTE", "MONTH", "SECOND"] with
  | some "YEAR" =>
    if ← keyword "TO" then
      let _ ← expectKeyword "MONTH"
      return some (.choice "YearToMonth" "YEAR TO MONTH")
    return some (.choice "Year" "YEAR")
  | some "DAY" => upTo "Day" "DAY" ["HOUR", "MINUTE", "SECOND"]
  | some "HOUR" => upTo "Hour" "HOUR" ["MINUTE", "SECOND"]
  | some "MINUTE" =>
    if ← keyword "TO" then
      let _ ← expectKeyword "SECOND"
      return some (.choice "MinuteToSecond" "MINUTE TO SECOND")
    return some (.choice "Minute" "MINUTE")
  | some "MONTH" => return some (.choice "Month" "MONTH")
  | some _ => return some (.choice "Second" "SECOND")
  | none => return none

/-- A member of an enumeration: a label, and a number if it has one. -/
def enumMember : Rule Part := do
  let label := quotedPart (← literalString)
  if ← symbol "=" then
    return .node ⟨.tuple "NamedValue", [.part 0, .word " = ", .part 1]⟩
      [label, .expr (← numberExpr)]
  return .node ⟨.newtype "Name", [.part 0]⟩ [label]

/-- An enumeration, whose word may say how many bits a member has. -/
def enumType (word : String) (bits : Option Nat) : Rule ReadType := do
  let members ← parenthesized (commaList enumMember)
  let tree := Part.node ⟨.tuple "Enum", [.word word, .word "(", .list 0 ", ", .word ")"]⟩
    [.list members, optional (fun n => .number (Int.ofNat n)) bits]
  return { tree }

/-- The members of a set: text between single quotes. -/
def setMembers : Rule (List Part) := do
  let _ ← expectSymbol "("
  let found ← iterate ([] : List Part) fun found => do
    let t ← next
    match t.token with
    | .literal .plain text =>
      let mark ← next
      if mark.token.isSymbol "," then return (quotedPart text :: found, true)
      if mark.token.isSymbol ")" then return (quotedPart text :: found, false)
      unexpected ", or \x7d" mark
    | _ => unexpected "a string" t
  return found.reverse

/-- The columns of a type that is a table. -/
def columnDefinitions : Rule (List Part) := parenthesized (commaList columnDefinition)

/-! ## All types -/

/-- The types that are one word, and their spelling. -/
def plainTypes : List (String × String × String) :=
  [ ("BOOLEAN", "Boolean", "BOOLEAN"), ("BOOL", "Bool", "BOOL"), ("FLOAT4", "Float4", "FLOAT4"),
    ("FLOAT32", "Float32", "Float32"), ("FLOAT64", "Float64", "FLOAT64"),
    ("FLOAT8", "Float8", "FLOAT8"), ("INT16", "Int16", "Int16"), ("INT32", "Int32", "Int32"),
    ("INT64", "Int64", "INT64"), ("INT128", "Int128", "Int128"), ("INT256", "Int256", "Int256"),
    ("HUGEINT", "HugeInt", "HUGEINT"), ("UBIGINT", "UBigInt", "UBIGINT"),
    ("UHUGEINT", "UHugeInt", "UHUGEINT"), ("USMALLINT", "USmallInt", "USMALLINT"),
    ("UTINYINT", "UTinyInt", "UTINYINT"), ("UINT8", "UInt8", "UInt8"), ("UINT16", "UInt16", "UInt16"),
    ("UINT32", "UInt32", "UInt32"), ("UINT64", "UInt64", "UInt64"), ("UINT128", "UInt128", "UInt128"),
    ("UINT256", "UInt256", "UInt256"), ("TINYBLOB", "TinyBlob", "TINYBLOB"),
    ("MEDIUMBLOB", "MediumBlob", "MEDIUMBLOB"), ("LONGBLOB", "LongBlob", "LONGBLOB"),
    ("UUID", "Uuid", "UUID"), ("DATE", "Date", "DATE"), ("DATE32", "Date32", "Date32"),
    ("JSON", "JSON", "JSON"), ("JSONB", "JSONB", "JSONB"), ("REGCLASS", "Regclass", "REGCLASS"),
    ("TEXT", "Text", "TEXT"), ("TINYTEXT", "TinyText", "TINYTEXT"),
    ("MEDIUMTEXT", "MediumText", "MEDIUMTEXT"), ("LONGTEXT", "LongText", "LONGTEXT"),
    ("BYTEA", "Bytea", "BYTEA"), ("TRIGGER", "Trigger", "TRIGGER"),
    ("TSVECTOR", "TsVector", "TSVECTOR"), ("TSQUERY", "TsQuery", "TSQUERY") ]

/-- The integer types, which may have a width and be unsigned; those named for their size may not
be called signed. -/
def integerTypes : List (String × String × Bool) :=
  [ ("TINYINT", "TinyInt", true), ("INT2", "Int2", false), ("SMALLINT", "SmallInt", true),
    ("MEDIUMINT", "MediumInt", true), ("INT", "Int", true), ("INT4", "Int4", false),
    ("INT8", "Int8", false), ("INTEGER", "Integer", true), ("BIGINT", "BigInt", true) ]

/-- The types with an optional precision. -/
def sizedTypes : List (String × String) :=
  [ ("CLOB", "Clob"), ("BINARY", "Binary"), ("BLOB", "Blob"), ("BYTES", "Bytes"),
    ("VARBIT", "VarBit"), ("DATETIME", "Datetime"), ("STRING", "String"),
    ("TIMESTAMP_NTZ", "TimestampNtz") ]

/-- Character types: their words and names, plain, varying and large. -/
def characterType (word name : String) : Rule ReadType := do
  if ← keyword "VARYING" then
    return typeSized (name ++ "Varying") (word ++ " VARYING") (← characterLength)
  if ← keywords ["LARGE", "OBJECT"] then
    return typeSized (name ++ "LargeObject") (word ++ " LARGE OBJECT") (← precisionPart)
  return typeSized name word (← characterLength)

/-- A type of the user. -/
def customType : Rule ReadType := do
  let name ← objectName
  let modifiers ← if ← symbol "(" then typeModifiers else pure []
  return { tree := .node .customType [.name name, listOf .text modifiers], isCustom := true }

/-- The type that starts with a keyword, which has been read. -/
def keywordType (key : String) : Rule (Option ReadType) := do
  if let some (_, name, word) := plainTypes.find? (·.1 == key) then
    return some (namedType name word)
  if let some (_, name, maySign) := integerTypes.find? (·.1 == key) then
    return some (← integerType name key maySign)
  if let some (_, name) := sizedTypes.find? (·.1 == key) then
    return some (typeSized name key (← precisionPart))
  match key with
  | "FLOAT" => return some (← exactType "Float" "FLOAT")
  | "REAL" =>
    if ← keyword "UNSIGNED" then return some (namedType "RealUnsigned" "REAL UNSIGNED")
    return some (namedType "Real" "REAL")
  | "DOUBLE" =>
    if ← keyword "PRECISION" then
      if ← keyword "UNSIGNED" then
        return some (namedType "DoublePrecisionUnsigned" "DOUBLE PRECISION UNSIGNED")
      return some (namedType "DoublePrecision" "DOUBLE PRECISION")
    return some (← exactType "Double" "DOUBLE")
  | "NUMERIC" => return some (typeWith "Numeric" "NUMERIC" (← exactNumber))
  | "BIGNUMERIC" => return some (typeWith "BigNumeric" "BIGNUMERIC" (← exactNumber))
  | "BIGDECIMAL" => return some (typeWith "BigDecimal" "BIGDECIMAL" (← exactNumber))
  | "DECIMAL" => return some (← exactType "Decimal" "DECIMAL")
  | "DEC" => return some (← exactType "Dec" "DEC")
  | "VARCHAR" => return some (typeSized "Varchar" "VARCHAR" (← characterLength))
  | "NVARCHAR" => return some (typeSized "Nvarchar" "NVARCHAR" (← characterLength))
  | "VARBINARY" => return some (typeSized "Varbinary" "VARBINARY" (← binaryLength))
  | "CHARACTER" => return some (← characterType "CHARACTER" "Character")
  | "CHAR" => return some (← characterType "CHAR" "Char")
  | "BIT" =>
    if ← keyword "VARYING" then
      return some (typeSized "BitVarying" "BIT VARYING" (← precisionPart))
    return some (typeSized "Bit" "BIT" (← precisionPart))
  | "TIMESTAMP" => return some (← timeType "Timestamp" "TIMESTAMP")
  | "TIMESTAMPTZ" => return some (← zonedType "Timestamp" "TIMESTAMPTZ")
  | "TIME" => return some (← timeType "Time" "TIME")
  | "TIMETZ" => return some (← zonedType "Time" "TIMETZ")
  | "DATETIME64" =>
    let _ ← expectSymbol "("
    let precision ← wholeNumber
    let zone ← if ← symbol "," then pure (Part.text (← literalString)) else pure .absent
    let _ ← expectSymbol ")"
    let form : Form := ⟨.tuple "Datetime64",
      [.word "DateTime64(", .part 0, .opt 1 ", '" "'", .word ")"]⟩
    return some { tree := .node form [.number precision, zone] }
  | "FIXEDSTRING" =>
    let length ← parenthesized wholeNumber
    return some (typeSized "FixedString" "FixedString" (.number length))
  | "INTERVAL" =>
    let fields := (← intervalFields).getD .absent
    let precision ← precisionPart
    return some
      { tree := .node ⟨.variant "Interval" ["fields", "precision"], [.word "INTERVAL",
          .opt 0 " " "", .opt 1 "(" ")"]⟩ [fields, precision]
        isInterval := true }
  | "ENUM" => return some (← enumType "ENUM" none)
  | "ENUM8" => return some (← enumType "ENUM8" (some 8))
  | "ENUM16" => return some (← enumType "ENUM16" (some 16))
  | "SET" =>
    let form : Form := ⟨.newtype "Set", [.word "SET(", .list 0 ", ", .word ")"]⟩
    return some { tree := .node form [.list (← setMembers)] }
  | "NESTED" =>
    let form : Form := ⟨.newtype "Nested", [.word "Nested(", .list 0 ", ", .word ")"]⟩
    return some { tree := .node form [.list (← columnDefinitions)] }
  | "ARRAY" =>
    let _ ← expectSymbol "<"
    let inner ← readType
    let closed ← closeAngle inner.isClosed
    return some
      { tree := .node ⟨.newtype "Array", [.word "ARRAY<", .part 0, .word ">"]⟩ [
          .node ⟨.newtype "AngleBracket", [.part 0]⟩ [inner.tree]]
        isClosed := closed }
  | "STRUCT" =>
    let (fields, closed) ← structFields
    return some
      { tree := .node ⟨.tuple "Struct", [.word "STRUCT", .someList 0 "<" ", " ">"]⟩ [
          .list fields, .choice "AngleBrackets" ""]
        isClosed := closed }
  | "UNION" =>
    let fields ← parenthesized (commaList do
      let name ← identifier
      return Part.node ⟨.record ["field_name", "field_type"], [.part 0, .word " ", .part 1]⟩
        [.ident name, ← dataType])
    let form : Form := ⟨.newtype "Union", [.word "UNION(", .list 0 ", ", .word ")"]⟩
    return some { tree := .node form [.list fields] }
  | "NULLABLE" => return some (← innerType "Nullable" "Nullable")
  | "LOWCARDINALITY" => return some (← innerType "LowCardinality" "LowCardinality")
  | "MAP" =>
    let _ ← expectSymbol "("
    let key ← dataType
    let _ ← expectSymbol ","
    let value ← dataType
    let _ ← expectSymbol ")"
    let form : Form := ⟨.tuple "Map", [.word "Map(", .part 0, .word ", ", .part 1, .word ")"]⟩
    return some { tree := .node form [key, value] }
  | "TUPLE" =>
    let fields ← parenthesized (commaList do return (← structField).1)
    let form : Form := ⟨.newtype "Tuple", [.word "Tuple(", .list 0 ", ", .word ")"]⟩
    return some { tree := .node form [.list fields] }
  | "ANY" =>
    if ← keyword "TYPE" then return some (namedType "AnyType" "ANY TYPE") else return none
  | "TABLE" =>
    let columns ← if ← peekSymbol "(" then some <$> columnDefinitions else pure none
    let form : Form := ⟨.newtype "Table", [.word "TABLE", .opt 0 "(" ")"]⟩
    return some { tree := .node form [optional .list columns] }
  | "SIGNED" =>
    if ← keyword "INTEGER" then return some (namedType "SignedInteger" "SIGNED INTEGER")
    return some (namedType "Signed" "SIGNED")
  | "UNSIGNED" =>
    if ← keyword "INTEGER" then return some (namedType "UnsignedInteger" "UNSIGNED INTEGER")
    return some (namedType "Unsigned" "UNSIGNED")
  | _ => return none

/-- A data type, with the brackets of an array after it. -/
def dataTypeRule : Rule ReadType := do
  let first ← peek
  if !first.token.isWord then
    let t ← next
    unexpected "a data type name" t
  let start ← get
  let _ ← next
  let found ← match ← keywordType first.token.key with
    | some found => pure found
    | none =>
      set start
      customType
  iterate found fun found => do
    if ← symbol "[" then
      let size ← attempt wholeNumber
      let _ ← expectSymbol "]"
      let tree := Part.node ⟨.newtype "Array", [.part 0]⟩
        [.node ⟨.tuple "SquareBracket", [.part 0, .word "[", .part 1, .word "]"]⟩
          [found.tree, optional (fun n => .number (Int.ofNat n)) size]]
      return ({ tree, isClosed := found.isClosed }, true)
    return (found, false)

end ColumnMask.Sql
