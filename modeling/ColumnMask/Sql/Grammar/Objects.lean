-- The definitions of what holds no rows: functions, procedures and triggers, types and
-- sequences, schemas, roles and rights, and CREATE itself.
import ColumnMask.Sql.Grammar.Definitions

namespace ColumnMask.Sql

/-! ## Functions -/

def parameterMode : Rule Part := optionalWord ["IN", "OUT", "INOUT"]

/-- A parameter of a function: a mode, a name, a type and a default. A type that another type
follows was the name. -/
def functionParameter : Rule Part := do
  let mode ← parameterMode
  let first ← dataType
  let last ← lastRead
  let second ← if ← peekKeyword "DEFAULT" then pure none else attempt dataType
  let (name, type) ← match second with
    | some type => do
      if !last.token.isWord then unexpected "a name or type" last
      pure (Part.text last.token.show, type)
    | none => pure (.absent, first)
  let default ← if ← keyword "DEFAULT" <||> symbol "=" then do pure (led "=" (← exprPart))
    else pure .absent
  return .node .phrase [mode, name, type, default]

/-- The parameters of a function in parentheses. -/
def functionParameters : Rule Part :=
  return inParens (← parenthesized (commaList0 functionParameter ")"))

/-- The text of a function. -/
def functionText : Rule Part := do
  match (← peek).token with
  | .dollar .. => valuePart
  | _ => return quotedText (← literalString)

/-- What a function is declared to be, apart from its parameters. -/
structure FunctionTraits where
  language : Part := .absent
  behavior : Part := .absent
  onNull : Part := .absent
  parallel : Part := .absent
  body : Part := .absent

/-- A trait that may be given once. -/
def onlyOnce (p : Part) (name : String) : Rule Unit :=
  match p with
  | .absent => pure ()
  | _ => refuse (name ++ " specified more than once")

/-- One more trait of a function, if one comes next. -/
def functionTrait (t : FunctionTraits) : Rule (FunctionTraits × Bool) := do
  if ← keyword "AS" then
    onlyOnce t.body "AS"
    let text ← functionText
    let link ← if ← symbol "," then functionText else pure .absent
    let body := led "AS" (.node ⟨.array, [.all ", "]⟩ [text, link])
    return ({ t with body }, true)
  if ← keyword "LANGUAGE" then
    onlyOnce t.language "LANGUAGE"
    return ({ t with language := led "LANGUAGE" (← identPart) }, true)
  match ← optionalWord ["IMMUTABLE", "STABLE", "VOLATILE"] with
  | .absent => pure ()
  | behavior =>
    onlyOnce t.behavior "IMMUTABLE | STABLE | VOLATILE"
    return ({ t with behavior }, true)
  match ← optionalChoice [["CALLED", "ON", "NULL", "INPUT"],
      ["RETURNS", "NULL", "ON", "NULL", "INPUT"], ["STRICT"]] with
  | .absent => pure ()
  | onNull =>
    onlyOnce t.onNull "CALLED ON NULL INPUT | RETURNS NULL ON NULL INPUT | STRICT"
    return ({ t with onNull }, true)
  if ← keyword "PARALLEL" then
    onlyOnce t.parallel "PARALLEL \x7b UNSAFE | RESTRICTED | SAFE \x7d"
    match ← optionalWord ["UNSAFE", "RESTRICTED", "SAFE"] with
    | .absent => unexpected "one of UNSAFE | RESTRICTED | SAFE" (← peek)
    | word => return ({ t with parallel := led "PARALLEL" word }, true)
  if ← keyword "RETURN" then
    onlyOnce t.body "RETURN"
    return ({ t with body := led "RETURN" (← exprPart) }, true)
  return (t, false)

def createFunction (opening : List Part) : Rule Statement := do
  let name ← objectName
  let parameters ← functionParameters
  let returns ← clause ["RETURNS"] dataType
  let t ← iterate ({} : FunctionTraits) functionTrait
  return phrase (opening ++ [.text "FUNCTION", .node .glued [.name name, parameters], returns,
    t.language, t.behavior, t.onNull, t.parallel, t.body])

def createMacro (opening : List Part) : Rule Statement := do
  let name ← objectName
  let parameters ← parenthesized (commaList0 (do
    let parameter ← identifier
    if ← symbol ":=" <||> symbol "=>" then
      return Part.node .phrase [.ident parameter, .text ":=", ← exprPart]
    return .ident parameter) ")")
  let _ ← expectKeyword "AS"
  let definition ← if ← keyword "TABLE" then do pure (led "TABLE" (.query (← query)))
    else exprPart
  return phrase (opening ++ [.text "MACRO", .node .glued [.name name, someParens parameters],
    .text "AS", definition])

/-! ## Procedures and triggers -/

def procedureParameter : Rule Part := do
  let mode ← parameterMode
  let parameter ← identifier
  let type ← dataType
  let default ← if ← symbol "=" then do pure (led "=" (← exprPart)) else pure .absent
  return .node .phrase [mode, .ident parameter, type, default]

/-- The parameters of a procedure; a comma may follow the last one. -/
def procedureParameters : Rule (List Part) := do
  if !(← symbol "(") then return []
  if ← symbol ")" then return []
  let found ← iterate ([] : List Part) fun found => do
    let found ← if (← peek).token.isWord then do pure ((← procedureParameter) :: found)
      else pure found
    let comma ← symbol ","
    if ← symbol ")" then return (found, false)
    if !comma then unexpected "',' or ')' after parameter definition" (← peek)
    return (found, true)
  return found.reverse

def createProcedure (opening : List Part) : Rule Statement := do
  let name ← namePart
  let parameters ← procedureParameters
  let language ← clause ["LANGUAGE"] identPart
  let _ ← expectKeyword "AS"
  let definition ← statementBlock ["END"]
  return phrase (opening ++ [.text "PROCEDURE", name, someParens parameters, language, .text "AS",
    definition])

/-- What fires a trigger. -/
def triggerEvent : Rule Part := do
  match ← expectOneOf ["INSERT", "UPDATE", "DELETE", "TRUNCATE"] with
  | "UPDATE" => if ← keyword "OF" then return led "UPDATE OF" (← identifiers) else return .text "UPDATE"
  | word => return .text word

/-- When a trigger fires. -/
def triggerPeriod : Rule Part := do
  match ← expectOneOf ["FOR", "BEFORE", "AFTER", "INSTEAD"] with
  | "INSTEAD" =>
    let _ ← expectKeyword "OF"
    return .text "INSTEAD OF"
  | word => return .text word

/-- A table of old or new rows and its name. -/
def triggerTable : Rule (Option Part) := do
  match ← [["OLD", "TABLE"], ["NEW", "TABLE"]].findM? keywords with
  | some words =>
    let as_ ← optionalWords ["AS"]
    return some (.node .phrase [.text (" ".intercalate words), as_, ← namePart])
  | none => return none

/-- What a trigger runs. -/
def triggerAction : Rule Part := do
  if ← keyword "EXECUTE" then
    let kind ← expectOneOf ["FUNCTION", "PROCEDURE"]
    let f ← objectName
    let parameters ← if ← peekSymbol "(" then functionParameters else pure .absent
    return .node .phrase [.text ("EXECUTE " ++ kind), .node .glued [.name f, parameters]]
  statementBlock ["END"]

def createTrigger (opening : List Part) : Rule Statement := do
  let name ← namePart
  let period ← attempt triggerPeriod
  let first ← triggerEvent
  let more ← many do
    if ← keyword "OR" then return some (led "OR" (← triggerEvent)) else return none
  let _ ← expectKeyword "ON"
  let table ← relationPart
  let source ← if ← keyword "FROM" then do pure (led "FROM" (optional .name (← attempt objectName)))
    else pure .absent
  let timing ← constraintTiming
  let referenced ← if ← keyword "REFERENCING" then many triggerTable else pure []
  let each ← if ← keyword "FOR" then do
      let each ← optionalWords ["EACH"]
      pure (Part.node .phrase [.text "FOR", each, .text (← expectOneOf ["ROW", "STATEMENT"])])
    else pure .absent
  let condition ← clause ["WHEN"] exprPart
  let action ← triggerAction
  let tables := if referenced.isEmpty then Part.absent else led "REFERENCING" (.node .phrase referenced)
  return phrase (opening ++ [.text "TRIGGER", name, optional id period, first] ++ more ++
    [.text "ON", table, source, timing, tables, each, condition, action])

/-! ## Types, domains and sequences -/

/-- An option of a type of ranges. -/
def rangeOption : Rule Part := do
  match ← oneOf ["SUBTYPE", "SUBTYPE_OPCLASS", "COLLATION", "CANONICAL", "SUBTYPE_DIFF",
      "MULTIRANGE_TYPE_NAME"] with
  | some word =>
    let _ ← expectSymbol "="
    return led (word ++ " =") (← if word == "SUBTYPE" then dataType else namePart)
  | none => unexpected "range option keyword" (← peek)

/-- A member of a type of records. -/
def typeMember : Rule Part := do
  let member ← identifier
  let type ← dataType
  return .node .phrase [.ident member, type, ← clause ["COLLATE"] namePart]

def createType : Rule Statement := do
  let name ← namePart
  if !(← keyword "AS") then return phrase [.text "CREATE TYPE", name]
  if ← keyword "ENUM" then
    let labels ← parenthesized (commaList0 identifier ")")
    return phrase [.text "CREATE TYPE", name, .text "AS ENUM", inParens (labels.map .ident)]
  if ← keyword "RANGE" then
    let options ← parenthesized (commaList0 rangeOption ")")
    return phrase [.text "CREATE TYPE", name, .text "AS RANGE", inParens options]
  if ← peekSymbol "(" then
    let members ← parenthesized (commaList0 typeMember ")")
    return phrase [.text "CREATE TYPE", name, .text "AS", inParens members]
  unexpected "ENUM, RANGE, or '(' after AS" (← peek)

def createDomain : Rule Statement := do
  let name ← namePart
  let _ ← expectKeyword "AS"
  let type ← dataType
  let collation ← clause ["COLLATE"] identPart
  let default ← clause ["DEFAULT"] exprPart
  let constraints ← many tableConstraint
  return phrase ([.text "CREATE DOMAIN", name, .text "AS", type, collation, default] ++ constraints)

def createSequence (opening : List Part) : Rule Statement := do
  let missing ← ifNotExists
  let name ← namePart
  let type ← clause ["AS"] dataType
  let settings ← sequenceSettings
  let owned ← clause ["OWNED", "BY"] do
    if ← keyword "NONE" then return .text "NONE" else namePart
  let head := phrase (opening ++ [.text "SEQUENCE", missing, name, type])
  return phrase [.node .glued (.statement head :: settings), owned]

/-! ## Schemas, databases and extensions -/

def createSchema : Rule Statement := do
  let missing ← ifNotExists
  let name ← if ← keyword "AUTHORIZATION" then do pure (led "AUTHORIZATION" (← identPart))
    else do
      let name ← namePart
      pure (Part.node .phrase [name, ← clause ["AUTHORIZATION"] identPart])
  let collation ← clause ["DEFAULT", "COLLATE"] exprPart
  let withOptions ← clause ["WITH"] do return inParens (← sqlOptions)
  let options ← if ← keyword "OPTIONS" then do
      pure (Part.node .glued [.text "OPTIONS", inParens (← sqlOptions)])
    else pure .absent
  let copied ← clause ["CLONE"] namePart
  return phrase [.text "CREATE SCHEMA", missing, name, collation, withOptions, options, copied]

def createDatabase : Rule Statement := do
  let missing ← ifNotExists
  let name ← namePart
  let (place, managed) ← iterate (Part.absent, Part.absent) fun (place, managed) => do
    match ← oneOf ["LOCATION", "MANAGEDLOCATION"] with
    | some "LOCATION" =>
      return ((.text ("LOCATION '" ++ (← literalString) ++ "'"), managed), true)
    | some _ => return ((place, .text ("MANAGEDLOCATION '" ++ (← literalString) ++ "'")), true)
    | none => return ((place, managed), false)
  return phrase [.text "CREATE DATABASE", missing, name, place, managed,
    ← clause ["CLONE"] namePart]

def createExtension : Rule Statement := do
  let missing ← ifNotExists
  let name ← identifier
  let details ← if ← keyword "WITH" then do
      let schema ← clause ["SCHEMA"] identPart
      let version ← clause ["VERSION"] identPart
      pure [schema, version, ← optionalWords ["CASCADE"]]
    else pure []
  let word := wordIf (details.any fun d => !d.isAbsent) "WITH"
  return phrase ([.text "CREATE EXTENSION", missing, .ident name, word] ++ details)

/-- Options that are two words each, in parentheses. -/
def wordPairs : Rule (List Part) :=
  commaList do return .node .phrase [← identPart, ← identPart]

def createServer : Rule Statement := do
  let missing ← ifNotExists
  let name ← namePart
  let type ← clause ["TYPE"] identPart
  let version ← clause ["VERSION"] identPart
  expectKeywords ["FOREIGN", "DATA", "WRAPPER"]
  let wrapper ← namePart
  let options ← clause ["OPTIONS"] do return inParens (← parenthesized wordPairs)
  return phrase [.text "CREATE SERVER", missing, name, type, version, .text "FOREIGN DATA WRAPPER",
    wrapper, options]

def createConnector : Rule Statement := do
  let missing ← ifNotExists
  let name ← identPart
  let text (word : String) : Rule Part := clause [word] do
    return .text ("'" ++ (← literalString) ++ "'")
  let type ← text "TYPE"
  let url ← text "URL"
  let comment ← if ← keyword "COMMENT" then do
      let equals ← symbol "="
      pure (led (if equals then "COMMENT =" else "COMMENT") (quotedText (← commentText)))
    else pure .absent
  let properties ← if ← keywords ["WITH", "DCPROPERTIES"] then do
      pure (Part.node .glued [.text "WITH DCPROPERTIES", inParens (← sqlOptions)])
    else pure .absent
  return phrase [.text "CREATE CONNECTOR", missing, name, type, url, comment, properties]

/-! ## Users, roles and rights -/

def createRole : Rule Statement := do
  let missing ← ifNotExists
  let roles ← names
  let _ ← keyword "WITH"
  return phrase [.text "CREATE ROLE", missing, roles]

def createUser (opening : List Part) : Rule Statement := do
  let missing ← ifNotExists
  let name ← identPart
  let options ← keyValuePart false ["WITH", "TAG"]
  let marked ← optionalWords ["WITH"]
  let tags ← if ← keyword "TAG" then do pure (inParens [← keyValuePart true []]) else pure .absent
  let tagged := if tags.isAbsent then [] else [marked, .text "TAG", tags]
  return phrase (opening ++ [.text "USER", missing, name, options] ++ tagged)

def createPolicy : Rule Statement := do
  let name ← identPart
  let _ ← expectKeyword "ON"
  let table ← relationPart
  let kind ← clause ["AS"] do return .text (← expectOneOf ["PERMISSIVE", "RESTRICTIVE"])
  let command ← clause ["FOR"] do
    return .text (← expectOneOf ["ALL", "SELECT", "INSERT", "UPDATE", "DELETE"])
  let roles ← clause ["TO"] owners
  let visible ← clause ["USING"] conditionPart
  let allowed ← clause ["WITH", "CHECK"] conditionPart
  return phrase [.text "CREATE POLICY", name, .text "ON", table, kind, command, roles, visible,
    allowed]

/-- A key to another system. -/
def createSecret (opening : List Part) : Rule Statement := do
  let missing ← ifNotExists
  let (name, place) ← if ← peekSymbol "(" then pure (none, none)
    else if ← keyword "IN" then do pure (none, ← attempt identifier)
    else do
      let name ← attempt identifier
      let place ← if ← keyword "IN" then attempt identifier else pure none
      pure (name, place)
  let _ ← expectSymbol "("
  let _ ← expectKeyword "TYPE"
  let type ← identPart
  let options ← if ← symbol "," then wordPairs else pure []
  let _ ← expectSymbol ")"
  return phrase (opening ++ [.text "SECRET", missing, optional .ident name,
    led "IN" (optional .ident place), .text "( TYPE", withCommas (type :: options), .text ")"])

/-! ## Operators -/

/-- The name of an operator: any tokens with points between them. -/
def operatorName : Rule Part := do
  let found ← iterate ([] : List String) fun found => do
    let t ← next
    return (t.token.show :: found, ← symbol ".")
  return .text (".".intercalate found.reverse)

/-- The name of an operator, or the word for it with the name in parentheses. -/
def relatedOperator : Rule Part := do
  if ← keyword "OPERATOR" then
    return .node .glued [.text "OPERATOR", inParens [← parenthesized operatorName]]
  operatorName

/-- A property of an operator: whether it is its function, and the property. -/
def operatorProperty : Rule (Bool × Part) := do
  let word ← expectOneOf ["FUNCTION", "PROCEDURE", "LEFTARG", "RIGHTARG", "COMMUTATOR", "NEGATOR",
    "RESTRICT", "JOIN", "HASHES", "MERGES"]
  if word == "HASHES" || word == "MERGES" then return (false, .text word)
  let _ ← expectSymbol "="
  let value ← match word with
    | "LEFTARG" | "RIGHTARG" => dataType
    | "COMMUTATOR" | "NEGATOR" => relatedOperator
    | "RESTRICT" => do if ← keyword "NONE" then pure (Part.text "NONE") else namePart
    | _ => namePart
  return (word == "FUNCTION" || word == "PROCEDURE", led (word ++ " =") value)

def createOperator : Rule Statement := do
  let name ← operatorName
  let properties ← parenthesized (commaList operatorProperty)
  let (called, others) := properties.partition (·.1)
  if called.isEmpty then refuse "CREATE OPERATOR requires FUNCTION parameter"
  return phrase [.text "CREATE OPERATOR", name, inParens ((called ++ others).map (·.2))]

def createOperatorFamily : Rule Statement := do
  let name ← namePart
  let _ ← expectKeyword "USING"
  return phrase [.text "CREATE OPERATOR FAMILY", name, .text "USING", ← identPart]

/-! ## CREATE -/

/-- Whether a view is defined next. -/
def peekView : Rule Bool := do
  if ← peekOneOf ["MATERIALIZED", "VIEW"] then return true
  if ← peekKeyword "SECURE" then
    let second := (← peekAfter 1).token.key
    return second == "VIEW" || (second == "MATERIALIZED" && (← peekAfter 2).token.key == "VIEW")
  return false

def createRule : Rule Statement := do
  let replace ← optionalWords ["OR", "REPLACE"]
  let alter ← optionalWords ["OR", "ALTER"]
  let isLocal ← optionalWords ["LOCAL"]
  let global ← optionalWords ["GLOBAL"]
  let transient ← optionalWords ["TRANSIENT"]
  let temporary := wordIf (← oneOf ["TEMP", "TEMPORARY"]).isSome "TEMPORARY"
  let scope := if global.isAbsent then isLocal else global
  let changing : List Part := [.text "CREATE", alter, replace, temporary]
  let settings ← viewSettings
  if ← keyword "TABLE" then
    return ← createTable [.text "CREATE", replace, scope, temporary, transient]
  if ← peekView then return ← createView [.text "CREATE", alter, replace] settings temporary
  if ← keyword "POLICY" then return ← createPolicy
  if ← keyword "EXTERNAL" then return ← createExternalTable [.text "CREATE", replace]
  if ← keyword "FUNCTION" then return ← createFunction [.text "CREATE", replace, temporary]
  if ← keyword "DOMAIN" then return ← createDomain
  if ← keyword "TRIGGER" then return ← createTrigger [.text "CREATE", temporary, alter, replace]
  if ← keywords ["CONSTRAINT", "TRIGGER"] then
    return ← createTrigger [.text "CREATE", temporary, alter, replace, .text "CONSTRAINT"]
  if ← keyword "MACRO" then return ← createMacro changing
  if ← keyword "SECRET" then return ← createSecret [.text "CREATE", replace, temporary]
  if ← keyword "USER" then return ← createUser [.text "CREATE", replace]
  if !replace.isAbsent then
    unexpected "[EXTERNAL] TABLE or [MATERIALIZED] VIEW or FUNCTION after CREATE OR REPLACE" (← peek)
  if ← keyword "EXTENSION" then return ← createExtension
  if ← keyword "INDEX" then return ← createIndex false
  if ← keywords ["UNIQUE", "INDEX"] then return ← createIndex true
  if ← keyword "VIRTUAL" then return ← createVirtualTable
  if ← keyword "SCHEMA" then return ← createSchema
  if ← keyword "DATABASE" then return ← createDatabase
  if ← keyword "ROLE" then return ← createRole
  if ← keyword "SEQUENCE" then return ← createSequence [.text "CREATE", temporary]
  if ← keyword "TYPE" then return ← createType
  if ← keyword "PROCEDURE" then return ← createProcedure [.text "CREATE", alter]
  if ← keyword "CONNECTOR" then return ← createConnector
  if ← keywords ["OPERATOR", "FAMILY"] then return ← createOperatorFamily
  if ← keyword "OPERATOR" then return ← createOperator
  if ← keyword "SERVER" then return ← createServer
  unexpected "an object type after CREATE" (← peek)

end ColumnMask.Sql
