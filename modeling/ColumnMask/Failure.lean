-- Why a request fails: the causes, their codes and their wording.

namespace ColumnMask

/-! ## Codes -/

/-- The kinds of failures. -/
inductive FailureCode where
  | sqlSyntax | unsupportedStatement | missingMapping | serialization | persistence
  deriving DecidableEq, Repr

def FailureCode.all : List FailureCode :=
  [.sqlSyntax, .unsupportedStatement, .missingMapping, .serialization, .persistence]

/-- The code as callers see it. -/
def FailureCode.show : FailureCode → String
  | .sqlSyntax => "SQLMASK_ERROR_SQL_SYNTAX"
  | .unsupportedStatement => "SQLMASK_ERROR_UNSUPPORTED_STATEMENT"
  | .missingMapping => "SQLMASK_ERROR_MISSING_MAPPING"
  | .serialization => "SQLMASK_ERROR_SERIALIZATION"
  | .persistence => "SQLMASK_ERROR_PERSISTENCE"

/-! ## Causes -/

/-- What a store of mappings says when it fails. -/
structure StoreError where
  message : String
  deriving DecidableEq, Repr

/-- Why a request fails. -/
inductive Failure where
  /-- The text is no SQL. -/
  | sqlSyntax (message : String)
  /-- The columns of a statement of this kind are not all known, so it is refused. -/
  | unsupported (index : Nat) (keyword : String)
  /-- A column has no digest. -/
  | unmapped (column : String)
  /-- The text of a rewritten statement does not read back as one statement. -/
  | unreadable (index : Nat) (message : String)
  /-- The store of mappings failed. -/
  | store (error : StoreError)
  deriving DecidableEq, Repr

namespace Failure

def code : Failure → FailureCode
  | .sqlSyntax _ => .sqlSyntax
  | .unsupported .. => .unsupportedStatement
  | .unmapped _ => .missingMapping
  | .unreadable .. => .serialization
  | .store _ => .persistence

def message : Failure → String
  | .sqlSyntax message => "sql syntax error: " ++ message
  | .unsupported index keyword =>
    "statement " ++ toString index ++ " (" ++ keyword ++ ") cannot be anonymized"
  | .unmapped column => "no hash mapping for column '" ++ column ++ "'"
  | .unreadable index message =>
    "rewritten statement " ++ toString index ++ " failed to serialize: " ++ message
  | .store error => "mapping store failure: " ++ error.message

/-- Whether the caller's input is at fault. -/
def isClientError (f : Failure) : Bool :=
  f.code == .sqlSyntax || f.code == .unsupportedStatement

/-- The failure below this one, if it has one. -/
def source? : Failure → Option StoreError
  | .store error => some error
  | _ => none

end Failure

end ColumnMask
