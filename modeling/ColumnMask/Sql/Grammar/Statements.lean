-- Statements: the first word says which rule reads the rest.
import ColumnMask.Sql.Grammar.Changes
import ColumnMask.Sql.Grammar.Sessions

namespace ColumnMask.Sql

/-! ## Statements by their first word -/

/-- The rule for the rest of a statement that starts with a word, if it is one that starts a
statement. -/
def statementAfter? : String → Option (Rule Statement)
  | "INSERT" => some (insertRule false)
  | "REPLACE" => some (insertRule true)
  | "UPDATE" => some updateRule
  | "DELETE" => some deleteRule
  | "MERGE" => some mergeRule
  | "CREATE" => some createRule
  | "ALTER" => some alterRule
  | "DROP" => some dropRule
  | "TRUNCATE" => some truncateRule
  | "EXPLAIN" => some (explainRule "EXPLAIN")
  | "DESC" => some (explainRule "DESC")
  | "DESCRIBE" => some (explainRule "DESCRIBE")
  | "ANALYZE" => some analyzeRule
  | "MSCK" => some repairRule
  | "OPTIMIZE" => some optimizeRule
  | "VACUUM" => some vacuumRule
  | "CACHE" => some cacheRule
  | "UNCACHE" => some uncacheRule
  | "ATTACH" => some attachRule
  | "DETACH" => some detachRule
  | "KILL" => some killRule
  | "FLUSH" => some flushRule
  | "DISCARD" => some discardRule
  | "DECLARE" => some declareRule
  | "FETCH" => some fetchRule
  | "OPEN" => some openRule
  | "CLOSE" => some closeRule
  | "COPY" => some copyRule
  | "UNLOAD" => some unloadRule
  | "EXPORT" => some exportRule
  | "SET" => some setRule
  | "RESET" => some resetRule
  | "USE" => some useRule
  | "PRAGMA" => some pragmaRule
  | "SHOW" => some showRule
  | "GRANT" => some grantRule
  | "REVOKE" => some revokeRule
  | "DENY" => some denyRule
  | "START" => some startRule
  | "BEGIN" => some beginRule
  | "END" => some endRule
  | "COMMIT" => some commitRule
  | "ROLLBACK" => some rollbackRule
  | "SAVEPOINT" => some savepointRule
  | "RELEASE" => some releaseRule
  | "PREPARE" => some prepareRule
  | "EXECUTE" => some executeRule
  | "EXEC" => some executeRule
  | "DEALLOCATE" => some deallocateRule
  | "CALL" => some callRule
  | "RAISERROR" => some raiseErrorRule
  | "RAISE" => some raiseRule
  | "ASSERT" => some assertRule
  | "PRINT" => some printRule
  | "RETURN" => some returnRule
  | "RENAME" => some renameRule
  | "INSTALL" => some installRule
  | "LOAD" => some loadRule
  | "COMMENT" => some commentRule
  | "IF" => some ifRule
  | "CASE" => some caseRule
  | "WHILE" => some whileRule
  | _ => none

/-- A statement. -/
def statementRule : Rule Statement := nested do
  let first ← peek
  if ["SELECT", "WITH", "VALUES", "FROM"].contains first.token.key || first.token.isSymbol "(" then
    return .query (← query)
  let _ ← next
  match statementAfter? first.token.key with
  | some rule => rule
  | none => unexpected "an SQL statement" first

end ColumnMask.Sql
