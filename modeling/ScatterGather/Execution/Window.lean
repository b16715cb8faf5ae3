import ScatterGather.Dialect
import ScatterGather.Statement.Basic

/-!
# Execution/Window — the window each node has to return

Rows that a window skips or keeps are known only after merging, so every node returns all rows that
may still be in it: `revisions` says which numbers of the statement change, and `widen` changes them
in the SQL text and among the parameters.
-/

namespace ScatterGather

/-- The greatest row count that can be asked for. -/
def maxRowCount : Nat := 2 ^ 63 - 1

/-- The row count of one node where the rows arrive in the final order: those skipped and those
kept. -/
def pushedCount (window : Pagination) (parameters : List Value) : Except Error Nat := do
  let offset ← window.offsetRows parameters
  let count ← window.rowLimit parameters
  return min (offset + count.getD 0) maxRowCount

/-- The row count that a node gets, if it changes: none is safe where rows are regrouped, and row
numbers count from the first row already. -/
def revisedCount (paging : Dialect.Paging) (s : Select) (window : Pagination) (count : PageSegment)
    (parameters : List Value) : Except Error (List (PageSegment × Nat)) :=
  if !s.groupBy.isEmpty && !s.groupsInOrder then .ok [(count, maxRowCount)]
  else if paging = .limit then (pushedCount window parameters).map fun n => [(count, n)]
  else .ok []

/-- The numbers of a window that change for the nodes. -/
def revisions (paging : Dialect.Paging) (s : Select) (window : Pagination)
    (parameters : List Value) : Except Error (List (PageSegment × Nat)) := do
  let counts ← match window.rowCount with
    | some count => revisedCount paging s window count parameters
    | none => pure []
  return window.offset.toList.map (fun offset => (offset, 0)) ++ counts

/-- A number to be written over bytes of the SQL text. -/
structure Patch where
  start : Nat
  stop : Nat
  number : Nat
  deriving DecidableEq

/-- The text before and after a number of bytes; nothing if that cuts a character or exceeds the
text. -/
def splitBytes? : Nat → List Char → Option (List Char × List Char)
  | 0, cs => some ([], cs)
  | _ + 1, [] => none
  | n + 1, c :: rest =>
    if c.utf8Size ≤ n + 1 then
      (splitBytes? (n + 1 - c.utf8Size) rest).map fun halves => (c :: halves.1, halves.2)
    else none

/-- The text with the number in place of the bytes. -/
def Patch.apply (sql : List Char) (p : Patch) : Except Error (List Char) :=
  let parts? := if p.start ≤ p.stop then
      (splitBytes? p.start sql).bind fun (before, rest) =>
        (splitBytes? (p.stop - p.start) rest).map fun (_, after) => (before, after)
    else none
  match parts? with
  | some (before, after) => .ok (before ++ (Text.ofNat p.number).toList ++ after)
  | none => .error (.invalidExpression (.paginationPosition p.start p.stop))

/-- Sets the parameters that revisions name, and collects the literals they name. -/
def applyRevisions (parameters : List Value) (patches : List Patch) :
    List (PageSegment × Nat) → Except Error (List Value × List Patch)
  | [] => .ok (parameters, patches)
  | (segment, n) :: rest =>
    match segment.number, segment.position with
    | .parameter index, _ =>
      if index < parameters.length then
        applyRevisions (parameters.set index (.integer (Int64.ofNat n))) patches rest
      else .error (.parameterOutOfRange index)
    | .literal _, some (start, stop) =>
      applyRevisions parameters (patches ++ [⟨start, stop, n⟩]) rest
    | .literal _, none => .error (.unsupported .paginationWithoutPosition)

/-- Applies the patches back to front, so that earlier bytes stay in place. -/
def applyPatches (sql : List Char) (patches : List Patch) : Except Error (List Char) :=
  (patches.mergeSort fun a b => decide (b.start ≤ a.start)).foldlM Patch.apply sql

/-- The SQL text and parameters of a windowed SELECT that several nodes answer. -/
def widen (paging : Dialect.Paging) (s : Select) (window : Pagination) (sql : LogicSql) :
    Except Error (String × List Value) := do
  let changed ← revisions paging s window sql.parameters
  let (parameters, patches) ← applyRevisions sql.parameters [] changed
  let text ← applyPatches sql.sql.toList patches
  return (String.ofList text, parameters)

/-- The SQL text and parameters of a statement that several nodes answer. -/
def shared (dialect : Dialect) (sql : LogicSql) : Except Error (String × List Value) :=
  match sql.statement with
  | .select s =>
    match s.window? with
    | some window =>
      if dialect.paging = .none then .ok (sql.sql, sql.parameters)
      else widen dialect.paging s window sql
    | none => .ok (sql.sql, sql.parameters)
  | _ => .ok (sql.sql, sql.parameters)

end ScatterGather
