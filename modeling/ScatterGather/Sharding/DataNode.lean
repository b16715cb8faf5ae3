import ScatterGather.Error

/-!
# Sharding/DataNode — physical tables

A data node is a table on a data source, written `source.table`.
-/

namespace ScatterGather

/-- A physical table on a physical data source. -/
structure DataNode where
  dataSource : String
  table : String
  deriving DecidableEq

namespace DataNode

/-- The node as it is written. -/
def render (n : DataNode) : String := n.dataSource ++ "." ++ n.table

/-- The node that a text writes: two parts that are not empty, with one point between them. -/
def parse (text : String) : Except Error DataNode :=
  match Text.splitAll '.' (Text.trimChars text.toList) with
  | [dataSource, table] =>
    if dataSource.isEmpty || table.isEmpty then .error (.invalidConfig (.dataNode text))
    else .ok ⟨String.ofList dataSource, String.ofList table⟩
  | _ => .error (.invalidConfig (.dataNode text))

end DataNode

end ScatterGather
