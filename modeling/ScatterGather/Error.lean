import ScatterGather.Expression

/-!
# Error — what can go wrong, by cause

Every failure of the library is an `Error`: a kind with the cause that explains it.  The wording is
in the `message` functions here and nowhere else; `inspect` is the form shown to operators.

Two of the kinds are no answer to the caller: a call that they end is aborted or never ends.  The
others are handed back (`Error.isReturned`).
-/

namespace ScatterGather

/-- Values that do not fit the operation asked of them. -/
inductive Mismatch where
  | sumOverflow (a b : Value)
  | notAddable (a b : Value)
  | notAnInteger (v : Value)
  | shardingValue (v : Value) (column : String)
  | aggregated (v : Value)
  | aggregatedPair (v current : Value)
  | notNumeric (v : Value)
  | patternOnNonText (v : Value)
  | operands (a b : Value)
  deriving DecidableEq

/-- Requests outside of what scattering supports. -/
inductive Refusal where
  | transactionOpen (id : Nat)
  | shardingColumnOnDuplicate (column : String)
  | keyFromSelect (key : String)
  | shardingColumnUpdate (column : String)
  | multipleTableDelete
  | limitedUpdate
  | limitedDelete
  | paginationWithoutPosition
  | havingOperand (operand : Expression)
  | reason (text : String)
  deriving DecidableEq

/-- Expressions and positions that do not make sense. -/
inductive Malformed where
  | placeholder (source rest : String)
  | emptyRange (source : String) (first last : Int)
  | unexpandable (source column : String)
  | unknownColumn (source column expected : String)
  | nonIntegerOperand (source : String) (v : Value)
  | notEvaluable (source : String)
  | arithmetic (source : String)
  | rowWidth (row : Nat) (table : String) (values columns : Nat)
  | paginationParameter (index : Nat) (v : Value)
  | paginationPosition (start stop : Nat)
  | averageInputs
  | exhausted
  | unpositioned
  deriving DecidableEq

/-- Settings that do not make sense. -/
inductive Misconfigured where
  | missingProperty (algorithm key : String)
  | shardingCount (algorithm raw : String)
  | inlineExpression (why : Malformed)
  | inlineWithoutColumn (raw : String)
  | boundary (raw : String)
  | unorderedBoundaries (raw : String)
  | shardingAlgorithmType (name : String)
  | workerRange (id : Int)
  | workerNumeral (raw : String)
  | keyGeneratorType (name : String)
  | dataNode (text : String)
  | dataNodes (table : String) (why : Malformed)
  | noDataNodes (table : String)
  | tableDataSource (table dataSource : String)
  | defaultDataSource (dataSource : String)
  | noKeyGenerator (table : String)
  | weightNumeral (replica raw : String)
  | weightRange (replica raw : String)
  | loadBalancerType (name : String)
  | noPrimary (group : String)
  | duplicateGroup (group : String)
  | connectionsBelowOne
  | connectionsZero
  | fileNotFound (path : String)
  | groupDataSource (group dataSource : String)
  | loadBalancer (name : String)
  | shardingAlgorithm (name : String)
  | keyGenerator (name : String)
  deriving DecidableEq

/-- What a statement found no data node for. -/
inductive Target where
  | shard (v : Value) (number : Int)
  | name (name : String)
  | tables (names : List String)
  deriving DecidableEq

/-- A column that is not there. -/
inductive ColumnRef where
  | label (name : String)
  | position (index : Nat)
  deriving DecidableEq

/-- Every failure, by kind. -/
inductive Error where
  | nullShardingValue (column : String)
  | notComparable (why : Mismatch)
  | unsupported (why : Refusal)
  | tableNotFound (table : String)
  | tableExists (table : String)
  | columnNotFound (column : ColumnRef)
  | noDataNode (target : Target)
  | parameterOutOfRange (index : Nat)
  | invalidExpression (why : Malformed)
  | invalidConfig (why : Misconfigured)
  | executionFailed (dataSource message : String)
  | unreadableSettings
  /-- The running sum of a mean does not fit: the call is aborted instead of handing a failure
  back. -/
  | additionOverflow
  /-- A clock stands still while a key waits for the next millisecond: the call never ends. -/
  | clockStopped
  deriving DecidableEq

/-- Whether the caller gets the failure back, rather than no answer at all. -/
def Error.isReturned : Error → Bool
  | additionOverflow | clockStopped => false
  | _ => true

/-- The wording of a mismatch. -/
def Mismatch.message : Mismatch → String
  | sumOverflow a b => a.render ++ " + " ++ b.render ++ " overflows"
  | notAddable a b => "cannot add " ++ a.render ++ " and " ++ b.render
  | notAnInteger v => "sharding value " ++ v.render ++ " is not an integer"
  | shardingValue v column => "sharding value " ++ v.render ++ " of column '" ++ column ++ "'"
  | aggregated v => "aggregation value " ++ v.render
  | aggregatedPair v current => "aggregation values " ++ v.render ++ " and " ++ current.render
  | notNumeric v => v.render ++ " is not numeric"
  | patternOnNonText v => "LIKE on non-text value " ++ v.render
  | operands a b => a.render ++ " and " ++ b.render

/-- The wording of a refusal. -/
def Refusal.message : Refusal → String
  | transactionOpen id => "transaction " ++ Text.ofNat id ++ " is already open"
  | shardingColumnOnDuplicate column =>
    "ON DUPLICATE KEY UPDATE can not change sharding column '" ++ column ++ "'"
  | keyFromSelect key => "INSERT INTO ... SELECT can not generate key column '" ++ key ++ "'"
  | shardingColumnUpdate column => "can not update sharding column '" ++ column ++ "'"
  | multipleTableDelete => "multiple-table DELETE"
  | limitedUpdate => "UPDATE ... LIMIT can not be routed to multiple data nodes"
  | limitedDelete => "DELETE ... LIMIT can not be routed to multiple data nodes"
  | paginationWithoutPosition =>
    "pagination literal without a position can not be rewritten for multiple data nodes"
  | havingOperand operand =>
    "HAVING operand " ++ operand.inspect ++ " cannot be evaluated after merge"
  | reason text => text

/-- The wording of a malformed expression. -/
def Malformed.message : Malformed → String
  | placeholder source rest =>
    source ++ ": Parsing Error: Error \x7b input: " ++ Text.quoted rest ++ ", code: Eof \x7d"
  | emptyRange source first last =>
    source ++ ": range " ++ Text.ofInt first ++ ".." ++ Text.ofInt last ++ " is empty"
  | unexpandable source column => source ++ ": column '" ++ column ++ "' cannot be expanded"
  | unknownColumn source column expected =>
    source ++ ": unknown column '" ++ column ++ "', expected '" ++ expected ++ "'"
  | nonIntegerOperand source v => source ++ ": arithmetic on non-integer value " ++ v.render
  | notEvaluable source => source ++ ": only column placeholders can be evaluated"
  | arithmetic source => source ++ ": arithmetic overflow"
  | rowWidth row table values columns =>
    "row " ++ Text.ofNat row ++ " of '" ++ table ++ "' has " ++ Text.ofNat values ++
      " values for " ++ Text.ofNat columns ++ " columns"
  | paginationParameter index v =>
    "pagination parameter " ++ Text.ofNat index ++ " is not a non-negative integer: " ++ v.render
  | paginationPosition start stop =>
    "pagination position " ++ Text.ofNat start ++ ".." ++ Text.ofNat stop ++ " is outside the SQL"
  | averageInputs => "AVG needs derived COUNT and SUM columns"
  | exhausted => "merged result is exhausted"
  | unpositioned => "cursor is not positioned on a row"

/-- The wording of a setting that makes no sense. -/
def Misconfigured.message : Misconfigured → String
  | missingProperty algorithm key => algorithm ++ " algorithm requires '" ++ key ++ "'"
  | shardingCount algorithm raw =>
    algorithm ++ " sharding-count must be a positive integer, got '" ++ raw ++ "'"
  | inlineExpression why => "INLINE algorithm-expression: Invalid expression: " ++ why.message
  | inlineWithoutColumn raw =>
    "INLINE algorithm-expression '" ++ raw ++ "' references no column"
  | boundary raw => "BOUNDARY_RANGE boundary '" ++ raw ++ "' is not an integer"
  | unorderedBoundaries raw =>
    "BOUNDARY_RANGE sharding-ranges must be strictly ascending: " ++ raw
  | shardingAlgorithmType name => "unknown sharding algorithm type '" ++ name ++ "'"
  | workerRange id => "worker-id must be in 0..=1023, got " ++ Text.ofInt id
  | workerNumeral raw => "worker-id is not an integer: " ++ raw
  | keyGeneratorType name => "unknown key generator type '" ++ name ++ "'"
  | dataNode text => "data node '" ++ text ++ "' must be '<data_source>.<table>'"
  | dataNodes table why => table ++ ": Invalid expression: " ++ why.message
  | noDataNodes table => table ++ ": no actual data nodes"
  | tableDataSource table dataSource =>
    "table '" ++ table ++ "' references unknown data source '" ++ dataSource ++ "'"
  | defaultDataSource dataSource => "unknown default data source '" ++ dataSource ++ "'"
  | noKeyGenerator table => "table '" ++ table ++ "' has no key generator"
  | weightNumeral replica raw => "weight of replica '" ++ replica ++ "' is not a number: " ++ raw
  | weightRange replica raw =>
    "weight of replica '" ++ replica ++ "' must be a non-negative number, got " ++ raw
  | loadBalancerType name => "unknown load balancer type '" ++ name ++ "'"
  | noPrimary group => "read/write group '" ++ group ++ "' has no primary data source"
  | duplicateGroup group => "duplicate read/write group '" ++ group ++ "'"
  | connectionsBelowOne => "max_connections_size_per_query must be at least 1"
  | connectionsZero => "max_connections_size_per_query must be greater than 0"
  | fileNotFound path => "config file " ++ path ++ " not found"
  | groupDataSource group dataSource =>
    "read/write group '" ++ group ++ "' references unknown data source '" ++ dataSource ++ "'"
  | loadBalancer name => "unknown load balancer '" ++ name ++ "'"
  | shardingAlgorithm name => "unknown sharding algorithm '" ++ name ++ "'"
  | keyGenerator name => "unknown key generator '" ++ name ++ "'"

/-- What no data node was found for. -/
def Target.message : Target → String
  | shard v number => "sharding value " ++ v.render ++ " (shard " ++ Text.ofInt number ++ ")"
  | name n => n
  | tables names => Text.join ", " names

/-- The missing column: its label, or its number after a hash sign. -/
def ColumnRef.message : ColumnRef → String
  | label name => name
  | position index => "#" ++ Text.ofNat index

/-- The wording of a failure. -/
def Error.message : Error → String
  | nullShardingValue column => "Sharding column '" ++ column ++ "' can't be null"
  | notComparable why => "Value must be comparable: " ++ why.message
  | unsupported why => "Unsupported SQL: " ++ why.message
  | tableNotFound table => "Table '" ++ table ++ "' not found"
  | tableExists table => "Table '" ++ table ++ "' already exists"
  | columnNotFound column => "Column '" ++ column.message ++ "' not found"
  | noDataNode target => "No data node resolved for '" ++ target.message ++ "'"
  | parameterOutOfRange index => "Parameter index " ++ Text.ofNat index ++ " is out of range"
  | invalidExpression why => "Invalid expression: " ++ why.message
  | invalidConfig why => "Invalid configuration: " ++ why.message
  | executionFailed dataSource message =>
    "Execution failed on data source '" ++ dataSource ++ "': " ++ message
  | unreadableSettings => "Configuration error: unreadable settings"
  | additionOverflow => "Addition overflowed"
  | clockStopped => "Clock never passes the last timestamp"

/-- The name of a failure's kind. -/
def Error.kind : Error → String
  | nullShardingValue _ => "NullShardingValue"
  | notComparable _ => "NotComparable"
  | unsupported _ => "Unsupported"
  | tableNotFound _ => "TableNotFound"
  | tableExists _ => "TableExists"
  | columnNotFound _ => "ColumnNotFound"
  | noDataNode _ => "NoDataNode"
  | parameterOutOfRange _ => "ParameterOutOfRange"
  | invalidExpression _ => "InvalidExpression"
  | invalidConfig _ => "InvalidConfig"
  | executionFailed _ _ => "ExecutionFailed"
  | unreadableSettings => "Config"
  | additionOverflow => "Panic"
  | clockStopped => "Clock"

/-- A failure as operators see it: its kind and, in quotes, its detail. -/
def Error.inspect : Error → String
  | e@(nullShardingValue column) | e@(tableNotFound column) | e@(tableExists column) =>
    e.kind ++ "(" ++ Text.quoted column ++ ")"
  | e@(notComparable why) => e.kind ++ "(" ++ Text.quoted why.message ++ ")"
  | e@(unsupported why) => e.kind ++ "(" ++ Text.quoted why.message ++ ")"
  | e@(columnNotFound column) => e.kind ++ "(" ++ Text.quoted column.message ++ ")"
  | e@(noDataNode target) => e.kind ++ "(" ++ Text.quoted target.message ++ ")"
  | e@(parameterOutOfRange index) => e.kind ++ "(" ++ Text.ofNat index ++ ")"
  | e@(invalidExpression why) => e.kind ++ "(" ++ Text.quoted why.message ++ ")"
  | e@(invalidConfig why) => e.kind ++ "(" ++ Text.quoted why.message ++ ")"
  | e@(executionFailed dataSource message) =>
    e.kind ++ " \x7b data_source: " ++ Text.quoted dataSource ++ ", message: " ++
      Text.quoted message ++ " \x7d"
  | e => e.kind

end ScatterGather
