import ScatterGather.ReadWrite.Balancer
import ScatterGather.Session
import ScatterGather.Statement.Basic

/-!
# ReadWrite/Rule — groups of a primary and its replicas

A `ReplicaGroup` stands for one logical data source.  Writes go to its primary, reads to a replica;
`needsPrimary` says which reads follow the writes.  The members of a group are its own, or those of
a cluster whose `Topology` is known only at run time.
-/

namespace ScatterGather

/-- The members of clusters, as found at run time. -/
structure Topology where
  primary : String → String
  replicas : String → List String

/-- A logical data source made of a primary and replicas. -/
structure ReplicaGroup where
  name : String
  primary : String
  replicas : List String
  balancerName : String
  balancer : Balancer
  /-- The cluster whose members take the place of the group's own. -/
  cluster : Option String
  deriving DecidableEq

/-- All groups, their names different up to the case of ASCII letters. -/
structure ReadWriteRule where
  groups : List ReplicaGroup
  deriving DecidableEq

namespace ReadWriteRule

/-- Checks groups in order, `earlier` being the names before them: each has a primary or a cluster,
and a name of its own. -/
def checkGroups (earlier : List String) : List ReplicaGroup → Except Error Unit
  | [] => .ok ()
  | g :: rest =>
    if g.primary.isEmpty && g.cluster.isNone then .error (.invalidConfig (.noPrimary g.name))
    else if earlier.any fun name => Text.sameName name g.name then
      .error (.invalidConfig (.duplicateGroup g.name))
    else checkGroups (g.name :: earlier) rest

/-- The rule of these groups. -/
def ofGroups (groups : List ReplicaGroup) : Except Error ReadWriteRule :=
  (checkGroups [] groups).map fun _ => ⟨groups⟩

end ReadWriteRule

/-- Whether a statement has to run on the primary: it locks or writes, or its session is bound to
the primary by an earlier write, a hint or a transaction. -/
def needsPrimary (statement : Statement) (session : Session) : Bool :=
  statement.locks || !statement.isSelect || session.primaryVisited || session.writeRouteOnly ||
    session.inTransaction

namespace ReplicaGroup

/-- The primary and the replicas: those of the cluster where a topology knows it, or the group's
own. -/
def members (g : ReplicaGroup) (topology : Option Topology) : String × List String :=
  match topology, g.cluster with
  | some t, some cluster =>
    if cluster.isEmpty then (g.primary, g.replicas) else (t.primary cluster, t.replicas cluster)
  | _, _ => (g.primary, g.replicas)

/-- The data source for a statement, with the next states of the group, the session and the random
source.  Without replicas the primary also serves reads. -/
def select (g : ReplicaGroup) (topology : Option Topology) (statement : Statement)
    (session : Session) (source : RandomSource) :
    String × ReplicaGroup × Session × RandomSource :=
  let (primary, replicas) := g.members topology
  if needsPrimary statement session then (primary, g, session.visitPrimary, source)
  else
    match replicas with
    | [] => (primary, g, session, source)
    | first :: more =>
      let (replica, balancer, source) := g.balancer.pick source g.name first more
      (replica, { g with balancer }, session, source)

end ReplicaGroup

end ScatterGather
