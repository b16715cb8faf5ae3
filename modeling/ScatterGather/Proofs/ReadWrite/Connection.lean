import Mathlib.Data.List.Induction
import ScatterGather.Proofs.ReadWrite.Choice

/-!
# Proofs/ReadWrite/Connection — reads that follow writes, over a whole session

A connection goes through **actions**: transactions, hints and statements, while other connections
move on the routers and the transaction ids that all of them share.  Its session remembers a visit
to a primary for exactly as long as one is in its history since the last end of a transaction
(`Connection.primaryVisited_run_iff`).  So a unit leaves its primary only for a read that nothing
binds there, whatever came before (`Connection.reads_follow_writes`).
-/

namespace ScatterGather

/-- What happens to a connection. -/
inductive Action where
  | begin
  | commit
  | rollback
  | close
  /-- Sets whether every statement is sent to the primary. -/
  | hint (only : Bool)
  | statement (metadata : Metadata) (sql : LogicSql)
  /-- Other connections leave the routers and the transaction ids like this. -/
  | others (routers : Routers) (ids : TransactionIds)

/-- Whether an action ends the transaction, committed or not. -/
def Action.endsTransaction : Action → Bool
  | commit | rollback | close => true
  | begin | hint _ | statement _ _ | others _ _ => false

/-- A session with what it shares with others. -/
structure Connection where
  session : Session
  routers : Routers
  ids : TransactionIds

namespace Connection

/-- A connection before its first action. -/
def opened (routers : Routers) (ids : TransactionIds) : Connection := ⟨.fresh, routers, ids⟩

/-- What routing a statement now yields. -/
def route (c : Connection) (metadata : Metadata) (sql : LogicSql) : Routed :=
  c.routers.route metadata c.session sql

/-- The choices that routing a statement now makes. -/
def choices (c : Connection) (metadata : Metadata) (sql : LogicSql) : List GroupChoice :=
  c.routers.choices metadata c.session sql

/-- The connection after an action.  A transaction that cannot begin changes nothing. -/
def act (c : Connection) : Action → Connection
  | .begin =>
    match c.session.begin c.ids with
    | .error _ => c
    | .ok (_, session, ids) => { c with session, ids }
  | .commit | .rollback => { c with session := c.session.endTransaction }
  | .close => { c with session := c.session.close }
  | .hint only => { c with session := c.session.setWriteRouteOnly only }
  | .statement metadata sql =>
    { c with session := (c.route metadata sql).session, routers := (c.route metadata sql).routers }
  | .others routers ids => { c with routers, ids }

/-- The connection after actions, the first one first. -/
def run (c : Connection) (actions : List Action) : Connection := actions.foldl act c

/-- Routing the statement now sends a unit of a group to the primary. -/
def Visits (c : Connection) (metadata : Metadata) (sql : LogicSql) : Prop :=
  ∃ choice ∈ c.choices metadata sql, needsPrimary sql.statement choice.session = true

/-- A statement among the actions has sent a unit of a group to the primary, and no transaction has
ended since. -/
def HasVisited (start : Connection) (past : List Action) : Prop :=
  ∃ before metadata sql after, past = before ++ .statement metadata sql :: after ∧
    (∀ a ∈ after, a.endsTransaction = false) ∧ (start.run before).Visits metadata sql

section Run

variable {start c : Connection} {past : List Action} {metadata : Metadata} {sql : LogicSql}

theorem run_concat (start : Connection) (past : List Action) (a : Action) :
    start.run (past ++ [a]) = (start.run past).act a := by
  rw [run, List.foldl_append]
  rfl

/-- **The choices of a statement go one way**, also where routing fails. -/
theorem goOneWay_route (c : Connection) (metadata : Metadata) (sql : LogicSql) :
    GoOneWay sql.statement (c.choices metadata sql) c.session (c.route metadata sql).session := by
  obtain ⟨e, -, hsession, hnil⟩ | ⟨_, _, -, -, hway, -, -⟩ :=
    c.routers.route_cases metadata c.session sql
  · rw [choices, route, hsession, hnil]
    exact goOneWay_nil sql.statement c.session
  · exact hway

/-- Routing keeps the transaction and the hint. -/
theorem kept_route (c : Connection) (metadata : Metadata) (sql : LogicSql) :
    (c.route metadata sql).session.transaction = c.session.transaction ∧
      (c.route metadata sql).session.writeRouteOnly = c.session.writeRouteOnly := by
  obtain ⟨-, -, hafter⟩ | ⟨-, hafter⟩ := c.goOneWay_route metadata sql <;>
    rw [hafter] <;> exact ⟨rfl, rfl⟩

/-- A failure keeps the session. -/
theorem session_route_of_error {e : Error} (h : (c.route metadata sql).result = .error e) :
    (c.route metadata sql).session = c.session := by
  obtain ⟨_, -, hsession, -⟩ | ⟨_, _, -, hok, -⟩ := c.routers.route_cases metadata c.session sql
  · exact hsession
  · cases hok.symm.trans h

/-- **Every choice sends its unit to a member of its group**, and is made as the session at the
start has it. -/
theorem isMade_of_mem_choices {choice : GroupChoice} (h : choice ∈ c.choices metadata sql) :
    choice.IsMade c.routers.topology sql.statement ∧
      needsPrimary sql.statement choice.session = needsPrimary sql.statement c.session := by
  obtain ⟨_, -, -, hnil⟩ | ⟨_, _, -, -, -, hmade, -⟩ :=
    c.routers.route_cases metadata c.session sql
  · rw [choices, hnil] at h
    cases h
  · exact hmade choice h

/-- **A unit off its group's primary** is sent where no choice needs the primary. -/
theorem needsPrimary_eq_false_of_offPrimary {choice : GroupChoice}
    (h : choice ∈ c.choices metadata sql)
    (hread : choice.unit.dataSource.actual ≠ (choice.group.members c.routers.topology).1 ∨
      needsPrimary sql.statement choice.session = false) :
    needsPrimary sql.statement c.session = false := by
  obtain ⟨hmade, hsame⟩ := isMade_of_mem_choices h
  rw [← hsame]
  obtain hoff | hread := hread
  · exact Bool.eq_false_iff.2 fun hneeds => hoff (hmade.primary hneeds)
  · exact hread

/-- **The units of a routed statement**: those of the choices, and others that name no group, or
the one of a sole data source. -/
theorem units_route {route : Route} (h : (c.route metadata sql).result = .ok route) :
    (∀ choice ∈ c.choices metadata sql, choice.unit ∈ route.units) ∧
      ∀ u ∈ route.units, (∃ choice ∈ c.choices metadata sql, u = choice.unit) ∨
        c.routers.groupOf? u = none ∨ c.choices metadata sql = [] ∧
          ∃ sole, metadata.dataSources = [sole] ∧ route.units = [.on sole []] := by
  obtain ⟨_, herror, -, -⟩ | ⟨_, through, -, hok, -, -, hunits⟩ :=
    c.routers.route_cases metadata c.session sql
  · cases herror.symm.trans h
  obtain rfl := Except.ok.inj (hok.symm.trans h)
  obtain hthrough | ⟨hempty, hsole⟩ := orSoleSource_cases metadata.dataSources through
  · rw [hthrough]
    exact ⟨fun choice hchoice => (hunits _).2 (.inl ⟨choice, hchoice, rfl⟩),
      fun u hu => ((hunits u).1 hu).imp_right fun h => .inl h.2⟩
  · have hnone : c.choices metadata sql = [] := by
      refine List.eq_nil_iff_forall_not_mem.2 fun choice hchoice => ?_
      have := (hunits choice.unit).2 (.inl ⟨choice, hchoice, rfl⟩)
      rw [hempty] at this
      cases this
    rw [hnone]
    obtain ⟨sole, hsources, hsole⟩ := hsole
    exact ⟨by simp, fun u _ => .inr (.inr ⟨rfl, sole, hsources, hsole⟩)⟩

/-- Routing remembers a visit and forgets none. -/
theorem primaryVisited_route : (c.route metadata sql).session.primaryVisited = true ↔
    c.session.primaryVisited = true ∨ c.Visits metadata sql := by
  obtain ⟨hne, hprimary, hafter⟩ | ⟨hread, hafter⟩ := c.goOneWay_route metadata sql
  · obtain ⟨choice, hchoice⟩ := List.exists_mem_of_ne_nil _ hne
    rw [hafter]
    exact iff_of_true rfl (.inr ⟨choice, hchoice, hprimary choice hchoice⟩)
  · rw [hafter]
    refine ⟨.inl, fun h => h.resolve_right ?_⟩
    rintro ⟨choice, hchoice, hneeds⟩
    cases (hread choice hchoice).symm.trans hneeds

/-- What an action does to the visit that is remembered. -/
theorem primaryVisited_act (c : Connection) (a : Action) :
    (c.act a).session.primaryVisited = true ↔ a.endsTransaction = false ∧
      (c.session.primaryVisited = true ∨
        ∃ metadata sql, a = .statement metadata sql ∧ c.Visits metadata sql) := by
  cases a with
  | begin =>
    rw [act, Session.begin]
    cases c.session.transaction <;> simp [Action.endsTransaction]
  | commit | rollback | close =>
    simp [act, Session.endTransaction, Session.close, Action.endsTransaction]
  | hint only => simp [act, Session.setWriteRouteOnly, Action.endsTransaction]
  | statement metadata sql =>
    rw [act, primaryVisited_route]
    refine ⟨fun h => ⟨rfl, h.imp_right fun hvisits => ⟨metadata, sql, rfl, hvisits⟩⟩, ?_⟩
    rintro ⟨-, h | ⟨_, _, ⟨⟩, hvisits⟩⟩
    · exact .inl h
    · exact .inr hvisits
  | others routers ids => simp [act, Action.endsTransaction]

/-- What an action does to the visits of the history. -/
theorem hasVisited_concat (start : Connection) (past : List Action) (a : Action) :
    start.HasVisited (past ++ [a]) ↔ a.endsTransaction = false ∧
      (start.HasVisited past ∨
        ∃ metadata sql, a = .statement metadata sql ∧ (start.run past).Visits metadata sql) := by
  constructor
  · rintro ⟨before, metadata, sql, after, hpast, hafter, hvisits⟩
    obtain rfl | ⟨rest, last, rfl⟩ := after.eq_nil_or_concat
    · obtain ⟨rfl, heq⟩ := List.append_inj' hpast rfl
      obtain rfl := List.singleton_inj.1 heq
      exact ⟨rfl, .inr ⟨metadata, sql, rfl, hvisits⟩⟩
    · rw [List.concat_eq_append, ← List.cons_append, ← List.append_assoc] at hpast
      obtain ⟨rfl, heq⟩ := List.append_inj' hpast rfl
      obtain rfl := List.singleton_inj.1 heq
      rw [List.concat_eq_append, List.forall_mem_append, List.forall_mem_singleton] at hafter
      exact ⟨hafter.2, .inl ⟨before, metadata, sql, rest, rfl, hafter.1, hvisits⟩⟩
  · rintro ⟨hends,
      ⟨before, metadata, sql, after, rfl, hafter, hvisits⟩ | ⟨metadata, sql, rfl, hvisits⟩⟩
    · refine ⟨before, metadata, sql, after ++ [a], ?_, ?_, hvisits⟩
      · rw [List.append_assoc, List.cons_append]
      · exact List.forall_mem_append.2 ⟨hafter, List.forall_mem_singleton.2 hends⟩
    · exact ⟨past, metadata, sql, [], rfl, by simp, hvisits⟩

/-- **A session remembers a visit exactly while it is in the history** since the last end of a
transaction. -/
theorem primaryVisited_run_iff (routers : Routers) (ids : TransactionIds) (past : List Action) :
    ((opened routers ids).run past).session.primaryVisited = true ↔
      (opened routers ids).HasVisited past := by
  induction past using List.reverseRecOn with
  | nil =>
    refine iff_of_false (by simp [run, opened, Session.fresh]) ?_
    rintro ⟨before, metadata, sql, after, hnil, -⟩
    simp at hnil
  | append_singleton past a ih =>
    rw [run_concat, primaryVisited_act, hasVisited_concat, ih]

end Run

/-- **Reads follow writes** in routing a statement after these actions. -/
structure ReadsFollowWrites (start : Connection) (past : List Action) (metadata : Metadata)
    (sql : LogicSql) : Prop where
  /-- A unit is sent off its group's primary only for a SELECT without locks, in no transaction and
  without the hint, while no unit has been sent to a primary since the last transaction ended. -/
  replica : ∀ choice ∈ (start.run past).choices metadata sql,
    choice.unit.dataSource.actual ≠ (choice.group.members (start.run past).routers.topology).1 ∨
      needsPrimary sql.statement choice.session = false →
    sql.statement.isSelect = true ∧ sql.statement.locks = false ∧
      (start.run past).session.inTransaction = false ∧
      (start.run past).session.writeRouteOnly = false ∧ ¬ start.HasVisited past
  /-- All units of groups are sent to primaries, which is remembered, or none. -/
  oneWay : GoOneWay sql.statement ((start.run past).choices metadata sql)
    (start.run past).session ((start.run past).route metadata sql).session
  /-- The transaction and the hint are kept. -/
  kept : ((start.run past).route metadata sql).session.transaction =
      (start.run past).session.transaction ∧
    ((start.run past).route metadata sql).session.writeRouteOnly =
      (start.run past).session.writeRouteOnly
  /-- A failure changes nothing. -/
  failed : ∀ e, ((start.run past).route metadata sql).result = .error e →
    ((start.run past).route metadata sql).session = (start.run past).session
  /-- The choices send their units to members of the groups.  Any other unit names no group, or is
  that of a sole data source, which takes a statement that nothing else does. -/
  units : ∀ route, ((start.run past).route metadata sql).result = .ok route →
    (∀ choice ∈ (start.run past).choices metadata sql, choice.unit ∈ route.units ∧
      choice.IsMade (start.run past).routers.topology sql.statement) ∧
    ∀ u ∈ route.units, (∃ choice ∈ (start.run past).choices metadata sql, u = choice.unit) ∨
      (start.run past).routers.groupOf? u = none ∨
      (start.run past).choices metadata sql = [] ∧
        ∃ sole, metadata.dataSources = [sole] ∧ route.units = [.on sole []]

/-- **Reads follow writes over whole sessions**: whatever a connection went through since it was
opened, and whatever others did meanwhile. -/
theorem reads_follow_writes (routers : Routers) (ids : TransactionIds) (past : List Action)
    (metadata : Metadata) (sql : LogicSql) :
    (opened routers ids).ReadsFollowWrites past metadata sql where
  replica choice hchoice hread := by
    obtain ⟨hselect, hlock, htransaction, hhint, hvisited⟩ :=
      needsPrimary_eq_false_iff.1 (needsPrimary_eq_false_of_offPrimary hchoice hread)
    refine ⟨hselect, hlock, htransaction, hhint, fun h => ?_⟩
    rw [(primaryVisited_run_iff routers ids past).2 h] at hvisited
    cases hvisited
  oneWay := goOneWay_route _ metadata sql
  kept := kept_route _ metadata sql
  failed _ := session_route_of_error
  units _ hroute :=
    ⟨fun choice hchoice => ⟨(units_route hroute).1 choice hchoice,
      (isMade_of_mem_choices hchoice).1⟩, (units_route hroute).2⟩

/-- A connection to one group of a primary and a replica. -/
def users : Connection := opened
  { sharding := none
    clock := .fixed 0
    readWrite := some ⟨[⟨"users", "users_0", ["users_1"], "turns", .roundRobin [], none⟩]⟩
    topology := none
    source := ⟨0⟩ } .first

/-- The names of users. -/
def userNames : LogicSql :=
  ⟨.select ⟨["t_user"], ⟨[], false⟩, none, [], [], none, none, false, false⟩, "SELECT ...", []⟩

/-- A new name for all users. -/
def renameUsers : LogicSql :=
  ⟨.update ⟨["t_user"], [("name", .literal (.text "A."))], none, none⟩, "UPDATE ...", []⟩

/-- The data sources that the names are read from after these actions. -/
def namesFrom (past : List Action) : List String :=
  ((users.run past).choices ⟨⟨[]⟩, [], .mySQL⟩ userNames).map (·.unit.dataSource.actual)

/-- After an update names are read from the primary until the transaction ends. -/
example :
    namesFrom [] = ["users_1"] ∧
    namesFrom [.statement ⟨⟨[]⟩, [], .mySQL⟩ renameUsers] = ["users_0"] ∧
    namesFrom [.statement ⟨⟨[]⟩, [], .mySQL⟩ renameUsers, .commit] = ["users_1"] :=
  ⟨rfl, rfl, rfl⟩

end Connection

end ScatterGather
