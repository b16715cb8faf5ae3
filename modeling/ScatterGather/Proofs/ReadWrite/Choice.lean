import Mathlib.Data.List.Basic
import ScatterGather.Proofs.Text.Name
import ScatterGather.Route.Chain

/-!
# Proofs/ReadWrite/Choice — the members that a statement is sent to

Routing a statement through read/write groups makes a **choice** for every unit of a group
(`Routers.choices`): between the group's primary and its replicas, under the session as it is at
that moment.  The choices of one statement go **one way** (`goOneWay_choicesThrough`): all of them
to primaries, which the session remembers, or none, and the session stays as it was.

The reason is that a choice of the primary changes nothing but the visit, and a visit asks for the
primary again; so every choice is made as the first one.
-/

namespace ScatterGather

/-! ## One choice

What one choice comes to depends on two questions: whether the primary is needed, and, if not, which
replica the balancer picks. -/

section Select

variable {g : ReplicaGroup} {topology : Option Topology} {statement : Statement} {session : Session}
  {source : RandomSource}

/-- A visit to the primary asks for the primary again. -/
theorem needsPrimary_visitPrimary (statement : Statement) (session : Session) :
    needsPrimary statement session.visitPrimary = true := by
  simp [needsPrimary, Session.visitPrimary]

/-- **What a read off the primary needs**: a SELECT without locks, in a session that is not bound
to the primary. -/
theorem needsPrimary_eq_false_iff : needsPrimary statement session = false ↔
    statement.isSelect = true ∧ statement.locks = false ∧ session.inTransaction = false ∧
      session.writeRouteOnly = false ∧ session.primaryVisited = false := by
  simp only [needsPrimary, Bool.or_eq_false_iff, Bool.not_eq_false']
  constructor
  · rintro ⟨⟨⟨⟨hlock, hselect⟩, hvisited⟩, hhint⟩, htransaction⟩
    exact ⟨hselect, hlock, htransaction, hhint, hvisited⟩
  · rintro ⟨hselect, hlock, htransaction, hhint, hvisited⟩
    exact ⟨⟨⟨⟨hlock, hselect⟩, hvisited⟩, hhint⟩, htransaction⟩

/-- The name that weights pick is one of those to pick from. -/
theorem Balancer.pickAt_mem (weights : List (String × Binary64)) (point passed : Binary64)
    (first : String) (more : List String) :
    pickAt weights point passed first more ∈ first :: more := by
  induction more generalizing first passed with
  | nil => exact List.mem_cons_self
  | cons second more ih =>
    rw [pickAt]
    split
    · exact List.mem_cons_self
    · exact List.mem_cons_of_mem _ (ih _ _)

/-- An item of a list, or a default that is in it, is in it. -/
theorem getD_mem_of_mem {α : Type} {l : List α} {a : α} (h : a ∈ l) (i : Nat) : l.getD i a ∈ l := by
  rw [List.getD_eq_getElem?_getD]
  cases hi : l[i]? with
  | none => exact h
  | some b => exact List.mem_of_getElem? hi

/-- **A balancer picks one of the replicas.** -/
theorem Balancer.pick_mem (balancer : Balancer) (source : RandomSource) (group first : String)
    (more : List String) : (balancer.pick source group first more).1 ∈ first :: more := by
  cases balancer with
  | roundRobin turns => exact getD_mem_of_mem List.mem_cons_self _
  | random => exact getD_mem_of_mem List.mem_cons_self _
  | weight weights =>
    rw [pick]
    dsimp only
    split
    · exact pickAt_mem _ _ _ _ _
    · exact List.mem_cons_self

namespace ReplicaGroup

/-- Where the primary is needed it is chosen, and the session remembers. -/
theorem select_of_needsPrimary (h : needsPrimary statement session = true) :
    g.select topology statement session source =
      ((g.members topology).1, g, session.visitPrimary, source) := by
  rw [select]
  exact if_pos h

/-- Where the primary is not needed the session stays as it is. -/
theorem session_select (h : needsPrimary statement session = false) :
    (g.select topology statement session source).2.2.1 = session := by
  rw [select]
  dsimp only
  rw [if_neg (by simp [h])]
  split <;> rfl

/-- **A member of the group is chosen.** -/
theorem mem_select (g : ReplicaGroup) (topology : Option Topology) (statement : Statement)
    (session : Session) (source : RandomSource) :
    (g.select topology statement session source).1 = (g.members topology).1 ∨
      (g.select topology statement session source).1 ∈ (g.members topology).2 := by
  rw [select]
  dsimp only
  split
  · exact .inl rfl
  · split
    · exact .inl rfl
    · rename_i first more hreplicas
      rw [hreplicas]
      exact .inr (Balancer.pick_mem _ _ _ _ _)

end ReplicaGroup

end Select

/-! ## The choices of a statement

A statement may make many choices, each in the session that the one before has left.  That they all
go one way is shown for two choices and then along the list. -/

/-- A choice: the group, the session at that moment, and the unit as the group sends it. -/
structure GroupChoice where
  group : ReplicaGroup
  session : Session
  unit : RouteUnit

section Choices

variable {topology : Option Topology} {statement : Statement} {state : ReplicaState}

/-- The choice that a group makes for a unit. -/
def choiceFor (topology : Option Topology) (statement : Statement) (state : ReplicaState)
    (group : ReplicaGroup) (u : RouteUnit) : GroupChoice :=
  ⟨group, state.session,
    { u with dataSource := (selectMember topology statement group state).1 }⟩

/-- The choices made for units, in their order. -/
def choicesFor (topology : Option Topology) (statement : Statement) (state : ReplicaState) :
    List RouteUnit → List GroupChoice
  | [] => []
  | u :: rest =>
    match state.rule.find? u.dataSource.logic with
    | none => choicesFor topology statement state rest
    | some group =>
      choiceFor topology statement state group u ::
        choicesFor topology statement (selectMember topology statement group state).2 rest

/-- The choices made for a route: for its units, or for the only group if it has none. -/
def choicesThrough (topology : Option Topology) (statement : Statement) (state : ReplicaState)
    (route : Route) : List GroupChoice :=
  if route.units.isEmpty then
    match state.rule.groups with
    | [group] => [choiceFor topology statement state group ⟨⟨group.name, group.name⟩, []⟩]
    | _ => []
  else choicesFor topology statement state route.units

/-- The choices made in routing a statement. -/
def Routers.choices (routers : Routers) (metadata : Metadata) (session : Session)
    (sql : LogicSql) : List GroupChoice :=
  match routers.routeSharding metadata sql, routers.readWrite with
  | (.ok route, _), some rule =>
    choicesThrough routers.topology sql.statement ⟨rule, session, routers.source⟩ route
  | _, _ => []

/-- The choices of a statement go one way: all to primaries, which the session remembers after
them, or none, and the session stays as it was. -/
def GoOneWay (statement : Statement) (choices : List GroupChoice) (before after : Session) : Prop :=
  (choices ≠ [] ∧ (∀ c ∈ choices, needsPrimary statement c.session = true) ∧
      after = before.visitPrimary) ∨
    ((∀ c ∈ choices, needsPrimary statement c.session = false) ∧ after = before)

theorem goOneWay_nil (statement : Statement) (session : Session) :
    GoOneWay statement [] session session :=
  .inr ⟨by simp, rfl⟩

/-- **A choice changes the session only by a visit.** -/
theorem session_selectMember (group : ReplicaGroup) :
    (selectMember topology statement group state).2.session =
      if needsPrimary statement state.session then state.session.visitPrimary
      else state.session := by
  cases h : needsPrimary statement state.session with
  | true =>
    rw [selectMember, ReplicaGroup.select_of_needsPrimary h]
    rfl
  | false => exact ReplicaGroup.session_select h

/-- **After a choice the next one is made alike.** -/
theorem needsPrimary_selectMember (group : ReplicaGroup) :
    needsPrimary statement (selectMember topology statement group state).2.session =
      needsPrimary statement state.session := by
  rw [session_selectMember]
  cases h : needsPrimary statement state.session with
  | true => exact needsPrimary_visitPrimary statement state.session
  | false => exact h

/-- The choices for units are made one after another, each as the first one. -/
theorem exists_of_mem_choicesFor {units : List RouteUnit} :
    ∀ c ∈ choicesFor topology statement state units, ∃ state' group u,
      c = choiceFor topology statement state' group u ∧
        needsPrimary statement state'.session = needsPrimary statement state.session := by
  induction units generalizing state with
  | nil => simp [choicesFor]
  | cons u rest ih =>
    rw [choicesFor]
    split
    · exact ih
    · rename_i group _
      refine List.forall_mem_cons.2 ⟨⟨state, group, u, rfl, rfl⟩, fun c hc => ?_⟩
      obtain ⟨state', group', u', rfl, hsame⟩ := ih c hc
      exact ⟨state', group', u', rfl, hsame.trans (needsPrimary_selectMember group)⟩

/-- After the choices for the units the session remembers a visit, if there was one. -/
theorem session_replaceGroups (units : List RouteUnit) :
    (replaceGroups topology statement state units).2.session =
      if needsPrimary statement state.session ∧ choicesFor topology statement state units ≠ [] then
        state.session.visitPrimary
      else state.session := by
  induction units generalizing state with
  | nil => simp [replaceGroups, choicesFor]
  | cons u rest ih =>
    rw [choicesFor, replaceGroups]
    cases state.rule.find? u.dataSource.logic with
    | none => exact ih
    | some group =>
      have hrest := @ih (selectMember topology statement group state).2
      rw [needsPrimary_selectMember, session_selectMember] at hrest
      refine hrest.trans ?_
      cases needsPrimary statement state.session with
      | true => simp [Session.visitPrimary]
      | false => simp

/-- **The ways a route takes through groups**, with the choices made: its units through their
groups; or, without units, the route to a member of the only group; or no route. -/
theorem throughGroups_cases (topology : Option Topology) (statement : Statement)
    (state : ReplicaState) (route : Route) :
    (route.units ≠ [] ∧
        choicesThrough topology statement state route =
          choicesFor topology statement state route.units ∧
        throughGroups topology statement state route =
          ({ route with units := (replaceGroups topology statement state route.units).1 },
            (replaceGroups topology statement state route.units).2)) ∨
      (route.units = [] ∧ ∃ group, state.rule.groups = [group] ∧
        choicesThrough topology statement state route =
          [choiceFor topology statement state group ⟨⟨group.name, group.name⟩, []⟩] ∧
        throughGroups topology statement state route =
          (Route.empty.add ⟨(selectMember topology statement group state).1, []⟩,
            (selectMember topology statement group state).2)) ∨
      (route.units = [] ∧ state.rule.groups.length ≠ 1 ∧
        choicesThrough topology statement state route = [] ∧
        throughGroups topology statement state route = (Route.empty, state)) := by
  rw [choicesThrough, throughGroups, groupRoute]
  by_cases hnil : route.units = []
  · rw [if_pos (List.isEmpty_iff.2 hnil), if_pos (List.isEmpty_iff.2 hnil)]
    right
    rcases state.rule.groups with _ | ⟨group, _ | ⟨second, more⟩⟩
    · exact .inr ⟨hnil, by simp, rfl, rfl⟩
    · exact .inl ⟨hnil, group, rfl, rfl, rfl⟩
    · exact .inr ⟨hnil, by simp, rfl, rfl⟩
  · rw [if_neg (mt List.isEmpty_iff.1 hnil), if_neg (mt List.isEmpty_iff.1 hnil)]
    exact .inl ⟨hnil, rfl, rfl⟩

theorem exists_of_mem_choicesThrough {route : Route} :
    ∀ c ∈ choicesThrough topology statement state route, ∃ state' group u,
      c = choiceFor topology statement state' group u ∧
        needsPrimary statement state'.session = needsPrimary statement state.session := by
  obtain ⟨-, hchoices, -⟩ | ⟨-, group, -, hchoices, -⟩ | ⟨-, -, hchoices, -⟩ :=
    throughGroups_cases topology statement state route
  all_goals rw [hchoices]
  · exact exists_of_mem_choicesFor
  · exact List.forall_mem_singleton.2 ⟨state, group, _, rfl, rfl⟩
  · simp

/-- **Every choice for a route is made as the first one.** -/
theorem needsPrimary_of_mem_choicesThrough {route : Route} {c : GroupChoice}
    (hc : c ∈ choicesThrough topology statement state route) :
    needsPrimary statement c.session = needsPrimary statement state.session := by
  obtain ⟨state', group, u, rfl, hsame⟩ := exists_of_mem_choicesThrough c hc
  exact hsame

/-- After the choices for a route the session remembers a visit, if there was one. -/
theorem session_throughGroups (route : Route) :
    (throughGroups topology statement state route).2.session =
      if needsPrimary statement state.session ∧
          choicesThrough topology statement state route ≠ [] then
        state.session.visitPrimary
      else state.session := by
  obtain ⟨-, hchoices, hthrough⟩ | ⟨-, group, -, hchoices, hthrough⟩ |
    ⟨-, -, hchoices, hthrough⟩ := throughGroups_cases topology statement state route
  all_goals rw [hchoices, hthrough]
  · exact session_replaceGroups route.units
  · simp [session_selectMember]
  · simp

/-- **The choices for a route go one way.** -/
theorem goOneWay_choicesThrough (route : Route) :
    GoOneWay statement (choicesThrough topology statement state route) state.session
      (throughGroups topology statement state route).2.session := by
  rw [session_throughGroups]
  cases h : needsPrimary statement state.session with
  | true =>
    by_cases hne : choicesThrough topology statement state route = []
    · exact .inr ⟨by simp [hne], by simp [hne]⟩
    · exact .inl ⟨hne, fun c hc => (needsPrimary_of_mem_choicesThrough hc).trans h, by simp [hne]⟩
  | false => exact .inr ⟨fun c hc => (needsPrimary_of_mem_choicesThrough hc).trans h, by simp⟩

/-! ## The units of a statement

A choice is only worth something if it is what is sent.  So units and choices are matched: each unit
comes from a choice, and each choice becomes a unit. -/

/-- A group moved on has the names that it had. -/
theorem isSome_find?_setGroup (moved : ReplicaGroup) (groups : List ReplicaGroup) (name : String) :
    ((ReadWriteRule.setGroup moved groups).find? fun g => Text.sameName g.name name).isSome =
      (groups.find? fun g => Text.sameName g.name name).isSome := by
  induction groups with
  | nil => rfl
  | cons g rest ih =>
    rw [ReadWriteRule.setGroup]
    split
    · rename_i hsame
      have hname : Text.sameName moved.name name = Text.sameName g.name name := by
        rw [Bool.eq_iff_iff, Text.sameName_iff, Text.sameName_iff, Text.sameName_iff.1 hsame]
      rw [List.find?_cons, List.find?_cons, hname]
      split <;> rfl
    · rw [List.find?_cons, List.find?_cons]
      split
      · rfl
      · exact ih

/-- No group is lost by a choice. -/
theorem find?_selectMember_eq_none (group : ReplicaGroup) {name : String} :
    (selectMember topology statement group state).2.rule.find? name = none ↔
      state.rule.find? name = none := by
  have h := isSome_find?_setGroup
    (group.select topology statement state.session state.source).2.1 state.rule.groups name
  rw [← Option.not_isSome_iff_eq_none, ← Option.not_isSome_iff_eq_none]
  exact not_congr (Bool.eq_iff_iff.1 h)

/-- **Every unit that the groups leave** was sent by a choice or names no group, and the choices
send no other units. -/
theorem mem_units_replaceGroups {units : List RouteUnit} {u : RouteUnit} :
    u ∈ (replaceGroups topology statement state units).1 ↔
      (∃ c ∈ choicesFor topology statement state units, u = c.unit) ∨
        u ∈ units ∧ state.rule.find? u.dataSource.logic = none := by
  induction units generalizing state with
  | nil => simp [replaceGroups, choicesFor]
  | cons v rest ih =>
    rw [choicesFor, replaceGroups]
    cases hfind : state.rule.find? v.dataSource.logic with
    | none =>
      -- the unit itself is left
      have hv : u = v → state.rule.find? u.dataSource.logic = none := fun h => h ▸ hfind
      dsimp only
      rw [List.mem_cons, List.mem_cons, ih]
      grind
    | some group =>
      -- the unit itself is sent elsewhere
      have hv : ¬(u = v ∧ state.rule.find? u.dataSource.logic = none) := by
        rintro ⟨rfl, hnone⟩
        simp [hfind] at hnone
      have hrest := @ih (selectMember topology statement group state).2
      simp only [find?_selectMember_eq_none] at hrest
      dsimp only
      rw [List.mem_cons, List.mem_cons, List.exists_mem_cons_iff, hrest, or_and_right,
        or_iff_right hv, or_assoc]
      exact Iff.rfl

/-- The units of a route through groups are those that its choices send, and those that name no
group. -/
theorem mem_units_throughGroups {route : Route} {u : RouteUnit} :
    u ∈ (throughGroups topology statement state route).1.units ↔
      (∃ c ∈ choicesThrough topology statement state route, u = c.unit) ∨
        u ∈ route.units ∧ state.rule.find? u.dataSource.logic = none := by
  obtain ⟨-, hchoices, hthrough⟩ | ⟨hnil, group, -, hchoices, hthrough⟩ |
    ⟨hnil, -, hchoices, hthrough⟩ := throughGroups_cases topology statement state route
  all_goals rw [hchoices, hthrough]
  · exact mem_units_replaceGroups
  · simp [hnil, Route.empty, Route.add, choiceFor]
  · simp [hnil, Route.empty]

/-- A choice sends its unit to a member of its group: to the primary where that is needed. -/
structure GroupChoice.IsMade (topology : Option Topology) (statement : Statement)
    (c : GroupChoice) : Prop where
  logic : c.unit.dataSource.logic = c.group.name
  member : c.unit.dataSource.actual = (c.group.members topology).1 ∨
    c.unit.dataSource.actual ∈ (c.group.members topology).2
  primary : needsPrimary statement c.session = true →
    c.unit.dataSource.actual = (c.group.members topology).1

theorem isMade_choiceFor (group : ReplicaGroup) (u : RouteUnit) :
    (choiceFor topology statement state group u).IsMade topology statement where
  logic := rfl
  member := group.mem_select topology statement state.session state.source
  primary h := congrArg Prod.fst (ReplicaGroup.select_of_needsPrimary h)

/-- **Every choice sends its unit to a member of its group.** -/
theorem isMade_of_mem_choicesThrough {route : Route} {c : GroupChoice}
    (hc : c ∈ choicesThrough topology statement state route) : c.IsMade topology statement := by
  obtain ⟨state', group, u, rfl, -⟩ := exists_of_mem_choicesThrough c hc
  exact isMade_choiceFor group u

end Choices

/-! ## Routing

Sharding comes first in the chain and touches neither the groups nor the session's visits, and a
sole data source comes last. -/

/-- The sole data source takes nothing but a statement without units. -/
theorem orSoleSource_cases (dataSources : List String) (route : Route) :
    (orSoleSource dataSources route = route) ∨
      route.units = [] ∧ ∃ sole, dataSources = [sole] ∧
        (orSoleSource dataSources route).units = [.on sole []] := by
  rw [orSoleSource.eq_def]
  split
  · rename_i sole hunits
    refine .inr ⟨hunits, sole, rfl, ?_⟩
    rw [Route.add, hunits]
    rfl
  · exact .inl rfl

namespace Routers

variable {routers : Routers} {metadata : Metadata} {session : Session} {sql : LogicSql}

/-- The group that a unit of a route names. -/
def groupOf? (routers : Routers) (u : RouteUnit) : Option ReplicaGroup :=
  routers.readWrite.bind fun rule => rule.find? u.dataSource.logic

/-- Sharding leaves the groups, the topology and the random source as they are. -/
theorem routeSharding_eq (routers : Routers) (metadata : Metadata) (sql : LogicSql) :
    ∃ sharding clock, (routers.routeSharding metadata sql).2 =
      { routers with sharding, clock } := by
  rw [routeSharding]
  split
  · exact ⟨routers.sharding, routers.clock, rfl⟩
  · exact ⟨_, _, rfl⟩

/-- **A step of the chain**: sharding fails, or the groups send its units. -/
theorem route_cases (routers : Routers) (metadata : Metadata) (session : Session)
    (sql : LogicSql) :
    (∃ e, (routers.route metadata session sql).result = .error e ∧
        (routers.route metadata session sql).session = session ∧
        routers.choices metadata session sql = []) ∨
      ∃ route through, (routers.routeSharding metadata sql).1 = .ok route ∧
        (routers.route metadata session sql).result =
          .ok (orSoleSource metadata.dataSources through) ∧
        GoOneWay sql.statement (routers.choices metadata session sql) session
          (routers.route metadata session sql).session ∧
        (∀ c ∈ routers.choices metadata session sql,
          c.IsMade routers.topology sql.statement ∧
            needsPrimary sql.statement c.session = needsPrimary sql.statement session) ∧
        ∀ u, u ∈ through.units ↔ (∃ c ∈ routers.choices metadata session sql, u = c.unit) ∨
          u ∈ route.units ∧ routers.groupOf? u = none := by
  obtain ⟨sharding, clock, hmoved⟩ := routers.routeSharding_eq metadata sql
  rw [choices, Routers.route]
  generalize hsharding : routers.routeSharding metadata sql = found at hmoved
  obtain ⟨result, moved⟩ := found
  obtain rfl : moved = { routers with sharding, clock } := hmoved
  cases result with
  | error e => exact .inl ⟨e, rfl, rfl, rfl⟩
  | ok route =>
    refine .inr ⟨route, _, rfl, rfl, ?_⟩
    cases hgroups : routers.readWrite with
    | none =>
      simp only [routeGroups, groupOf?, hgroups]
      exact ⟨goOneWay_nil sql.statement session, by simp, by simp⟩
    | some rule =>
      simp only [routeGroups, groupOf?, hgroups, Option.bind_some]
      exact ⟨goOneWay_choicesThrough route,
        fun c hc => ⟨isMade_of_mem_choicesThrough hc, needsPrimary_of_mem_choicesThrough hc⟩,
        fun u => mem_units_throughGroups⟩

end Routers

end ScatterGather
