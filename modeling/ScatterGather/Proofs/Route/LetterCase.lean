import ScatterGather.Proofs.Merge.Resolution
import ScatterGather.Proofs.Route.Clause

/-!
# Proofs/Route/LetterCase — column names in other letter case

`Condition.Recased` relates a WHERE clause to any clause that writes its column names in other
letter case, each test by itself.  Such clauses are derived in step (`Agree`), and what they say
about sharding columns differs in letter case alone, **if each group spells alike in one clause what
it spells alike in the other** (`SpelledAlike`): then they lead to one route
(`plannedRoute_recased`).
A restriction narrows an earlier one of its column only when both spell the column alike, so two
spellings in one group leave two restrictions, and the targets of both.
-/

namespace ScatterGather

open Sharding

/-! ## Clauses in other letter case

Each test may be recased by itself, so one column can be spelled in several ways on either side. -/

/-- The same test of another column. -/
def Predicate.withColumn (name : String) : Predicate → Predicate
  | compare op _ operand => compare op name operand
  | between _ low high => between name low high
  | like _ pattern => like name pattern
  | among _ operands => among name operands
  | isNull _ => isNull name
  | isNotNull _ => isNotNull name

/-- The same test, its column in other letter case. -/
def Predicate.Recased (p p' : Predicate) : Prop :=
  ∃ name, Text.sameName p.column name = true ∧ p' = p.withColumn name

@[simp] theorem Predicate.column_withColumn (name : String) (p : Predicate) :
    (p.withColumn name).column = name := by
  cases p <;> rfl

@[simp] theorem Sharding.restricts_withColumn (name : String) (p : Predicate) :
    restricts (p.withColumn name) = restricts p := by
  cases p <;> rfl

/-- The same clause, its columns in other letter case. -/
inductive Condition.Recased : Condition → Condition → Prop where
  | test {p p' : Predicate} (h : p.Recased p') : Recased (.test p) (.test p')
  | and {l l' r r' : Condition} (hl : Recased l l') (hr : Recased r r') :
    Recased (.and l r) (.and l' r')
  | or {l l' r r' : Condition} (hl : Recased l l') (hr : Recased r r') :
    Recased (.or l r) (.or l' r')

/-- The clauses have the same groups, up to letter case. -/
theorem Condition.Recased.andGroups {w w' : Condition} (h : w.Recased w') :
    List.Forall₂ (List.Forall₂ Predicate.Recased) w.andGroups w'.andGroups := by
  induction h with
  | test h => exact .cons (.cons h .nil) .nil
  | and _ _ ihl ihr =>
    exact List.rel_flatMap ihl fun _ _ hl =>
      List.rel_map (fun _ _ hr => List.rel_append hl hr) ihr
  | or _ _ ihl ihr => exact List.rel_append ihl ihr

/-- A restriction of the column in other letter case. -/
structure Restriction.Recased (r r' : Restriction) : Prop where
  table : r'.table = r.table
  column : Text.sameName r.column r'.column = true
  allowed : r'.allowed = r.allowed

/-- Conditions that differ in the letter case of columns. -/
def ShardingCondition.Recased (c c' : ShardingCondition) : Prop :=
  List.Forall₂ Restriction.Recased c.restrictions c'.restrictions

namespace Sharding

/-! ## Columns

Names are compared without case wherever a table or an owner is looked up. -/

section Columns

variable {rule : ShardingRule} {tables : List String} {name name' : String}

/-- The owner of a name, in lower case. -/
theorem foldName_owner (name : String) : (splitColumn name).1.map Text.foldName =
    (Text.splitLast? '.' (Text.foldName name)).map Prod.fst := by
  rw [splitColumn, Text.foldName, Text.splitLast?_map_toLower]
  cases Text.splitLast? '.' name.toList with
  | none => rfl
  | some halves => simp [Text.foldName]

/-- A name in other letter case is qualified by the same tables. -/
theorem all_owner_congr (h : Text.sameName name name' = true) (t : String) :
    ((splitColumn name').1.all fun o => Text.sameName o t) =
      (splitColumn name).1.all fun o => Text.sameName o t := by
  have hall : ∀ name, ((splitColumn name).1.all fun o => Text.sameName o t) =
      ((Text.splitLast? '.' (Text.foldName name)).map Prod.fst).all (· == Text.foldName t) := by
    intro name
    rw [← foldName_owner]
    cases (splitColumn name).1 <;> rfl
  rw [hall, hall, Text.sameName_iff.1 h]

/-- **A name in other letter case is of the same tables.** -/
theorem owningTables_recased (h : Text.sameName name name' = true) :
    owningTables rule tables name' =
      (owningTables rule tables name).map fun o => (o.1, bareColumn name') := by
  have hcolumn : ∀ t, rule.isShardingColumn (bareColumn name') t =
      rule.isShardingColumn (bareColumn name) t := by
    intro t
    simp only [ShardingRule.isShardingColumn, ← Text.sameName_congr (sameName_bareColumn h)]
  have howning : ∀ name, owningTables rule tables name =
      ((tables.filter fun t => (splitColumn name).1.all fun o => Text.sameName o t).filter fun t =>
        rule.isShardingColumn (bareColumn name) t).map fun t => (t, bareColumn name) := fun _ => rfl
  simp only [howning, all_owner_congr h, hcolumn, List.map_map]
  rfl

/-- The column of a table that owns it is the bare name. -/
theorem snd_of_mem_owningTables {o : String × String} (h : o ∈ owningTables rule tables name) :
    o.2 = bareColumn name := by
  obtain ⟨t, -, rfl⟩ := List.mem_map.1 h
  rfl

end Columns

/-! ## Computations in step

Deriving conditions reads the clock and may fail.  Two derivations that read it equally often stay
in step: started at one clock, where both succeed they leave one clock, and it is enough to relate
what they yield. -/

/-- From one clock, two computations that both succeed yield related results and leave one clock. -/
def Agree {α β : Type} (R : α → β → Prop) (x : Timed α) (y : Timed β) : Prop :=
  ∀ clock a b c d, x.run clock = (.ok a, c) → y.run clock = (.ok b, d) → R a b ∧ c = d

section Agree

variable {α β γ δ : Type} {R : α → β → Prop} {S : γ → δ → Prop} {x : Timed α} {y : Timed β}

theorem agree_pure {a : α} {b : β} (h : R a b) : Agree R (pure a) (pure b) := by
  rintro clock _ _ _ _ ⟨⟩ ⟨⟩
  exact ⟨h, rfl⟩

/-- Computations in step chain. -/
theorem Agree.bind {f : α → Timed γ} {g : β → Timed δ} (hx : Agree R x y)
    (hf : ∀ a b, R a b → Agree S (f a) (g b)) : Agree S (x >>= f) (y >>= g) := by
  intro clock a b c d ha hb
  obtain ⟨a', c', ha', ha⟩ := run_bind_eq_ok.1 ha
  obtain ⟨b', d', hb', hb⟩ := run_bind_eq_ok.1 hb
  obtain ⟨hab, rfl⟩ := hx clock a' b' c' d' ha' hb'
  exact hf a' b' hab c' a b c d ha hb

end Agree

/-! ## What predicates allow

The column's name is only written into errors. -/

section Allowed

variable {parameters : List Value}

/-- Operands do not depend on the column. -/
theorem agree_resolveOperand (column column' : String) (e : Expression) :
    Agree Eq (resolveOperand parameters column e) (resolveOperand parameters column' e) := by
  intro clock a b c d ha hb
  obtain ⟨rfl, -, rfl⟩ := run_resolveOperand ha
  obtain ⟨rfl, -, rfl⟩ := run_resolveOperand hb
  exact ⟨rfl, rfl⟩

/-- A list of operands resolves alike under either name of its column. -/
theorem agree_resolveList (column column' : String) (found : List Value)
    (operands : List Expression) : Agree Eq (resolveList parameters column found operands)
      (resolveList parameters column' found operands) := by
  induction operands generalizing found with
  | nil => exact agree_pure rfl
  | cons e rest ih =>
    refine (agree_resolveOperand column column' e).bind fun r r' hr => ?_
    subst hr
    cases r with
    | none => exact agree_pure rfl
    | some v => exact ih _

/-- **Predicates of two columns allow the same**, one test being the other's. -/
theorem agree_allowedBy (name : String) (p : Predicate) :
    Agree Eq (allowedBy parameters p) (allowedBy parameters (p.withColumn name)) := by
  cases p with
  | like | isNull | isNotNull => exact agree_pure rfl
  | among column operands =>
    exact (agree_resolveList _ _ _ _).bind fun r r' hr => agree_pure (hr ▸ rfl)
  | between column low high =>
    exact (agree_resolveOperand _ _ _).bind fun a a' ha =>
      (agree_resolveOperand _ _ _).bind fun b b' hb => agree_pure (by rw [ha, hb])
  | compare op column e =>
    cases op with
    | notEqual => exact agree_pure rfl
    | equal | greater | less | greaterOrEqual | lessOrEqual =>
      exact (agree_resolveOperand _ _ _).bind fun r r' hr => agree_pure (hr ▸ rfl)

end Allowed

/-! ## Groups of predicates

This is the one place where spelling counts: a restriction narrows an earlier one only where both
spell the column alike. -/

section Groups

variable {rule : ShardingRule} {tables : List String} {parameters : List Value}
  {known : List (String × String)} {found found' : List Restriction}

/-- The sharding columns that a group restricts, as it spells them and as the other group does. -/
def spellings (rule : ShardingRule) (tables : List String) (group group' : List Predicate) :
    List (String × String) :=
  ((group.zip group').filter fun p =>
    restricts p.1 && !(owningTables rule tables p.1.column).isEmpty).map fun p =>
      (bareColumn p.1.column, bareColumn p.2.column)

/-- Spellings that coincide in one place coincide in the other. -/
def AreOneToOne (known : List (String × String)) : Prop :=
  ∀ a ∈ known, ∀ b ∈ known, a.1 = b.1 ↔ a.2 = b.2

instance : DecidablePred AreOneToOne := fun known =>
  inferInstanceAs (Decidable (∀ a ∈ known, ∀ b ∈ known, a.1 = b.1 ↔ a.2 = b.2))

/-- Restrictions of one column of one table in two known spellings. -/
structure RestrictAlike (known : List (String × String)) (r r' : Restriction) : Prop where
  table : r'.table = r.table
  column : (r.column, r'.column) ∈ known
  allowed : r'.allowed = r.allowed

/-- **Restrictions in two spellings narrow the same**, if the spellings are one to one. -/
theorem forall₂_restrictList (hknown : AreOneToOne known) {added added' : Restriction}
    (hadded : RestrictAlike known added added')
    (hfound : List.Forall₂ (RestrictAlike known) found found') :
    List.Forall₂ (RestrictAlike known) (ShardingCondition.restrictList added found)
      (ShardingCondition.restrictList added' found') := by
  induction hfound with
  | nil => exact .cons hadded .nil
  | @cons r r' rest rest' hr hrest ih =>
    have hsame : r'.table = added'.table ∧ r'.column = added'.column ↔
        r.table = added.table ∧ r.column = added.column := by
      rw [hr.table, hadded.table]
      exact and_congr_right fun _ => (hknown _ hr.column _ hadded.column).symm
    rw [ShardingCondition.restrictList, ShardingCondition.restrictList]
    simp only [hsame]
    split
    · exact .cons ⟨hr.table, hr.column, by simp only [hr.allowed, hadded.allowed]⟩ hrest
    · exact .cons hr ih

/-- Several restrictions in two spellings, one after another, narrow the same. -/
theorem forall₂_foldl_restrictList (hknown : AreOneToOne known) {added added' : List Restriction}
    (hadded : List.Forall₂ (RestrictAlike known) added added')
    (hfound : List.Forall₂ (RestrictAlike known) found found') :
    List.Forall₂ (RestrictAlike known)
      (added.foldl (fun found r => ShardingCondition.restrictList r found) found)
      (added'.foldl (fun found r => ShardingCondition.restrictList r found) found') := by
  induction hadded generalizing found found' with
  | nil => exact hfound
  | cons ha _ ih => exact ih (forall₂_restrictList hknown ha hfound)

/-- A predicate and the recased one restrict alike. -/
theorem agree_restrictionsOf {p : Predicate} {name : String}
    (hname : Text.sameName p.column name = true)
    (hsub : spellings rule tables [p] [p.withColumn name] ⊆ known) :
    Agree (List.Forall₂ (RestrictAlike known)) (restrictionsOf rule tables parameters p)
      (restrictionsOf rule tables parameters (p.withColumn name)) := by
  have hpair : restricts p = true → owningTables rule tables p.column ≠ [] →
      (bareColumn p.column, bareColumn name) ∈ known := fun hp howning =>
    hsub (by simp [spellings, hp, howning])
  rw [restrictionsOf, restrictionsOf]
  simp only [restricts_withColumn, Predicate.column_withColumn, owningTables_recased hname]
  by_cases hp : restricts p = true ∧ owningTables rule tables p.column ≠ []
  · obtain ⟨hp, howning⟩ := hp
    simp only [hp, if_true, List.isEmpty_map, List.isEmpty_eq_false_iff.2 howning,
      Bool.false_eq_true, if_false]
    refine (agree_allowedBy name p).bind fun r r' hr => ?_
    subst hr
    cases r with
    | none => exact agree_pure .nil
    | some allowed =>
      refine agree_pure ?_
      rw [List.map_map, List.forall₂_map_left_iff, List.forall₂_map_right_iff, List.forall₂_same]
      exact fun o ho => ⟨rfl, snd_of_mem_owningTables ho ▸ hpair hp howning, rfl⟩
  · -- A predicate that restricts nothing, or no sharded column, derives nothing under either
    -- spelling.
    have hempty : (if restricts p = true then owningTables rule tables p.column else []) = [] := by
      split
      next hr => exact not_not.1 fun h => hp ⟨hr, h⟩
      next => rfl
    have hempty' : (if restricts p = true then (owningTables rule tables p.column).map
        fun o => (o.1, bareColumn name) else []) = [] := by
      split at hempty
      next hr => rw [if_pos hr, hempty, List.map_nil]
      next hr => rw [if_neg hr]
    simp only [hempty, hempty', List.isEmpty_nil, if_true]
    exact agree_pure .nil

/-- **Groups that differ in letter case restrict alike**, if they spell alike. -/
theorem agree_groupRestrictions (hknown : AreOneToOne known) {group group' : List Predicate}
    (hgroup : List.Forall₂ Predicate.Recased group group')
    (hsub : spellings rule tables group group' ⊆ known)
    (hfound : List.Forall₂ (RestrictAlike known) found found') :
    Agree (List.Forall₂ (RestrictAlike known))
      (groupRestrictions rule tables parameters found group)
      (groupRestrictions rule tables parameters found' group') := by
  induction hgroup generalizing found found' with
  | nil => exact agree_pure hfound
  | @cons p p' rest rest' hp _ ih =>
    have hsplit : spellings rule tables (p :: rest) (p' :: rest') =
        spellings rule tables [p] [p'] ++ spellings rule tables rest rest' := by
      rw [spellings, List.zip_cons_cons, ← List.singleton_append, List.filter_append,
        List.map_append]
      rfl
    rw [hsplit, List.append_subset] at hsub
    obtain ⟨name, hname, rfl⟩ := hp
    exact (agree_restrictionsOf hname hsub.1).bind fun added added' hadded =>
      ih hsub.2 (forall₂_foldl_restrictList hknown hadded hfound)

/-- Spellings of a group and of the recased one match. -/
theorem sameName_of_mem_spellings {group group' : List Predicate} {a : String × String}
    (hgroup : List.Forall₂ Predicate.Recased group group')
    (h : a ∈ spellings rule tables group group') : Text.sameName a.1 a.2 = true := by
  obtain ⟨⟨p, p'⟩, hp, rfl⟩ := List.mem_map.1 h
  obtain ⟨name, hname, rfl⟩ := (List.forall₂_iff_zip.1 hgroup).2 (List.mem_filter.1 hp).1
  simpa using sameName_bareColumn hname

/-- The groups of the two clauses spell columns one to one. -/
def SpelledAlike (rule : ShardingRule) (tables : List String)
    (groups groups' : List (List Predicate)) : Prop :=
  ∀ g ∈ groups.zip groups', AreOneToOne (spellings rule tables g.1 g.2)

/-- Conditions of such groups differ in letter case alone. -/
theorem agree_groupConditions {groups groups' : List (List Predicate)}
    (hgroups : List.Forall₂ (List.Forall₂ Predicate.Recased) groups groups')
    (hspelled : SpelledAlike rule tables groups groups') :
    Agree (Option.Rel (List.Forall₂ ShardingCondition.Recased))
      (groupConditions rule tables parameters groups)
      (groupConditions rule tables parameters groups') := by
  induction hgroups with
  | nil => exact agree_pure (.some .nil)
  | @cons group group' rest rest' hgroup _ ih =>
    obtain ⟨hknown, hrest⟩ := List.forall_mem_cons.1 hspelled
    refine (agree_groupRestrictions hknown hgroup (List.Subset.refl _) .nil).bind
      fun found found' hfound => ?_
    have hrecased : ShardingCondition.Recased ⟨found⟩ ⟨found'⟩ := hfound.imp fun r r' hr =>
      ⟨hr.table, sameName_of_mem_spellings hgroup hr.column, hr.allowed⟩
    cases hfound with
    | nil => exact agree_pure .none
    | cons hr hmore =>
      refine (ih hrest).bind fun more more' hmore => agree_pure ?_
      cases hmore with
      | none => exact .none
      | some hmore => exact .some (.cons hrecased hmore)

/-- **Conditions of clauses in other letter case** differ in letter case alone. -/
theorem forall₂_whereConditions {w w' : Condition} {clock : Clock}
    {found found' : List ShardingCondition} (hw : w.Recased w')
    (hspelled : SpelledAlike rule tables w.andGroups w'.andGroups)
    (h : ((whereConditions rule tables parameters (some w)).run clock).1 = .ok found)
    (h' : ((whereConditions rule tables parameters (some w')).run clock).1 = .ok found') :
    List.Forall₂ ShardingCondition.Recased found found' := by
  have hagree : Agree (List.Forall₂ ShardingCondition.Recased)
      (whereConditions rule tables parameters (some w))
      (whereConditions rule tables parameters (some w')) := by
    refine (agree_groupConditions hw.andGroups hspelled).bind fun r r' hr => agree_pure ?_
    cases hr with
    | none => exact .nil
    | some hr => exact hr
  exact (hagree clock found found' _ _ (Prod.ext h rfl) (Prod.ext h' rfl)).1

end Groups

end Sharding

/-! ## The route

Once restrictions are of columns that match, nothing downstream sees their spelling. -/

namespace ShardingCondition.Recased

variable {c c' : ShardingCondition}

/-- What a column may be, it may be in any letter case. -/
theorem allowedFor (h : c.Recased c') (table column : String) :
    c'.allowedFor table column = c.allowedFor table column := by
  have hmap : ∀ {l l' : List Restriction}, List.Forall₂ Restriction.Recased l l' →
      (l'.filter fun r => Text.sameName r.table table && Text.sameName r.column column).map
          (·.allowed) =
        (l.filter fun r => Text.sameName r.table table && Text.sameName r.column column).map
          (·.allowed) := by
    intro l l' hl
    induction hl with
    | nil => rfl
    | @cons r r' _ _ hr _ ih =>
      have hcolumn : Text.sameName r'.column column = Text.sameName r.column column := by
        rw [Text.sameName_comm r'.column, Text.sameName_comm r.column,
          Text.sameName_congr hr.column]
      rw [List.filter_cons, List.filter_cons, hr.table, hcolumn]
      split
      · rw [List.map_cons, List.map_cons, hr.allowed, ih]
      · exact ih
  exact hmap h

/-- A condition that no row can satisfy stays one. -/
theorem isNever (h : c.Recased c') : c'.isNever = c.isNever := by
  rw [ShardingCondition.isNever, ShardingCondition.isNever]
  have hany : ∀ {l l' : List Restriction}, List.Forall₂ Restriction.Recased l l' →
      (l'.any fun r => r.allowed.isEmpty) = l.any fun r => r.allowed.isEmpty := by
    intro l l' hl
    induction hl with
    | nil => rfl
    | cons hr _ ih => rw [List.any_cons, List.any_cons, hr.allowed, ih]
  exact hany h

/-- **A condition chooses the nodes that the recased one does.** -/
theorem nodesFor (h : c.Recased c') (rule : ShardingRule) (r : TableRule) (table : String) :
    nodesFor rule r table (some c') = ScatterGather.nodesFor rule r table (some c) := by
  have hchoose : ∀ strategy targets, chooseTargets strategy targets table (some c') =
      chooseTargets strategy targets table (some c) := by
    intro strategy targets
    cases strategy with
    | none => rfl
    | some strategy => simp only [chooseTargets, h.allowedFor]
  simp only [ScatterGather.nodesFor, hchoose]

end ShardingCondition.Recased

section Route

variable {rule : ShardingRule} {schema : Schema} {clock : Clock} {statement : Statement}
  {parameters : List Value} {conditions conditions' : ShardingConditions} {t : String}
  {w w' : Condition}

/-- The route of a statement under its conditions. -/
def plannedRoute (rule : ShardingRule) (statement : Statement) (conditions : ShardingConditions) :
    Except Error Route :=
  (RoutePlan.choose rule statement conditions).route rule conditions statement.isSelect

/-- Lists of conditions that differ in the letter case of columns. -/
def ShardingConditions.Recased (conditions conditions' : ShardingConditions) : Prop :=
  List.Forall₂ ShardingCondition.Recased conditions.conditions conditions'.conditions

/-- The last conditions of both lists match. -/
theorem ShardingConditions.Recased.keepLast (h : conditions.Recased conditions') :
    conditions.keepLast.Recased conditions'.keepLast := by
  have hhead : ∀ {l l' : List ShardingCondition}, List.Forall₂ ShardingCondition.Recased l l' →
      List.Forall₂ ShardingCondition.Recased l.head?.toList l'.head?.toList := by
    rintro _ _ (_ | ⟨hc, _⟩)
    · exact .nil
    · exact .cons hc .nil
  rw [ShardingConditions.Recased, ShardingConditions.keepLast, ShardingConditions.keepLast,
    ← List.head?_reverse, ← List.head?_reverse]
  exact hhead (List.forall₂_reverse_iff.2 h)

theorem ShardingConditions.Recased.areNever (h : conditions.Recased conditions') :
    conditions'.areNever = conditions.areNever := by
  have hall : ∀ {l l' : List ShardingCondition}, List.Forall₂ ShardingCondition.Recased l l' →
      (!l'.isEmpty && l'.all ShardingCondition.isNever) =
        (!l.isEmpty && l.all ShardingCondition.isNever) := by
    intro l l' hl
    have heq : l'.all ShardingCondition.isNever = l.all ShardingCondition.isNever := by
      induction hl with
      | nil => rfl
      | cons hc _ ih => rw [List.all_cons, List.all_cons, hc.isNever, ih]
    cases hl with
    | nil => rfl
    | cons => exact heq
  exact hall h

/-- The nodes of a table are those under the recased conditions. -/
theorem ShardingConditions.Recased.tableNodes (h : conditions.Recased conditions') :
    tableNodes rule t conditions' = ScatterGather.tableNodes rule t conditions := by
  rw [ScatterGather.tableNodes, ScatterGather.tableNodes]
  split
  next => rfl
  next r _ =>
    have hmapM : ∀ {l l' : List ShardingCondition}, List.Forall₂ ShardingCondition.Recased l l' →
        (l'.mapM fun c => nodesFor rule r t (some c)) =
          l.mapM fun c => nodesFor rule r t (some c) := by
      intro l l' hl
      induction hl with
      | nil => rfl
      | cons hc _ ih => rw [List.mapM_cons, List.mapM_cons, hc.nodesFor, ih]
    have hempty : conditions'.conditions.isEmpty = conditions.conditions.isEmpty := by
      rw [Bool.eq_iff_iff, List.isEmpty_iff_length_eq_zero, List.isEmpty_iff_length_eq_zero,
        List.Forall₂.length_eq h]
    rw [hmapM h, hempty]

/-- One route under both, whatever the clauses are. -/
theorem plannedRoute_of_recased (hpicks : statement.picksRows = true)
    (htables : statement.tables = [t]) (hsharded : rule.isSharded t = true)
    (h : rule.isBroadcast t = true ∨ conditions.Recased conditions') :
    plannedRoute rule (statement.restrictedTo w') conditions' =
      plannedRoute rule (statement.restrictedTo w) conditions := by
  have hplan : ∀ w conditions, RoutePlan.choose rule (statement.restrictedTo w) conditions = _ :=
    fun w conditions =>
      RoutePlan.choose_single (by simpa using hpicks) (by simpa using htables) hsharded
  simp only [plannedRoute, hplan, Statement.isSelect_restrictedTo]
  obtain hbroadcast | h := h
  · simp only [hbroadcast, if_true]
    rfl
  · rw [h.areNever]
    split
    · rfl
    · split
      · rfl
      · rw [RoutePlan.route, RoutePlan.route, h.tableNodes]

/-- **Letter case of columns does not matter to routing** a statement over one sharded table, with
all conditions or the last one, if the groups of both clauses spell columns one to one; for a
broadcast table it never does. -/
theorem plannedRoute_recased (hpicks : statement.picksRows = true)
    (htables : statement.tables = [t]) (hsharded : rule.isSharded t = true) (hw : w.Recased w')
    (hspelled : rule.isBroadcast t = true ∨ SpelledAlike rule [t] w.andGroups w'.andGroups)
    (h : (deriveConditions rule schema clock (statement.restrictedTo w) parameters).result =
      .ok conditions)
    (h' : (deriveConditions rule schema clock (statement.restrictedTo w') parameters).result =
      .ok conditions') :
    plannedRoute rule (statement.restrictedTo w') conditions' =
        plannedRoute rule (statement.restrictedTo w) conditions ∧
      plannedRoute rule (statement.restrictedTo w') conditions'.keepLast =
        plannedRoute rule (statement.restrictedTo w) conditions.keepLast := by
  rw [deriveConditions_result (by simpa using hpicks), Statement.tables_restrictedTo, htables,
    Statement.condition?_restrictedTo hpicks] at h h'
  obtain ⟨found, hfound, rfl⟩ := map_eq_ok.1 h
  obtain ⟨found', hfound', rfl⟩ := map_eq_ok.1 h'
  have hrecased : rule.isBroadcast t = true ∨
      ShardingConditions.Recased ⟨found, none⟩ ⟨found', none⟩ :=
    hspelled.imp_right fun hspelled => forall₂_whereConditions hw hspelled hfound hfound'
  exact ⟨plannedRoute_of_recased hpicks htables hsharded hrecased,
    plannedRoute_of_recased hpicks htables hsharded (hrecased.imp_right (·.keepLast))⟩

/-- Listed orders from number 4 on, or all of one user: two tests of one column. -/
def listedOrders (order order' user : String) : Condition :=
  .or (.and (.test (.compare .greaterOrEqual order (.literal (.integer 4))))
      (.test (.among order' [.literal (.integer 2), .literal (.integer 4)])))
    (.test (.compare .equal user (.parameter 0)))

/-- Both tests spell the column alike, in each clause in its own way. -/
theorem plannedRoute_listedOrders : ∃ conditions conditions',
    (deriveConditions ordersAndItems ⟨[]⟩ (Clock.fixed 0) (ordersWhere.statement.restrictedTo
      (listedOrders "order_id" "order_id" "user_id")) ordersWhere.parameters).result =
        .ok conditions ∧
    (deriveConditions ordersAndItems ⟨[]⟩ (Clock.fixed 0) (ordersWhere.statement.restrictedTo
      (listedOrders "Order_Id" "Order_Id" "USER_ID")) ordersWhere.parameters).result =
        .ok conditions' ∧
    plannedRoute ordersAndItems (ordersWhere.statement.restrictedTo
        (listedOrders "Order_Id" "Order_Id" "USER_ID")) conditions' =
      plannedRoute ordersAndItems (ordersWhere.statement.restrictedTo
        (listedOrders "order_id" "order_id" "user_id")) conditions := by
  have hcase : Text.sameName "order_id" "Order_Id" = true ∧
      Text.sameName "user_id" "USER_ID" = true := by decide
  have hw : (listedOrders "order_id" "order_id" "user_id").Recased
      (listedOrders "Order_Id" "Order_Id" "USER_ID") :=
    .or (.and (.test ⟨_, hcase.1, rfl⟩) (.test ⟨_, hcase.1, rfl⟩)) (.test ⟨_, hcase.2, rfl⟩)
  have hspelled : SpelledAlike ordersAndItems ["t_order"]
      (listedOrders "order_id" "order_id" "user_id").andGroups
      (listedOrders "Order_Id" "Order_Id" "USER_ID").andGroups := by
    rintro g hg
    obtain rfl | rfl := List.mem_pair.1 hg <;> decide
  obtain ⟨conditions, h⟩ : ∃ conditions, (deriveConditions ordersAndItems ⟨[]⟩ (Clock.fixed 0)
      (ordersWhere.statement.restrictedTo (listedOrders "order_id" "order_id" "user_id"))
      ordersWhere.parameters).result = .ok conditions := ⟨_, rfl⟩
  obtain ⟨conditions', h'⟩ : ∃ conditions, (deriveConditions ordersAndItems ⟨[]⟩ (Clock.fixed 0)
      (ordersWhere.statement.restrictedTo (listedOrders "Order_Id" "Order_Id" "USER_ID"))
      ordersWhere.parameters).result = .ok conditions := ⟨_, rfl⟩
  exact ⟨conditions, conditions', h, h',
    (plannedRoute_recased rfl rfl (by decide) hw (.inr hspelled) h h').1⟩

end Route

end ScatterGather
