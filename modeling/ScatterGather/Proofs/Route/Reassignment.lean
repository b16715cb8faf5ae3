import ScatterGather.Proofs.Route.Coverage
import ScatterGather.Proofs.Sharding.Spelling
import ScatterGather.Route.Admission

/-!
# Proofs/Route/Reassignment — an admitted UPDATE leaves rows where they are

A sharding column may be assigned only what the WHERE clause pins it to.  So a row that satisfies
the clause holds a value **equal** to the assigned one; but a target depends on more than that, on
the text of a value (`apart_of_spelling`).  Two facts close the gap, for integers of any width and
texts of either type: equal ones are told apart by no algorithm, nor by its errors
(`reported_target_congr`), and the pinning predicate is one that the row satisfies, however deep
among the conjunctions it stands (`exists_of_pinnedValue`).  Hence `reported_target_apply`.
-/

namespace ScatterGather

open Sharding

/-! ## What algorithms see of a value

An algorithm looks at the integer that a value is, or at its text, and at nothing else.  Integers of
both widths agree in the two, as texts of both types do. -/

/-- An outcome as it is reported: a failure by its kind and its wording. -/
def reported {α : Type} (x : Except Error α) : Except (String × String) α :=
  x.mapError fun e => (e.kind, e.message)

/-- Errors are reported by their kind and wording. -/
theorem reported_error_congr {α : Type} {e e' : Error} (hkind : e.kind = e'.kind)
    (hmessage : e.message = e'.message) :
    reported (.error e : Except Error α) = reported (.error e') :=
  congrArg Except.error (Prod.ext hkind hmessage)

namespace Value

/-- Whether the value is an integer of either width or a text of either type. -/
def isIntegerOrText (v : Value) : Bool := v.int?.isSome || v.text?.isSome

/-- No algorithm tells the values apart: they are one integer or none, and have one text. -/
structure ShardsLike (a b : Value) : Prop where
  int : a.int? = b.int?
  render : a.render = b.render

theorem cases_of_isIntegerOrText {v : Value} (h : v.isIntegerOrText = true) :
    (∃ n, v = smallInt n) ∨ (∃ n, v = integer n) ∨ (∃ s, v = text s) ∨ ∃ s, v = char s := by
  cases v with
  | smallInt n => exact .inl ⟨n, rfl⟩
  | integer n => exact .inr (.inl ⟨n, rfl⟩)
  | text s => exact .inr (.inr (.inl ⟨s, rfl⟩))
  | char s => exact .inr (.inr (.inr ⟨s, rfl⟩))
  | _ => cases h

/-- No integer and no text is a double. -/
theorem isReal_of_isIntegerOrText {v : Value} (h : v.isIntegerOrText = true) :
    v.isReal = false := by
  obtain ⟨_, rfl⟩ | ⟨_, rfl⟩ | ⟨_, rfl⟩ | ⟨_, rfl⟩ := cases_of_isIntegerOrText h <;> rfl

/-- Integers and texts have no places, no negative zero and no time of day. -/
theorem sameForm_of_isIntegerOrText {a b : Value} (ha : a.isIntegerOrText = true)
    (hb : b.isIntegerOrText = true) : SameForm a b := by
  have hform : ∀ {v : Value}, v.isIntegerOrText = true →
      v.places = 0 ∧ v.isNegativeZero = false ∧ v.isDay = false := by
    intro v hv
    obtain ⟨_, rfl⟩ | ⟨_, rfl⟩ | ⟨_, rfl⟩ | ⟨_, rfl⟩ := cases_of_isIntegerOrText hv <;>
      exact ⟨rfl, rfl, rfl⟩
  obtain ⟨hplaces, hzero, hday⟩ := hform ha
  obtain ⟨hplaces', hzero', hday'⟩ := hform hb
  exact ⟨hplaces.trans hplaces'.symm, hzero.trans hzero'.symm, hday.trans hday'.symm⟩

/-- **Equal integers and equal texts shard alike**, whatever their widths and types. -/
theorem shardsLike_of_order? {a b : Value} (ha : a.isIntegerOrText = true)
    (hb : b.isIntegerOrText = true) (h : a.order? b = some .eq) : a.ShardsLike b := by
  have hint : a.int?.isSome = b.int?.isSome := by
    -- an integer and a text do not compare
    obtain ⟨m, rfl⟩ | ⟨m, rfl⟩ | ⟨s, rfl⟩ | ⟨s, rfl⟩ := cases_of_isIntegerOrText ha <;>
    obtain ⟨n, rfl⟩ | ⟨n, rfl⟩ | ⟨t, rfl⟩ | ⟨t, rfl⟩ := cases_of_isIntegerOrText hb <;>
    first | cases h | simp only [int?, Option.isSome_some, Option.isSome_none]
  have ha' := isReal_of_isIntegerOrText ha
  have hb' := isReal_of_isIntegerOrText hb
  exact ⟨int?_eq_of_order? ha' hb' h hint,
    render_eq_of_order? ha' hb' h (sameForm_of_isIntegerOrText ha hb)⟩

end Value

section Targets

variable {a b : Value}

/-- A target is looked for by its number; a failure names the value by its text. -/
theorem reported_targetWithSuffix_congr (h : a.ShardsLike b) (targets : List String)
    (suffix : Int) :
    reported (targetWithSuffix targets suffix a) =
      reported (targetWithSuffix targets suffix b) := by
  rw [targetWithSuffix, targetWithSuffix]
  split
  · rfl
  · refine reported_error_congr rfl ?_
    delta Error.message Target.message
    dsimp only
    rw [h.render]

/-- Values that shard alike are read as one integer, or are refused in the same words. -/
theorem reported_integerValue_congr (h : a.ShardsLike b) :
    reported (integerValue a) = reported (integerValue b) := by
  rw [integerValue, integerValue, h.int, h.render]
  split
  · rfl
  · split
    · rfl
    · refine reported_error_congr rfl ?_
      delta Error.message Mismatch.message
      dsimp only
      rw [h.render]

/-- A template sees the integer and the text, in its errors too. -/
theorem Inline.mapError_evaluate_congr (h : a.ShardsLike b) (t : Inline.Template)
    (column : String) :
    (t.evaluate column a).mapError Malformed.message =
      (t.evaluate column b).mapError Malformed.message := by
  have hsegments : (t.segments.mapM (Segment.evaluate t.source column a)).mapError
      Malformed.message =
      (t.segments.mapM (Segment.evaluate t.source column b)).mapError Malformed.message := by
    refine mapError_mapM_congr fun s _ => ?_
    match s with
    | .literal text => rfl
    | .placeholder (.range first last) => rfl
    | .placeholder (.items texts) => rfl
    | .placeholder (.column name none) => simp only [Segment.evaluate, columnText, h.render]
    | .placeholder (.column name (some (op, operand))) =>
      simp only [Segment.evaluate, columnText, h.int]
      split
      · split
        · have hmessage : (Malformed.nonIntegerOperand t.source a).message =
              (Malformed.nonIntegerOperand t.source b).message := by
            delta Malformed.message
            dsimp only
            rw [h.render]
          exact congrArg Except.error hmessage
        · rfl
      · rfl
  rw [Template.evaluate, Template.evaluate]
  exact mapError_bind_congr hsegments fun _ => rfl

/-- **Values that shard alike have one target, or one failure.** -/
theorem reported_target_congr (h : a.ShardsLike b) (algorithm : Algorithm) (targets : List String)
    (column : String) :
    reported (algorithm.target targets column a) =
      reported (algorithm.target targets column b) := by
  cases algorithm with
  | modulo count | boundaries limits =>
    exact mapError_bind_congr (reported_integerValue_congr h) fun n =>
      reported_targetWithSuffix_congr h targets _
  | hashModulo count =>
    have hhash : Sharding.hash a = Sharding.hash b := by
      rw [Sharding.hash, Sharding.hash, h.render]
    rw [Algorithm.target, Algorithm.target, hhash]
    exact reported_targetWithSuffix_congr h targets _
  | inline template =>
    obtain ⟨why, why', ha, hb, hwhy⟩ | ⟨name, ha, hb⟩ :=
      cases_of_mapError_eq (Inline.mapError_evaluate_congr h template column)
    · simp only [Algorithm.target, ha, hb]
      refine reported_error_congr rfl ?_
      delta Error.message
      dsimp only
      rw [hwhy]
    · simp only [Algorithm.target, ha, hb]

end Targets

/-! ## Pinned columns

Which equality pins a column is found by going down the conjunctions.  Every conjunct of a clause
that holds does hold, so the row meets that equality too. -/

variable {rule : ShardingRule} {schema : Schema} {parameters : List Value} {table column : String}

/-- **What pins a column is an equality that the rows satisfy**, if they satisfy the clause: it is
looked for among conjunctions only. -/
theorem exists_of_pinnedValue {truth : Predicate → Prop} {c : Condition} {v : Value}
    (h : pinnedValue column parameters c = .ok (some v)) (hc : c.Holds truth) :
    ∃ name operand, Predicate.compare .equal name operand ∈ c.predicates ∧
      truth (.compare .equal name operand) ∧ Text.sameName (bareColumn name) column = true ∧
        operand.resolve parameters = .ok (some v) := by
  induction c with
  | test p =>
    match p with
    | .compare .equal name operand =>
      rw [pinnedValue] at h
      split at h
      · rename_i hname
        exact ⟨name, operand, List.mem_singleton.2 rfl, hc, hname, h⟩
      · cases h
    | .compare .notEqual _ _ | .compare .greater _ _ | .compare .greaterOrEqual _ _
    | .compare .less _ _ | .compare .lessOrEqual _ _ | .among _ _ | .between _ _ _ | .like _ _
    | .isNull _ | .isNotNull _ => cases h
  | and left right ihl ihr =>
    obtain ⟨hl, hr⟩ := hc
    rw [pinnedValue] at h
    obtain ⟨first, hfirst, h⟩ := bind_eq_ok.1 h
    cases first with
    | some w =>
      cases h
      obtain ⟨name, operand, hmem, hrest⟩ := ihl hfirst hl
      exact ⟨name, operand, List.mem_append_left _ hmem, hrest⟩
    | none =>
      obtain ⟨name, operand, hmem, hrest⟩ := ihr h hr
      exact ⟨name, operand, List.mem_append_right _ hmem, hrest⟩
  | or left right => cases h

/-- An assignment keeps a column's value if the clause pins the column to an equal one. -/
theorem keepsValue_eq_true {operand : Expression} {condition : Option Condition}
    (h : keepsValue column operand condition parameters = .ok true) :
    ∃ assigned pinned, operand.resolve parameters = .ok (some assigned) ∧
      (∃ c ∈ condition, pinnedValue column parameters c = .ok (some pinned)) ∧
        assigned.order? pinned = some .eq := by
  rw [keepsValue] at h
  obtain ⟨assigned, hassigned, h⟩ := bind_eq_ok.1 h
  cases condition with
  | none =>
    obtain ⟨_, hpinned, h⟩ := bind_eq_ok.1 h
    cases hpinned
    cases assigned <;> cases h
  | some c =>
    obtain ⟨pinned, hpinned, h⟩ := bind_eq_ok.1 h
    cases assigned with
    | none => cases h
    | some a =>
      cases pinned with
      | none => cases h
      | some p => exact ⟨a, p, hassigned, ⟨c, rfl, hpinned⟩, eq_of_beq (Except.ok.inj h)⟩

/-! ## Assignments

Assignments are made in turn, and a later one sees the row as it is by then.  None of them changes
what an algorithm sees of a sharding column. -/

/-- The row with another value in one column. -/
def StoredRow.set (row : StoredRow) (column : String) (v : Value) : StoredRow where
  cell name := if Text.sameName name column then v else row.cell name
  cell_congr {a b} h := by
    have hcolumn : Text.sameName a column = Text.sameName b column := by
      rw [Bool.eq_iff_iff, Text.sameName_iff, Text.sameName_iff, Text.sameName_iff.1 h]
    rw [hcolumn, row.cell_congr h]

/-- The row after the assignments of an UPDATE, made in turn; `value` is the database's evaluation
of an operand for the row as it is then. -/
def Update.apply (update : Update) (value : StoredRow → Expression → Value) (row : StoredRow) :
    StoredRow :=
  update.assignments.foldl (fun row a => row.set (bareColumn a.1) (value row a.2)) row

/-- An admitted assignment of a sharding column passed the check of its value. -/
theorem keepsValue_of_permit {update : Update} {assignment : String × Expression}
    (htables : update.tables = [table])
    (h : permit rule schema (.update update) parameters = .ok ())
    (hmem : assignment ∈ update.assignments)
    (hsharding : rule.isShardingColumn (bareColumn assignment.1) table = true) :
    keepsValue (bareColumn assignment.1) assignment.2 update.condition parameters = .ok true := by
  have hone : permitAssignment rule update parameters assignment = .ok () := by
    rw [permit] at h
    generalize update.assignments = assignments at h hmem
    induction assignments with
    | nil => cases hmem
    | cons first rest ih =>
      rw [List.forM] at h
      obtain ⟨⟨⟩, hfirst, hrest⟩ := bind_eq_ok.1 h
      obtain rfl | hmem := List.mem_cons.1 hmem
      · exact hfirst
      · exact ih hrest hmem
  rw [permitAssignment, htables] at hone
  simp only [List.any_cons, hsharding, Bool.true_or, if_true] at hone
  obtain ⟨kept, hkept, hone⟩ := bind_eq_ok.1 hone
  cases kept with
  | true => exact hkept
  | false => cases hone

/-- The operands that an UPDATE assigns to sharding columns, or compares them with, are integers or
texts. -/
structure Update.OperandsAreIntegersOrTexts (update : Update) (rule : ShardingRule)
    (parameters : List Value) (table : String) : Prop where
  assigned : ∀ a ∈ update.assignments, rule.isShardingColumn (bareColumn a.1) table = true →
    ∀ v, a.2.resolve parameters = .ok (some v) → v.isIntegerOrText = true
  compared : ∀ c ∈ update.condition, ∀ p ∈ c.predicates,
    rule.isShardingColumn (bareColumn p.column) table = true → ∀ operand ∈ p.operands,
      ∀ v, operand.resolve parameters = .ok (some v) → v.isIntegerOrText = true

/-- The rows look the same to every algorithm, in every sharding column of a table. -/
def StoredRow.ShardsLike (rule : ShardingRule) (table : String) (a b : StoredRow) : Prop :=
  ∀ column, rule.isShardingColumn column table = true → (a.cell column).ShardsLike (b.cell column)

namespace StoredRow

variable {row moved : StoredRow} {v : Value}

/-- **One assignment**: in a sharding column it has to look like the row's own value. -/
theorem ShardsLike.set (h : moved.ShardsLike rule table row)
    (hv : rule.isShardingColumn column table = true → v.ShardsLike (row.cell column)) :
    (moved.set column v).ShardsLike rule table row := by
  intro name hname
  rw [StoredRow.set]
  dsimp only
  split
  · rename_i hsame
    rw [row.cell_congr hsame]
    exact hv (isShardingColumn_congr hsame table ▸ hname)
  · exact h name hname

/-- **All assignments**, one after another. -/
theorem ShardsLike.foldl_set {value : StoredRow → Expression → Value}
    {assignments : List (String × Expression)} (h : moved.ShardsLike rule table row)
    (hvalues : ∀ a ∈ assignments, rule.isShardingColumn (bareColumn a.1) table = true →
      ∀ moved, (value moved a.2).ShardsLike (row.cell (bareColumn a.1))) :
    (assignments.foldl (fun row a => row.set (bareColumn a.1) (value row a.2)) moved).ShardsLike
      rule table row := by
  induction assignments generalizing moved with
  | nil => exact h
  | cons a rest ih =>
    obtain ⟨ha, hrest⟩ := List.forall_mem_cons.1 hvalues
    exact ih (h.set fun hsharding => ha hsharding moved) hrest

end StoredRow

/-- **An admitted assignment to a sharding column looks like the value that it replaces**, in a row
that satisfies the clause. -/
theorem shardsLike_of_keepsValue {update : Update} {row : StoredRow} {truth : Predicate → Prop}
    {operand : Expression}
    (hoperands : ∀ c ∈ update.condition, ∀ p ∈ c.predicates,
      rule.isShardingColumn (bareColumn p.column) table = true → ∀ e ∈ p.operands,
        ∀ v, e.resolve parameters = .ok (some v) → v.isIntegerOrText = true)
    (hassigned : ∀ v, operand.resolve parameters = .ok (some v) → v.isIntegerOrText = true)
    (hcell : (row.cell column).isIntegerOrText = true)
    (htruth : ∀ name e v, truth (.compare .equal name e) → e.resolve parameters = .ok (some v) →
      (row.cell (bareColumn name)).order? v = some .eq)
    (hholds : ∀ c ∈ update.condition, c.Holds truth)
    (hsharding : rule.isShardingColumn column table = true)
    (h : keepsValue column operand update.condition parameters = .ok true) :
    ∃ v, operand.resolve parameters = .ok (some v) ∧ v.ShardsLike (row.cell column) := by
  obtain ⟨v, pinned, hv, ⟨c, hc, hpinned⟩, heq⟩ := keepsValue_eq_true h
  obtain ⟨name, e, hmem, htrue, hname, he⟩ := exists_of_pinnedValue hpinned (hholds c hc)
  have hpinnedPlain : pinned.isIntegerOrText = true := hoperands c hc _ hmem
    ((isShardingColumn_congr hname table).trans hsharding) e List.mem_cons_self pinned he
  have hrow : (row.cell column).order? pinned = some .eq := by
    rw [← row.cell_congr hname]
    exact htruth name e pinned htrue he
  -- both the assigned and the stored value tie with the pinned one
  have hlike := Value.shardsLike_of_order? (hassigned v hv) hpinnedPlain heq
  have hlike' := Value.shardsLike_of_order? hcell hpinnedPlain hrow
  exact ⟨v, hv, hlike.int.trans hlike'.int.symm, hlike.render.trans hlike'.render.symm⟩

/-- **An admitted UPDATE moves no row to another shard.**  A row that satisfies the WHERE clause has
the same target after the assignments as before them, or the same failure: for the column of each
strategy of its table, under any algorithm, among any targets.  `truth` says which predicates hold
of the row: an equality only where the row's value and the operand compare equal, any other at
will; `value` is the database's evaluation of operands. -/
theorem reported_target_apply {update : Update} {row : StoredRow} {truth : Predicate → Prop}
    {value : StoredRow → Expression → Value} (htables : update.tables = [table])
    (hpermit : permit rule schema (.update update) parameters = .ok ())
    (hoperands : update.OperandsAreIntegersOrTexts rule parameters table)
    (hvalue : ∀ row e v, e.resolve parameters = .ok (some v) → value row e = v)
    (hrow : ∀ column, rule.isShardingColumn column table = true →
      (row.cell column).isIntegerOrText = true)
    (htruth : ∀ name e v, truth (.compare .equal name e) → e.resolve parameters = .ok (some v) →
      (row.cell (bareColumn name)).order? v = some .eq)
    (hholds : ∀ c ∈ update.condition, c.Holds truth) {r : TableRule} {s : Strategy}
    (hfind : rule.find? table = some r)
    (hs : rule.databaseStrategy r = some s ∨ rule.tableStrategy r = some s)
    (algorithm : Algorithm) (targets : List String) :
    reported (algorithm.target targets s.column ((update.apply value row).cell s.column)) =
      reported (algorithm.target targets s.column (row.cell s.column)) := by
  have hlike : (update.apply value row).ShardsLike rule table row := by
    refine StoredRow.ShardsLike.foldl_set (fun _ _ => ⟨rfl, rfl⟩) fun a ha hsharding moved => ?_
    obtain ⟨v, hv, hlike⟩ := shardsLike_of_keepsValue hoperands.compared
      (hoperands.assigned a ha hsharding) (hrow _ hsharding) htruth hholds hsharding
      (keepsValue_of_permit htables hpermit ha hsharding)
    rwa [hvalue moved a.2 v hv]
  exact reported_target_congr (hlike s.column (isShardingColumn_of_strategy hfind hs)) algorithm
    targets s.column

/-- The orders of user 3 with a note, given to user 3 again and with the note changed. -/
def keepUser : Update where
  tables := ["t_order"]
  assignments := [("note", .complex "upper(note)"), ("t_order.USER_ID", .parameter 0)]
  condition := some (.and (.test (.like "note" "a%"))
    (.test (.compare .equal "User_Id" (.literal (.smallInt 3)))))
  limit := none

/-- The database's evaluation of the operands, all notes being one text. -/
def keptUser (_ : StoredRow) : Expression → Value
  | .literal v => v
  | .parameter _ => .integer 3
  | .now | .complex _ => .text "A NOTE"

/-- Operands that are known have their values. -/
theorem keptUser_eq (row : StoredRow) (e : Expression) (v : Value)
    (h : e.resolve [.integer 3] = .ok (some v)) : keptUser row e = v := by
  cases e with
  | literal w =>
    cases h
    rfl
  | parameter index =>
    cases index with
    | zero =>
      cases h
      rfl
    | succ index => cases h
  | now => cases h
  | complex text => cases h

theorem operandsAreIntegersOrTexts_keepUser :
    keepUser.OperandsAreIntegersOrTexts ordersAndItems [.integer 3] "t_order" where
  assigned := by
    simp only [keepUser, List.forall_mem_cons, List.not_mem_nil, false_implies, implies_true,
      and_true]
    refine ⟨fun hsharding => absurd hsharding (by decide), fun _ v hv => ?_⟩
    cases hv
    rfl
  compared := by
    rintro c ⟨⟩
    simp only [Condition.predicates, List.cons_append, List.nil_append, List.forall_mem_cons,
      Predicate.operands, List.not_mem_nil, false_implies, implies_true, and_true, true_and]
    intro _ v hv
    cases hv
    rfl

/-- The user's row of order 4 stays on its data source, though the number changes its width. -/
theorem reported_target_keepUser :
    permit ordersAndItems ⟨[]⟩ (.update keepUser) [.integer 3] = .ok () ∧
      reported ((Algorithm.modulo 2).target ["ds_0", "ds_1"] "user_id"
          ((keepUser.apply keptUser userRow).cell "user_id")) =
        reported ((Algorithm.modulo 2).target ["ds_0", "ds_1"] "user_id"
          (userRow.cell "user_id")) := by
  have hpermit : permit ordersAndItems ⟨[]⟩ (.update keepUser) [.integer 3] = .ok () := by
    decide +kernel
  have hrow : ∀ column, ordersAndItems.isShardingColumn column "t_order" = true →
      (userRow.cell column).isIntegerOrText = true := by
    intro column hcolumn
    obtain h | h := (Bool.or_eq_true _ _).mp hcolumn <;>
      rw [← userRow.cell_congr h] <;> decide
  have htruth : ∀ name e v,
      (Predicate.compare .equal name e = .compare .equal "User_Id" (.literal (.smallInt 3)) ∨
        Predicate.compare .equal name e = .like "note" "a%") →
      e.resolve [.integer 3] = .ok (some v) →
      (userRow.cell (bareColumn name)).order? v = some .eq := by
    rintro name e v (h | h) hv
    · obtain ⟨-, rfl, rfl⟩ := Predicate.compare.inj h
      cases hv
      decide +kernel
    · cases h
  have hholds : ∀ c ∈ keepUser.condition, c.Holds fun p =>
      p = .compare .equal "User_Id" (.literal (.smallInt 3)) ∨ p = .like "note" "a%" := by
    rintro c ⟨⟩
    exact ⟨.inr rfl, .inl rfl⟩
  exact ⟨hpermit, reported_target_apply rfl hpermit operandsAreIntegersOrTexts_keepUser keptUser_eq
    hrow htruth hholds rfl (.inl rfl) (.modulo 2) ["ds_0", "ds_1"]⟩

end ScatterGather
