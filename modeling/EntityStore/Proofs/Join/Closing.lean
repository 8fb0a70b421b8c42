import EntityStore.Proofs.Join.Guards
import EntityStore.Proofs.Join.Pairings
import EntityStore.Proofs.Join.Policies
import EntityStore.Proofs.Join.Rows

/-!
# Unknown columns in joins

Where an unknown column is no error, `1 != 1` takes the place of the equality that names it.  That
bars all rows if it is asked for in a filter, or for a clause that keeps no row alone and together
with all else that pairs its rows, unless a later clause lets rows of its table in again.  It
depends on the steps of the join whether it stays so.
-/

namespace EntityStore

open Text Sql

/-! ### Pairings -/

/-- The formulas that a formula is the conjunction of. -/
def Formula.conjuncts {α : Type} : Formula α → List (Formula α)
  | combine .both f g => f.conjuncts ++ g.conjuncts
  | f => [f]

namespace Pairing

/-- `1 != 1` is asked for together with all else that rows are paired by. -/
def Barred (p : Pairing) : Prop :=
  .atom .never ∈ p.formula.conjuncts

/-- One equality is `1 != 1` or not. -/
theorem barred_by {e : Equality} :
  (Pairing.by e).Barred ↔ e = .never
  := by
  show Formula.atom Equality.never ∈ [Formula.atom e] ↔ e = .never
  simp [eq_comm]

/-- An equality that is added to a pairing is asked for together with it. -/
theorem barred_and {before : Pairing} {e : Equality} :
  (before.and e).Barred ↔ before.Barred ∨ e = .never
  := by
  show _ ∈ before.formula.conjuncts ++ [Formula.atom e] ↔ _
  simp [Barred, eq_comm]

/-- Nothing in a disjunction is asked for together with the rest. -/
theorem not_barred_or {before : Pairing} {e : Equality} :
  ¬ (before.or e).Barred
  := by
  show Formula.atom Equality.never ∉ [Formula.combine .either before.formula (.atom e)]
  simp

/-- A barred pairing holds for no rows. -/
theorem Barred.holds {p : Pairing} (h : p.Barred) (c : Contents) (x : JoinedRow) :
  p.holds c x = false
  := by
  induction p with
  | «by» e =>
      obtain rfl := barred_by.mp h
      rfl
  | and before e ih =>
      rw [Pairing.holds, Bool.and_eq_false_iff]
      obtain hbefore | rfl := barred_and.mp h
      · exact .inl (ih hbefore)
      · exact .inr rfl
  | or before e ih => exact absurd h not_barred_or

/-- One equality more bars all rows if it is `1 != 1` and not one of several choices, and leaves
them barred if it is asked for together with what is before it. -/
theorem barred_add {before : Option Pairing} {logic : Option Logic} {e : Equality} :
  (add before (logic, e)).Barred ↔
    (logic = some .both ∧ ∃ p, before = some p ∧ p.Barred) ∨
    (e = .never ∧ (logic = some .either → before = none))
  := by
  match logic, before with
  | none, before =>
      show (Pairing.by e).Barred ↔ _
      simp [barred_by]
  | some .both, none =>
      show (Pairing.by e).Barred ↔ _
      simp [barred_by]
  | some .both, some p =>
      show (p.and e).Barred ↔ _
      simp [barred_and]
  | some .either, none =>
      show (Pairing.by e).Barred ↔ _
      simp [barred_by]
  | some .either, some p =>
      show (p.or e).Barred ↔ _
      simp [not_barred_or]

end Pairing

namespace JoinClause

/-- A clause that keeps no row alone bars all rows if its pairing does. -/
def Bars (clause : JoinClause) : Prop :=
  clause.kind = .inner ∧ ∃ p, clause.pairing = some p ∧ p.Barred

/-- Nothing is left after a clause that bars all rows. -/
theorem Bars.join {clause : JoinClause} (h : clause.Bars) (c : Contents) (xs : List JoinedRow) :
  clause.join c xs = []
  := by
  obtain ⟨hkind, p, hp, hbarred⟩ := h
  rw [List.eq_nil_iff_forall_not_mem]
  intro y hy
  obtain ⟨x, -, row, -, rfl, hpairs⟩ | ⟨hkeeps, -⟩ | ⟨hkeeps, -⟩ := mem_join.mp hy
  · simp [pairs, hp, hbarred.holds] at hpairs
  · rw [hkind] at hkeeps
    cases hkeeps
  · rw [hkind] at hkeeps
    cases hkeeps

/-- A clause that keeps no row of its table alone adds nothing to nothing. -/
theorem join_nil {clause : JoinClause} (h : clause.kind.keepsRight = false) (c : Contents) :
  clause.join c [] = []
  := by simp [join, h]

/-- A clause bars all rows, and no later one lets rows of its table in again. -/
def Barred (clauses : List JoinClause) : Prop :=
  ∃ before clause behind, clauses = before ++ clause :: behind ∧ clause.Bars ∧
    ∀ later ∈ behind, later.kind.keepsRight = false

/-- The last clause bars all rows, or leaves them barred. -/
theorem barred_append {clauses : List JoinClause} {clause : JoinClause} :
  Barred (clauses ++ [clause]) ↔
    clause.Bars ∨ (clause.kind.keepsRight = false ∧ Barred clauses)
  := by
  constructor
  · rintro ⟨before, bar, behind, hclauses, hbars, hbehind⟩
    obtain rfl | ⟨more, last, rfl⟩ := List.eq_nil_or_concat behind
    · obtain ⟨-, heq⟩ := List.append_inj' hclauses rfl
      cases heq
      exact .inl hbars
    · rw [List.concat_eq_append, ← List.cons_append, ← List.append_assoc] at hclauses
      obtain ⟨rfl, heq⟩ := List.append_inj' hclauses rfl
      cases heq
      rw [List.concat_eq_append, List.forall_mem_append, List.forall_mem_singleton] at hbehind
      exact .inr ⟨hbehind.2, before, bar, more, rfl, hbars, hbehind.1⟩
  · rintro (hbars | ⟨hkind, before, bar, behind, rfl, hbars, hbehind⟩)
    · exact ⟨clauses, clause, [], rfl, hbars, by simp⟩
    · refine ⟨before, bar, behind ++ [clause], by simp, hbars, ?_⟩
      rw [List.forall_mem_append, List.forall_mem_singleton]
      exact ⟨hbehind, hkind⟩

/-- Nothing is left after clauses that bar all rows. -/
theorem Barred.foldl_join {clauses : List JoinClause} (h : Barred clauses) (c : Contents)
    (xs : List JoinedRow) :
  clauses.foldl (fun xs clause => clause.join c xs) xs = []
  := by
  obtain ⟨before, clause, behind, rfl, hbars, hbehind⟩ := h
  rw [List.foldl_append, List.foldl_cons, hbars.join]
  clear hbars
  induction behind with
  | nil => rfl
  | cons later behind ih =>
      rw [List.forall_mem_cons] at hbehind
      rw [List.foldl_cons, join_nil hbehind.1, ih hbehind.2]

end JoinClause

/-! ### Steps -/

namespace JoinStep

/-- A step lets in rows of the table that it joins with which nothing is paired. -/
def readmits : JoinStep → Bool
  | next kind _ _ _ => kind.keepsRight
  | _ => false

/-- A step gives up what rows are paired by, or makes it one of several choices. -/
def loosens (s : JoinStep) : Bool :=
  s.paired?.any fun x => x.1 ≠ some .both

/-- Steps leave rows barred by the current clause: none of those that belong to the clause loosens
it, and none at all lets rows in again. -/
def LeaveBarred (steps : List JoinStep) : Prop :=
  (∀ s ∈ steps.takeWhile (·.joined?.isNone), s.loosens = false) ∧
    ∀ s ∈ steps, s.readmits = false

/-- A step that joins no table lets no rows in. -/
theorem readmits_of_joined {s : JoinStep} (hs : s.joined? = none) :
  s.readmits = false
  := by
  cases s with
  | next => cases hs
  | on | and | or | whereFirst | whereSecond | pin => rfl

/-- A step that begins no clause leaves rows barred if it does not loosen the current one. -/
theorem leaveBarred_cons {s : JoinStep} (hs : s.joined? = none) {steps : List JoinStep} :
  LeaveBarred (s :: steps) ↔ s.loosens = false ∧ LeaveBarred steps
  := by
  simp only [LeaveBarred, List.takeWhile_cons, hs, Option.isNone_none, if_true,
    List.forall_mem_cons, readmits_of_joined hs, true_and, and_assoc]

/-- A step that begins a clause leaves rows barred if it lets none in again, whatever becomes of
its own clause. -/
theorem leaveBarred_next {kind : JoinKind} {left right : EntityType} {tableAlias : String}
    {steps : List JoinStep} :
  LeaveBarred (next kind left right tableAlias :: steps) ↔
    kind.keepsRight = false ∧ ∀ s ∈ steps, s.readmits = false
  := by
  simp [LeaveBarred, joined?, readmits]

end JoinStep

namespace Join

open Pairing JoinStep

variable {r : Registry} {j k m : Join} {s : JoinStep} {steps : List JoinStep}

/-- A step asks for an equality and names a column that is unknown. -/
def NamesUnknown (j : Join) (s : JoinStep) : Prop :=
  ∃ logic key other, s.paired? = some (logic, key, other) ∧ j.known? key other = none

/-- A step bars all rows: it names an unknown column in a clause that keeps no row alone, and not
as another choice besides what is asked for before. -/
structure Bars (j : Join) (s : JoinStep) : Prop where
  kind : j.current.kind = .inner
  unknown : j.NamesUnknown s
  alone : (∃ columns, s.paired? = some (some .either, columns)) → j.current.pairing = none

/-- Where an unknown column is no error, an equality is asked for all the same, and it is `1 != 1`
if it names one. -/
theorem pairBy_failClosed (hpolicy : j.rules.policy = .failClosed) (hvoid : j.isVoid = false)
    (key other : String) (combine : Option Pairing → Equality → Pairing) :
  ∃ e reports, (e = .never ↔ j.known? key other = none) ∧
    j.pairBy key other combine =
      { j with
        current := { j.current with pairing := some (combine j.current.pairing e) }
        reports := reports }
  := by
  cases hknown : j.known? key other with
  | some e =>
      refine ⟨e, j.reports, ?_, pairBy_of_known hknown hvoid combine⟩
      unfold known? at hknown
      split at hknown
      · cases hknown
        simp
      · cases hknown
  | none =>
      obtain ⟨reports, hequality⟩ : ∃ reports,
          j.equality key other = ({ j with reports := reports }, some .never) := by
        unfold known? at hknown
        unfold Join.equality
        dsimp only
        split
        · next l _ r _ hl hr =>
            rw [hl, hr] at hknown
            cases hknown
        · simp only [TranslationRules.degrade, hpolicy]
          exact ⟨_, rfl⟩
      refine ⟨.never, reports, by simp, ?_⟩
      unfold Join.pairBy Join.unlessVoid
      rw [hvoid, if_neg Bool.false_ne_true]
      dsimp only
      rw [hequality]

/-- A clause with one equality more bars all rows if it did and goes on asking for all that it
asked for, or if the equality is `1 != 1` and not one of several choices. -/
theorem bars_add {clause : JoinClause} {logic : Option Logic} {e : Equality} :
  JoinClause.Bars { clause with pairing := some (add clause.pairing (logic, e)) } ↔
    (logic = some .both ∧ clause.Bars) ∨
    (clause.kind = .inner ∧ e = .never ∧ (logic = some .either → clause.pairing = none))
  := by
  unfold JoinClause.Bars
  simp only [Option.some.injEq, exists_eq_left', barred_add]
  rw [and_or_left, and_left_comm]

/-- A step that asks for an equality adds it as it says. -/
theorem step_of_paired {logic : Option Logic} {key other : String}
    (hs : s.paired? = some (logic, key, other)) :
  j.step s = .ok (j.pairBy key other fun before e => add before (logic, e))
  := by
  cases s with
  | on | and | or =>
      cases hs
      rfl
  | whereFirst | whereSecond | pin | next => cases hs

/-- A step that asks for an equality leaves the current clause barring all rows if it does so
itself, or if the clause did and is not loosened. -/
theorem bars_of_paired (hpolicy : j.rules.policy = .failClosed) (hvoid : j.isVoid = false)
    (hstep : j.step s = .ok k) (hs : s.paired?.isSome = true) :
  (k.current.Bars ↔ (s.loosens = false ∧ j.current.Bars) ∨ j.Bars s) ∧
    k.earlier = j.earlier ∧ k.current.kind = j.current.kind
  := by
  obtain ⟨⟨logic, key, other⟩, hs⟩ := Option.isSome_iff_exists.mp hs
  obtain ⟨e, reports, he, heq⟩ := pairBy_failClosed hpolicy hvoid key other
    fun before e => add before (logic, e)
  rw [step_of_paired hs, heq] at hstep
  cases hstep
  refine ⟨bars_add.trans (or_congr ?_ ?_), rfl, rfl⟩
  · simp [loosens, hs]
  · constructor
    · rintro ⟨hkind, hnever, halone⟩
      refine ⟨hkind, ⟨logic, key, other, hs, he.mp hnever⟩, ?_⟩
      rintro ⟨columns, heither⟩
      rw [hs] at heither
      cases heither
      exact halone rfl
    · rintro ⟨hkind, ⟨logic', key', other', hs', hunknown⟩, halone⟩
      rw [hs] at hs'
      cases hs'
      refine ⟨hkind, he.mpr hunknown, ?_⟩
      rintro rfl
      exact halone ⟨_, hs⟩

/-- A step that joins no table leaves the current clause barring all rows if it does so itself, or
if the clause did and is not loosened. -/
theorem bars_of_step (hpolicy : j.rules.policy = .failClosed) (hvoid : j.isVoid = false)
    (hstep : j.step s = .ok k) (hs : s.joined? = none) :
  (k.current.Bars ↔ (s.loosens = false ∧ j.current.Bars) ∨ j.Bars s) ∧
    k.earlier = j.earlier ∧ k.current.kind = j.current.kind
  := by
  cases hpaired : s.paired? with
  | some x => exact bars_of_paired hpolicy hvoid hstep (by rw [hpaired]; rfl)
  | none =>
      obtain ⟨hcurrent, hearlier⟩ := clause_of_step hstep hpaired hs
      have hnot : ¬ j.Bars s := by
        rintro ⟨-, ⟨logic, key, other, hnames, -⟩, -⟩
        rw [hpaired] at hnames
        cases hnames
      rw [hcurrent, hearlier]
      simp [loosens, hpaired, hnot]

/-- The clauses before the current one bar all rows, and the current one lets none in again. -/
def BarredEarlier (j : Join) : Prop :=
  j.current.kind.keepsRight = false ∧ JoinClause.Barred j.earlier

/-- All rows are barred by the current clause, or by one before it. -/
theorem barred_clauses_iff :
  JoinClause.Barred j.clauses ↔ j.current.Bars ∨ j.BarredEarlier
  := JoinClause.barred_append

/-- All rows are barred by one of some steps, and left so by those after it. -/
def BarredBy (j : Join) (steps : List JoinStep) : Prop :=
  ∃ before s after m, steps = before ++ s :: after ∧ j.follow before = (m, none) ∧ m.Bars s ∧
    LeaveBarred after

/-- All rows are barred by the first of some steps, or by one of the others. -/
theorem barredBy_cons (hstep : j.step s = .ok k) :
  j.BarredBy (s :: steps) ↔ (j.Bars s ∧ LeaveBarred steps) ∨ k.BarredBy steps
  := by
  constructor
  · rintro ⟨before, bar, after, m, hsteps, hfollow, hbars, hafter⟩
    cases before with
    | nil =>
        cases hsteps
        cases hfollow
        exact .inl ⟨hbars, hafter⟩
    | cons first before =>
        cases hsteps
        rw [Join.follow, hstep] at hfollow
        exact .inr ⟨before, bar, after, m, rfl, hfollow, hbars, hafter⟩
  · rintro (⟨hbars, hafter⟩ | ⟨before, bar, after, m, rfl, hfollow, hbars, hafter⟩)
    · exact ⟨[], s, steps, j, rfl, rfl, hbars, hafter⟩
    · refine ⟨s :: before, bar, after, m, rfl, ?_, hbars, hafter⟩
      rw [Join.follow, hstep]
      exact hfollow

/-- All rows are barred after a step, and left so by those behind it, if the step bars them, or if
they were barred before and are left so by the step as well. -/
theorem barred_step (hpolicy : j.rules.policy = .failClosed) (hj : j.isVoid = false)
    (hstep : j.step s = .ok k) (hk : k.isVoid = false) :
  (k.current.Bars ∧ LeaveBarred steps ∨
      k.BarredEarlier ∧ ∀ later ∈ steps, later.readmits = false) ↔
    j.current.Bars ∧ LeaveBarred (s :: steps) ∨
      (j.BarredEarlier ∧ ∀ later ∈ s :: steps, later.readmits = false) ∨
      j.Bars s ∧ LeaveBarred steps
  := by
  cases hjoined : s.joined? with
  | none =>
      obtain ⟨hcurrent, hearlier, hkind⟩ := bars_of_step hpolicy hj hstep hjoined
      have hbarred : k.BarredEarlier ↔ j.BarredEarlier := by
        rw [BarredEarlier, BarredEarlier, hearlier, hkind]
      rw [hcurrent, hbarred, leaveBarred_cons hjoined, List.forall_mem_cons,
        readmits_of_joined hjoined, or_and_right, and_assoc, and_left_comm, or_assoc,
        or_comm (a := _ ∧ LeaveBarred steps)]
      simp only [true_and]
  | some e =>
      cases s with
      | on | and | or | whereFirst | whereSecond | pin => cases hjoined
      | next kind left right tableAlias =>
          obtain ⟨-, reason, rfl⟩ | ⟨b, joined, -, -, rfl⟩ := next_of_not_void hstep hj
          · cases hk
          · -- Nothing is paired by the new clause yet, and all that were there are earlier ones.
            have hcurrent : ¬ JoinClause.Bars ⟨kind, joined, none⟩ := by
              rintro ⟨-, p, hp, -⟩
              cases hp
            have hnot : ¬ j.Bars (.next kind left right tableAlias) := by
              rintro ⟨-, ⟨logic, key, other, hnames, -⟩, -⟩
              cases hnames
            rw [BarredEarlier]
            show JoinClause.Bars ⟨kind, joined, none⟩ ∧ _ ∨
              (kind.keepsRight = false ∧ JoinClause.Barred j.clauses) ∧ _ ↔ _
            rw [barred_clauses_iff, leaveBarred_next, List.forall_mem_cons, readmits]
            tauto

/-- Whatever steps put a join together, all rows are barred in the end if they were before and are
left so, or if one of the steps bars them and those after it leave them so. -/
theorem barred_follow (hpolicy : j.rules.policy = .failClosed)
    (hfollow : j.follow steps = (k, none)) (hvoid : k.isVoid = false) :
  JoinClause.Barred k.clauses ↔
    (j.current.Bars ∧ LeaveBarred steps ∨
      j.BarredEarlier ∧ ∀ s ∈ steps, s.readmits = false) ∨ j.BarredBy steps
  := by
  induction steps generalizing j with
  | nil =>
      cases hfollow
      rw [barred_clauses_iff]
      have hnone : ¬ k.BarredBy [] := by
        rintro ⟨before, s, after, m, hsteps, -⟩
        cases before <;> cases hsteps
      simp [LeaveBarred, hnone]
  | cons s rest ih =>
      have hj := isVoid_of_follow hfollow hvoid
      cases hstep : j.step s with
      | error e =>
          rw [Join.follow, hstep] at hfollow
          cases hfollow
      | ok next =>
          rw [Join.follow, hstep] at hfollow
          have hnext : next.rules.policy = .failClosed := by
            rw [(fixed_of_step hstep).2, hpolicy]
          rw [ih hnext hfollow, barredBy_cons hstep,
            barred_step hpolicy hj hstep (isVoid_of_follow hfollow hvoid)]
          simp only [or_assoc]

/-! ### Statements -/

/-- `1 != 1` is one of the filters, or bars all rows in a clause after which none are let in
again. -/
def Shut (j : Join) : Prop :=
  (∃ f ∈ j.filters, f.isAlwaysFalse = true) ∨ JoinClause.Barred j.clauses

/-- A join that is shut selects nothing, and its statements return nothing. -/
theorem Shut.rows_eq_nil (h : j.Shut) (c : Contents) :
  j.selectRows c = [] ∧ j.rows c = []
  := by
  have hselected : j.selectRows c = [] := by
    obtain ⟨f, hf, hnever⟩ | hbarred := h
    · rw [selectRows, List.filter_eq_nil_iff]
      intro x _ hall
      rw [List.all_eq_true] at hall
      have haccepts := hall f hf
      rw [c.accepts_never f x hnever] at haccepts
      cases haccepts
    · rw [selectRows, joinedRows, hbarred.foldl_join, List.filter_nil]
  rw [rows, hselected]
  exact ⟨rfl, rfl⟩

/-- No clause bars rows when a join starts. -/
theorem open_of_start {rules : TranslationRules} {left right : EntityType}
    {leftAlias rightAlias : String} {kind : JoinKind}
    (h : start r rules left right leftAlias rightAlias kind = .ok j) :
  j.rules = rules ∧ ¬ j.current.Bars ∧ ¬ j.BarredEarlier
  := by
  obtain ⟨base, -, h⟩ := exists_of_bind_ok h
  obtain ⟨joined, -, h⟩ := exists_of_bind_ok h
  cases h
  refine ⟨rfl, ?_, ?_⟩
  · rintro ⟨-, p, hp, -⟩
    cases hp
  · rintro ⟨-, before, clause, behind, hclauses, -⟩
    cases before <;> cases hclauses

/-- What becomes of a join where an unknown column is no error.  If a table is joined from one
that is not bound there is no statement.  Otherwise the statement asks for the filters in its
`WHERE` clause, and `1 != 1` is one of them, or is asked for in an inner join after which no rows
are let in again, exactly if a filter is `1 != 1`, or an unknown column is named in an inner join,
not as another choice, and no step after it gives that up or lets rows in again.  Nothing is ever
returned then.  In general nothing is ever returned exactly if the tables with a row of ones each
do not show anything. -/
theorem shut_iff_barredBy {rules : TranslationRules} {left right : EntityType}
    {leftAlias rightAlias : String} {kind : JoinKind}
    (hstart : start r rules left right leftAlias rightAlias kind = .ok j)
    (hpolicy : rules.policy = .failClosed) (hfollow : j.follow steps = (k, none)) :
  (k.isVoid = true → ∀ destination, k.statement destination = .ok none) ∧
  (k.isVoid = false →
    (k.Shut ↔ (∃ f ∈ k.filters, f.isAlwaysFalse = true) ∨ j.BarredBy steps) ∧
    (k.Shut → ∀ c, k.selectRows c = [] ∧ k.rows c = []) ∧
    ((∀ c, k.selectRows c = []) ↔ k.selectRows .ones = []) ∧
    ((∀ c, k.rows c = []) ↔ k.rows .ones = []) ∧
    ∀ destination f, k.statement destination = .ok (some f) →
      f.sql = k.selectHead destination ++
        whereSql (k.filters.map (·.sql) ++ k.tableGuards.map (·.1)))
  := by
  refine ⟨statement_of_isVoid, ?_⟩
  intro hvoid
  obtain ⟨hrules, hcurrent, hearlier⟩ := open_of_start hstart
  refine ⟨?_, Shut.rows_eq_nil, k.selectRows_eq_nil_iff, k.rows_eq_nil_iff,
    fun _ _ hstatement => (sql_of_statement hstatement).1⟩
  rw [Shut, barred_follow (by rw [hrules, hpolicy]) hfollow hvoid]
  simp only [hcurrent, hearlier, false_and, false_or]

/-- The mentors of persons are joined on an unknown column and a known one, and letters are kept
only along with persons: nothing is returned. -/
theorem shut_mentors :
  let steps := [.on "Nickname" "Id", .and "MentorId" "Id", .next .left mentored letter "l",
    .on "Id" "PersonId"]
  ∃ k, mentors.follow steps = (k, none) ∧ k.isVoid = false ∧
    k.filters = [] ∧ mentors.BarredBy steps ∧ k.Shut ∧
    ∀ c, k.selectRows c = [] ∧ k.rows c = []
  := by
  intro steps
  have hstart : start mentors.registry {} mentored mentored "p" "P" .inner = .ok mentors := rfl
  have hfollow : mentors.follow steps = (_, none) := rfl
  obtain ⟨hshut, hrows, -⟩ := (shut_iff_barredBy hstart rfl hfollow).2 rfl
  have hbars : mentors.Bars (.on "Nickname" "Id") := by
    refine ⟨rfl, ⟨none, "Nickname", "Id", rfl, rfl⟩, ?_⟩
    rintro ⟨columns, heither⟩
    cases heither
  have hbarred : mentors.BarredBy steps :=
    ⟨[], _, _, _, rfl, rfl, hbars, by decide, by decide⟩
  have hk := hshut.mpr (.inr hbarred)
  exact ⟨_, hfollow, rfl, rfl, hbarred, hk, hrows hk⟩

/-- Letters joined with the letters to the same person. -/
def answers (kind : JoinKind) : Join where
  registry := ⟨[letter.draft.descriptor]⟩
  rules := {}
  base := ⟨letter, letter.draft.descriptor, "l"⟩
  left := ⟨letter, letter.draft.descriptor, "l"⟩
  current := ⟨kind, ⟨letter, letter.draft.descriptor, "m"⟩, none⟩

/-- An unknown column is named, and rows are returned all the same: an outer join keeps them alone,
another choice or a new equality makes up for it, or a later join lets in rows of its own. -/
theorem rows_despite_unknown :
  (∀ kind, start (answers kind).registry {} letter letter "l" "m" kind = .ok (answers kind) ∧
    (answers kind).NamesUnknown (.on "Sender" "Id")) ∧
  ∀ x ∈ [(.left, []), (.right, []), (.full, []), (.inner, [.or "PersonId" "PersonId"]),
      (.inner, [.on "PersonId" "PersonId"]),
      (.inner, [.next .right letter letter "n", .on "Id" "Id"])],
    let k := (answers x.1).follow (.on "Sender" "Id" :: x.2)
    k.2 = none ∧ (k.1.statement letter.record).toOption.join.isSome = true ∧ k.1.rows .ones ≠ []
  := by
  constructor
  · intro kind
    exact ⟨rfl, none, "Sender", "Id", rfl, rfl⟩
  · simp only [← List.isEmpty_eq_false_iff]
    decide +kernel

end Join

end EntityStore
