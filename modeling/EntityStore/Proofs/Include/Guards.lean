import EntityStore.Proofs.Entity.Guards
import EntityStore.Proofs.Include.Steps

/-!
# Guards of plans

The statement of a plan guards the root by its conditions, and the table of each step by the
condition that its rows are joined by.
-/

namespace EntityStore

open Text Sql

/-- All columns of the tables of a registry are identifiers. -/
theorem Registry.Named.isIdentifier {r : Registry} (hr : r.Named) {typeName : String}
    {d : Descriptor} (hd : r.ofType? typeName = some d) {name : String}
    (hname : name ∈ d.columnNames) :
  isIdentifier name = true
  := by
  obtain rfl | hname | rfl := Descriptor.mem_columnNames.mp hname
  · decide
  · obtain ⟨c, hc, rfl⟩ := List.mem_map.mp hname
    apply hr typeName d hd c hc
  · decide

namespace IncludePlan

variable {registry : Registry} {plan : IncludePlan}

/-! ### Steps -/

/-- What the rows of a step are joined to. -/
def joinHead (s : IncludeStep) : String :=
  s!" LEFT JOIN {quoteName s.descriptor.table} {s.tableAlias}"

/-- The conditions that the rows of a step are joined by: its pairing, and the guard. -/
def joinConditions (s : IncludeStep) : List (String × Formula (List Token)) :=
  (s.pairing.sql, .atom (tokens s.pairing.sql)) ::
    guardsOf [(s.descriptor, s.tableAlias ++ ".IsActive = 1")]

/-- A step whose rows are joined by conditions that are read as their conjunction, and as
nothing else. -/
structure JoinsBy (s : IncludeStep) : Prop where
  text : joinSql s = joinHead s ++ " ON " ++ allOf ((joinConditions s).map (·.1))
  parts : tokens (joinSql s) =
    tokens (joinHead s) ++ .word "ON" :: tokens (allOf ((joinConditions s).map (·.1)))
  alone : ∀ x ∈ joinConditions s, Stands x.1 x.2
  together : ReadTogether (joinConditions s)

/-- The names in the table of a step are identifiers. -/
theorem Connected.named (h : plan.Connected registry) (hr : registry.Named) {n : Nat}
    {s : IncludeStep} (hs : plan.steps[n]? = some s) :
  isIdentifier s.tableAlias = true ∧ ∀ name ∈ s.descriptor.columnNames, isIdentifier name = true
  := by
  have hfits := h.steps n s hs
  have hregistered := hfits.descriptor
  rw [h.registry] at hregistered
  constructor
  · rw [hfits.tableAlias]
    apply isIdentifier_stepAlias
  · intro name hname
    apply hr.isIdentifier hregistered hname

/-- The pairing of a step is a comparison. -/
theorem Connected.isComparison_pairing (h : plan.Connected registry) (hr : registry.Named)
    {n : Nat} {s : IncludeStep} (hs : plan.steps[n]? = some s) :
  IsComparison s.pairing.sql
  := by
  obtain ⟨halias, hcolumns⟩ := h.named hr hs
  obtain ⟨anchor, hanchor, hparent, own, hown, other, hother, hpairing⟩ := (h.steps n s hs).pairing
  have hother := hr.isIdentifier (h.registered hanchor) hother
  have hcomparison := Grammar.reading.comparison_equal
    (Grammar.reading.qualified halias (hcolumns own hown))
    (Grammar.reading.qualified (isIdentifier_stepAlias s.parent) hother)
  rw [hpairing, hparent]
  show IsComparison (s.tableAlias ++ "." ++ own ++ " = " ++ stepAlias s.parent ++ "." ++ other)
  change IsComparison _ at hcomparison
  simp only [String.append_assoc] at hcomparison ⊢
  apply hcomparison

/-- The conditions that the rows of a step are joined by stand among each other. -/
theorem Connected.stands_joinConditions (h : plan.Connected registry) (hr : registry.Named)
    {n : Nat} {s : IncludeStep} (hs : plan.steps[n]? = some s) :
  ∀ x ∈ joinConditions s, Stands x.1 x.2
  := by
  rw [joinConditions, List.forall_mem_cons]
  constructor
  · apply (h.isComparison_pairing hr hs).stands
  · have halias : ∀ x ∈ [(s.descriptor, s.tableAlias)], isIdentifier x.2 = true := by
      rw [List.forall_mem_singleton]
      apply (h.named hr hs).1
    apply stands_aliasGuards halias

/-- What the rows of a step are joined to is read behind the tables before it. -/
theorem trails_joinHead {s : IncludeStep} (halias : isIdentifier s.tableAlias = true) :
  ∃ b us, joinHead s = " " ++ b ∧ Lexes b us
  := by
  have htable := (mentions_quoteName s.descriptor.table).blank (mentions_word halias)
  obtain ⟨us, hlexes, -⟩ := (htable.lead "JOIN" (by decide)).lead "LEFT" (by decide)
  refine ⟨_, us, ?_, hlexes⟩
  have hopening : " LEFT JOIN " = " " ++ ("LEFT" ++ (" " ++ ("JOIN" ++ " "))) := by decide
  show " LEFT JOIN " ++ quoteName s.descriptor.table ++ " " ++ s.tableAlias = _
  rw [hopening]
  simp only [String.append_assoc]

/-- The text of a step is read as its table and the conditions that its rows are joined by. -/
theorem Connected.joins (h : plan.Connected registry) (hr : registry.Named)
    {n : Nat} {s : IncludeStep} (hs : plan.steps[n]? = some s) :
  JoinsBy s ∧ Trails (joinSql s)
  := by
  have hstands := h.stands_joinConditions hr hs
  obtain ⟨⟨ts, hall⟩, htogether⟩ := readTogether_of_stands (by simp [joinConditions]) hstands
  obtain ⟨b, us, hhead, hb⟩ := trails_joinHead (h.named hr hs).1
  have htext : joinSql s = joinHead s ++ " ON " ++ allOf ((joinConditions s).map (·.1)) := by
    rw [joinConditions, List.map_cons, map_guardsOf_singleton, ← activeGuard_eq]
    rfl
  have hon : joinSql s =
      " " ++ (b ++ " " ++ "ON" ++ " " ++ allOf ((joinConditions s).map (·.1))) := by
    have hword : " ON " = " " ++ ("ON" ++ " ") := by decide
    rw [htext, hhead, hword]
    simp only [String.append_assoc]
  have hword : isIdentifier "ON" = true := by decide
  have hlexes := hb.between hword hall
  constructor
  · constructor
    · apply htext
    · rw [hon, hlexes.tokens_blank, hhead, hb.tokens_blank, hall.tokens_eq]
    · apply hstands
    · apply htogether
  · right
    exact ⟨_, _, hon, hlexes⟩

/-! ### Statements -/

/-- What asks for the columns of a plan, and the root that they are of. -/
def selectHead (plan : IncludePlan) : String :=
  let columns := projection plan.descriptor (stepAlias 0) ++
    plan.steps.flatMap fun s => projection s.descriptor s.tableAlias
  s!"SELECT {commaList columns} FROM {quoteName plan.descriptor.table} {stepAlias 0}"

/-- The columns of a table in the result mention no parameter. -/
theorem mentions_projection {d : Descriptor} {tableAlias : String}
    (halias : isIdentifier tableAlias = true)
    (hcolumns : ∀ name ∈ d.columnNames, isIdentifier name = true) :
  ∀ column ∈ projection d tableAlias, Mentions column []
  := by
  intro column hcolumn
  obtain ⟨⟨name, type⟩, hname, rfl⟩ := List.mem_map.mp hcolumn
  have hname := hcolumns name (List.mem_map_of_mem hname)
  apply mentions_renamed halias hname

/-- What asks for the columns of a plan is read. -/
theorem Connected.exists_lexes_selectHead (h : plan.Connected registry) (hr : registry.Named) :
  ∃ ts, Lexes plan.selectHead ts
  := by
  have hregistered := h.root
  rw [h.registry] at hregistered
  have hcolumns : ∀ column ∈ projection plan.descriptor (stepAlias 0) ++
      plan.steps.flatMap fun s => projection s.descriptor s.tableAlias, Mentions column [] := by
    rw [List.forall_mem_append]
    constructor
    · apply mentions_projection (isIdentifier_stepAlias 0)
      intro name hname
      apply hr.isIdentifier hregistered hname
    · intro column hcolumn
      obtain ⟨s, hs, hcolumn⟩ := List.mem_flatMap.mp hcolumn
      obtain ⟨n, hn⟩ := List.mem_iff_getElem?.mp hs
      obtain ⟨halias, hnames⟩ := h.named hr hn
      apply mentions_projection halias hnames column hcolumn
  have hlist := mentions_commaList (by simp [projection, Descriptor.allColumns]) hcolumns
  have htable := (mentions_quoteName plan.descriptor.table).blank
    (mentions_word (isIdentifier_stepAlias 0))
  obtain ⟨ts, hlexes, -⟩ := mentions_selection hlist htable
  use ts
  simp only [← String.append_assoc] at hlexes
  exact hlexes

/-- What asks for the order of the rows is read behind the conditions. -/
theorem trails_order :
  Trails " ORDER BY t0.Id"
  := by
  have hkey := mentions_qualified (isIdentifier_stepAlias 0) (b := primaryKey) (by decide)
  obtain ⟨ts, hlexes, -⟩ := (hkey.lead "BY" (by decide)).lead "ORDER" (by decide)
  right
  exact ⟨_, ts, by decide, hlexes⟩

/-- The statement of a plan asks for the tables of its steps, and then for the condition on
the root and its guard. -/
theorem Connected.selects (h : plan.Connected registry) (hr : registry.Named)
    {filter : Option Fragment} (hfilter : ∀ f ∈ filter.toList, ∃ g, Conjunct f.sql g) :
  ∃ filters, filters.map (·.1) = filter.toList.map (·.sql) ∧
    Selects (plan.select filter).sql (plan.selectHead ++ String.join (plan.steps.map joinSql))
      (filters ++ guardsOf [(plan.descriptor, "t0.IsActive = 1")]) " ORDER BY t0.Id" ∧
    tokens (plan.selectHead ++ String.join (plan.steps.map joinSql)) =
      tokens plan.selectHead ++ plan.steps.flatMap fun s => tokens (joinSql s)
  := by
  obtain ⟨ts, hhead⟩ := h.exists_lexes_selectHead hr
  obtain ⟨filters, htexts, hfilters⟩ := exists_formulas hfilter
  have htrails : ∀ text ∈ plan.steps.map joinSql, Trails text := by
    rw [List.forall_mem_map]
    intro s hs
    obtain ⟨n, hn⟩ := List.mem_iff_getElem?.mp hs
    apply (h.joins hr hn).2
  have hjoined := hhead.trailAll htrails
  have hstands : ∀ x ∈ filters ++ guardsOf [(plan.descriptor, "t0.IsActive = 1")],
      Stands x.1 x.2 := by
    rw [List.forall_mem_append]
    use hfilters
    have halias : ∀ x ∈ [(plan.descriptor, stepAlias 0)], isIdentifier x.2 = true := by
      rw [List.forall_mem_singleton]
      apply isIdentifier_stepAlias
    apply stands_aliasGuards halias
  have htext : (plan.select filter).sql =
      plan.selectHead ++ String.join (plan.steps.map joinSql) ++
        whereSql ((filters ++ guardsOf [(plan.descriptor, "t0.IsActive = 1")]).map (·.1)) ++
        " ORDER BY t0.Id" := by
    rw [List.map_append, htexts, map_guardsOf_singleton]
    cases filter <;> rfl
  refine ⟨filters, htexts, ?_, ?_⟩
  · rw [htext]
    apply selects_of_stands hjoined hstands trails_order
  · rw [hjoined.tokens_eq, hhead.tokens_eq, List.flatMap_map]

end IncludePlan

end EntityStore
