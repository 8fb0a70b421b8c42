import EntityStore.Proofs.Join.Slots

/-!
# Placeholders of statements

The statement of a join asks for columns of its tables, and for the filters in their order.
Its placeholders are the parameters of the filters, and are numbered from zero.
-/

namespace EntityStore

open Text Sql

namespace Join

variable {j : Join} {s : String} {slots : List String}

/-! ### Columns of the result -/

/-- A field comes from a table that is bound. -/
theorem source?_mem {field : Field} {b : Binding} {column : String} (h : j.Aligned)
    (hsource : j.source? field = some (b, column)) :
  b ∈ j.bindings ∧ ∃ type, b.descriptor.resolve? field.name = some (column, type)
  := by
  obtain hpinned | ⟨-, hfound⟩ := Option.or_eq_some_iff.mp hsource
  · obtain ⟨pin, hpin, hresolved⟩ := Option.bind_eq_some_iff.mp hpinned
    obtain ⟨⟨column', type⟩, hresolve, heq⟩ := Option.bind_eq_some_iff.mp hresolved
    cases heq
    have hmem : pin ∈ j.pins := List.mem_reverse.mp (List.mem_of_find?_eq_some hpin)
    use h.pins pin hmem, type
  · obtain ⟨b', hb', hcolumn⟩ := List.exists_of_findSome?_eq_some hfound
    unfold columnFor? at hcolumn
    split at hcolumn
    · rename_i column' type hresolve
      split at hcolumn
      · cases hcolumn
        use hb', type
      · cases hcolumn
    · cases hcolumn

/-- A column of the result mentions no parameter, whatever the name of its field. -/
theorem mentions_projected {destination : RecordType} (h : j.Aligned) :
  ∀ column ∈ (j.projection destination).map projected, Mentions column []
  := by
  intro column hcolumn
  obtain ⟨⟨field, b, name⟩, hentry, rfl⟩ := List.mem_map.mp hcolumn
  obtain ⟨field', -, hfound⟩ := List.mem_filterMap.mp hentry
  obtain ⟨found, hsource, heq⟩ := Option.map_eq_some_iff.mp hfound
  cases heq
  obtain ⟨hb, type, hresolve⟩ := source?_mem h hsource
  have hnamed := h.bindings b hb
  have hname := (hnamed.scope false).resolve hresolve
  apply mentions_renamed hnamed.tableAlias hname

/-! ### Tables -/

/-- A table under an alias mentions no parameter. -/
theorem mentions_bound {b : Binding} (h : b.Named) :
  Mentions (bound b) []
  := (mentions_quoteName b.descriptor.table).blank (mentions_word h.tableAlias)

/-- The kind of a join mentions no parameter. -/
theorem mentions_kind (kind : JoinKind) :
  Mentions kind.sql []
  := by
  have hjoin : Mentions "JOIN" [] := mentions_word (by decide)
  have houter : Mentions ("OUTER" ++ " " ++ "JOIN") [] := hjoin.lead "OUTER" (by decide)
  cases kind with
  | inner => apply hjoin.lead "INNER" (by decide)
  | left => apply hjoin.lead "LEFT" (by decide)
  | right => apply hjoin.lead "RIGHT" (by decide)
  | full => apply houter.lead "FULL" (by decide)

/-- A clause mentions no more parameters than the text before it. -/
theorem mentions_clause {c : JoinClause} (hbinding : c.binding.Named)
    (hpairing : ∀ p ∈ c.pairing, Mentions p.sql []) (h : Mentions s slots) :
  Mentions (s ++ clauseSql c) slots
  := by
  have htable := (h.blank (mentions_kind c.kind)).blank (mentions_bound hbinding)
  rw [List.append_nil, List.append_nil] at htable
  unfold clauseSql
  split
  · rename_i pairing heq
    have hpaired : Mentions
        (s ++ " " ++ c.kind.sql ++ " " ++ bound c.binding ++ " ON " ++ pairing.sql)
        (slots ++ []) :=
      htable.joinedBy "ON" (by decide) (by decide) (hpairing pairing heq)
    rw [List.append_nil] at hpaired
    show Mentions
      (s ++ (" " ++ c.kind.sql ++ " " ++ bound c.binding ++ " ON " ++ pairing.sql)) slots
    simp only [String.append_assoc] at hpaired ⊢
    apply hpaired
  · show Mentions (s ++ (" " ++ c.kind.sql ++ " " ++ bound c.binding)) slots
    simp only [String.append_assoc] at htable ⊢
    apply htable

/-- Clauses mention no more parameters than the text before them. -/
theorem mentions_clauses {cs : List JoinClause} (hbindings : ∀ c ∈ cs, c.binding.Named)
    (hpairings : ∀ c ∈ cs, ∀ p ∈ c.pairing, Mentions p.sql []) (h : Mentions s slots) :
  Mentions (s ++ String.join (cs.map clauseSql)) slots
  := by
  induction cs generalizing s with
  | nil => simpa [String.join_nil] using h
  | cons c cs ih =>
      rw [List.forall_mem_cons] at hbindings hpairings
      have hclause := mentions_clause hbindings.1 hpairings.1 h
      rw [List.map_cons, String.join_cons, ← String.append_assoc]
      apply ih hbindings.2 hpairings.2 hclause

/-! ### Conditions -/

/-- Conditions mention their parameters behind those of the text before them. -/
theorem mentions_where {parts : List (String × List String)} (h : Mentions s slots)
    (hparts : ∀ x ∈ parts, Mentions x.1 x.2) :
  Mentions (s ++ whereSql (parts.map (·.1))) (slots ++ parts.flatMap (·.2))
  := by
  cases parts with
  | nil =>
      show Mentions (s ++ "") (slots ++ [])
      rw [String.append_empty, List.append_nil]
      apply h
  | cons x rest =>
      have hand : ∀ a b xs ys, Mentions a xs → Mentions b ys →
          Mentions (a ++ " AND " ++ b) (xs ++ ys) := by
        intro a b xs ys ha hb
        apply ha.joinedBy "AND" (by decide) (by decide) hb
      have hall := mentions_intercalate hand (by simp) hparts
      have hwhere : Mentions (s ++ " WHERE " ++ allOf ((x :: rest).map (·.1))) _ :=
        h.joinedBy "WHERE" (by decide) (by decide) hall
      show Mentions (s ++ (" WHERE " ++ allOf ((x :: rest).map (·.1)))) _
      rw [← String.append_assoc]
      apply hwhere

/-- The guard of a bound table mentions no parameter. -/
theorem mentions_guards (h : j.Aligned) :
  ∀ guard ∈ j.guards, Mentions guard []
  := by
  intro guard hguard
  obtain ⟨b, hb, rfl⟩ := List.mem_map.mp hguard
  have hnamed := h.bindings b (List.mem_of_mem_filter hb)
  apply Grammar.mentions.comparison_activeGuard hnamed.tableAlias

/-! ### Statements -/

/-- Filters and conditions that mention no parameter are asked for after the text before
them. -/
theorem mentions_filters {conditions : List String} (h : j.Aligned)
    (hconditions : ∀ c ∈ conditions, Mentions c []) (hs : Mentions s []) :
  Mentions (s ++ whereSql (j.filters.map (·.sql) ++ conditions)) (marked (j.params.map (·.name)))
  := by
  have hparts : ∀ x ∈ (j.filters.map fun f => (f.sql, marked (f.params.map (·.name)))) ++
      conditions.map fun c => (c, []), Mentions x.1 x.2 := by
    intro x hx
    obtain hx | hx := List.mem_append.mp hx
    · obtain ⟨f, hf, rfl⟩ := List.mem_map.mp hx
      apply h.filters f hf
    · obtain ⟨c, hc, rfl⟩ := List.mem_map.mp hx
      apply hconditions c hc
  have hwhere := mentions_where hs hparts
  rw [List.flatMap_append, slots_silent, List.append_nil] at hwhere
  simpa [Function.comp_def, List.flatMap_map, marked, params, List.map_flatMap] using hwhere

/-- What stands before the conditions of a statement mentions no parameter. -/
theorem mentions_head {destination : RecordType} (h : j.Aligned)
    (hcolumns : (j.projection destination).map projected ≠ []) :
  Mentions (s!"SELECT {commaList ((j.projection destination).map projected)} FROM " ++
    bound j.base ++ String.join (j.clauses.map clauseSql)) []
  := by
  have hbindings := h.bindings
  rw [bindings, List.forall_mem_cons, List.forall_mem_map] at hbindings
  have hlist := mentions_commaList hcolumns (mentions_projected h)
  have hselect := mentions_selection hlist (mentions_bound hbindings.1)
  apply mentions_clauses hbindings.2 h.pairings hselect

/-- A statement mentions the parameters of the filters, if its other conditions mention
none. -/
theorem mentions_render {destination : RecordType} {conditions : List String} {f : Fragment}
    (h : j.Aligned) (hconditions : ∀ c ∈ conditions, Mentions c [])
    (hrender : j.render destination conditions = .ok f) :
  Mentions f.sql (marked (j.params.map (·.name)))
  := by
  unfold render at hrender
  split at hrender
  · cases hrender
  · dsimp only at hrender
    split at hrender
    · cases hrender
    · rename_i hcolumns
      cases hrender
      apply mentions_filters h hconditions
      apply mentions_head h (by simpa using hcolumns)

/-- The statement of a join is aligned with the parameters of its filters. -/
theorem Aligned.statement {destination : RecordType} {f : Fragment} (h : j.Aligned)
    (hstatement : j.statement destination = .ok (some f)) :
  f.Aligned j.tables 0
  := by
  have hparams := params_of_statement hstatement
  unfold Join.statement at hstatement
  split at hstatement
  · cases hstatement
  · cases hrender : j.render destination j.guards with
    | error e =>
        rw [hrender] at hstatement
        cases hstatement
    | ok f' =>
        rw [hrender] at hstatement
        cases hstatement
        apply Fragment.aligned_of_numbered
        · rw [hparams]
          apply mentions_render h (mentions_guards h) hrender
        · rw [hparams]
          apply h.numbered

end Join

/-- Over names that are identifiers, the placeholders of a fragment are its parameters from
left to right.  They are numbered from the counter on, which moves past them, each behind the
spelling of a column of the table or behind `Value`.  The same goes for the statement of a
join with the columns of its tables, whatever steps put it together. -/
theorem placeholders_aligned :
  (∀ (p : Predicate) (rules : TranslationRules) (d : Descriptor) (tableAlias : Option String)
      (n : Nat) (f : Fragment), Scope.Named ⟨d, tableAlias, rules.opaqueTimestamps⟩ →
      (p.compile rules d tableAlias n).result = .ok f →
      f.Aligned [d] n ∧ (p.compile rules d tableAlias n).counter = n + f.params.length) ∧
  (∀ (r : Registry) (rules : TranslationRules) left right leftAlias rightAlias kind j steps
      destination f, r.Named → isIdentifier leftAlias = true → isIdentifier rightAlias = true →
      (∀ s ∈ steps, JoinStep.Named s) →
      Join.start r rules left right leftAlias rightAlias kind = .ok j →
      (j.follow steps).1.statement destination = .ok (some f) →
      f.Aligned (j.follow steps).1.tables 0 ∧ (j.follow steps).1.counter = f.params.length)
  := by
  constructor
  · intro p rules d tableAlias n f hscope hcompile
    apply Predicate.aligned_compile hscope hcompile
  · intro r rules left right leftAlias rightAlias kind j steps destination f hr hleft hright
      hsteps hstart hstatement
    have hsound := Join.sound_of_start hstart
    have haligned := Join.aligned_of_start (Join.named_of_start hr hleft hright hstart) hstart
    constructor
    · apply (haligned.follow hsound hr hsteps).statement hstatement
    · rw [Join.params_of_statement hstatement]
      apply (hsound.follow steps).counter

/-- Someone is at least so old, with the age on the right. -/
def adult : Predicate :=
  .compare (.value (.int 18)) .le (.column "age")

/-- Employees with an age. -/
def employee : EntityType where
  record := ⟨"Employee", [.ofColumn "Id" .integer false, .ofColumn "Age" .integer false]⟩
  table := "Employee"
  description := []

/-- The table of employees. -/
def employeeTable : Descriptor where
  table := "Employee"
  typeName := "Employee"
  columns := [{ name := "Age", type := .integer }]

/-- Employees joined to those whose keys are their ages. -/
def agePairs : Join where
  registry := ⟨[employeeTable]⟩
  rules := {}
  base := ⟨employee, employeeTable, "p"⟩
  current := ⟨.left, ⟨employee, employeeTable, "p1"⟩, none⟩
  left := ⟨employee, employeeTable, "p"⟩

/-- A condition with a value that is written on the other side of its column, and one
without a column. -/
theorem adult_placeholders :
  Registry.build ⟨[employee], []⟩ = .ok ⟨[employeeTable]⟩ ∧
    (∃ f, ((adult.and .lookup).compile {} employeeTable none 7).result = .ok f ∧
      placeholders f.sql = ["@Age7", "@Value8"]) ∧
    Join.start ⟨[employeeTable]⟩ {} employee employee "p" "p" .left = .ok agePairs ∧
    ∃ f, (agePairs.follow [.on "Age" "Id", .whereSecond adult, .whereFirst .lookup]).1.statement
        Join.keyRecord = .ok (some f) ∧
      placeholders f.sql = ["@Age0", "@Value1"]
  := by
  have hbuild : Registry.build ⟨[employee], []⟩ = .ok ⟨[employeeTable]⟩ := rfl
  have hr := Registry.named_of_build hbuild
  have hscope : Scope.Named ⟨employeeTable, none, false⟩ := by
    constructor
    · apply hr "Employee" employeeTable rfl
    · simp
  have hcompile : ((adult.and .lookup).compile {} employeeTable none 7).result =
      .ok ⟨"(Age >= @Age7 AND @Value8 IN (SELECT \"C\" FROM \"T\"))",
        [⟨"Age7", .int 18⟩, ⟨"Value8", .int 0⟩]⟩ := rfl
  have hstart : Join.start ⟨[employeeTable]⟩ {} employee employee "p" "p" .left = .ok agePairs := rfl
  have hstatement : (agePairs.follow
      [.on "Age" "Id", .whereSecond adult, .whereFirst .lookup]).1.statement Join.keyRecord =
      .ok (some ⟨"SELECT p.Id AS \"Id\" FROM \"Employee\" p LEFT JOIN \"Employee\" p1 " ++
        "ON p.Age = p1.Id WHERE p1.Age >= @Age0 AND @Value1 IN (SELECT \"C\" FROM \"T\")",
        [⟨"Age0", .int 18⟩, ⟨"Value1", .int 0⟩]⟩) := rfl
  use hbuild
  constructor
  · have haligned := (placeholders_aligned.1 _ _ _ _ _ _ hscope hcompile).1
    exact ⟨_, hcompile, haligned.placeholders⟩
  · have haligned := (placeholders_aligned.2 _ _ _ _ _ _ _ _ _ _ _ hr (by decide) (by decide)
      (by simp [JoinStep.Named]) hstart hstatement).1
    exact ⟨hstart, _, hstatement, haligned.placeholders⟩

end EntityStore
