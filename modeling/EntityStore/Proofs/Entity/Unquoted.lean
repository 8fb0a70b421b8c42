import EntityStore.Proofs.Entity.Closed
import EntityStore.Proofs.Entity.Rules
import EntityStore.Proofs.Include.Guards
import EntityStore.Proofs.Join.Columns
import EntityStore.Proofs.Translation.Folding
import EntityStore.Sql.Keyword

/-!
# Columns without quotes

What filters, joins and plans write without quotes are the names of the columns of a registry,
each as it is declared.  Such a name is read as one unless the word is reserved.  A registry is
built whether the names of its columns are reserved words or not.
-/

namespace EntityStore

open Text Sql

/-- Whether a name is among words that are reserved, in either case of its letters. -/
def Sql.Reserved (words : List String) (name : String) : Prop :=
  ∃ word ∈ words, sameName name word = true

instance (words : List String) (name : String) : Decidable (Reserved words name) :=
  inferInstanceAs (Decidable (∃ word ∈ words, sameName name word = true))

/-- A word is read as a name exactly if it is not reserved. -/
theorem Sql.Token.name?_word (name : String) :
  (Token.word name).name? = some name ↔ ¬ Reserved reservedWords name
  := by
  have hreserved : (Token.word name).isReserved = true ↔ Reserved reservedWords name := by
    rw [isReserved, List.any_eq_true]
    rfl
  rw [← hreserved]
  unfold Token.name?
  split <;> simp_all

/-- A column of a scope is among those of its table. -/
theorem Sql.Mention.IsOf.mem_columnNames {scope : Scope} {x : Mention} (h : x.IsOf scope) :
  x.name ∈ scope.descriptor.columnNames
  := by
  obtain ⟨name, type, hresolve⟩ := h.name
  apply List.mem_map_of_mem (Descriptor.mem_allColumns_of_resolve? hresolve)

/-- The condition that rows have not been deleted shows the column for that. -/
theorem Sql.shows_activeGuard {tableAlias : String} (h : isIdentifier tableAlias = true) :
  Shows (activeGuard tableAlias) [⟨some tableAlias, activeFlag⟩]
  := by
  have hflag : isIdentifier activeFlag = true := by decide
  have hcolumn : Mention.Named ⟨some tableAlias, activeFlag⟩ := ⟨by simpa using h, hflag⟩
  have hdigit : Writes "1" (.leaf (.number "1")) := lexes_decimalDigits 1
  have hoperator : "=" ∈ operators := by decide
  have hop : [Token.symbol "="] = Operator.equal.head :: Operator.equal.tail := rfl
  have hequal := Writes.symbol hoperator hop rfl hcolumn.writes hdigit
  have htext : activeGuard tableAlias =
      columnText (some tableAlias) activeFlag ++ (" " ++ "=" ++ " ") ++ "1" := by
    have hrest : " = 1" = " " ++ "=" ++ " " ++ "1" := by decide
    show tableAlias ++ "." ++ activeFlag ++ " = 1" = _
    rw [hrest, ← String.append_assoc]
    rfl
  rw [htext]
  apply hequal.shows
  simp [Form.leaves]

namespace Registry

/-- Whether a column of a table of a registry has a name. -/
def Declares (r : Registry) (name : String) : Prop :=
  ∃ d ∈ r.descriptors, name ∈ d.columnNames

/-- The texts that are written for a registry: each with the aliases that it mentions and with a
column that is in it without quotes. -/
inductive WritesColumn (r : Registry) : String → List String → Mention → Prop
  /-- A column in the condition of a filter. -/
  | filter {d : Descriptor} {tableAlias : Option String} {opaqueTimestamps : Bool}
      {p : Predicate} {n : Nat} {c : Condition} {params : List Param} {x : Mention}
      (hd : d ∈ r.descriptors)
      (hmade : (p.translate ⟨d, tableAlias, opaqueTimestamps⟩ n).outcome = .ok (c, params))
      (hx : x ∈ c.mentioned) : WritesColumn r c.text tableAlias.toList x
  /-- A column that the rows of joined tables are paired by. -/
  | pairing {j : Join} {c : JoinClause} {p : Pairing} {x : Mention} (hj : j.Chained r)
      (hc : c ∈ j.clauses) (hp : p ∈ c.pairing) (hx : x ∈ p.mentioned) :
      WritesColumn r p.sql j.aliases x
  /-- A column that a join is read from. -/
  | selected {j : Join} {destination : RecordType} {field : Field} {b : Binding} {name : String}
      (hj : j.Chained r) (hentry : (field, b, name) ∈ j.projection destination) :
      WritesColumn r (Join.projected (field, b, name)) j.aliases ⟨some b.tableAlias, name⟩
  /-- A column that the rows of a step are joined by. -/
  | step {root : EntityType} {inclusions : List IncludePlan.Inclusion} {plan : IncludePlan}
      {s : IncludeStep} {x : Mention} (hplan : IncludePlan.build r root inclusions = .ok plan)
      (hs : s ∈ plan.steps) (hx : x ∈ s.pairing.mentioned) : WritesColumn r s.pairing.sql [] x
  /-- The column by which deleted rows are left out. -/
  | guard {d : Descriptor} (hd : d ∈ r.descriptors) (hsoft : d.softDelete = true)
      (tableAlias : String) :
      WritesColumn r (activeGuard tableAlias) [tableAlias] ⟨some tableAlias, activeFlag⟩
  /-- A column that a plan is read from. -/
  | loaded {root : EntityType} {inclusions : List IncludePlan.Inclusion} {plan : IncludePlan}
      {n : Nat} {anchor : IncludePlan.Anchor} {name : String} {type : ColumnType}
      (hplan : IncludePlan.build r root inclusions = .ok plan)
      (hanchor : plan.anchor? n = some anchor)
      (hcolumn : (name, type) ∈ anchor.descriptor.allColumns) :
      WritesColumn r (anchor.tableAlias ++ "." ++ name ++ " AS " ++
        quoteName (columnLead anchor.tableAlias ++ name)) [] ⟨some anchor.tableAlias, name⟩

variable {m : Model} {r : Registry} {text : String} {aliases : List String} {x : Mention}

/-! ### Declared names -/

/-- The names of the columns of a registry that is built are identifiers. -/
theorem isIdentifier_of_declares (hbuild : build m = .ok r) {name : String}
    (h : r.Declares name) :
  isIdentifier name = true
  := by
  obtain ⟨d, hd, hname⟩ := h
  obtain rfl | hname | rfl := Descriptor.mem_columnNames.mp hname
  · decide
  · obtain ⟨c, hc, rfl⟩ := List.mem_map.mp hname
    apply Assembly.named_of_allNameProblems (problems_of_build hbuild).1 d hd c hc
  · decide

/-- The columns of a type that is found are declared. -/
theorem declares_of_ofType? {typeName : String} {d : Descriptor}
    (hd : r.ofType? typeName = some d) {name : String} (hname : name ∈ d.columnNames) :
  r.Declares name
  := ⟨d, List.mem_of_find?_eq_some hd, hname⟩

/-- The columns that a join mentions are declared. -/
theorem declares_of_owns {j : Join} (hj : j.Chained r) (h : j.Owns x) :
  r.Declares x.name
  := by
  obtain ⟨b, hb, hof⟩ := h
  apply declares_of_ofType? (hj.sound.bindings b hb) hof.mem_columnNames

/-- The columns by which the rows of a step are joined are declared, and behind the aliases of
steps. -/
theorem declares_of_step {plan : IncludePlan} (hplan : plan.Connected r) {s : IncludeStep}
    (hs : s ∈ plan.steps) (hx : x ∈ s.pairing.mentioned) :
  r.Declares x.name ∧ ∃ n, x.tableAlias = some (stepAlias n)
  := by
  obtain ⟨n, hn⟩ := List.mem_iff_getElem?.mp hs
  have hfits := hplan.steps n s hn
  have hregistered := hfits.descriptor
  rw [hplan.registry] at hregistered
  obtain ⟨anchor, hanchor, halias, own, hown, other, hother, hpairing⟩ := hfits.pairing
  rw [hpairing, Equality.mentioned, List.mem_pair] at hx
  obtain rfl | rfl := hx
  · rw [hfits.tableAlias]
    exact ⟨declares_of_ofType? hregistered hown, n + 1, rfl⟩
  · rw [halias]
    exact ⟨declares_of_ofType? (hplan.registered hanchor) hother, s.parent, rfl⟩

/-- A declared column behind the alias of a step is written by identifiers. -/
theorem named_of_stepAlias (hbuild : build m = .ok r) (hdeclares : r.Declares x.name) {n : Nat}
    (halias : x.tableAlias = some (stepAlias n)) :
  x.Named
  := by
  constructor
  · rw [halias]
    rintro a ⟨⟩
    apply isIdentifier_stepAlias
  · apply isIdentifier_of_declares hbuild hdeclares

/-- What is written for a registry without quotes is declared, and stands in the text if the
aliases are identifiers. -/
theorem WritesColumn.declares (hbuild : build m = .ok r) (h : r.WritesColumn text aliases x) :
  r.Declares x.name ∧
    ((∀ a ∈ aliases, isIdentifier a = true) → x.tokens <:+: tokens text)
  := by
  have hr := named_of_build hbuild
  cases h with
  | @filter d tableAlias opaqueTimestamps p n c params _ hd hmade hx =>
      obtain ⟨hof, hstands⟩ := Predicate.of_mentioned hmade hx
      use ⟨d, hd, hof.mem_columnNames⟩
      intro haliases
      apply hstands
      constructor
      · apply Assembly.named_of_allNameProblems (problems_of_build hbuild).1 d hd
      · intro a ha
        apply haliases a (Option.mem_toList.mpr ha)
  | @pairing j c p _ hj hc hp hx =>
      have howns := hj.mentionsOwn.pairings c hc p hp
      use declares_of_owns hj (howns x hx)
      intro haliases
      have hbindings := hj.named hr haliases
      apply (Pairing.shows fun x hx => (howns x hx).named hbindings).infix_tokens hx
  | @selected j destination field b name hj hentry =>
      have howns := hj.mentionsOwn.projected hentry
      use declares_of_owns hj howns
      intro haliases
      have hx := howns.named (hj.named hr haliases)
      apply (shows_renamed hx field.name).infix_tokens (List.mem_singleton_self _)
  | @step root inclusions plan s _ hplan hs hx =>
      obtain ⟨hconnected, -, -⟩ := IncludePlan.connected_of_build hplan
      use (declares_of_step hconnected hs hx).1
      intro _
      have hnamed : ∀ x ∈ s.pairing.mentioned, x.Named := by
        intro x hx
        obtain ⟨hdeclares, n, halias⟩ := declares_of_step hconnected hs hx
        apply named_of_stepAlias hbuild hdeclares halias
      apply (Equality.shows hnamed).infix_tokens hx
  | @guard d hd hsoft tableAlias =>
      use ⟨d, hd, Descriptor.mem_columnNames.mpr (.inr (.inr rfl))⟩
      intro haliases
      apply (shows_activeGuard (haliases tableAlias (by simp))).infix_tokens
      apply List.mem_singleton_self
  | @loaded root inclusions plan n anchor name type hplan hanchor hcolumn =>
      obtain ⟨hconnected, -, -⟩ := IncludePlan.connected_of_build hplan
      have hdeclares := declares_of_ofType? (hconnected.registered hanchor)
        (List.mem_map_of_mem hcolumn)
      use hdeclares
      intro _
      have hx : Mention.Named ⟨some anchor.tableAlias, name⟩ :=
        named_of_stepAlias hbuild hdeclares (congrArg some (hconnected.alias_of_anchor? hanchor))
      apply (shows_renamed hx (columnLead anchor.tableAlias ++ name)).infix_tokens
      apply List.mem_singleton_self

/-- Every declared column is written: a plan that loads the table alone is read from it. -/
theorem exists_text_of_declares (hbuild : build m = .ok r) {name : String}
    (h : r.Declares name) :
  ∃ text, r.WritesColumn text [] ⟨some (stepAlias 0), name⟩
  := by
  obtain ⟨d, hd, hname⟩ := h
  obtain ⟨⟨_, type⟩, hcolumn, rfl⟩ := List.mem_map.mp hname
  obtain ⟨houtlines, honce⟩ := outlines_of_build hbuild
  obtain ⟨e, -, houtline⟩ : ∃ e ∈ m.entities, e.record.outline = d.outline := by
    apply List.mem_map.mp
    rw [← houtlines]
    apply List.mem_map_of_mem hd
  have hnames : (r.descriptors.map (·.typeName)).Nodup := by
    have hfirst := congrArg (List.map Prod.fst) houtlines
    rw [List.map_map, List.map_map] at hfirst
    change r.descriptors.map (·.typeName) = m.entities.map (·.record.name) at hfirst
    rwa [hfirst]
  have hfound : r.ofType? e.record.name = some d :=
    (ofType?_eq_some_iff hnames).mpr ⟨hd, (congrArg Prod.fst houtline).symm⟩
  have hplan : IncludePlan.build r e [] = .ok { registry := r, root := e, descriptor := d } := by
    have hdescriptor := descriptor_eq_ok_iff.mpr hfound
    rw [IncludePlan.build, IncludePlan.start, hdescriptor]
    rfl
  exact ⟨_, .loaded hplan (n := 0) rfl hcolumn⟩

/-- What is promised of the names that are written for a registry without quotes. -/
structure Unquoted (r : Registry) : Prop where
  /-- They are those of its columns. -/
  declared : ∀ name, (∃ text aliases x, r.WritesColumn text aliases x ∧ x.name = name) ↔
    r.Declares name
  /-- They are identifiers. -/
  identifiers : ∀ name, r.Declares name → isIdentifier name = true
  /-- They stand in the text as they are, if the aliases there are identifiers. -/
  stand : ∀ text aliases x, r.WritesColumn text aliases x →
    (∀ a ∈ aliases, isIdentifier a = true) → x.tokens <:+: tokens text
  /-- Whatever words are reserved, none of them is written exactly if none is a column. -/
  free_iff : ∀ words, (∀ text aliases x, r.WritesColumn text aliases x → ¬ Reserved words x.name) ↔
    ∀ name, r.Declares name → ¬ Reserved words name
  /-- All of them are read as names exactly if no column is one of the keywords that never are. -/
  read_iff : (∀ text aliases x, r.WritesColumn text aliases x →
      (Token.word x.name).name? = some x.name) ↔
    ∀ name, r.Declares name → ¬ Reserved reservedWords name

/-- The columns of a registry that is built are written without quotes by their names, whatever
these are, and read as columns exactly if none of them is a reserved word. -/
theorem unquoted_of_build (hbuild : build m = .ok r) :
  r.Unquoted
  := by
  have hdeclared : ∀ name, (∃ text aliases x, r.WritesColumn text aliases x ∧ x.name = name) ↔
      r.Declares name := by
    intro name
    constructor
    · rintro ⟨text, aliases, x, hwrites, rfl⟩
      apply (hwrites.declares hbuild).1
    · intro h
      obtain ⟨text, hwrites⟩ := exists_text_of_declares hbuild h
      exact ⟨text, [], _, hwrites, rfl⟩
  have hall (P : String → Prop) : (∀ text aliases x, r.WritesColumn text aliases x → P x.name) ↔
      ∀ name, r.Declares name → P name := by
    constructor
    · intro h name hname
      obtain ⟨text, aliases, x, hwrites, rfl⟩ := (hdeclared name).mpr hname
      apply h text aliases x hwrites
    · intro h text aliases x hwrites
      apply h x.name ((hdeclared x.name).mp ⟨text, aliases, x, hwrites, rfl⟩)
  constructor
  · apply hdeclared
  · intro name
    apply isIdentifier_of_declares hbuild
  · intro text aliases x hwrites
    apply (hwrites.declares hbuild).2
  · intro words
    apply hall (¬ Reserved words ·)
  · simp only [Token.name?_word]
    apply hall (¬ Reserved reservedWords ·)

end Registry

/-! ### Reserved names -/

/-- Items with a rank, which is in a column of any name. -/
def rankedBy (name : String) : EntityType where
  record := ⟨"Item", [.ofColumn primaryKey .integer false, .ofColumn name .integer false]⟩
  table := "Item"
  description := []

/-- The table of items with a rank. -/
def rankTable (name : String) : Descriptor where
  table := "Item"
  typeName := "Item"
  columns := [{ name, type := .integer }]

namespace Registry

variable {name : String}

/-- Items with a rank have a registry, whatever identifier the name of the column is. -/
theorem build_rankedBy (hname : isIdentifier name = true)
    (hkey : sameName name primaryKey = false) (hactive : sameName name activeFlag = false) :
  build ⟨[rankedBy name], []⟩ = .ok ⟨[rankTable name]⟩
  := by
  have htable : isIdentifier "Item" = true := by decide
  have hfinished : (rankedBy name).finished [] = (rankTable name, []) := by
    simp [EntityType.finished, relationsOf, Descriptor.related, EntityType.draft, rankedBy,
      rankTable, Draft.ofFields, Field.isImplicit, Field.ofColumn, hkey, hactive]
  rw [build_eq_ok_iff]
  constructor
  · constructor
    · rw [List.forall_mem_singleton]
      exact ⟨rfl, rfl⟩
    · simp
    · simp
    · simp [hfinished]
    · simp [hfinished, rankTable, hname, htable]
    · apply List.pairwise_singleton
    · simp +contextual [hfinished, rankTable, Descriptor.foreignKeys]
  · simp [hfinished]

/-- A filter on the rank writes the name of the column, whatever it is. -/
theorem writes_rank (hkey : sameName name primaryKey = false)
    (hactive : sameName name activeFlag = false) :
  WritesColumn ⟨[rankTable name]⟩ (name ++ " = @" ++ name ++ "0") [] ⟨none, name⟩
  := by
  let scope : Scope := ⟨rankTable name, none, false⟩
  have hcolumn : scope.descriptor.resolve? name = some (name, .integer) := by
    simp [scope, Descriptor.resolve?, Descriptor.column?, rankTable, hkey, hactive]
  let p : Predicate := .compare (.column name) .eq (.value (.int 1))
  have hmade : (p.translate scope 0).outcome =
        .ok (.compare (.column none name) "=" (.param (name ++ "0")), [⟨name ++ "0", .int 1⟩]) := by
    have hrun := Translate.predicate_column hcolumn .eq (.int 1) { counter := 0 }
    unfold Predicate.translate
    rw [ExceptT.run, hrun]
    rfl
  have htext : Condition.text (.compare (.column none name) "=" (.param (name ++ "0"))) =
      name ++ " = @" ++ name ++ "0" := by
    have hbetween : " = @" = " " ++ ("=" ++ (" " ++ "@")) := by decide
    show name ++ " " ++ "=" ++ " " ++ ("@" ++ (name ++ "0")) = _
    rw [hbetween]
    simp only [String.append_assoc]
  rw [← htext]
  apply WritesColumn.filter (List.mem_singleton_self _) hmade
  simp [Condition.mentioned, Expr.mentioned]

/-- The names of the columns of items with a rank. -/
theorem declares_rank {column : String} (h : Declares ⟨[rankTable name]⟩ column) :
  column ∈ [primaryKey, name, activeFlag]
  := by
  obtain ⟨d, hd, hcolumn⟩ := h
  obtain rfl := List.mem_singleton.mp hd
  apply hcolumn

/-- All columns of items with a rank are read if that is the name of its column. -/
theorem rank_read :
  build ⟨[rankedBy "Rank"], []⟩ = .ok ⟨[rankTable "Rank"]⟩ ∧
    ∀ text aliases x, WritesColumn ⟨[rankTable "Rank"]⟩ text aliases x →
      (Token.word x.name).name? = some x.name
  := by
  have hbuild : build ⟨[rankedBy "Rank"], []⟩ = .ok ⟨[rankTable "Rank"]⟩ :=
    build_rankedBy (by decide) (by decide) (by decide)
  have hfree : ∀ column ∈ [primaryKey, "Rank", activeFlag], ¬ Reserved reservedWords column := by
    decide
  use hbuild
  rw [(unquoted_of_build hbuild).read_iff]
  intro column hcolumn
  apply hfree column (declares_rank hcolumn)

/-- Items can have a rank in a column `Order`.  But where a filter asks for it, the word is not
read as a name, as it would be in quotes. -/
theorem order_not_read :
  build ⟨[rankedBy "Order"], []⟩ = .ok ⟨[rankTable "Order"]⟩ ∧
    WritesColumn ⟨[rankTable "Order"]⟩ "Order = @Order0" [] ⟨none, "Order"⟩ ∧
    tokens "Order = @Order0" = [.word "Order", .symbol "=", .parameter "@Order0"] ∧
    isIdentifier "Order" ∧ Reserved reservedWords "Order" ∧
    (Token.word "Order").name? = none ∧ (Token.quotedName "Order").name? = some "Order"
  := by
  refine ⟨?_, ?_, by decide +kernel, by decide, by decide, by decide, by decide⟩
  · apply build_rankedBy <;> decide
  · have hkey : sameName "Order" primaryKey = false := by decide
    have hactive : sameName "Order" activeFlag = false := by decide
    exact writes_rank hkey hactive

end Registry

end EntityStore
