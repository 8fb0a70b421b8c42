import EntityStore.Proofs.Entity.Assignments
import EntityStore.Proofs.Include.Guards
import EntityStore.Proofs.Join.Guards
import EntityStore.Proofs.Session.Sent

/-!
# Guards of sessions

Whatever an operation reads, the statement that is sent leaves out the rows that have been
marked, and no filter takes its guards apart.  Where rows are marked instead of being removed,
nothing is sent that removes them.
-/

namespace EntityStore

open Text Sql

variable {σ : Type} {s : Session σ} {m : Model} {t : SessionState σ} {c : Command}

namespace Session

/-! ### Tables -/

/-- Whether a command reads something of the rows of a table that fulfil a predicate and have
not been marked. -/
def ReadsRows (s : Session σ) (type : EntityType) (p : Predicate) (head : Descriptor → String)
    (tail : String) (c : Command) : Prop :=
  ∃ d condition f, s.context.registry.ofType? type.record.name = some d ∧
    s.condition? d none p = some condition ∧ c.kind = .query ∧ c.params = condition.params ∧
    Selects c.sql (head d) ((condition.sql, f) :: guardsOf [(d, "\"IsActive\" = 1")]) tail

/-- The condition on a registered table can be asked for among others. -/
theorem exists_conjunct (hr : s.context.registry.Named) {typeName : String} {d : Descriptor}
    (hd : s.context.registry.ofType? typeName = some d) {tableAlias : Option String}
    (halias : ∀ a ∈ tableAlias, isIdentifier a = true) {p : Predicate} {condition : Fragment}
    (hcondition : s.condition? d tableAlias p = some condition) :
  ∃ f, Conjunct condition.sql f
  := by
  have hscope : Scope.Named ⟨d, tableAlias, s.context.rules.opaqueTimestamps⟩ := by
    constructor
    · apply hr typeName d hd
    · apply halias
  apply exists_conjunct_of_compile hscope (toOption_eq_some_iff.mp hcondition)

/-- A selection reads rows. -/
theorem readsRows_of_selection? (hr : s.context.registry.Named) {type : EntityType} {p : Predicate}
    {tail : String} (htail : Trails tail) (h : s.selection? type p tail = some c) :
  s.ReadsRows type p Descriptor.selectHead tail c
  := by
  obtain ⟨d, hd, h⟩ := Option.bind_eq_some_iff.mp h
  obtain ⟨condition, hcondition, h⟩ := Option.bind_eq_some_iff.mp h
  cases h
  obtain ⟨f, hf⟩ := exists_conjunct hr hd (by simp) hcondition
  exact ⟨d, condition, f, hd, hcondition, rfl, rfl, Descriptor.selects_rows hf htail⟩

/-- A count reads the number of rows. -/
theorem readsRows_of_count (hr : s.context.registry.Named) {type : EntityType} {p : Predicate}
    (h : s.request? (.count type p) = some c) :
  s.ReadsRows type p Descriptor.countHead "" c
  := by
  obtain ⟨d, hd, h⟩ := Option.bind_eq_some_iff.mp h
  obtain ⟨condition, hcondition, h⟩ := Option.bind_eq_some_iff.mp h
  cases h
  obtain ⟨f, hf⟩ := exists_conjunct hr hd (by simp) hcondition
  exact ⟨d, condition, f, hd, hcondition, rfl, rfl, Descriptor.selects_count hf⟩

/-! ### Related tables -/

/-- Whether a command reads a plan: it asks for the condition on the root and for its guard, and
the rows of each step are joined by their own guard. -/
structure ReadsPlan (s : Session σ) (plan : IncludePlan) (p : Option Predicate) (c : Command) :
    Prop where
  kind : c.kind = .query
  selects : ∃ filters,
    filters.map (·.1) =
      (p.bind (s.condition? plan.descriptor (some "t0"))).toList.map (·.sql) ∧
    Selects c.sql (plan.selectHead ++ String.join (plan.steps.map IncludePlan.joinSql))
      (filters ++ guardsOf [(plan.descriptor, "t0.IsActive = 1")]) " ORDER BY t0.Id"
  head : tokens (plan.selectHead ++ String.join (plan.steps.map IncludePlan.joinSql)) =
    tokens plan.selectHead ++ plan.steps.flatMap fun step => tokens (IncludePlan.joinSql step)
  steps : ∀ step ∈ plan.steps, IncludePlan.JoinsBy step

/-- A graph is read by its plan. -/
theorem readsPlan_of_fetchGraph (hr : s.context.registry.Named) {plan : IncludePlan}
    (hplan : plan.Connected s.context.registry) {p : Option Predicate}
    (h : s.request? (.fetchGraph plan p) = some c) :
  s.ReadsPlan plan p c
  := by
  have hroot := hplan.root
  rw [hplan.registry] at hroot
  have hzero : ∀ a ∈ some (stepAlias 0), isIdentifier a = true := by
    rintro a ⟨⟩
    apply isIdentifier_stepAlias
  have hrequest : c = query (plan.select (p.bind (s.condition? plan.descriptor (some "t0")))) := by
    cases p with
    | none =>
        cases h
        rfl
    | some p =>
        obtain ⟨condition, hcondition, h⟩ := Option.bind_eq_some_iff.mp h
        cases h
        show _ = query (plan.select (s.condition? plan.descriptor (some (stepAlias 0)) p))
        rw [hcondition]
  subst hrequest
  have hfilter : ∀ f ∈ (p.bind (s.condition? plan.descriptor (some "t0"))).toList,
      ∃ g, Conjunct f.sql g := by
    intro f hf
    obtain ⟨q, -, hq⟩ := Option.bind_eq_some_iff.mp (Option.mem_toList.mp hf)
    apply exists_conjunct hr hroot hzero hq
  obtain ⟨filters, htexts, hselects, hhead⟩ := hplan.selects hr hfilter
  constructor
  · rfl
  · exact ⟨filters, htexts, hselects⟩
  · apply hhead
  · intro step hstep
    obtain ⟨n, hn⟩ := List.mem_iff_getElem?.mp hstep
    apply (hplan.joins hr hn).1

/-- A join is read by its statement. -/
theorem guarded_of_runJoin (hr : s.context.registry.Named) {j : Join}
    (hj : j.Chained s.context.registry) {destination : RecordType}
    (h : s.request? (.runJoin destination j) = some c) :
  j.Guarded destination c
  := by
  obtain ⟨statement, hstatement, h⟩ := Option.bind_eq_some_iff.mp h
  obtain ⟨f, rfl, hf⟩ := Option.map_eq_some_iff.mp h
  subst hf
  apply hj.guarded hr (toOption_eq_some_iff.mp hstatement)

/-- A stored join is read by the statement that it was stored with. -/
theorem guarded_of_runView (hr : s.context.registry.Named) {store : ViewStore}
    (hstore : store.Keeps (Join.Chained s.context.registry)) {v : View} (hv : v ∈ store.views)
    {destination : RecordType} (h : s.request? (.runView destination v) = some c) :
  ∃ stored : RecordType, stored.name = v.destination ∧ v.join.Guarded stored c
  := by
  obtain ⟨hjoin, stored, hname, hstatement⟩ := hstore.statement v hv
  obtain ⟨f, hf, rfl⟩ := Option.map_eq_some_iff.mp h
  rw [hf] at hstatement
  exact ⟨stored, hname, hjoin.guarded hr hstatement⟩

/-! ### Deletion -/

/-- What marks rows of a table. -/
def marking (d : Descriptor) : String :=
  "UPDATE " ++ quoteName d.table ++ " SET \"IsActive\" = 0"

/-- Whether a command marks the rows of a table that fulfil a predicate.  It always asks for a
condition: that of the predicate, or one that no row fulfils if the predicate has no SQL. -/
structure Marks (s : Session σ) (d : Descriptor) (p : Predicate) (condition : Fragment)
    (c : Command) : Prop where
  compiled : match (p.translate ⟨d, none, s.context.rules.opaqueTimestamps⟩ 0).outcome with
    | .ok (made, params) => condition = ⟨made.text, params⟩
    | .error _ => condition = ⟨"1 != 1", []⟩
  command : c = ⟨.execute, marking d ++ " WHERE " ++ condition.sql, condition.params⟩
  selects : ∃ f, Selects c.sql (marking d) [(condition.sql, f)] ""

/-- What marks rows of a table is read. -/
theorem exists_lexes_marking (d : Descriptor) :
  ∃ ts, Lexes (marking d) ts
  := by
  have htable := (mentions_quoteName d.table).lead "UPDATE" (by decide)
  have hassigned : Mentions ("\"IsActive\"" ++ " " ++ "=" ++ " " ++ "0") [] :=
    .between (mentions_joint (by decide)) (mentions_quoteName activeFlag) (mentions_decimalText 0)
  have hset : Mentions ("UPDATE" ++ " " ++ quoteName d.table ++ " SET " ++
      ("\"IsActive\"" ++ " " ++ "=" ++ " " ++ "0")) [] :=
    htable.joinedBy "SET" (by decide) (by decide) hassigned
  obtain ⟨ts, hlexes, -⟩ := hset
  use ts
  have htext : marking d = "UPDATE" ++ " " ++ quoteName d.table ++ " SET " ++
      ("\"IsActive\"" ++ " " ++ "=" ++ " " ++ "0") := by
    have hopening : "UPDATE " = "UPDATE" ++ " " := by decide
    have hset : " SET \"IsActive\" = 0" =
        " SET " ++ ("\"IsActive\"" ++ " " ++ "=" ++ " " ++ "0") := by decide
    rw [marking, hopening, hset]
    simp only [String.append_assoc]
  rw [htext]
  exact hlexes

/-- Where rows are marked instead of being removed, that is done to the selected ones. -/
theorem deleteRows_of_softDelete {d : Descriptor} (hsoft : d.softDelete = true)
    (clause : Fragment) :
  d.deleteRows clause = ⟨marking d ++ clause.sql, clause.params⟩
  := by
  have hset : " SET \"IsActive\" = 0" = " SET " ++ (quoteName activeFlag ++ " = 0") := by decide
  rw [Descriptor.deleteRows, if_pos hsoft, marking, hset]
  show Fragment.mk ("UPDATE " ++ quoteName d.table ++ " SET " ++ quoteName activeFlag ++ " = 0" ++
    clause.sql) _ = _
  simp only [String.append_assoc]

/-- A record of a table with soft deletion is deleted by a mark. -/
theorem eq_of_delete {type : EntityType} {d : Descriptor}
    (hd : s.context.registry.ofType? type.record.name = some d) (hsoft : d.softDelete = true)
    {r : Record} (h : s.request? (.delete type r) = some c) :
  c = ⟨.execute, marking d ++ " WHERE \"Id\" = @Id0", [⟨"Id0", .int r.key⟩]⟩
  := by
  rw [request?, hd] at h
  split at h
  · cases h
  · cases h
    unfold execution
    rw [deleteRows_of_softDelete hsoft]
    rfl

/-- What a predicate comes to is its text, or what no row fulfils. -/
theorem condition?_eq {d : Descriptor} {p : Predicate} {condition : Fragment}
    (h : s.condition? d none p = some condition) :
  match (p.translate ⟨d, none, s.context.rules.opaqueTimestamps⟩ 0).outcome with
  | .ok (made, params) => condition = ⟨made.text, params⟩
  | .error _ => condition = ⟨"1 != 1", []⟩
  := by
  have hcompile := toOption_eq_some_iff.mp h
  split
  · next made params hout =>
      rw [Predicate.compile_of_ok hout] at hcompile
      cases hcompile
      rfl
  · next u hout =>
      rw [Predicate.compile_of_error hout] at hcompile
      unfold TranslationRules.degrade at hcompile
      split at hcompile
      · cases hcompile
      · cases hcompile
        rfl

/-- The records of a table with soft deletion are deleted by a mark. -/
theorem marks_of_deleteWhere (hr : s.context.registry.Named) {type : EntityType} {d : Descriptor}
    (hd : s.context.registry.ofType? type.record.name = some d) (hsoft : d.softDelete = true)
    {p : Predicate} (h : s.request? (.deleteWhere type p) = some c) :
  ∃ condition, s.condition? d none p = some condition ∧ s.Marks d p condition c
  := by
  rw [request?, hd] at h
  obtain ⟨d, ⟨⟩, h⟩ := Option.bind_eq_some_iff.mp h
  obtain ⟨condition, hcondition, h⟩ := Option.bind_eq_some_iff.mp h
  obtain ⟨f, hf⟩ := exists_conjunct hr hd (by simp) hcondition
  obtain ⟨ts, hhead⟩ := exists_lexes_marking d
  have hstands : ∀ x ∈ [(condition.sql, f)], Stands x.1 x.2 := by
    rw [List.forall_mem_singleton]
    apply hf.stands
  have hselects := selects_of_stands hhead hstands (.inl rfl : Trails "")
  have hwhere : whereSql [condition.sql] = " WHERE " ++ condition.sql := by
    rw [whereSql_of_ne (by simp), ← String.append_assoc]
    rfl
  have hcommand : c = ⟨.execute, marking d ++ " WHERE " ++ condition.sql, condition.params⟩ := by
    cases h
    unfold execution Descriptor.clause
    rw [deleteRows_of_softDelete hsoft, hwhere, String.append_assoc]
  refine ⟨condition, hcondition, condition?_eq hcondition, hcommand, f, ?_⟩
  rw [String.append_empty, List.map_singleton, hwhere, ← String.append_assoc] at hselects
  rw [hcommand]
  exact hselects

end Session

/-- Over a registry that is built, an operation sends one statement, or none.  What is read of a
table, a plan or a join is guarded: the statement asks that the rows of each table with soft
deletion have not been marked, and this is a conjunct of its own, whatever else is asked for.
No other table is guarded.  Rows of a table with soft deletion are only ever marked, under a
condition. -/
theorem sent_guarded (hbuild : Registry.build m = .ok s.context.registry) :
  (∀ call t, s.sent call t = if s.isReady t.inner then (s.request? call).toList else []) ∧
  (∀ type p t,
    (∀ c ∈ s.sent (.fetch type p) t, s.ReadsRows type p Descriptor.selectHead "" c) ∧
    (∀ c ∈ s.sent (.fetchAll type) t, s.ReadsRows type .always Descriptor.selectHead "" c) ∧
    (∀ c ∈ s.sent (.first type p) t,
      s.ReadsRows type p Descriptor.selectHead " ORDER BY \"Id\" LIMIT 1" c) ∧
    (∀ c ∈ s.sent (.count type p) t, s.ReadsRows type p Descriptor.countHead "" c)) ∧
  (∀ root inclusions plan p t,
    IncludePlan.build s.context.registry root inclusions = .ok plan →
    ∀ c ∈ s.sent (.fetchGraph plan p) t, s.ReadsPlan plan p c) ∧
  (∀ (j : Join) destination t, j.Chained s.context.registry →
    ∀ c ∈ s.sent (.runJoin destination j) t, j.Guarded destination c) ∧
  (∀ (store : ViewStore) v destination t, store.Keeps (Join.Chained s.context.registry) →
    v ∈ store.views → ∀ c ∈ s.sent (.runView destination v) t,
      ∃ stored : RecordType, stored.name = v.destination ∧ v.join.Guarded stored c) ∧
  (∀ (type : EntityType) d, s.context.registry.ofType? type.record.name = some d →
    d.softDelete = true →
    (∀ r t, ∀ c ∈ s.sent (.delete type r) t,
      c = ⟨.execute, Session.marking d ++ " WHERE \"Id\" = @Id0", [⟨"Id0", .int r.key⟩]⟩) ∧
    (∀ p t, ∀ c ∈ s.sent (.deleteWhere type p) t,
      ∃ condition, s.condition? d none p = some condition ∧ s.Marks d p condition c))
  := by
  have hr := Registry.named_of_build hbuild
  refine ⟨s.sent_eq, ?_, ?_, ?_, ?_, ?_⟩
  · intro type p t
    refine ⟨?_, ?_, ?_, ?_⟩
    · intro c hc
      apply Session.readsRows_of_selection? hr (.inl rfl) (Session.request?_of_mem_sent hc)
    · intro c hc
      apply Session.readsRows_of_selection? hr (.inl rfl) (Session.request?_of_mem_sent hc)
    · intro c hc
      apply Session.readsRows_of_selection? hr Descriptor.trails_firstByKey
        (Session.request?_of_mem_sent hc)
    · intro c hc
      apply Session.readsRows_of_count hr (Session.request?_of_mem_sent hc)
  · intro root inclusions plan p t hplan c hc
    apply Session.readsPlan_of_fetchGraph hr (IncludePlan.connected_of_build hplan).1
      (Session.request?_of_mem_sent hc)
  · intro j destination t hj c hc
    apply Session.guarded_of_runJoin hr hj (Session.request?_of_mem_sent hc)
  · intro store v destination t hstore hv c hc
    apply Session.guarded_of_runView hr hstore hv (Session.request?_of_mem_sent hc)
  · intro type d hd hsoft
    constructor
    · intro r t c hc
      apply Session.eq_of_delete hd hsoft (Session.request?_of_mem_sent hc)
    · intro p t c hc
      apply Session.marks_of_deleteWhere hr hd hsoft (Session.request?_of_mem_sent hc)

/-- Notes, each of which can answer another, and which are kept when they are deleted. -/
def note : EntityType :=
  { integers "Note" ["Age", "ParentId"] with
    description := [.softDelete, .foreignKey "ParentId" { table := "Note" }] }

/-- Notes with those that they answer. -/
def answers : Join where
  registry := (sessionOf note).context.registry
  rules := {}
  base := ⟨note, note.draft.descriptor, "n"⟩
  current := ⟨.left, ⟨note, note.draft.descriptor, "n1"⟩, none⟩
  left := ⟨note, note.draft.descriptor, "n"⟩

/-- A disjunction does not take the guard apart.  A plan, a join and a stored join have their
guards, and a predicate without SQL marks no row. -/
theorem note_guarded :
  let s := sessionOf note
  let t : SessionState Script := ⟨{}, []⟩
  let p : Predicate := .or (.against "Age" .gt (.int 18)) (.isFalse "IsActive")
  let sql := "(Age > @Age0 OR IsActive = 0) AND \"IsActive\" = 1"
  let j := answers.on "ParentId" "Id"
  let statement : Fragment := ⟨"SELECT n.Id AS \"Id\" FROM \"Note\" n LEFT JOIN \"Note\" n1 " ++
    "ON n.ParentId = n1.Id WHERE n.IsActive = 1 AND n1.IsActive = 1", []⟩
  let v : View := ⟨"Key", "main", j, some statement⟩
  Registry.build ⟨[note], []⟩ = .ok s.context.registry ∧
    (s.sent (.fetch note p) t =
      [⟨.query, "SELECT \"Id\", \"Age\", \"ParentId\", \"IsActive\" FROM \"Note\" WHERE " ++
        sql, [⟨"Age0", .int 18⟩]⟩] ∧
      ∀ f, Reads Comparison .disjunction (tokens sql) f →
        ∃ g, f = .combine .both g (.atom (tokens "\"IsActive\" = 1"))) ∧
    (∃ plan, IncludePlan.build s.context.registry note [⟨.one, note, "Parent", 0, none⟩] =
      .ok plan ∧ ∃ c, s.sent (.fetchGraph plan none) t = [c] ∧ s.ReadsPlan plan none c) ∧
    (j.Chained s.context.registry ∧
      s.sent (.runJoin Join.keyRecord j) t = [Session.query statement] ∧
      j.Guarded Join.keyRecord (Session.query statement)) ∧
    (ViewStore.Keeps (Join.Chained s.context.registry) ⟨[v]⟩ ∧
      s.sent (.runView Join.keyRecord v) t = [Session.query statement] ∧
      ∃ stored : RecordType, stored.name = "Key" ∧ j.Guarded stored (Session.query statement)) ∧
    s.context.registry.ofType? "Note" = some note.draft.descriptor ∧
    note.draft.descriptor.softDelete = true ∧
    ∃ c condition, s.sent (.deleteWhere note (.isFalse "Read")) t = [c] ∧
      s.Marks note.draft.descriptor (.isFalse "Read") condition c ∧
      c.sql = "UPDATE \"Note\" SET \"IsActive\" = 0 WHERE 1 != 1"
  := by
  intro s t p sql j statement v
  have hbuild : Registry.build ⟨[note], []⟩ = .ok s.context.registry := by decide +kernel
  have hfetch : s.sent (.fetch note p) t =
      [⟨.query, "SELECT \"Id\", \"Age\", \"ParentId\", \"IsActive\" FROM \"Note\" WHERE " ++
        sql, [⟨"Age0", .int 18⟩]⟩] := by decide +kernel
  have hready : s.isReady t.inner = true := by decide
  have hchained : j.Chained s.context.registry := by
    have hstart : Join.start s.context.registry {} note note "n" "n" .left = .ok answers := rfl
    have hstep : answers.step (.on "ParentId" "Id") = .ok j := rfl
    exact (Join.Chained.start hstart).step hstep
  have hjoin : s.sent (.runJoin Join.keyRecord j) t = [Session.query statement] := by
    decide +kernel
  have hkeeps : ViewStore.Keeps (Join.Chained s.context.registry) ⟨[v]⟩ := by
    have hstatement : j.statement Join.keyRecord = .ok (some statement) := by decide +kernel
    have hstore : ViewStore.store {} "main" Join.keyRecord j = .ok (v, ⟨[v]⟩) := by
      unfold ViewStore.store ViewStore.view
      rw [hstatement]
      rfl
    exact .store .empty hchained hstore
  have hview : s.sent (.runView Join.keyRecord v) t = [Session.query statement] := by
    decide +kernel
  have hmark : s.sent (.deleteWhere note (.isFalse "Read")) t =
      [⟨.execute, "UPDATE \"Note\" SET \"IsActive\" = 0 WHERE 1 != 1", []⟩] := by decide +kernel
  have hd : s.context.registry.ofType? "Note" = some note.draft.descriptor := rfl
  have hsoft : note.draft.descriptor.softDelete = true := rfl
  obtain ⟨hsent, hrows, hplans, hjoins, hviews, hdeletes⟩ := sent_guarded hbuild
  refine ⟨hbuild, ⟨hfetch, ?_⟩, ?_, ⟨hchained, hjoin, ?_⟩, ⟨hkeeps, hview, ?_⟩, hd, hsoft, ?_⟩
  · obtain ⟨d, condition, g, hd, hcondition, -, -, hselects⟩ :=
      (hrows note p t).1 _ (by rw [hfetch]; apply List.mem_singleton_self)
    obtain rfl : note.draft.descriptor = d := Option.some.inj hd
    obtain rfl : ⟨"(Age > @Age0 OR IsActive = 0)", [⟨"Age0", .int 18⟩]⟩ = condition :=
      Option.some.inj hcondition
    intro f hf
    have hconjunction := (hselects.together (List.cons_ne_nil _ _) f).mp hf
    exact ⟨g, (Option.some.inj hconjunction).symm⟩
  · have hplan : (IncludePlan.build s.context.registry note
        [⟨.one, note, "Parent", 0, none⟩]).toOption.isSome = true := by decide +kernel
    obtain ⟨plan, hplan⟩ := Option.isSome_iff_exists.mp hplan
    have hplan := toOption_eq_some_iff.mp hplan
    have hgraph : s.sent (.fetchGraph plan none) t = [Session.query (plan.select none)] := by
      rw [hsent, hready]
      rfl
    refine ⟨plan, hplan, _, hgraph, ?_⟩
    apply hplans note _ plan none t hplan
    rw [hgraph]
    apply List.mem_singleton_self
  · apply hjoins j Join.keyRecord t hchained
    rw [hjoin]
    apply List.mem_singleton_self
  · apply hviews ⟨[v]⟩ v Join.keyRecord t hkeeps (List.mem_singleton_self v)
    rw [hview]
    apply List.mem_singleton_self
  · obtain ⟨condition, -, hmarks⟩ := (hdeletes note _ hd hsoft).2 (.isFalse "Read") t _
      (by rw [hmark]; apply List.mem_singleton_self)
    exact ⟨_, condition, hmark, hmarks, rfl⟩

end EntityStore
