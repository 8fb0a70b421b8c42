import EntityStore.Proofs.Number.Decimal
import EntityStore.Proofs.Translation.Emission

/-!
# Names of parameters

A parameter is named after a base and a number, and nothing stands between the two.  If
no base is another one with a number behind it, parameters with different numbers have
different names.  If one is, some predicate issues two parameters of one name.
-/

namespace EntityStore

open Text Sql

/-- No base is another base with a positive number behind it. -/
def Separate (allowed : String → Prop) : Prop :=
  ∀ a b : String, ∀ k : Nat, allowed a → allowed b → 0 < k → a ≠ b ++ decimalText k

/-- Separate bases with different numbers make different names. -/
theorem Separate.name_ne {allowed : String → Prop} (h : Separate allowed) {a b : String}
    (ha : allowed a) (hb : allowed b) {m n : Nat} (hmn : m < n) :
  a ++ decimalText m ≠ b ++ decimalText n
  := by
  intro hname
  have hchars : a.toList ++ decimalDigits m = b.toList ++ decimalDigits n := by
    simpa using congrArg String.toList hname
  obtain ⟨k, hk, ha', -⟩ := (append_decimalDigits_eq_iff hmn).mp hchars
  apply h a b k ha hb hk
  apply String.toList_inj.mp
  rw [ha', String.toList_append, toList_decimalText]

/-- Numbered parameters with separate bases have different names. -/
theorem Numbered.nodup {allowed : String → Prop} (h : Separate allowed) {n : Nat}
    {params : List Param} (hparams : Numbered allowed n params) :
  (params.map (·.name)).Nodup
  := by
  rw [List.Nodup, List.pairwise_map, List.pairwise_iff_getElem]
  intro i j hi hj hij
  obtain ⟨a, ha, hname⟩ := hparams.name_getElem i hi
  obtain ⟨b, hb, hname'⟩ := hparams.name_getElem j hj
  rw [hname, hname']
  apply h.name_ne ha hb
  omega

/-- A base with a number behind it takes the name of the other base with ten times that
number behind it. -/
theorem name_collision (b : String) {k n : Nat} (hk : 0 < k) (hn : n = 10 * k) :
  b ++ decimalText k ++ decimalText (0 : Nat) = b ++ decimalText n
  := by
  apply String.toList_inj.mp
  have hdigits := decimalDigits_append (d := 0) hk (by decide)
  rw [Nat.add_zero, ← hn] at hdigits
  simp only [String.toList_append, toList_decimalText, List.append_assoc, hdigits]

/-- Parameters are not distinct if the first has the name of a later one. -/
theorem not_nodup_of_name_eq {p q : Param} (between after : List Param)
    (h : p.name = q.name) :
  ¬ ((p :: between ++ q :: after).map (·.name)).Nodup
  := by simp [h]

/-! ### Predicates with parameters of a given name -/

/-- The trail with the next parameter. -/
def Trail.issue (t : Trail) (base : String) (v : Value) : Trail :=
  { t with
    counter := t.counter + 1, params := t.params ++ [⟨base ++ decimalText t.counter, v⟩] }

namespace Predicate

/-- A predicate that issues one parameter, which is named after a base. -/
def Names (p : Predicate) (scope : Scope) (base : String) : Prop :=
  ∀ t, ∃ c v, Translate.predicate scope p t = (.ok c, t.issue base v)

/-- A comparison with a column issues a parameter that is named after it. -/
theorem names_against {scope : Scope} {name column : String} {type : ColumnType}
    (h : scope.descriptor.resolve? name = some (column, type)) :
  (against name .eq (.int 0)).Names scope column
  := by
  intro t
  use .compare (.column scope.tableAlias column) "=" (.param (column ++ decimalText t.counter))
  use .int 0
  have hresolve : Translate.resolve scope name = pure (column, type) := by
    simp only [Translate.resolve, h]
  rw [against, Translate.predicate, Translate.comparison, Translate.side, hresolve]
  rfl

/-- A value looked up in a column of another table. -/
def lookup : Predicate :=
  call "equals_in" [.value (.int 0), .value (.text "T"), .value (.text "C")]

/-- A lookup mentions no column of its own table, and its parameter is named after none. -/
theorem names_lookup (scope : Scope) :
  lookup.Names scope "Value"
  := by
  intro t
  have hhelper : Translate.helper "equals_in" = pure Helper.equalsIn := by
    rfl
  have htable : isIdentifier "T" = true := by decide
  have hcolumn : isIdentifier "C" = true := by decide
  use .call .equalsIn [.param ("Value" ++ decimalText t.counter), .ident "T", .ident "C"]
  use .int 0
  simp [lookup, Translate.predicate, Translate.conditionCall, hhelper, Operand.mentionColumn,
    Operand.firstColumnOf?, Operand.firstColumn?, Translate.fold?, Translate.callParts,
    Translate.baseOf, Translate.callee, Helper.arity, Helper.args, Helper.isCondition,
    Helper.canEvaluate, Helper.readsTimestamps, Translate.arguments, Translate.expression,
    Translate.nameArgument, Translate.literal, htable, hcolumn]
  rfl

/-- Every base has a predicate that issues one parameter named after it. -/
theorem exists_names (scope : Scope) {base : String} (h : scope.descriptor.IsBase base) :
  ∃ p : Predicate, p.Names scope base
  := by
  obtain rfl | ⟨name, type, hfound⟩ := h
  · use lookup
    apply names_lookup
  · use against name .eq (.int 0)
    apply names_against hfound

/-- A predicate with so many conditions on the key behind it. -/
def padded (p : Predicate) : Nat → Predicate
  | 0 => p
  | m + 1 => (padded p m).and (against primaryKey .eq (.int 0))

/-- Two predicates are translated one after the other. -/
theorem run_and {p q : Predicate} {scope : Scope} {t t' t'' : Trail} {c d : Condition}
    (hp : Translate.predicate scope p t = (.ok c, t'))
    (hq : Translate.predicate scope q t' = (.ok d, t'')) :
  Translate.predicate scope (p.and q) t = (.ok (.combine .both c d), t'')
  := by
  rw [and, Translate.predicate, Translate.bind_apply, hp]
  dsimp only
  rw [Translate.bind_apply, hq]
  rfl

/-- The conditions on the key come with one parameter each. -/
theorem run_padded {p : Predicate} {scope : Scope} {base : String} (h : p.Names scope base)
    (m : Nat) (t : Trail) :
  ∃ c v rest, Translate.predicate scope (p.padded m) t =
    (.ok c, { t with
      counter := t.counter + m + 1
      params := t.params ++ ⟨base ++ decimalText t.counter, v⟩ :: rest })
  := by
  induction m with
  | zero =>
      obtain ⟨c, v, hrun⟩ := h t
      use c, v, [], hrun
  | succ m ih =>
      obtain ⟨c, v, rest, hrun⟩ := ih
      have hkey : scope.descriptor.resolve? primaryKey = some (primaryKey, .integer) := rfl
      obtain ⟨d, w, hrun'⟩ := names_against hkey _
      have hboth := run_and hrun hrun'
      rw [Trail.issue, List.append_assoc] at hboth
      exact ⟨_, v, _, hboth⟩

/-- A trail that begins at a number is that of a translation. -/
theorem translate_of_run {p : Predicate} {scope : Scope} {n : Nat} {c : Condition} {t : Trail}
    (h : Translate.predicate scope p { counter := n } = (.ok c, t)) :
  p.translate scope n = ⟨.ok (c, t.params), t.counter, t.computed⟩
  := by
  simp only [translate, ExceptT.run, h]

/-- The fragment of a padded predicate begins with the parameter named after the base. -/
theorem compile_padded {p : Predicate} (rules : TranslationRules) {d : Descriptor}
    {tableAlias : Option String} {base : String}
    (h : p.Names ⟨d, tableAlias, rules.opaqueTimestamps⟩ base) (m n : Nat) :
  ∃ f v rest, ((p.padded m).compile rules d tableAlias n).result = .ok f ∧
    ((p.padded m).compile rules d tableAlias n).counter = n + m + 1 ∧
    f.params = ⟨base ++ decimalText n, v⟩ :: rest
  := by
  obtain ⟨c, v, rest, hrun⟩ := run_padded h m { counter := n }
  use ⟨c.text, ⟨base ++ decimalText n, v⟩ :: rest⟩, v, rest
  simp [compile, translate_of_run hrun]

end Predicate

/-- If a base is another with a number behind it, a conjunction has two parameters of one
name. -/
theorem exists_not_nodup {d : Descriptor} (rules : TranslationRules)
    (tableAlias : Option String) (h : ¬ Separate d.IsBase) :
  ∃ (p : Predicate) (f : Fragment), (p.compile rules d tableAlias 0).result = .ok f ∧
    ¬ (f.params.map (·.name)).Nodup
  := by
  simp only [Separate, not_forall, not_not] at h
  obtain ⟨a, b, k, ha, hb, hk, hab⟩ := h
  obtain ⟨p, hp⟩ := Predicate.exists_names ⟨d, tableAlias, rules.opaqueTimestamps⟩ ha
  obtain ⟨q, hq⟩ := Predicate.exists_names ⟨d, tableAlias, rules.opaqueTimestamps⟩ hb
  obtain ⟨c, v, rest, hrun⟩ := Predicate.run_padded hp (10 * k - 1) { counter := 0 }
  obtain ⟨c', w, hrun'⟩ := hq _
  have hboth := Predicate.translate_of_run (Predicate.run_and hrun hrun')
  use (p.padded (10 * k - 1)).and q
  refine ⟨_, by rw [Predicate.compile, hboth], ?_⟩
  apply not_nodup_of_name_eq
  rw [hab]
  apply name_collision b hk
  show 0 + (10 * k - 1) + 1 = 10 * k
  omega

/-- The parameters of every fragment on a table have different names exactly if its bases
are separate. -/
theorem compile_nodup_iff (d : Descriptor) :
  (∀ p rules tableAlias n f, (Predicate.compile p rules d tableAlias n).result = .ok f →
      (f.params.map (·.name)).Nodup) ↔ Separate d.IsBase
  := by
  constructor
  · intro h
    by_contra hseparate
    obtain ⟨p, f, hcompile, hnames⟩ := exists_not_nodup {} none hseparate
    apply hnames
    apply h p {} none 0 f hcompile
  · intro h p rules tableAlias n f hcompile
    apply (Predicate.compile_ok hcompile).2.nodup h

end EntityStore
