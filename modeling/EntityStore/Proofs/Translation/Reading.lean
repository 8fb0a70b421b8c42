import EntityStore.Entity.Statement
import EntityStore.Proofs.Sql.Formula
import EntityStore.Proofs.Translation.Writing

/-!
# Reading conditions back

The condition that is made for a predicate has the form of the predicate: its negations,
conjunctions and disjunctions are the same.  Its text is read as that formula and as no
other, alone and among conditions that are asked for together.
-/

namespace EntityStore

open Sql

/-! ### Forms -/

/-- A condition as a formula over those that are put together from no others. -/
def Sql.Condition.formula : Condition → Formula Condition
  | .not c => .not c.formula
  | .combine logic c d => .combine logic c.formula d.formula
  | c => .atom c

/-- A condition that is put together from no others is an atom. -/
theorem Sql.Condition.Basic.formula_eq {scope : Scope} {c : Condition} (h : c.Basic scope) :
  c.formula = .atom c
  := by cases h <;> rfl

namespace Predicate

/-- A predicate as a formula.  The negation of a column or of a constant is an atom. -/
def formula : Predicate → Formula Predicate
  | .not (.member column) => .atom (.not (.member column))
  | .not (.constant b) => .atom (.not (.constant b))
  | .not p => .not p.formula
  | .combine logic p q => .combine logic p.formula q.formula
  | p => .atom p

/-- A condition is made for a predicate that is an atom, in some translation over a scope. -/
structure Makes (scope : Scope) (p : Predicate) (c : Condition) : Prop where
  isAtom : p.formula = .atom p
  isMade : ∃ t t', Translate.predicate scope p t = (.ok c, t')

variable {scope : Scope} {p : Predicate} {c : Condition}

/-- The condition that is made for an atom is put together from no others. -/
theorem Makes.basic (h : Makes scope p c) :
  c.Basic scope
  := by
  obtain ⟨hatom, t, t', hrun⟩ := h
  cases p with
  | constant b =>
      rw [Translate.predicate] at hrun
      cases hrun
      apply Condition.Basic.constant
  | member column =>
      rw [Translate.predicate] at hrun
      apply (Translate.issues_member column true).result scope.descriptor.IsBase hrun
  | compare l op r =>
      rw [Translate.predicate] at hrun
      apply (Translate.issues_comparison l op r).result scope.descriptor.IsBase hrun
  | call name args =>
      rw [Translate.predicate] at hrun
      apply (Translate.issues_conditionCall name args).result scope.descriptor.IsBase hrun
  | not p =>
      cases p with
      | constant b =>
          rw [Translate.predicate] at hrun
          cases hrun
          apply Condition.Basic.constant
      | member column =>
          rw [Translate.predicate] at hrun
          apply (Translate.issues_member column false).result scope.descriptor.IsBase hrun
      | _ => cases hatom
  | combine logic p q => cases hatom

/-- An atom and the condition that is made for it are alike. -/
theorem alike_of_atom {t t' : Trail} (hatom : p.formula = .atom p)
    (h : Translate.predicate scope p t = (.ok c, t')) :
  p.formula.Alike (Makes scope) c.formula
  := by
  have hmakes : Makes scope p c := ⟨hatom, t, t', h⟩
  rw [hatom, hmakes.basic.formula_eq]
  apply Formula.Alike.atom hmakes

/-- The condition that is made for a predicate has the form of the predicate. -/
theorem alike_of_run {t t' : Trail} (h : Translate.predicate scope p t = (.ok c, t')) :
  p.formula.Alike (Makes scope) c.formula
  := by
  induction p using Translate.predicate.induct generalizing t c t' with
  | case1 b => apply alike_of_atom rfl h
  | case2 column => apply alike_of_atom rfl h
  | case3 l op r => apply alike_of_atom rfl h
  | case4 name args => apply alike_of_atom rfl h
  | case5 column => apply alike_of_atom rfl h
  | case6 b => apply alike_of_atom rfl h
  | case7 p hmember hconstant ih =>
      rw [Translate.predicate.eq_7 scope p hmember hconstant] at h
      obtain ⟨c', t₁, hp, hnot⟩ := Translate.exists_of_bind_eq_ok h
      cases hnot
      rw [formula.eq_3 p hmember hconstant]
      apply Formula.Alike.not (ih hp)
  | case8 logic p q ihp ihq =>
      rw [Translate.predicate] at h
      obtain ⟨c', t₁, hp, h⟩ := Translate.exists_of_bind_eq_ok h
      obtain ⟨d', t₂, hq, hcombine⟩ := Translate.exists_of_bind_eq_ok h
      cases hcombine
      rw [formula]
      apply Formula.Alike.combine logic (ihp hp) (ihq hq)

end Predicate

/-! ### Texts -/

namespace Sql

/-- The tokens of a condition that is made for an atom over some scope of identifiers, or of
a guard against deleted rows. -/
inductive Atomic : List Token → Prop
  | made {scope : Scope} {p : Predicate} {c : Condition} (hscope : scope.Named)
      (h : p.Makes scope c) : Atomic (tokens c.text)
  | guard {tableAlias : String} (h : isIdentifier tableAlias = true) :
      Atomic (tokens (activeGuard tableAlias))
  | ownGuard {d : Descriptor} {text : String} (h : text ∈ d.guards) : Atomic (tokens text)

/-- A text that is a comparison has the tokens of one. -/
theorem IsComparison.tokens {s : String} (h : IsComparison s) :
  Comparison (tokens s)
  := by
  obtain ⟨ts, hlexes, hcomparison⟩ := h
  rw [hlexes.tokens_eq]
  apply hcomparison

/-- The guard of a table under an alias is a comparison. -/
theorem isComparison_activeGuard {tableAlias : String} (h : isIdentifier tableAlias = true) :
  IsComparison (activeGuard tableAlias)
  := Grammar.reading.comparison_activeGuard h

/-- The guard of a table on its own is a comparison. -/
theorem isComparison_guards {d : Descriptor} {text : String} (h : text ∈ d.guards) :
  IsComparison text
  := by
  unfold Descriptor.guards at h
  split at h
  · obtain rfl := List.mem_singleton.mp h
    exact Grammar.reading.comparison_equal (Grammar.reading.quotedName activeFlag)
      (Grammar.reading.term_digit true)
  · cases h

/-- Atoms are comparisons. -/
theorem Atomic.comparison {ts : List Token} (h : Atomic ts) :
  Comparison ts
  := by
  cases h with
  | made hscope h => apply (hscope.isComparison_text h.basic).tokens
  | guard h => apply (isComparison_activeGuard h).tokens
  | ownGuard h => apply (isComparison_guards h).tokens

/-- Whether a text is read as a formula of given atoms. -/
def ReadBy (isAtom : List Token → Prop) (level : Level) (s : String)
    (f : Formula (List Token)) : Prop :=
  ∃ ts, Lexes s ts ∧ Reads isAtom level ts f

section

variable {isAtom : List Token → Prop} {s s' : String} {f g : Formula (List Token)}

/-- Two formulas with the word between them are read as their conjunction. -/
theorem ReadBy.and (hf : ReadBy isAtom .conjunction s f) (hg : ReadBy isAtom .negation s' g) :
  ReadBy isAtom .conjunction (s ++ " " ++ "AND" ++ " " ++ s') (.combine .both f g)
  := by
  obtain ⟨ts, hts, hf⟩ := hf
  obtain ⟨us, hus, hg⟩ := hg
  use ts ++ .word "AND" :: us, hts.between (by decide) hus
  apply Reads.and hf (by decide) hg

/-- What is read as a negation or more tightly is read as a conjunction. -/
theorem ReadBy.factor (h : ReadBy isAtom .negation s f) :
  ReadBy isAtom .conjunction s f
  := by
  obtain ⟨ts, hlexes, hreads⟩ := h
  use ts, hlexes, hreads.factor

/-- What is read as a conjunction is read as a disjunction. -/
theorem ReadBy.term (h : ReadBy isAtom .conjunction s f) :
  ReadBy isAtom .disjunction s f
  := by
  obtain ⟨ts, hlexes, hreads⟩ := h
  use ts, hlexes, hreads.term

/-- A formula in parentheses is read as itself. -/
theorem ReadBy.group (h : ReadBy isAtom .disjunction s f) :
  ReadBy isAtom .negation ("(" ++ s ++ ")") f
  := by
  obtain ⟨ts, hlexes, hreads⟩ := h
  use .symbol "(" :: (ts ++ [.symbol ")"]), hlexes.group, hreads.group

/-- Two formulas with the word between them are read as their disjunction. -/
theorem ReadBy.or (hf : ReadBy isAtom .disjunction s f) (hg : ReadBy isAtom .conjunction s' g) :
  ReadBy isAtom .disjunction (s ++ " " ++ "OR" ++ " " ++ s') (.combine .either f g)
  := by
  obtain ⟨ts, hts, hf⟩ := hf
  obtain ⟨us, hus, hg⟩ := hg
  use ts ++ .word "OR" :: us, hts.between (by decide) hus
  apply Reads.or hf (by decide) hg

/-- A text that is read as a formula of comparisons is read as no other. -/
theorem ReadBy.unique {level : Level} (hatom : ∀ ts, isAtom ts → Comparison ts)
    (h : ReadBy isAtom level s f) (g : Formula (List Token)) :
  Reads isAtom level (tokens s) g ↔ g = f
  := by
  obtain ⟨ts, hlexes, hreads⟩ := h
  rw [hlexes.tokens_eq]
  constructor
  · intro hreads'
    apply hreads'.unique hatom hreads
  · rintro rfl
    apply hreads

/-- Texts that are joined are read as the conjunction of what each is read as. -/
theorem readBy_allOf {rest : List (String × Formula (List Token))}
    (h : ReadBy isAtom .conjunction s f)
    (hrest : ∀ x ∈ rest, ReadBy isAtom .negation x.1 x.2) :
  ReadBy isAtom .conjunction (allOf (s :: rest.map (·.1)))
    ((rest.map (·.2)).foldl (.combine .both) f)
  := by
  -- The first two texts are read as one conjunction, which the others are added to.
  induction rest generalizing s f with
  | nil =>
      show ReadBy isAtom .conjunction (" AND ".intercalate [s]) f
      rw [String.intercalate_singleton]
      apply h
  | cons x rest ih =>
      have hx := h.and (hrest x (by simp))
      have hmore := ih hx fun y hy => hrest y (List.mem_cons_of_mem _ hy)
      have hjoint : " " ++ "AND" ++ " " = " AND " := by decide
      have htext : s ++ " " ++ "AND" ++ " " ++ x.1 = (s ++ " AND ") ++ x.1 := by
        rw [← hjoint]
        simp only [String.append_assoc]
      have hall : allOf (s :: (x :: rest).map (·.1)) =
          allOf ((s ++ " " ++ "AND" ++ " " ++ x.1) :: rest.map (·.1)) := by
        rw [htext, allOf, allOf, String.intercalate_cons_append, List.map_cons,
          String.intercalate_cons_cons]
      rw [hall]
      apply hmore

end

/-- Whether a text is read as a formula of atoms. -/
def IsRead (level : Level) (s : String) (f : Formula (List Token)) : Prop :=
  ∃ ts, Lexes s ts ∧ Reads Atomic level ts f

variable {level : Level} {s s' : String} {f g : Formula (List Token)}

/-- A text that is read as a formula is read as no other. -/
theorem IsRead.unique (h : IsRead level s f) (g : Formula (List Token)) :
  Reads Atomic level (tokens s) g ↔ g = f
  := ReadBy.unique (fun _ => Atomic.comparison) h g

/-- A comparison is read as itself. -/
theorem isRead_atom (h : IsComparison s) (hatom : Atomic (tokens s)) :
  IsRead .negation s (.atom (tokens s))
  := by
  obtain ⟨ts, hlexes, -⟩ := h
  use ts, hlexes
  rw [hlexes.tokens_eq] at hatom ⊢
  apply Reads.atom hatom

/-- A formula in parentheses behind the word is read as its negation. -/
theorem IsRead.not (h : IsRead .disjunction s f) :
  IsRead .negation ("NOT (" ++ s ++ ")") f.not
  := by
  obtain ⟨ts, hlexes, hreads⟩ := h
  use .word "NOT" :: .symbol "(" :: (ts ++ [.symbol ")"]), hlexes.negation
  apply Reads.not (by decide) hreads.group

/-- What is read as a negation or more tightly is read as a conjunction. -/
theorem IsRead.factor (h : IsRead .negation s f) :
  IsRead .conjunction s f
  := ReadBy.factor h

/-- What is read as a conjunction is read as a disjunction. -/
theorem IsRead.term (h : IsRead .conjunction s f) :
  IsRead .disjunction s f
  := ReadBy.term h

/-- A formula in parentheses is read as itself. -/
theorem IsRead.group (h : IsRead .disjunction s f) :
  IsRead .negation ("(" ++ s ++ ")") f
  := ReadBy.group h

/-- Two formulas with the word between them are read as their conjunction. -/
theorem IsRead.and (hf : IsRead .conjunction s f) (hg : IsRead .negation s' g) :
  IsRead .conjunction (s ++ " " ++ "AND" ++ " " ++ s') (.combine .both f g)
  := ReadBy.and hf hg

/-- Two formulas with the word between them are read as their disjunction. -/
theorem IsRead.or (hf : IsRead .disjunction s f) (hg : IsRead .conjunction s' g) :
  IsRead .disjunction (s ++ " " ++ "OR" ++ " " ++ s') (.combine .either f g)
  := ReadBy.or hf hg

/-- Two formulas that are connected in parentheses. -/
theorem IsRead.combine (logic : Logic) (hf : IsRead .negation s f) (hg : IsRead .negation s' g) :
  IsRead .negation ("(" ++ (s ++ " " ++ logic.sql ++ " " ++ s') ++ ")") (.combine logic f g)
  := by
  cases logic with
  | both => apply (hf.factor.and hg).term.group
  | either => apply (hf.factor.term.or hg.factor).group

/-- A condition is read as its formula, wherever an atom can stand. -/
theorem isRead_text {c : Condition}
    (h : c.formula.All fun d => IsComparison d.text ∧ Atomic (tokens d.text)) :
  IsRead .negation c.text (c.formula.map fun d => tokens d.text)
  := by
  induction c with
  | not c ih => apply (ih h).factor.term.not
  | combine logic c d ihc ihd =>
      have hread := IsRead.combine logic (ihc h.1) (ihd h.2)
      show IsRead .negation ("(" ++ c.text ++ " " ++ logic.sql ++ " " ++ d.text ++ ")") _
      simp only [String.append_assoc] at hread ⊢
      apply hread
  | constant b => apply isRead_atom h.1 h.2
  | truth tableAlias column expected => apply isRead_atom h.1 h.2
  | compare l operator r => apply isRead_atom h.1 h.2
  | call helper args => apply isRead_atom h.1 h.2

/-- Texts that are joined are read as the conjunction of what each is read as. -/
theorem isRead_allOf {rest : List (String × Formula (List Token))} (h : IsRead .conjunction s f)
    (hrest : ∀ x ∈ rest, IsRead .negation x.1 x.2) :
  IsRead .conjunction (allOf (s :: rest.map (·.1)))
    ((rest.map (·.2)).foldl (.combine .both) f)
  := readBy_allOf h hrest

/-- The part of a statement that asks for conditions is read as a word and the conditions. -/
theorem tokens_whereSql {conditions : List String} (hne : conditions ≠ [])
    (h : IsRead level (allOf conditions) f) :
  tokens (whereSql conditions) = .word "WHERE" :: tokens (allOf conditions)
  := by
  obtain ⟨ts, hconditions, -⟩ := h
  have hword : Lexes "WHERE" [.word "WHERE"] := lexes_word (by decide)
  have hlexes := hword.blank hconditions
  have hblank := hlexes.opens.tokensOf_blank []
  have hwhere : whereSql conditions = " WHERE " ++ allOf conditions := by
    rw [whereSql, if_neg (by simpa using hne)]
    rfl
  have hparts : (whereSql conditions).toList =
      ' ' :: ("WHERE" ++ " " ++ allOf conditions).toList := by simp [hwhere]
  rw [List.append_nil] at hblank
  rw [tokens, hparts, hblank, hconditions.tokens_eq]
  apply hlexes.tokens_eq

/-- What a statement can ask for besides other conditions, and the formula it stands for: the
condition that is made for a predicate over a scope of identifiers, or a guard. -/
inductive Conjunct : String → Formula (List Token) → Prop
  | made {scope : Scope} {p : Predicate} {n : Nat} {c : Condition} {params : List Param}
      (hscope : scope.Named) (h : (p.translate scope n).outcome = .ok (c, params)) :
      Conjunct c.text (c.formula.map fun d => tokens d.text)
  | guard {tableAlias : String} (h : isIdentifier tableAlias = true) :
      Conjunct (activeGuard tableAlias) (.atom (tokens (activeGuard tableAlias)))
  | ownGuard {d : Descriptor} {text : String} (h : text ∈ d.guards) :
      Conjunct text (.atom (tokens text))

end Sql

/-- The condition of a translation has the form of the predicate. -/
theorem Predicate.alike_of_translate {scope : Scope} {p : Predicate} {n : Nat} {c : Condition}
    {params : List Param} (h : (p.translate scope n).outcome = .ok (c, params)) :
  p.formula.Alike (Makes scope) c.formula
  := by
  unfold translate at h
  split at h
  · rename_i c' t hrun
    cases h
    apply alike_of_run hrun
  · cases h

/-- The conditions in a translation that are no conjunctions and the like are those that are
made for such predicates. -/
theorem Predicate.basic_of_translate {scope : Scope} {p : Predicate} {n : Nat} {c : Condition}
    {params : List Param} (h : (p.translate scope n).outcome = .ok (c, params)) :
  c.formula.All (·.Basic scope)
  := by
  apply (alike_of_translate h).all
  intro _ _ hmade
  apply hmade.basic

namespace Sql

/-- The condition of a translation is read as its formula. -/
theorem isRead_translate {scope : Scope} {p : Predicate} {n : Nat} {c : Condition}
    {params : List Param} (hscope : scope.Named)
    (h : (p.translate scope n).outcome = .ok (c, params)) :
  IsRead .negation c.text (c.formula.map fun d => tokens d.text)
  := by
  apply isRead_text
  apply (Predicate.alike_of_translate h).all
  intro q d hd
  use hscope.isComparison_text hd.basic, .made hscope hd

/-- What a predicate comes to can be asked for, whatever the policy: a predicate without SQL
comes to what is made for a constant. -/
theorem exists_conjunct_of_compile {p : Predicate} {rules : TranslationRules} {d : Descriptor}
    {tableAlias : Option String} {n : Nat} {fragment : Fragment}
    (hscope : Scope.Named ⟨d, tableAlias, rules.opaqueTimestamps⟩)
    (h : (p.compile rules d tableAlias n).result = .ok fragment) :
  ∃ f, Conjunct fragment.sql f
  := by
  cases hout : (p.translate ⟨d, tableAlias, rules.opaqueTimestamps⟩ n).outcome with
  | ok made =>
      obtain ⟨c, params⟩ := made
      rw [Predicate.compile_of_ok hout] at h
      cases h
      exact ⟨_, .made hscope hout⟩
  | error u =>
      rw [Predicate.compile_of_error hout] at h
      unfold TranslationRules.degrade at h
      split at h
      · cases h
      · cases h
        have hnever : (Predicate.never.translate
            ⟨d, tableAlias, rules.opaqueTimestamps⟩ n).outcome = .ok (.constant false, []) := rfl
        exact ⟨_, .made hscope hnever⟩

/-- What a statement can ask for is read as the formula it stands for. -/
theorem Conjunct.isRead {s : String} {f : Formula (List Token)} (h : Conjunct s f) :
  IsRead .negation s f
  := by
  cases h with
  | made hscope h => apply isRead_translate hscope h
  | guard h => apply isRead_atom (isComparison_activeGuard h) (.guard h)
  | ownGuard h => apply isRead_atom (isComparison_guards h) (.ownGuard h)

/-- Conditions that the statement of a table, a join or a plan asks for together are read as
their conjunction. -/
theorem reads_conjunction {conditions : List (String × Formula (List Token))}
    (hne : conditions ≠ []) (h : ∀ x ∈ conditions, Conjunct x.1 x.2) :
  tokens (whereSql (conditions.map (·.1))) =
      .word "WHERE" :: tokens (allOf (conditions.map (·.1))) ∧
    ∀ f, Reads Atomic .disjunction (tokens (allOf (conditions.map (·.1)))) f ↔
      Formula.conjunction? (conditions.map (·.2)) = some f
  := by
  cases conditions with
  | nil => cases hne rfl
  | cons x rest =>
      have hread := isRead_allOf (h x (by simp)).isRead.factor fun y hy =>
        (h y (List.mem_cons_of_mem _ hy)).isRead
      constructor
      · apply tokens_whereSql (by simp) hread
      · intro f
        rw [List.map_cons, hread.term.unique, List.map_cons, Formula.conjunction?,
          Option.some_inj, eq_comm]

end Sql

/-- A predicate that is translated over a scope of identifiers is read back from its text:
the formula that is read has the form of the predicate and the texts made for its atoms.
Among any conditions that a statement asks for together, the text is read as one of them. -/
theorem Predicate.translate_reads {scope : Scope} {p : Predicate} {n : Nat} {c : Condition}
    {params : List Param} (hscope : scope.Named)
    (h : (p.translate scope n).outcome = .ok (c, params)) :
  p.formula.Alike (Makes scope) c.formula ∧
    (∀ f, Reads Atomic .disjunction (tokens c.text) f ↔
      f = c.formula.map fun d => tokens d.text) ∧
    ∀ conditions : List (String × Formula (List Token)),
      (c.text, c.formula.map fun d => tokens d.text) ∈ conditions →
      (∀ x ∈ conditions, Conjunct x.1 x.2) →
      tokens (whereSql (conditions.map (·.1))) =
          .word "WHERE" :: tokens (allOf (conditions.map (·.1))) ∧
        ∀ f, Reads Atomic .disjunction (tokens (allOf (conditions.map (·.1)))) f ↔
          Formula.conjunction? (conditions.map (·.2)) = some f
  := by
  constructor
  · apply alike_of_translate h
  · constructor
    · apply (isRead_translate hscope h).factor.term.unique
    · intro conditions hmem hconditions
      apply reads_conjunction (List.ne_nil_of_mem hmem) hconditions

/-- A disjunction with a negation in it, read back. -/
theorem Predicate.adult_or_kept_reads :
  let d : Descriptor :=
    { table := "Person", typeName := "Person", columns := [{ name := "Age", type := .integer }] }
  let p : Predicate :=
    .or (.against "Age" .gt (.int 18)) (.not (.and (.isFalse "IsActive") .never))
  (p.compile {} d none 0).result =
      .ok ⟨"(Age > @Age0 OR NOT ((IsActive = 0 AND 1 != 1)))", [⟨"Age0", .int 18⟩]⟩ ∧
    ∀ f, Reads Atomic .disjunction
        (tokens "(Age > @Age0 OR NOT ((IsActive = 0 AND 1 != 1)))") f ↔
      f = .combine .either (.atom (tokens "Age > @Age0"))
        (.not (.combine .both (.atom (tokens "IsActive = 0")) (.atom (tokens "1 != 1"))))
  := by
  intro d p
  have hscope : Scope.Named ⟨d, none, false⟩ := by
    constructor
    · simp [d]
      decide
    · simp
  constructor
  · rfl
  · apply (translate_reads (p := p) (n := 0) hscope rfl).2.1

end EntityStore
