import EntityStore.Proofs.Join.Guards
import EntityStore.Proofs.Join.Pairings
import EntityStore.Proofs.Join.Projection
import EntityStore.Proofs.Translation.Forms

/-!
# Columns in joins

Whatever steps put a join together, the columns that its pairings and its result mention are
columns of the bound tables.  They are written without quotes, as those in filters are.
-/

namespace EntityStore

open Text Sql

/-! ### Texts that mention columns -/

namespace Sql

/-- Whether the name of a column that is mentioned is an identifier, and so is the alias. -/
structure Mention.Named (x : Mention) : Prop where
  tableAlias : ∀ a ∈ x.tableAlias, isIdentifier a = true
  name : isIdentifier x.name = true

/-- A column is written as its leaf. -/
theorem Mention.Named.writes {x : Mention} (h : x.Named) :
  Writes (columnText x.tableAlias x.name) (.leaf x.leaf)
  := by
  obtain ⟨tableAlias, name⟩ := x
  cases tableAlias with
  | none => apply lexes_word h.name
  | some a =>
      have hqualified := lexes_qualified (h.tableAlias a rfl) h.name
      show Lexes (a ++ "." ++ name) _
      rw [String.append_assoc]
      apply hqualified

/-- Whether a text is read, and the tokens of columns stand in those of the text. -/
def Shows (s : String) (xs : List Mention) : Prop :=
  ∃ ts, Lexes s ts ∧ ∀ x ∈ xs, x.tokens <:+: ts

variable {a b : String} {xs ys : List Mention}

/-- The tokens of the columns stand in those that the text is split into. -/
theorem Shows.infix_tokens (h : Shows a xs) {x : Mention} (hx : x ∈ xs) :
  x.tokens <:+: tokens a
  := by
  obtain ⟨ts, hlexes, hstand⟩ := h
  rw [hlexes.tokens_eq]
  apply hstand x hx

/-- What is written as a form shows the leaves of the form. -/
theorem Writes.shows {form : Form} (h : Writes a form) (hxs : ∀ x ∈ xs, x.leaf ∈ form.leaves) :
  Shows a xs
  := by
  use form.tokens, h
  intro x hx
  apply Form.infix_of_mem_leaves (hxs x hx)

/-- Texts with a word between them show the columns of both. -/
theorem Shows.between {word : String} (ha : Shows a xs) (hword : isIdentifier word = true)
    (hb : Shows b ys) :
  Shows (a ++ " " ++ word ++ " " ++ b) (xs ++ ys)
  := by
  obtain ⟨ts, hts, hxs⟩ := ha
  obtain ⟨us, hus, hys⟩ := hb
  use ts ++ .word word :: us, hts.between hword hus
  rw [List.forall_mem_append]
  constructor
  · intro x hx
    apply infix_between (hxs x hx) []
  · intro y hy
    have h := infix_between (hys y hy) (ts ++ [.word word]) []
    simpa using h

/-- A text in parentheses shows the same columns. -/
theorem Shows.group (h : Shows a xs) :
  Shows ("(" ++ a ++ ")") xs
  := by
  obtain ⟨ts, hts, hxs⟩ := h
  use .symbol "(" :: (ts ++ [.symbol ")"]), hts.group
  intro x hx
  apply infix_between (hxs x hx) [.symbol "("]

/-- A column under another name is shown, whatever that name is. -/
theorem shows_renamed {x : Mention} (h : x.Named) (name : String) :
  Shows (columnText x.tableAlias x.name ++ " AS " ++ quoteName name) [x]
  := by
  have hcolumn : Shows (columnText x.tableAlias x.name) [x] :=
    h.writes.shows (by simp [Form.leaves])
  have hname : Shows (quoteName name) [] := ⟨_, lexes_quoteName name, by simp⟩
  have hword : isIdentifier "AS" = true := by decide
  have hboth := hcolumn.between hword hname
  have hbetween : " AS " = " " ++ ("AS" ++ " ") := by decide
  rw [hbetween]
  simp only [String.append_assoc] at hboth ⊢
  apply hboth

/-- The columns in an equality. -/
def Equality.mentioned : Equality → List Mention
  | .columns left leftColumn right rightColumn =>
    [⟨some left, leftColumn⟩, ⟨some right, rightColumn⟩]
  | .never => []

/-- The text of an equality shows its columns. -/
theorem Equality.shows {e : Equality} (h : ∀ x ∈ e.mentioned, x.Named) :
  Shows e.sql e.mentioned
  := by
  cases e with
  | columns left leftColumn right rightColumn =>
      rw [mentioned, List.forall_mem_cons, List.forall_mem_singleton] at h
      have hoperator : "=" ∈ operators := by decide
      have hbetween : " = " = " " ++ "=" ++ " " := by decide
      have hop : [Token.symbol "="] = Operator.equal.head :: Operator.equal.tail := rfl
      have hequal := Writes.symbol hoperator hop hbetween h.1.writes h.2.writes
      have htext : sql (.columns left leftColumn right rightColumn) =
          columnText (some left) leftColumn ++ " = " ++ columnText (some right) rightColumn := by
        show left ++ "." ++ leftColumn ++ " = " ++ right ++ "." ++ rightColumn =
          left ++ "." ++ leftColumn ++ " = " ++ (right ++ "." ++ rightColumn)
        simp only [String.append_assoc]
      rw [htext]
      apply hequal.shows
      simp [mentioned, Form.leaves]
  | never =>
      apply (writes_constant false).shows
      simp [mentioned]

end Sql

namespace Pairing

/-- The columns in a pairing. -/
def mentioned : Pairing → List Mention
  | .by e => e.mentioned
  | .and before e | .or before e => before.mentioned ++ e.mentioned

/-- The text of a pairing shows its columns. -/
theorem shows {p : Pairing} (h : ∀ x ∈ p.mentioned, x.Named) :
  Shows p.sql p.mentioned
  := by
  induction p with
  | «by» e => apply Equality.shows h
  | and before e ih =>
      rw [mentioned, List.forall_mem_append] at h
      have hword : isIdentifier "AND" = true := by decide
      have hboth := (ih h.1).between hword (Equality.shows h.2)
      have hbetween : " AND " = " " ++ ("AND" ++ " ") := by decide
      show Shows (before.sql ++ " AND " ++ e.sql) _
      rw [hbetween]
      simp only [String.append_assoc] at hboth ⊢
      apply hboth
  | or before e ih =>
      rw [mentioned, List.forall_mem_append] at h
      have hword : isIdentifier "OR" = true := by decide
      have hboth := ((ih h.1).between hword (Equality.shows h.2)).group
      have hbetween : " OR " = " " ++ ("OR" ++ " ") := by decide
      show Shows ("(" ++ before.sql ++ " OR " ++ e.sql ++ ")") _
      rw [hbetween]
      simp only [String.append_assoc] at hboth ⊢
      apply hboth

/-- One equality more adds no columns but its own. -/
theorem mentioned_add {before : Option Pairing} {logic : Option Logic} {e : Equality}
    {x : Mention} (hx : x ∈ (add before (logic, e)).mentioned) :
  (∃ p ∈ before, x ∈ p.mentioned) ∨ x ∈ e.mentioned
  := by
  cases logic with
  | none => right; apply hx
  | some logic =>
      cases before with
      | none =>
          right
          cases logic <;> apply hx
      | some p =>
          have hboth : x ∈ p.mentioned ++ e.mentioned := by cases logic <;> apply hx
          simpa using hboth

end Pairing

namespace Join

variable {r : Registry} {j k : Join} {s : JoinStep} {x : Mention}

/-! ### Columns of bound tables -/

/-- Whether a column is mentioned as one of a bound table of a join. -/
def Owns (j : Join) (x : Mention) : Prop :=
  ∃ b ∈ j.bindings, x.IsOf ⟨b.descriptor, some b.tableAlias, false⟩

/-- What is bound stays bound where more is. -/
theorem Owns.mono (h : j.Owns x) (hbindings : j.bindings ⊆ k.bindings) :
  k.Owns x
  := by
  obtain ⟨b, hb, hof⟩ := h
  exact ⟨b, hbindings hb, hof⟩

/-- A join that leads from bound tables to bound tables, and mentions columns of these. -/
structure MentionsOwn (j : Join) : Prop where
  left : j.left ∈ j.bindings
  pins : ∀ p ∈ j.pins, p.binding ∈ j.bindings
  pairings : ∀ c ∈ j.clauses, ∀ p ∈ c.pairing, ∀ x ∈ p.mentioned, j.Owns x

/-- The columns of an equality are those of the two tables. -/
theorem owns_of_equality (hleft : j.left ∈ j.bindings) {key other : String} {e : Equality}
    (he : (j.equality key other).2 = some e) (hx : x ∈ e.mentioned) :
  j.Owns x
  := by
  unfold equality at he
  split at he
  · next l _ r _ hl hr =>
      cases he
      obtain rfl | rfl : x = _ ∨ x = _ := by simpa [Equality.mentioned] using hx
      · exact ⟨j.left, hleft, rfl, key, _, hl⟩
      · exact ⟨j.right, j.right_mem_bindings, rfl, other, _, hr⟩
  · dsimp only at he
    split at he
    · cases he
      cases hx
    · cases he

/-- A pairing by one equality more leaves the clauses as they are if there is no such equality,
and else adds it to the last of them. -/
theorem clauses_pairBy (j : Join) (key other : String)
    (combine : Option Pairing → Equality → Pairing) :
  (j.pairBy key other combine).clauses = j.clauses ∨
    ∃ e, (j.equality key other).2 = some e ∧ (j.pairBy key other combine).clauses =
      j.earlier ++ [{ j.current with pairing := some (combine j.current.pairing e) }]
  := by
  unfold Join.pairBy Join.unlessVoid
  split
  · left; rfl
  · obtain ⟨reports, failure, hequality⟩ := equality_eq j key other
    dsimp only
    cases heq : j.equality key other with
    | mk j' e =>
        rw [heq] at hequality
        subst hequality
        cases e with
        | none => left; rfl
        | some e => right; exact ⟨e, rfl, rfl⟩

/-- A step that begins no clause leaves every pairing as it is, or adds an equality to the last. -/
theorem pairings_of_step (hstep : j.step s = .ok k) (hjoined : s.joined? = none)
    {c : JoinClause} (hc : c ∈ k.clauses) {p : Pairing} (hp : p ∈ c.pairing) :
  (∃ c ∈ j.clauses, p ∈ c.pairing) ∨
    ∃ key other logic e, (j.equality key other).2 = some e ∧
      p = Pairing.add j.current.pairing (logic, e)
  := by
  cases hpaired : s.paired? with
  | none =>
      obtain ⟨hcurrent, hearlier⟩ := clause_of_step hstep hpaired hjoined
      left
      rw [clauses, hcurrent, hearlier] at hc
      exact ⟨c, hc, hp⟩
  | some asked =>
      obtain ⟨logic, key, other⟩ := asked
      have hk : k = j.pairBy key other fun before e => Pairing.add before (logic, e) := by
        cases s with
        | on | and | or =>
            cases hpaired
            cases hstep
            rfl
        | _ => cases hpaired
      subst hk
      obtain hsame | ⟨e, he, hadded⟩ := clauses_pairBy j key other _
      · left
        rw [hsame] at hc
        exact ⟨c, hc, hp⟩
      · rw [hadded] at hc
        obtain hc | hc := List.mem_append.mp hc
        · left
          exact ⟨c, List.mem_append_left _ hc, hp⟩
        · right
          obtain rfl := List.mem_singleton.mp hc
          cases hp
          exact ⟨key, other, logic, e, he, rfl⟩

/-- A step that begins no clause pairs by columns of the bound tables. -/
theorem MentionsOwn.of_sameTables (h : j.MentionsOwn) (hstep : j.step s = .ok k)
    (hjoined : s.joined? = none) :
  k.MentionsOwn
  := by
  have htables := sameTables_of_step hstep hjoined
  have hbound : j.bindings ⊆ k.bindings := by rw [htables.bindings]; apply List.Subset.refl
  constructor
  · rw [htables.left]
    apply hbound h.left
  · intro p hp
    rw [htables.bindings]
    exact (htables.pins p hp).elim (h.pins p) id
  · intro c hc p hp x hx
    apply Owns.mono _ hbound
    obtain ⟨c', hc', hp⟩ | ⟨key, other, logic, e, he, rfl⟩ := pairings_of_step hstep hjoined hc hp
    · apply h.pairings c' hc' p hp x hx
    · obtain ⟨p, hp, hx⟩ | hx := Pairing.mentioned_add hx
      · apply h.pairings j.current (by simp [clauses]) p hp x hx
      · apply owns_of_equality h.left he hx

/-- Every step keeps a join to columns of its own tables. -/
theorem MentionsOwn.step (h : j.MentionsOwn) (hstep : j.step s = .ok k) :
  k.MentionsOwn
  := by
  cases s with
  | next kind left right tableAlias =>
      obtain ⟨void, rfl⟩ | ⟨b, joined, hlatest, -, rfl⟩ := next_cases hstep
      · exact ⟨h.left, h.pins, h.pairings⟩
      · have hbindings : Join.bindings
            { j with earlier := j.clauses, current := ⟨kind, joined, none⟩, left := b } =
            j.bindings ++ [joined] := by simp [Join.bindings, clauses]
        have hbound := List.subset_append_left j.bindings [joined]
        rw [← hbindings] at hbound
        constructor
        · apply hbound (mem_bindings_of_latest? hlatest)
        · intro p hp
          apply hbound (h.pins p hp)
        · rw [clauses, List.forall_mem_append, List.forall_mem_singleton]
          constructor
          · intro c hc p hp x hx
            apply (h.pairings c hc p hp x hx).mono hbound
          · simp
  | _ => apply h.of_sameTables hstep rfl

/-- A join that is put together over a registry mentions columns of its own tables. -/
theorem Chained.mentionsOwn (h : j.Chained r) :
  j.MentionsOwn
  := by
  induction h with
  | start h =>
      obtain ⟨base, -, h⟩ := exists_of_bind_ok h
      obtain ⟨joined, -, h⟩ := exists_of_bind_ok h
      cases h
      constructor <;> simp [bindings, clauses]
  | step _ hstep ih => apply ih.step hstep

/-- A column of the result is one of a bound table. -/
theorem MentionsOwn.projected (h : j.MentionsOwn) {destination : RecordType} {field : Field}
    {b : Binding} {column : String} (hentry : (field, b, column) ∈ j.projection destination) :
  j.Owns ⟨some b.tableAlias, column⟩
  := by
  obtain ⟨-, hsource⟩ := mem_projection.mp hentry
  obtain ⟨⟨before, pin, behind, hpins, rfl, -⟩, type, hfound⟩ |
    ⟨-, before, behind, hbindings, hfound, -⟩ := source?_eq_some_iff.mp hsource
  · exact ⟨pin.binding, h.pins pin (by simp [hpins]), rfl, field.name, type, hfound⟩
  · exact ⟨b, by simp [hbindings], rfl, field.name, field.columnType, hfound⟩

/-- The names of a column that is mentioned as one of a bound table are identifiers if those of
all bound tables are. -/
theorem Owns.named (h : j.Owns x) (hbindings : ∀ b ∈ j.bindings, b.Named) :
  x.Named
  := by
  obtain ⟨b, hb, htableAlias, name, type, hresolve⟩ := h
  have hb := hbindings b hb
  constructor
  · rw [htableAlias]
    rintro a ⟨⟩
    apply hb.tableAlias
  · apply (hb.scope false).resolve hresolve

end Join

end EntityStore
