import EntityStore.Proofs.Join.Cursor
import EntityStore.Proofs.Join.Slots
import EntityStore.Proofs.Sql.Selection

/-!
# Pairings of joins

The rows of two tables are paired by equalities that are combined one after the other.  The
text of a pairing is a conjunction at every time, as a disjunction is put in parentheses, so
that the next equality is combined with all that is before it.  `Spells` tells how a text is put
together from texts of any kind; the text is read in this way if these are comparisons.
-/

namespace EntityStore

open Text Sql

/-! ### Texts of formulas -/

namespace Sql

/-- How a text is put together as a formula from texts of atoms, where a conjunction binds more
tightly than a disjunction. -/
inductive Spells (isAtom : String → Prop) : Level → String → Formula String → Prop
  | atom {s : String} (h : isAtom s) : Spells isAtom .negation s (.atom s)
  | group {s : String} {f : Formula String} (h : Spells isAtom .disjunction s f) :
      Spells isAtom .negation ("(" ++ s ++ ")") f
  | factor {s : String} {f : Formula String} (h : Spells isAtom .negation s f) :
      Spells isAtom .conjunction s f
  | and {s s' : String} {f g : Formula String} (hf : Spells isAtom .conjunction s f)
      (hg : Spells isAtom .negation s' g) :
      Spells isAtom .conjunction (s ++ " " ++ "AND" ++ " " ++ s') (.combine .both f g)
  | term {s : String} {f : Formula String} (h : Spells isAtom .conjunction s f) :
      Spells isAtom .disjunction s f
  | or {s s' : String} {f g : Formula String} (hf : Spells isAtom .disjunction s f)
      (hg : Spells isAtom .conjunction s' g) :
      Spells isAtom .disjunction (s ++ " " ++ "OR" ++ " " ++ s') (.combine .either f g)

variable {isAtom : String → Prop} {level : Level} {s : String} {f : Formula String}

/-- A text that is put together from comparisons is read as it is put together. -/
theorem Spells.readBy (hatom : ∀ s, isAtom s → IsComparison s) (h : Spells isAtom level s f) :
  ReadBy Comparison level s (f.map tokens)
  := by
  induction h with
  | atom h => apply (hatom _ h).stands
  | group _ ih => apply ih.group
  | factor _ ih => apply ih.factor
  | and _ _ ihf ihg => apply ihf.and ihg
  | term _ ih => apply ih.term
  | or _ _ ihf ihg => apply ihf.or ihg

end Sql

namespace Pairing

/-- A pairing as a formula of equalities. -/
def formula : Pairing → Formula Equality
  | .by e => .atom e
  | .and before e => .combine .both before.formula (.atom e)
  | .or before e => .combine .either before.formula (.atom e)

/-- The text of a pairing is put together as a conjunction. -/
theorem spells {isAtom : String → Prop} :
    ∀ {p : Pairing}, (p.formula.All fun e => isAtom e.sql) →
      Spells isAtom .conjunction p.sql (p.formula.map Equality.sql)
  | .by e, h => .factor (.atom h)
  | .and before e, h => by
      have hboth := (spells h.1).and (.atom h.2)
      show Spells isAtom .conjunction (before.sql ++ " AND " ++ e.sql) _
      simp only [String.append_assoc] at hboth ⊢
      apply hboth
  | .or before e, h => by
      have hgroup := ((spells h.1).term.or (.factor (.atom h.2))).group.factor
      show Spells isAtom .conjunction ("(" ++ before.sql ++ " OR " ++ e.sql ++ ")") _
      simp only [String.append_assoc] at hgroup ⊢
      apply hgroup

/-- A pairing with one equality more: alone, or combined with what is before it. -/
def add (before : Option Pairing) : Option Logic × Equality → Pairing
  | (none, e) => .by e
  | (some .both, e) => before.elim (.by e) (.and · e)
  | (some .either, e) => before.elim (.by e) (.or · e)

/-- Equalities that are combined from left to right. -/
def combination (first : Equality) (rest : List (Logic × Equality)) : Formula Equality :=
  rest.foldl (fun f x => .combine x.1 f (.atom x.2)) (.atom first)

/-- One more equality is combined with all before it. -/
theorem combination_append (first : Equality) (rest : List (Logic × Equality))
    (x : Logic × Equality) :
  combination first (rest ++ [x]) = .combine x.1 (combination first rest) (.atom x.2)
  := by simp [combination]

/-- What holds of all equalities holds of all that are combined. -/
theorem all_combination {has : Equality → Prop} {first : Equality}
    {rest : List (Logic × Equality)} (hfirst : has first) (hrest : ∀ x ∈ rest, has x.2) :
  (combination first rest).All has
  := by
  induction rest using List.reverseRecOn with
  | nil => apply hfirst
  | append_singleton rest x ih =>
      rw [List.forall_mem_append, List.forall_mem_singleton] at hrest
      rw [combination_append]
      exact ⟨ih hrest.1, hrest.2⟩

/-- Whether an equality and those after it are all that is asked for since the last one that
stands alone, or all that is asked for if there is none. -/
def Since (asked : List (Option Logic × Equality)) (first : Equality)
    (rest : List (Logic × Equality)) : Prop :=
  ∃ earlier logic, asked = earlier ++ (logic, first) :: rest.map (fun x => (some x.1, x.2)) ∧
    (logic = none ∨ earlier = [])

variable {asked : List (Option Logic × Equality)} {first first' : Equality}
  {rest rest' : List (Logic × Equality)}

/-- What is asked for last is combined with what is asked for before. -/
theorem Since.append (h : Since asked first rest) (x : Logic × Equality) :
  Since (asked ++ [(some x.1, x.2)]) first (rest ++ [x])
  := by
  obtain ⟨earlier, logic, rfl, hfirst⟩ := h
  use earlier, logic
  constructor
  · simp
  · apply hfirst

/-- An equality that stands alone, or before which nothing is asked for, is the first. -/
theorem since_singleton {logic : Option Logic} {e : Equality} (h : logic = none ∨ asked = []) :
  Since (asked ++ [(logic, e)]) e []
  := ⟨asked, logic, rfl, h⟩

/-- What holds of all that is asked for holds of the combination. -/
theorem Since.all {has : Equality → Prop} (h : Since asked first rest)
    (hasked : ∀ x ∈ asked, has x.2) :
  (combination first rest).All has
  := by
  obtain ⟨earlier, logic, rfl, -⟩ := h
  apply all_combination
  · apply hasked (logic, first)
    simp
  · intro x hx
    apply hasked (some x.1, x.2)
    simp [hx]

/-- Something has been asked for since an equality. -/
theorem Since.ne_nil (h : Since asked first rest) :
  asked ≠ []
  := by
  obtain ⟨earlier, logic, rfl, -⟩ := h
  simp

/-- The text of a combination is put together from those of the equalities that are asked for. -/
theorem Since.spells (h : Since asked first rest) {p : Pairing}
    (hp : p.formula = combination first rest) :
  Spells (· ∈ asked.map (·.2.sql)) .disjunction p.sql ((combination first rest).map Equality.sql)
  := by
  rw [← hp]
  apply (Pairing.spells _).term
  rw [hp]
  apply h.all
  intro x hx
  exact List.mem_map_of_mem hx

/-- The last equality that stands alone is not before another one of these. -/
theorem not_since_behind {earlier between : List (Option Logic × Equality)}
    {x : Option Logic × Equality} {more : List (Option Logic × Equality)}
    (h : x.1 = none ∨ earlier = []) (hearlier : earlier ≠ []) :
  rest.map (fun x => (some x.1, x.2)) ≠ between ++ x :: more
  := by
  intro hrest
  have hmem : x ∈ rest.map fun x => (some x.1, x.2) := by simp [hrest]
  obtain ⟨y, -, rfl⟩ := List.mem_map.mp hmem
  obtain hx | hnil := h
  · cases hx
  · apply hearlier hnil

/-- What is asked for since the last equality that stands alone is determined. -/
theorem Since.unique (h : Since asked first rest) (h' : Since asked first' rest') :
  first = first' ∧ rest = rest'
  := by
  have hinjective : Function.Injective fun x : Logic × Equality => (some x.1, x.2) := by
    rintro ⟨l, e⟩ ⟨l', e'⟩ heq
    simpa using heq
  obtain ⟨earlier, logic, hasked, hfirst⟩ := h
  obtain ⟨earlier', logic', hasked', hfirst'⟩ := h'
  -- If one began before the other, the other would be among those that are combined with it.
  obtain ⟨between, hbefore, hbehind⟩ | ⟨between, hbefore, hbehind⟩ :=
    List.append_eq_append_iff.mp (hasked.symm.trans hasked')
  · cases between with
    | nil =>
        obtain ⟨hsame, hrest⟩ := List.cons.inj hbehind
        exact ⟨(Prod.mk.inj hsame).2, hinjective.list_map hrest⟩
    | cons x between =>
        obtain ⟨-, hrest⟩ := List.cons.inj hbehind
        cases not_since_behind hfirst' (by simp [hbefore]) hrest
  · cases between with
    | nil =>
        obtain ⟨hsame, hrest⟩ := List.cons.inj hbehind
        exact ⟨(Prod.mk.inj hsame).2.symm, (hinjective.list_map hrest).symm⟩
    | cons x between =>
        obtain ⟨-, hrest⟩ := List.cons.inj hbehind
        cases not_since_behind hfirst (by simp [hbefore]) hrest

/-- The pairing that is made of what is asked for.  There is none for nothing, and otherwise it is
the combination from left to right of all since the last equality that stands alone. -/
inductive Combines (asked : List (Option Logic × Equality)) : Option Pairing → Prop
  | nothing (h : asked = []) : Combines asked none
  | since {first : Equality} {rest : List (Logic × Equality)} {p : Pairing}
      (h : Since asked first rest) (hp : p.formula = combination first rest) :
      Combines asked (some p)

/-- One more equality is combined with what is asked for before it, or replaces it. -/
theorem Combines.add {before : Option Pairing} (h : Combines asked before)
    (x : Option Logic × Equality) :
  Combines (asked ++ [x]) (some (Pairing.add before x))
  := by
  obtain ⟨logic, e⟩ := x
  cases logic with
  | none => apply since (since_singleton (.inl rfl)) rfl
  | some logic =>
      cases h with
      | nothing h =>
          apply since (since_singleton (.inr h))
          cases logic <;> rfl
      | since h hp =>
          apply since (h.append (logic, e))
          rw [combination_append, ← hp]
          cases logic <;> rfl

end Pairing

/-- How a step combines an equality with those before it, if it asks for one, and the columns
that it names. -/
def JoinStep.paired? : JoinStep → Option (Option Logic × String × String)
  | .on key other => some (none, key, other)
  | .and key other => some (some .both, key, other)
  | .or key other => some (some .either, key, other)
  | .whereFirst _ | .whereSecond _ | .pin .. | .next .. => none

namespace Join

open Pairing

variable {r : Registry} {j k m n : Join} {s : JoinStep}

/-! ### One equality -/

/-- The equality that a step asks for and how it is combined, if the columns are known. -/
def asked? (j : Join) (s : JoinStep) : Option (Option Logic × Equality) := do
  let (logic, key, other) ← s.paired?
  let e ← j.known? key other
  return (logic, e)

/-- A step that asks for an equality names its columns. -/
theorem exists_of_asked {x : Option Logic × Equality} (h : j.asked? s = some x) :
  ∃ key other, s.paired? = some (x.1, key, other) ∧ j.known? key other = some x.2
  := by
  unfold asked? at h
  rw [Option.bind_eq_bind, Option.bind_eq_some_iff] at h
  obtain ⟨⟨logic, key, other⟩, hs, h⟩ := h
  rw [Option.bind_eq_bind, Option.bind_eq_some_iff] at h
  obtain ⟨e, he, h⟩ := h
  cases h
  use key, other

/-- What a step asks for depends on the two tables. -/
theorem asked?_congr (hleft : k.left = j.left) (hright : k.right = j.right) :
  k.asked? = j.asked?
  := by
  funext s
  simp only [asked?, known?, hleft, hright]

/-- An equality of known columns is added to the pairing. -/
theorem pairBy_of_known {key other : String} {e : Equality} (h : j.known? key other = some e)
    (hvoid : j.isVoid = false) (combine : Option Pairing → Equality → Pairing) :
  j.pairBy key other combine =
    { j with current := { j.current with pairing := some (combine j.current.pairing e) } }
  := by
  unfold Join.pairBy Join.unlessVoid
  rw [hvoid, if_neg Bool.false_ne_true]
  dsimp only
  rw [equality_of_known h]

/-- A step that asks for an equality adds it to the pairing and changes nothing else. -/
theorem step_of_asked {x : Option Logic × Equality} (h : j.asked? s = some x)
    (hvoid : j.isVoid = false) :
  j.step s =
    .ok { j with current := { j.current with pairing := some (add j.current.pairing x) } }
  := by
  obtain ⟨key, other, hs, he⟩ := exists_of_asked h
  obtain ⟨logic, e⟩ := x
  cases s with
  | on | and | or =>
      cases hs
      apply congrArg Except.ok
      apply pairBy_of_known he hvoid
  | whereFirst | whereSecond | pin | next => cases hs

/-- A step that asks for no equality leaves the current clause as it is, unless it begins
another. -/
theorem clause_of_step (hstep : j.step s = .ok k) (hs : s.paired? = none)
    (hjoined : s.joined? = none) :
  k.current = j.current ∧ k.earlier = j.earlier
  := by
  cases s with
  | on | and | or => cases hs
  | whereFirst p | whereSecond p =>
      cases hstep
      apply unlessVoid_keeps (fun k => k.current = j.current ∧ k.earlier = j.earlier) ⟨rfl, rfl⟩
      obtain ⟨filters, counter, reports, failure, heq⟩ := filter_eq j _ p
      rw [heq]
      exact ⟨rfl, rfl⟩
  | pin type property =>
      cases hstep
      obtain ⟨pins, heq⟩ := pin_eq j type property
      rw [heq]
      exact ⟨rfl, rfl⟩
  | next => cases hjoined

/-! ### One clause -/

/-- A join whose current clause has been begun as that of another, and which pairs by what has
been asked for since. -/
structure Paired (asked : List (Option Logic × Equality)) (m j : Join) : Prop where
  combines : Combines asked j.current.pairing
  earlier : j.earlier = m.earlier
  kind : j.current.kind = m.current.kind
  left : j.left = m.left
  right : j.right = m.right

/-- A step that begins no other clause adds what it asks for to the pairing. -/
theorem Paired.step {asked : List (Option Logic × Equality)} (h : Paired asked m j)
    (hstep : j.step s = .ok k) (hvoid : j.isVoid = false) (hjoined : s.joined? = none)
    (hknown : s.paired?.isSome = true → (m.asked? s).isSome = true) :
  Paired (asked ++ (m.asked? s).toList) m k
  := by
  have htables := sameTables_of_step hstep hjoined
  have hasked : m.asked? s = j.asked? s := by rw [asked?_congr h.left h.right]
  cases hs : m.asked? s with
  | some x =>
      rw [hasked] at hs
      rw [step_of_asked hs hvoid] at hstep
      cases hstep
      exact ⟨h.combines.add x, h.earlier, h.kind, h.left, h.right⟩
  | none =>
      have hnone : s.paired? = none := by
        rw [hs] at hknown
        simpa using hknown
      obtain ⟨hcurrent, hearlier⟩ := clause_of_step hstep hnone hjoined
      constructor
      · rw [hcurrent]
        simpa using h.combines
      · rw [hearlier, h.earlier]
      · rw [hcurrent, h.kind]
      · rw [htables.left, h.left]
      · rw [htables.right, h.right]

/-- Steps that begin no other clause add all that they ask for to the pairing. -/
theorem Paired.follow {asked : List (Option Logic × Equality)} (h : Paired asked m j)
    {calls : List JoinStep} (hfollow : j.follow calls = (k, none)) (hvoid : k.isVoid = false)
    (hjoined : ∀ s ∈ calls, s.joined? = none)
    (hknown : ∀ s ∈ calls, s.paired?.isSome = true → (m.asked? s).isSome = true) :
  Paired (asked ++ calls.filterMap m.asked?) m k
  := by
  induction calls generalizing j asked with
  | nil =>
      cases hfollow
      simpa using h
  | cons s rest ih =>
      rw [List.forall_mem_cons] at hjoined hknown
      have hj := isVoid_of_follow hfollow hvoid
      rw [Join.follow] at hfollow
      split at hfollow
      · next j' hstep =>
          have hmore := ih (h.step hstep hj hjoined.1 hknown.1) hfollow hjoined.2 hknown.2
          rw [List.filterMap_cons]
          cases hs : m.asked? s with
          | none =>
              rw [hs] at hmore
              simpa using hmore
          | some x =>
              rw [hs] at hmore
              simpa using hmore
      · cases hfollow

/-- A clause that another one stands behind stays as it is. -/
theorem earlier_of_step {i : Nat} {c : JoinClause} (h : j.earlier[i]? = some c)
    (hstep : j.step s = .ok k) :
  k.earlier[i]? = some c
  := by
  cases s with
  | next kind left right tableAlias =>
      obtain ⟨void, rfl⟩ | ⟨b, joined, -, -, rfl⟩ := next_cases hstep
      · apply h
      · obtain ⟨hi, -⟩ := List.getElem?_eq_some_iff.mp h
        show (j.earlier ++ [j.current])[i]? = some c
        rw [List.getElem?_append_left hi, h]
  | on key other | and key other | or key other =>
      cases hstep
      obtain ⟨pairing, reports, failure, heq⟩ := pairBy_eq j key other _
      simp only [Join.on, Join.and, Join.or]
      rw [heq]
      apply h
  | whereFirst | whereSecond | pin =>
      rw [(clause_of_step hstep rfl rfl).2]
      apply h

/-- A clause that another one stands behind stays as it is as far as steps lead. -/
theorem earlier_of_follow {i : Nat} {c : JoinClause} (h : j.earlier[i]? = some c)
    {steps : List JoinStep} (hfollow : j.follow steps = (k, none)) :
  k.earlier[i]? = some c
  := by
  have hkept : (j.follow steps).1.earlier[i]? = some c := by
    apply follow_keeps (fun k => k.earlier[i]? = some c) _ h
    intro s _ j k h hstep
    apply earlier_of_step h hstep
  rwa [hfollow] at hkept

/-- The current clause stays as it is if no step follows, or if the next one begins another. -/
theorem clause_of_follow {after : List JoinStep} (hfollow : k.follow after = (n, none))
    (hvoid : n.isVoid = false) (hafter : ∀ s ∈ after.head?, s.joined? ≠ none) :
  n.clauses[k.earlier.length]? = some k.current
  := by
  cases after with
  | nil =>
      cases hfollow
      apply List.getElem?_concat_length
  | cons s rest =>
      have hk := isVoid_of_follow hfollow hvoid
      have hjoined := hafter s rfl
      rw [Join.follow] at hfollow
      split at hfollow
      · next k' hstep =>
          have hnext := isVoid_of_follow hfollow hvoid
          cases s with
          | next kind left right tableAlias =>
              obtain ⟨-, reason, rfl⟩ | ⟨b, joined, -, -, rfl⟩ := next_of_not_void hstep hk
              · cases hnext
              · have hkept := earlier_of_follow (List.getElem?_concat_length) hfollow
                obtain ⟨hi, -⟩ := List.getElem?_eq_some_iff.mp hkept
                rw [clauses, List.getElem?_append_left hi, hkept]
          | on | and | or | whereFirst | whereSecond | pin => cases hjoined rfl
      · cases hfollow

/-! ### Texts of clauses -/

/-- A statement of a join has all its clauses in it. -/
theorem exists_of_render {i : Nat} {c : JoinClause} (h : n.clauses[i]? = some c)
    {destination : RecordType} {conditions : List String} {f : Fragment}
    (hrender : n.render destination conditions = .ok f) :
  ∃ head tail, f.sql = head ++ clauseSql c ++ tail
  := by
  obtain ⟨before, behind, hclauses⟩ := List.append_of_mem (List.mem_of_getElem? h)
  unfold render at hrender
  split at hrender
  · cases hrender
  · dsimp only at hrender
    split at hrender
    · cases hrender
    · cases hrender
      rw [hclauses, List.map_append, List.map_cons, String.join_append, String.join_cons]
      have hparts : ∀ a b c d e : String, a ++ (b ++ (c ++ d)) ++ e = a ++ b ++ c ++ (d ++ e) := by
        simp [String.append_assoc]
      exact ⟨_, _, hparts ..⟩

/-- Equalities that are asked for are comparisons if the names in them are identifiers. -/
theorem Sound.isComparison_asked (h : m.Sound r) (hr : r.Named)
    (hleft : isIdentifier m.left.tableAlias = true)
    (hright : isIdentifier m.right.tableAlias = true) (calls : List JoinStep) :
  ∀ s ∈ (calls.filterMap m.asked?).map (·.2.sql), IsComparison s
  := by
  have hleftNamed : m.left.Named := ⟨hr _ _ h.left, hleft⟩
  have hrightNamed : m.right.Named := ⟨hr _ _ (h.bindings _ m.right_mem_bindings), hright⟩
  intro s hs
  obtain ⟨⟨logic, e⟩, hx, rfl⟩ := List.mem_map.mp hs
  obtain ⟨call, -, hcall⟩ := List.mem_filterMap.mp hx
  obtain ⟨key, other, -, he⟩ := exists_of_asked hcall
  unfold known? at he
  split at he
  · next l _ r' _ hl hr' =>
      cases he
      have hl := (hleftNamed.scope false).resolve hl
      have hr' := (hrightNamed.scope false).resolve hr'
      apply Grammar.reading.comparison_columns hleft hl hright hr'
  · cases he

/-- The steps between the one that joins a table and the one that joins the next ask for some
equalities.  Whatever statement is rendered in the end, the table is joined in it on the
combination of these from left to right: of all since the last one that stands alone, or of all
if there is none.  That is how the text is put together from those of the equalities, and over
names that are identifiers it is read in this way only. -/
theorem paired_from_left {rules : TranslationRules} {left right : EntityType}
    {leftAlias rightAlias : String} {kind : JoinKind} {before calls after : List JoinStep}
    (hstart : start r rules left right leftAlias rightAlias kind = .ok j)
    (hbefore : j.follow before = (m, none)) (hfresh : m.current.pairing = none)
    (hcalls : m.follow calls = (k, none)) (hjoined : ∀ s ∈ calls, s.joined? = none)
    (hknown : ∀ s ∈ calls, s.paired?.isSome = true → (m.asked? s).isSome = true)
    (hafter : k.follow after = (n, none)) (hnext : ∀ s ∈ after.head?, s.joined? ≠ none)
    (hvoid : n.isVoid = false) :
  let asked := calls.filterMap m.asked?
  let table := s!" {m.current.kind.sql} {bound m.right}"
  ∃ c, n.clauses[m.earlier.length]? = some c ∧
    (∀ destination conditions f, n.render destination conditions = .ok f →
      ∃ head tail, f.sql = head ++ clauseSql c ++ tail) ∧
    (asked = [] → clauseSql c = table) ∧
    (asked ≠ [] → ∃ first rest text, Since asked first rest ∧
      clauseSql c = s!"{table} ON {text}" ∧
      let read := (combination first rest).map Equality.sql
      Spells (· ∈ asked.map (·.2.sql)) .disjunction text read ∧
      (r.Named → isIdentifier m.left.tableAlias = true → isIdentifier m.right.tableAlias = true →
        ∀ f, Reads Comparison .disjunction (tokens text) f ↔ f = read.map tokens))
  := by
  intro asked table
  have hk := isVoid_of_follow hafter hvoid
  have hpaired : Paired asked m k := by
    have hnothing : Paired [] m m := ⟨by rw [hfresh]; exact .nothing rfl, rfl, rfl, rfl, rfl⟩
    apply hnothing.follow hcalls hk hjoined hknown
  have hclause := clause_of_follow hafter hvoid hnext
  rw [hpaired.earlier] at hclause
  have hsql : clauseSql k.current = clauseSql ⟨m.current.kind, m.right, k.current.pairing⟩ := by
    rw [← hpaired.kind, ← hpaired.right]
    rfl
  have hsound : m.Sound r := by
    have hfollow := (sound_of_start hstart).follow before
    rwa [hbefore] at hfollow
  have hatoms : r.Named → isIdentifier m.left.tableAlias = true →
      isIdentifier m.right.tableAlias = true → ∀ s ∈ asked.map (·.2.sql), IsComparison s :=
    fun hr hleft hright => hsound.isComparison_asked hr hleft hright calls
  refine ⟨k.current, hclause, fun _ _ _ => exists_of_render hclause, ?_⟩
  have hcombines := hpaired.combines
  rw [hsql]
  -- From here on only what is asked for and the pairing matter.
  clear_value asked
  generalize k.current.pairing = pairing at hcombines ⊢
  cases hcombines with
  | nothing h => exact ⟨fun _ => rfl, fun hne => absurd h hne⟩
  | @since first rest p hsince hp =>
      use fun hnil => absurd hnil hsince.ne_nil
      intro _
      have hspells := hsince.spells hp
      refine ⟨first, rest, p.sql, hsince, rfl, hspells, ?_⟩
      intro hr hleft hright
      apply (hspells.readBy (hatoms hr hleft hright)).unique fun _ h => h

/-- Steps that pair persons with their mentors: the first equality is given up for the second, and
the last one asked for together with all since. -/
def pairMentors : List JoinStep :=
  [.and "Id" "Id", .on "MentorId" "Id", .or "Id" "MentorId", .whereFirst (.member "Gone"),
    .and "IsActive" "IsActive"]

/-- The disjunction stands in parentheses before the last equality, also when another table has
been joined. -/
theorem paired_mentors :
  let text := "(p.MentorId = P1.Id OR p.Id = P1.MentorId) AND p.IsActive = P1.IsActive"
  (∃ n c, mentors.follow (pairMentors ++ [.next .left mentored letter "l"]) = (n, none) ∧
    n.clauses[0]? = some c ∧ clauseSql c = " INNER JOIN \"Person\" P1 ON " ++ text) ∧
  ∀ f, Reads Comparison .disjunction (tokens text) f ↔
    f = .combine .both
      (.combine .either (.atom (tokens "p.MentorId = P1.Id")) (.atom (tokens "p.Id = P1.MentorId")))
      (.atom (tokens "p.IsActive = P1.IsActive"))
  := by
  intro text
  have hregistry : Registry.build ⟨[mentored, letter], []⟩ = .ok mentors.registry := by
    decide +kernel
  have hstart : start mentors.registry {} mentored mentored "p" "P" .inner = .ok mentors := rfl
  have hcalls : mentors.follow pairMentors = ((mentors.follow pairMentors).1, none) :=
    Prod.ext rfl (by decide +kernel)
  have hafter : (mentors.follow pairMentors).1.follow [.next .left mentored letter "l"] =
      (_, none) := rfl
  have hfollow : mentors.follow (pairMentors ++ [.next .left mentored letter "l"]) =
      (_, none) := rfl
  have hlast : Since (pairMentors.filterMap mentors.asked?) (.columns "p" "MentorId" "P1" "Id")
      [(.either, .columns "p" "Id" "P1" "MentorId"),
        (.both, .columns "p" "IsActive" "P1" "IsActive")] :=
    ⟨[(some .both, .columns "p" "Id" "P1" "Id")], none, by decide +kernel, .inl rfl⟩
  obtain ⟨c, hclause, -, -, hread⟩ := paired_from_left hstart (show mentors.follow [] = _ from rfl)
    rfl hcalls (by decide +kernel) (by decide +kernel) hafter (by decide) rfl
  obtain ⟨first, rest, text', hsince, htext, -, hunique⟩ := hread (by decide +kernel)
  have hshown : clauseSql c = " INNER JOIN \"Person\" P1 ON " ++ text := by
    cases hclause
    decide +kernel
  have htable : s!" {mentors.current.kind.sql} {bound mentors.right}" =
      " INNER JOIN \"Person\" P1" := by decide +kernel
  have hsame : text = text' := by
    apply (String.append_right_inj " INNER JOIN \"Person\" P1 ON ").mp
    rw [← hshown, htext, htable]
    rfl
  obtain ⟨rfl, rfl⟩ := hsince.unique hlast
  subst hsame
  use ⟨_, c, hfollow, hclause, hshown⟩
  intro f
  apply hunique (Registry.named_of_build hregistry) (by decide) (by decide)

end Join

end EntityStore
