import EntityStore.Proofs.Translation.Reading

/-!
# Conditions in statements

A statement that asks for conditions is read as its parts one after the other.  Its conditions
are read as the conjunction of what each is read as alone, and as nothing else, so that none of
them can take another apart.
-/

namespace EntityStore.Sql

variable {a b s : String} {ts us : List Token}

/-! ### Parts behind each other -/

/-- Whether a text is empty, or is read as tokens behind a blank. -/
def Trails (s : String) : Prop :=
  s = "" ∨ ∃ b us, s = " " ++ b ∧ Lexes b us

/-- A blank before a text is no token. -/
theorem Lexes.tokens_blank (hb : Lexes b us) :
  tokens (" " ++ b) = us
  := by
  have hblank := hb.opens.tokensOf_blank []
  rw [List.append_nil] at hblank
  have hchars : (" " ++ b).toList = ' ' :: b.toList := by simp
  rw [tokens, hchars, hblank]
  exact hb.tokens_eq

/-- What trails a text is read behind it. -/
theorem Lexes.trail (ha : Lexes a ts) (hs : Trails s) :
  Lexes (a ++ s) (ts ++ tokens s)
  := by
  obtain rfl | ⟨b, us, rfl, hb⟩ := hs
  · have hempty : tokens "" = [] := tokensOf_nil
    rw [hempty, String.append_empty, List.append_nil]
    apply ha
  · rw [hb.tokens_blank, ← String.append_assoc]
    apply ha.blank hb

/-- What trails what trails a text trails it. -/
theorem Trails.append (ha : Trails a) (hb : Trails b) :
  Trails (a ++ b)
  := by
  obtain rfl | ⟨c, us, rfl, hc⟩ := ha
  · rwa [String.empty_append]
  · right
    use c ++ b, us ++ tokens b
    exact ⟨String.append_assoc, hc.trail hb⟩

/-- What trails each other is read one after the other. -/
theorem Lexes.trailAll {parts : List String} (ha : Lexes a ts) (h : ∀ s ∈ parts, Trails s) :
  Lexes (a ++ String.join parts) (ts ++ parts.flatMap tokens)
  := by
  induction parts generalizing a ts with
  | nil => simpa using ha
  | cons s parts ih =>
      rw [List.forall_mem_cons] at h
      rw [String.join_cons, ← String.append_assoc, List.flatMap_cons, ← List.append_assoc]
      apply ih (ha.trail h.1) h.2

/-! ### Conditions -/

/-- Whether a text is read as a formula of comparisons wherever one of several conditions can
stand. -/
def Stands (s : String) (f : Formula (List Token)) : Prop :=
  ReadBy Comparison .negation s f

/-- Whether conditions that are asked for together are read as the conjunction of formulas, and
as nothing else. -/
def ReadTogether (conditions : List (String × Formula (List Token))) : Prop :=
  ∀ f, Reads Comparison .disjunction (tokens (allOf (conditions.map (·.1)))) f ↔
    Formula.conjunction? (conditions.map (·.2)) = some f

/-- What is read as a formula of some atoms is one of others if those are atoms too. -/
theorem Reads.mono {isAtom isAtom' : List Token → Prop} (hatom : ∀ ts, isAtom ts → isAtom' ts)
    {level : Level} {f : Formula (List Token)} (h : Reads isAtom level ts f) :
  Reads isAtom' level ts f
  := by
  induction h with
  | atom h => exact .atom (hatom _ h)
  | group _ ih => exact .group ih
  | not ht _ ih => exact .not ht ih
  | factor _ ih => exact .factor ih
  | and _ ht _ ihf ihg => exact .and ihf ht ihg
  | term _ ih => exact .term ih
  | or _ ht _ ihf ihg => exact .or ihf ht ihg

/-- What a statement can ask for stands among other conditions. -/
theorem Conjunct.stands {f : Formula (List Token)} (h : Conjunct s f) :
  Stands s f
  := by
  obtain ⟨ts, hlexes, hreads⟩ := h.isRead
  exact ⟨ts, hlexes, hreads.mono fun _ => Atomic.comparison⟩

/-- A comparison stands among other conditions. -/
theorem IsComparison.stands (h : IsComparison s) :
  Stands s (.atom (Sql.tokens s))
  := by
  obtain ⟨ts, hlexes, hcomparison⟩ := h
  rw [hlexes.tokens_eq]
  exact ⟨ts, hlexes, .atom hcomparison⟩

/-- Fragments that each can be asked for stand among other conditions. -/
theorem exists_formulas {fragments : List Fragment}
    (h : ∀ f ∈ fragments, ∃ g, Conjunct f.sql g) :
  ∃ conditions : List (String × Formula (List Token)),
    conditions.map (·.1) = fragments.map (·.sql) ∧ ∀ x ∈ conditions, Stands x.1 x.2
  := by
  induction fragments with
  | nil => exact ⟨[], rfl, by simp⟩
  | cons f fragments ih =>
      rw [List.forall_mem_cons] at h
      obtain ⟨g, hg⟩ := h.1
      obtain ⟨conditions, htexts, hstands⟩ := ih h.2
      refine ⟨(f.sql, g) :: conditions, ?_, ?_⟩
      · rw [List.map_cons, List.map_cons, htexts]
      · rw [List.forall_mem_cons]
        exact ⟨hg.stands, hstands⟩

variable {conditions : List (String × Formula (List Token))}

/-- Conditions that stand are read together. -/
theorem readTogether_of_stands (hne : conditions ≠ []) (h : ∀ x ∈ conditions, Stands x.1 x.2) :
  (∃ ts, Lexes (allOf (conditions.map (·.1))) ts) ∧ ReadTogether conditions
  := by
  cases conditions with
  | nil => cases hne rfl
  | cons x rest =>
      rw [List.forall_mem_cons] at h
      obtain ⟨ts, hts, hx⟩ := h.1
      obtain ⟨all, hall, hreads⟩ := readBy_allOf ⟨ts, hts, hx.factor⟩ h.2
      refine ⟨⟨all, hall⟩, ?_⟩
      intro f
      rw [List.map_cons, hall.tokens_eq, List.map_cons, Formula.conjunction?, Option.some_inj]
      constructor
      · intro hf
        exact hreads.term.unique (fun _ h => h) hf
      · rintro rfl
        exact hreads.term

/-- The part of a statement that asks for conditions. -/
theorem whereSql_of_ne {conditions : List String} (hne : conditions ≠ []) :
  whereSql conditions = " " ++ ("WHERE" ++ " " ++ allOf conditions)
  := by
  rw [whereSql, if_neg (by simpa using hne)]
  show " WHERE " ++ allOf conditions = _
  rw [← String.append_assoc, ← String.append_assoc]
  rfl

/-! ### Statements -/

/-- A statement with conditions between its head and its tail.  It is read as these parts, and
its conditions as the conjunction of what each is read as alone. -/
structure Selects (sql head : String) (conditions : List (String × Formula (List Token)))
    (tail : String) : Prop where
  text : sql = head ++ whereSql (conditions.map (·.1)) ++ tail
  parts : tokens sql = tokens head ++ tokens (whereSql (conditions.map (·.1))) ++ tokens tail
  clause : conditions ≠ [] → tokens (whereSql (conditions.map (·.1))) =
    .word "WHERE" :: tokens (allOf (conditions.map (·.1)))
  alone : ∀ x ∈ conditions, Stands x.1 x.2
  together : conditions ≠ [] → ReadTogether conditions

/-- Conditions that stand can be asked for between any head and tail. -/
theorem selects_of_stands {head tail : String} (hhead : Lexes head ts)
    (h : ∀ x ∈ conditions, Stands x.1 x.2) (htail : Trails tail) :
  Selects (head ++ whereSql (conditions.map (·.1)) ++ tail) head conditions tail
  := by
  have htogether := fun hne => readTogether_of_stands hne h
  have hwhere : Trails (whereSql (conditions.map (·.1))) := by
    cases conditions with
    | nil =>
        left
        rfl
    | cons x rest =>
        obtain ⟨⟨us, hall⟩, -⟩ := htogether (List.cons_ne_nil x rest)
        right
        exact ⟨_, _, whereSql_of_ne (by simp), (lexes_word (by decide)).blank hall⟩
  constructor
  · rfl
  · rw [((hhead.trail hwhere).trail htail).tokens_eq, hhead.tokens_eq]
  · intro hne
    obtain ⟨⟨us, hall⟩, -⟩ := htogether hne
    have hword : Lexes "WHERE" [.word "WHERE"] := lexes_word (by decide)
    rw [whereSql_of_ne (by simpa using hne), (hword.blank hall).tokens_blank, hall.tokens_eq]
    rfl
  · exact h
  · exact fun hne => (htogether hne).2

end EntityStore.Sql
