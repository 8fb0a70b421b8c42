import EntityStore.Proofs.Entity.Closed
import EntityStore.Proofs.Schema.Findings
import EntityStore.Schema.Statement

/-!
# Names of constraints in statements

The statement that makes a table names its constraints, and their names are found in its
text again.  For a table of an accepted model the foreign keys and the unique constraints
that are found are those of the table, whatever the names of its columns are.
-/

namespace EntityStore

open Text Sql Recognize

namespace Recognize

/-! ### Members of unique constraints -/

/-- A piece without separators is split off in front of one. -/
theorem splitAt_append {separator : Char} {piece : List Char} (h : separator ∉ piece)
    (rest : List Char) :
  splitAt separator (piece ++ separator :: rest) = piece :: splitAt separator rest
  := by
  induction piece with
  | nil => simp [splitAt, splitWhere]
  | cons c piece ih =>
      rw [List.mem_cons, not_or] at h
      have hc : decide (c = separator) = false := decide_eq_false (Ne.symm h.1)
      have ih := ih h.2
      unfold splitAt at ih ⊢
      rw [List.cons_append, splitWhere, hc, ih]
      rfl

/-- A piece without separators is the only one. -/
theorem splitAt_of_not_mem {separator : Char} {piece : List Char} (h : separator ∉ piece) :
  splitAt separator piece = [piece]
  := by
  induction piece with
  | nil => rfl
  | cons c piece ih =>
      rw [List.mem_cons, not_or] at h
      have hc : decide (c = separator) = false := decide_eq_false (Ne.symm h.1)
      have ih := ih h.2
      unfold splitAt at ih ⊢
      rw [splitWhere, hc, ih]
      rfl

/-- The name in a quoted member. -/
theorem member_quoteName {name : String} (h : isIdentifier name = true) {blank : List Char}
    (hblank : Blank blank) :
  member (blank ++ (quoteName name).toList) = name
  := by
  obtain ⟨hne, hchars⟩ := chars_of_isIdentifier h
  have htrim : trim (blank ++ (quoteName name).toList) = (quoteName name).toList := by
    have hquote (s : List Char) : trimStart ('"' :: s) = '"' :: s := rfl
    have hstart := trimStart_eq_iff.mpr ⟨blank, hblank, rfl, (named_quoteName h).stops []⟩
    rw [List.append_nil] at hstart
    rw [trim, hstart, toList_quoteName h, List.reverse_append]
    show (trimStart ('"' :: ('"' :: name.toList).reverse)).reverse = _
    rw [hquote, List.reverse_cons, List.reverse_reverse]
  let isSign (c : Char) : Bool := openSigns.contains c || closeSigns.contains c
  have hnot : ∀ c ∈ name.toList, isSign c = false := by
    intro c hc
    rw [← Bool.not_eq_true]
    intro hsign
    have hnone : (openSigns ++ closeSigns).any continuesIdentifier = false := by decide
    have hmem : c ∈ openSigns ++ closeSigns := by simpa [isSign] using hsign
    exact ne_of_kind (hchars c hc) (eq_false_of_any hnone c hmem) rfl
  have hsigns : ∀ c ∈ ['"'], isSign c = true := List.forall_mem_singleton.mpr (by decide)
  have hfirst := takeWhile_append_of_stops hsigns (stops_append hne hnot ['"'])
  have hlast := takeWhile_append_of_stops hsigns
    (stops_append (List.reverse_ne_nil_iff.mpr hne)
      (fun c hc => hnot c (List.mem_reverse.mp hc)) [])
  simp only [List.append_nil] at hlast
  unfold member
  rw [htrim, toList_quoteName h]
  show String.ofList (((['"'] ++ (name.toList ++ ['"'])).dropWhile isSign).reverse.dropWhile
    isSign).reverse = name
  rw [hfirst.2, List.reverse_append]
  show String.ofList (((['"'] ++ name.toList.reverse).dropWhile isSign)).reverse = name
  rw [hlast.2, List.reverse_reverse, String.ofList_toList]

/-- A character that neither belongs to an identifier nor is a quote does not occur in a quoted
identifier. -/
theorem not_mem_quoteName {name : String} (h : isIdentifier name = true) {c : Char}
    (hc : continuesIdentifier c = false) (hquote : c ≠ '"') :
  c ∉ (quoteName name).toList
  := by
  rw [toList_quoteName h]
  simp only [List.cons_append, List.mem_cons, List.mem_append, List.not_mem_nil, or_false, not_or]
  refine ⟨hquote, ?_, hquote⟩
  intro hmem
  exact ne_of_kind ((chars_of_isIdentifier h).2 c hmem) hc rfl

/-- Quoted identifiers begin with the first of them and go on behind a comma. -/
theorem toList_quoteNames (name next : String) (names : List String) :
  (quoteNames (name :: next :: names)).toList =
    (quoteName name).toList ++ ',' :: ' ' :: (quoteNames (next :: names)).toList
  := by
  unfold quoteNames commaList
  rw [List.map_cons, List.map_cons, String.intercalate_cons_cons, String.toList_append,
    String.toList_append, List.append_assoc]
  rfl

/-- The one quoted identifier. -/
theorem quoteNames_singleton (name : String) :
  quoteNames [name] = quoteName name
  := by rw [quoteNames, commaList, List.map_singleton, String.intercalate_singleton]

/-- One blank is blank. -/
theorem blank_space :
  Blank [' ']
  := by simp [Blank, isBlank, blankRanges]

/-- The members of a unique constraint are its columns. -/
theorem members_quoteNames {names : List String} (hne : names ≠ [])
    (h : ∀ name ∈ names, isIdentifier name = true) {blank : List Char} (hblank : Blank blank) :
  (splitAt ',' (blank ++ (quoteNames names).toList)).map member = names
  := by
  have hcomma : ',' ∉ blank := by
    intro hmem
    cases hblank ',' hmem
  induction names generalizing blank with
  | nil => cases hne rfl
  | cons name names ih =>
      rw [List.forall_mem_cons] at h
      have hpiece : ',' ∉ blank ++ (quoteName name).toList := by
        rw [List.mem_append, not_or]
        exact ⟨hcomma, not_mem_quoteName h.1 (by decide) (by decide)⟩
      have hmember := member_quoteName h.1 hblank
      cases names with
      | nil =>
          rw [quoteNames_singleton, splitAt_of_not_mem hpiece, List.map_singleton, hmember]
      | cons next names =>
          have hrest := ih (by simp) h.2 blank_space (by decide)
          rw [toList_quoteNames, ← List.append_assoc, splitAt_append hpiece, List.map_cons, hmember]
          exact congrArg (name :: ·) hrest

/-- No parenthesis occurs in quoted identifiers, and no constraint begins in them. -/
theorem silent_quoteNames {names : List String} (h : ∀ name ∈ names, isIdentifier name = true) :
  ')' ∉ (quoteNames names).toList ∧ Silent (quoteNames names).toList
  := by
  induction names with
  | nil => exact ⟨by decide, Silent.nil⟩
  | cons name names ih =>
      rw [List.forall_mem_cons] at h
      have hparen : ')' ∉ (quoteName name).toList :=
        not_mem_quoteName h.1 (by decide) (by decide)
      have hsilent := silent_quoteName h.1
      cases names with
      | nil =>
          rw [quoteNames_singleton]
          exact ⟨hparen, hsilent⟩
      | cons next names =>
          obtain ⟨hparens, hsilents⟩ := ih h.2
          rw [toList_quoteNames]
          constructor
          · simp [hparen, hparens]
          · have hcomma : Silent [',', ' '] := silent_of_calm (by decide +kernel)
            exact hsilent.append (hcomma.append hsilents)

/-! ### Clauses -/

/-- A keyword is one. -/
theorem spells_self {word : String} (h : (word.toList.all fun c => isLetter c c) = true) :
  Spells word word.toList
  := List.forall₂_same.mpr (List.all_eq_true.mp h)

/-- The keyword and a name at the beginning of the clause of a constraint. -/
def headText (name : String) : String :=
  "CONSTRAINT " ++ quoteName name ++ " "

/-- The clause of a constraint begins with its name. -/
theorem head_headText {name : String} (h : isIdentifier name = true) :
  Head name.toList (headText name).toList
  := by
  refine ⟨"CONSTRAINT".toList, [' '], (quoteName name).toList, [' '], ?_, spells_self (by decide),
    blank_space, by simp, named_quoteName h, blank_space, by simp⟩
  simp only [headText, String.toList_append]
  rfl

/-- No other constraint begins within the beginning of a clause. -/
theorem silent_headText {name : String} (h : isIdentifier name = true) :
  ∃ rest, (headText name).toList = 'C' :: rest ∧ Silent rest
  := by
  refine ⟨"ONSTRAINT ".toList ++ ((quoteName name).toList ++ [' ']), ?_, ?_⟩
  · simp only [headText, String.toList_append, List.append_assoc]
    rfl
  · apply Silent.append (silent_of_calm (by decide +kernel))
    apply (silent_quoteName h).append (silent_of_calm (by decide +kernel))

/-- Nothing is found in a clause that is another one. -/
theorem finds_other {α : Type} {r : Recognize α} {name : String} (h : isIdentifier name = true)
    (hr : ∀ s, constraintName s = none → r s = none) {clause : List Char}
    (hclause : ∀ t, r ((headText name).toList ++ clause ++ t) = none) (hsilent : Silent clause) :
  Finds r ((headText name).toList ++ clause) []
  := by
  obtain ⟨rest, htext, hrest⟩ := silent_headText h
  rw [htext] at hclause ⊢
  apply Finds.cons _ hclause
  apply (hrest.append hsilent).finds hr

/-- No foreign key is recognised where no constraint begins. -/
theorem foreignKey_of_constraintName {s : List Char} (h : constraintName s = none) :
  foreignKey s = none
  := by
  rw [foreignKey, h]
  rfl

/-- No unique constraint is recognised where no constraint begins. -/
theorem unique_of_constraintName {s : List Char} (h : constraintName s = none) :
  unique s = none
  := by
  rw [unique, h]
  rfl

/-- No foreign key is recognised at a constraint that does not go on with the keyword. -/
theorem foreignKey_of_keyword {found : String} {s rest : List Char}
    (h : constraintName s = some (found, rest)) (hkeyword : keyword "FOREIGN" rest = none) :
  foreignKey s = none
  := by
  simp only [foreignKey, h, hkeyword, Option.bind_eq_bind, Option.bind_some, Option.bind_none]

/-- No unique constraint is recognised at a constraint that does not go on with the keyword. -/
theorem unique_of_keyword {found : String} {s rest : List Char}
    (h : constraintName s = some (found, rest)) (hkeyword : keyword "UNIQUE" rest = none) :
  unique s = none
  := by
  simp only [unique, h, hkeyword, Option.bind_eq_bind, Option.bind_some, Option.bind_none]

end Recognize

namespace UniqueShape

/-- A unique constraint with a name that is an identifier, on columns whose names are. -/
structure Legible (u : UniqueShape) : Prop where
  name : ∃ name, u.name = some name ∧ isIdentifier name = true
  nonempty : u.columns ≠ []
  columns : ∀ c ∈ u.columns, isIdentifier c = true

variable {u : UniqueShape} {table : String} {number : Nat} {name : String}

/-- The text of a unique constraint with a name. -/
theorem toList_definition (hname : u.name = some name) :
  (u.definition table number).toList = (headText name).toList ++
    ("UNIQUE".toList ++ [' '] ++ '(' :: (quoteNames u.columns).toList ++ [')'])
  := by
  have htext : u.definition table number =
      "CONSTRAINT " ++ quoteName name ++ " UNIQUE (" ++ quoteNames u.columns ++ ")" := by
    unfold definition
    rw [hname]
    rfl
  have hopen : " UNIQUE (" = " " ++ "UNIQUE" ++ " " ++ "(" := by decide
  rw [htext, hopen]
  simp only [headText, String.toList_append, List.append_assoc]
  rfl

/-- A unique constraint is found in its text. -/
theorem finds_unique (h : u.Legible) (hname : u.name = some name) :
  Finds unique (u.definition table number).toList [(name, u.columns)]
  := by
  have hidentifier : isIdentifier name = true := by
    obtain ⟨other, hother, hidentifier⟩ := h.name
    rw [hname] at hother
    cases hother
    exact hidentifier
  have hblank : Blank [] := by simp [Blank]
  have hmembers := members_quoteNames h.nonempty h.columns hblank
  apply finds_singleton
  · simp [toList_definition hname]
  · intro t
    apply unique_eq_some_iff.mpr
    refine ⟨_, (quoteNames u.columns).toList, ⟨(headText name).toList, "UNIQUE".toList, [' '],
      ?_, head_headText hidentifier, spells_self (by decide), blank_space,
      (silent_quoteNames h.columns).1⟩, rfl, hmembers⟩
    rw [toList_definition hname]
    simp only [List.append_assoc, List.cons_append]

/-- No foreign key is found in the text of a unique constraint. -/
theorem finds_foreignKey (h : u.Legible) :
  Finds foreignKey (u.definition table number).toList []
  := by
  obtain ⟨name, hname, hidentifier⟩ := h.name
  rw [toList_definition hname]
  apply finds_other hidentifier (fun s => foreignKey_of_constraintName)
  · intro t
    rw [List.append_assoc]
    apply foreignKey_of_keyword (constraintName_append (head_headText hidentifier) _)
    · rfl
    · apply stops_cons (by decide)
  · have hopen : Silent ['('] := silent_of_calm (by decide +kernel)
    have hcolumns : Silent ('(' :: (quoteNames u.columns).toList) :=
      hopen.append (silent_quoteNames h.columns).2
    refine .append (.append (.append ?_ ?_) hcolumns) ?_
    all_goals apply silent_of_calm (by decide +kernel)

end UniqueShape

namespace ReferenceShape

/-- A foreign key with a name that is an identifier, between columns whose names are. -/
structure Legible (f : ReferenceShape) : Prop where
  name : ∃ name, f.name = some name ∧ isIdentifier name = true
  column : isIdentifier f.column = true
  foreignTable : isIdentifier f.foreignTable = true
  foreignColumn : isIdentifier f.foreignColumn = true
  onDelete : Silent f.onDelete.toList

variable {f : ReferenceShape} {table : String} {name : String}

/-- What a foreign key leads to. -/
def target (f : ReferenceShape) : String :=
  " REFERENCES " ++ quoteName f.foreignTable ++ " (" ++ quoteName f.foreignColumn ++ ")" ++
    (if sameName f.onDelete "NO ACTION" then "" else " ON DELETE " ++ f.onDelete)

/-- The text of a foreign key with a name. -/
theorem toList_definition (hname : f.name = some name) :
  (f.definition table).toList = (headText name).toList ++
    ("FOREIGN".toList ++ [' '] ++ "KEY".toList ++ [' '] ++ '(' :: (quoteName f.column).toList ++
      [')']) ++ f.target.toList
  := by
  have htext : f.definition table = "CONSTRAINT " ++ quoteName name ++ " FOREIGN KEY (" ++
      quoteName f.column ++ ")" ++ f.target := by
    have hclose : ") REFERENCES " = ")" ++ " REFERENCES " := by decide
    unfold definition target
    rw [hname]
    show "CONSTRAINT " ++ quoteName name ++ " FOREIGN KEY (" ++ quoteName f.column ++
      ") REFERENCES " ++ (quoteName f.foreignTable ++ " (" ++ quoteName f.foreignColumn ++ ")") ++
      (if sameName f.onDelete "NO ACTION" then "" else " ON DELETE " ++ f.onDelete) = _
    rw [hclose]
    simp only [String.append_assoc]
  have hopen : " FOREIGN KEY (" = " " ++ "FOREIGN" ++ " " ++ "KEY" ++ " " ++ "(" := by decide
  rw [htext, hopen]
  simp only [headText, String.toList_append, List.append_assoc]
  rfl

/-- No constraint begins in what a foreign key leads to. -/
theorem silent_target (h : f.Legible) :
  Silent f.target.toList
  := by
  unfold target
  simp only [String.toList_append]
  refine Silent.append (.append (.append (.append (.append ?_ ?_) ?_) ?_) ?_) ?_
  · apply silent_of_calm (by decide +kernel)
  · apply silent_quoteName h.foreignTable
  · apply silent_of_calm (by decide +kernel)
  · apply silent_quoteName h.foreignColumn
  · apply silent_of_calm (by decide +kernel)
  · split
    · exact Silent.nil
    · rw [String.toList_append]
      apply Silent.append (silent_of_calm (by decide +kernel)) h.onDelete

/-- A foreign key is found in its text. -/
theorem finds_foreignKey (h : f.Legible) (hname : f.name = some name) :
  Finds foreignKey (f.definition table).toList [(name, f.column)]
  := by
  have hidentifier : isIdentifier name = true := by
    obtain ⟨other, hother, hidentifier⟩ := h.name
    rw [hname] at hother
    cases hother
    exact hidentifier
  have hblank : Blank [] := by simp [Blank]
  rw [toList_definition hname]
  apply Finds.trail
  · apply finds_singleton
    · simp
    · intro t
      apply foreignKey_eq_some_iff.mpr
      refine ⟨_, ⟨(headText name).toList, "FOREIGN".toList, [' '], "KEY".toList, [' '], [],
        (quoteName f.column).toList, [], ?_, head_headText hidentifier, spells_self (by decide),
        blank_space, by simp, spells_self (by decide), blank_space, hblank,
        named_quoteName h.column, hblank⟩, rfl⟩
      simp only [List.append_assoc, List.cons_append, List.nil_append]
  · apply (silent_target h).finds
    intro s
    apply foreignKey_of_constraintName

/-- No unique constraint is found in the text of a foreign key. -/
theorem finds_unique (h : f.Legible) :
  Finds unique (f.definition table).toList []
  := by
  obtain ⟨name, hname, hidentifier⟩ := h.name
  rw [toList_definition hname, List.append_assoc]
  apply finds_other hidentifier (fun s => unique_of_constraintName)
  · intro t
    rw [List.append_assoc]
    apply unique_of_keyword (constraintName_append (head_headText hidentifier) _)
    · rfl
    · apply stops_cons (by decide)
  · have hopen : Silent ['('] := silent_of_calm (by decide +kernel)
    have hcolumn : Silent ('(' :: (quoteName f.column).toList) :=
      hopen.append (silent_quoteName h.column)
    refine .append (.append (.append (.append (.append (.append ?_ ?_) ?_) ?_) hcolumn) ?_)
      (silent_target h)
    all_goals apply silent_of_calm (by decide +kernel)

end ReferenceShape

/-! ### Tables -/

namespace ColumnShape

/-- A column whose name is an identifier and whose type is no beginning of a constraint. -/
structure Legible (c : ColumnShape) : Prop where
  name : isIdentifier c.name = true
  sqlType : Silent c.sqlType.toList

/-- No constraint begins in the definition of a column. -/
theorem silent_definition {c : ColumnShape} (h : c.Legible) :
  Silent c.definition.toList
  := by
  have hstart : Silent (quoteName c.name ++ " " ++ c.sqlType).toList := by
    rw [String.toList_append, String.toList_append]
    apply Silent.append _ h.sqlType
    apply (silent_quoteName h.name).append (silent_of_calm (by decide +kernel))
  show Silent (if c.primaryKey then
    quoteName c.name ++ " " ++ c.sqlType ++ " PRIMARY KEY AUTOINCREMENT"
    else quoteName c.name ++ " " ++ c.sqlType ++ (if c.nullable then "" else " NOT NULL") ++
      (if sameName c.name activeFlag then " DEFAULT 1" else "")).toList
  split
  · rw [String.toList_append]
    apply hstart.append (silent_of_calm (by decide +kernel))
  · rw [String.toList_append, String.toList_append]
    refine .append (.append hstart ?_) ?_
    · split
      · exact Silent.nil
      · apply silent_of_calm (by decide +kernel)
    · split
      · apply silent_of_calm (by decide +kernel)
      · exact Silent.nil

end ColumnShape

namespace TableShape

/-- A table of which all parts can be told apart in a text. -/
structure Legible (t : TableShape) : Prop where
  name : isIdentifier t.name = true
  columns : ∀ c ∈ t.columns, c.Legible
  uniques : ∀ u ∈ t.uniques, u.Legible
  references : ∀ f ∈ t.references, f.Legible

variable {t : TableShape} {α : Type} {r : Recognize α}

/-- Nothing is found where nothing is found in each part. -/
theorem flatMap_nil {β : Type} (bs : List β) :
  bs.flatMap (fun _ => ([] : List α)) = []
  := by simp [List.flatMap_eq_nil_iff]

/-- What is found in the statement that makes a table is found in its constraints. -/
theorem finds_create (h : t.Legible) (hr : ∀ s, constraintName s = none → r s = none)
    {inUnique : UniqueShape → List α} {inReference : ReferenceShape → List α}
    (hunique : ∀ u ∈ t.uniques, ∀ number, Finds r (u.definition t.name number).toList (inUnique u))
    (hreference : ∀ f ∈ t.references, Finds r (f.definition t.name).toList (inReference f)) :
  Finds r t.create.toList (t.uniques.flatMap inUnique ++ t.references.flatMap inReference)
  := by
  have hsilent {text : String} (hcalm : calm text.toList = true) : Finds r text.toList [] :=
    (silent_of_calm hcalm).finds hr
  let parts : List (String × List α) :=
    t.columns.map (fun c => (c.definition, [])) ++
      (t.uniques.zipIdx 1).map (fun x => (x.1.definition t.name x.2, inUnique x.1)) ++
      t.references.map (fun f => (f.definition t.name, inReference f))
  have hparts : ∀ x ∈ parts, Finds r x.1.toList x.2 := by
    simp only [parts, List.forall_mem_append, List.forall_mem_map]
    refine ⟨⟨?_, ?_⟩, hreference⟩
    · intro c hc
      apply (ColumnShape.silent_definition (h.columns c hc)).finds hr
    · intro x hx
      apply hunique x.1 (List.fst_mem_of_mem_zipIdx hx)
  have htexts : t.body = ",\n  ".intercalate (parts.map (·.1)) := by
    simp only [body, parts, List.map_append, List.map_map]
    rfl
  have hfound : parts.flatMap (·.2) =
      t.uniques.flatMap inUnique ++ t.references.flatMap inReference := by
    have huniques : (t.uniques.zipIdx 1).flatMap (fun x => inUnique x.1) =
        t.uniques.flatMap inUnique := by
      rw [← List.flatMap_map (g := inUnique), List.zipIdx_map_fst]
    simp [parts, List.flatMap_append, List.flatMap_map, flatMap_nil, huniques]
  have hbody : Finds r t.body.toList (parts.flatMap (·.2)) := by
    rw [htexts]
    apply Finds.intercalate (hsilent (by decide +kernel)) hparts
  show Finds r ("CREATE TABLE " ++ quoteName t.name ++ " (\n  " ++ t.body ++ "\n)").toList _
  simp only [String.toList_append]
  rw [← hfound]
  refine .trail (.lead (.lead (.lead ?_ ?_) ?_) hbody) ?_
  · apply hsilent (by decide +kernel)
  · apply (silent_quoteName h.name).finds hr
  · apply hsilent (by decide +kernel)
  · apply hsilent (by decide +kernel)

/-- The unique constraints that are found in the statement that makes a table. -/
theorem Legible.uniques_create (h : t.Legible) :
  everywhere unique 0 t.create.toList = t.uniques.map fun u => (u.name.getD "", u.columns)
  := by
  have hfound : Finds unique t.create.toList
      ((t.uniques.flatMap fun u => [(u.name.getD "", u.columns)]) ++
        t.references.flatMap fun _ => []) := by
    apply finds_create h (fun s => unique_of_constraintName)
    · intro u hu number
      obtain ⟨name, hname, -⟩ := (h.uniques u hu).name
      rw [hname]
      apply UniqueShape.finds_unique (h.uniques u hu) hname
    · intro f hf
      apply ReferenceShape.finds_unique (h.references f hf)
  rw [flatMap_nil, List.append_nil, ← List.map_eq_flatMap] at hfound
  exact hfound.everywhere_eq

/-- The foreign keys that are found in the statement that makes a table. -/
theorem Legible.references_create (h : t.Legible) :
  everywhere foreignKey 0 t.create.toList = t.references.map fun f => (f.name.getD "", f.column)
  := by
  have hfound : Finds foreignKey t.create.toList
      ((t.uniques.flatMap fun _ => []) ++
        t.references.flatMap fun f => [(f.name.getD "", f.column)]) := by
    apply finds_create h (fun s => foreignKey_of_constraintName)
    · intro u hu number
      apply UniqueShape.finds_foreignKey (h.uniques u hu)
    · intro f hf
      obtain ⟨name, hname, -⟩ := (h.references f hf).name
      rw [hname]
      apply ReferenceShape.finds_foreignKey (h.references f hf) hname
  rw [flatMap_nil, List.nil_append, ← List.map_eq_flatMap] at hfound
  exact hfound.everywhere_eq

end TableShape

end EntityStore
