import EntityStore.Schema.ConstraintName
import Mathlib.Data.List.Forall2
import Mathlib.Data.List.TakeWhile

/-!
# Patterns of named constraints

A named constraint is recognised exactly where a text begins with a run of characters of one
of two patterns.  Each part of a pattern ends where the next one begins, since none of the
characters that a part can go on with begins the next.  So there is at most one such run, and
what recognising takes from a text is that run.
-/

namespace EntityStore

open Text

namespace Recognize

variable {s rest : List Char}

/-! ### Parts of patterns -/

/-- A keyword in any case. -/
def Spells (word : String) (s : List Char) : Prop :=
  List.Forall₂ (fun capital c => isLetter capital c = true) word.toList s

/-- Blank characters, if there are any. -/
def Blank (s : List Char) : Prop :=
  ∀ c ∈ s, isBlank c = true

/-- One of some signs, or nothing. -/
def Sign (signs : List Char) (s : List Char) : Prop :=
  s = [] ∨ ∃ c ∈ signs, s = [c]

/-- A word between signs, if there are any. -/
def Named (word s : List Char) : Prop :=
  ∃ opening closing, s = opening ++ word ++ closing ∧ Sign openSigns opening ∧
    Sign closeSigns closing ∧ word ≠ [] ∧ ∀ c ∈ word, isWord c = true

/-- The keyword and the name that a named constraint begins with. -/
def Head (found s : List Char) : Prop :=
  ∃ keyword before name after, s = keyword ++ before ++ name ++ after ∧
    Spells "CONSTRAINT" keyword ∧ Blank before ∧ before ≠ [] ∧ Named found name ∧
    Blank after ∧ after ≠ []

/-- A foreign key of one column. -/
def ForeignKeyText (found column s : List Char) : Prop :=
  ∃ head foreign between key before opened name closed,
    s = head ++ foreign ++ between ++ key ++ before ++ '(' :: opened ++ name ++ closed ++ [')'] ∧
    Head found head ∧ Spells "FOREIGN" foreign ∧ Blank between ∧ between ≠ [] ∧
    Spells "KEY" key ∧ Blank before ∧ Blank opened ∧ Named column name ∧ Blank closed

/-- A unique constraint, with what stands between the parentheses. -/
def UniqueText (found members s : List Char) : Prop :=
  ∃ head unique before, s = head ++ unique ++ before ++ '(' :: members ++ [')'] ∧
    Head found head ∧ Spells "UNIQUE" unique ∧ Blank before ∧ ')' ∉ members

/-- Whether a text begins with no character of a kind. -/
def Stops (kind : Char → Bool) (s : List Char) : Prop :=
  ∀ c ∈ s.head?, kind c = false

/-! ### Parts that are recognised -/

/-- No character of a list is of a kind if none is found. -/
theorem eq_false_of_any {kind : Char → Bool} {signs : List Char} (h : signs.any kind = false) :
  ∀ c ∈ signs, kind c = false
  := by
  simpa using h

/-- What follows a keyword is what is left of a text that begins with it. -/
theorem afterKeyword_eq_some_iff {word : List Char} :
  afterKeyword word s = some rest ↔
    ∃ keyword, List.Forall₂ (fun capital c => isLetter capital c = true) word keyword ∧
      s = keyword ++ rest
  := by
  induction word generalizing s with
  | nil =>
      rw [afterKeyword, Option.some_inj]
      simp
  | cons k word ih =>
      cases s with
      | nil => simp [afterKeyword, List.forall₂_cons_left_iff]
      | cons c s =>
          rw [afterKeyword]
          by_cases hc : isLetter k c = true
          · simp [hc, ih, List.forall₂_cons_left_iff]
          · simp [hc, List.forall₂_cons_left_iff]

/-- What follows a keyword is what is left of a text that begins with it. -/
theorem keyword_eq_some_iff {word : String} :
  keyword word s = some rest ↔ ∃ keyword, Spells word keyword ∧ s = keyword ++ rest
  := afterKeyword_eq_some_iff

/-- A keyword is recognised in front of anything. -/
theorem keyword_append {word : String} {keyword : List Char} (h : Spells word keyword)
    (rest : List Char) :
  Recognize.keyword word (keyword ++ rest) = some rest
  := keyword_eq_some_iff.mpr ⟨keyword, h, rfl⟩

/-- The characters of a kind are the longest run of them. -/
theorem takeWhile_append_of_stops {kind : Char → Bool} {run : List Char}
    (hrun : ∀ c ∈ run, kind c = true) (hrest : Stops kind rest) :
  (run ++ rest).takeWhile kind = run ∧ (run ++ rest).dropWhile kind = rest
  := by
  have hnone : rest.takeWhile kind = [] ∧ rest.dropWhile kind = rest := by
    cases rest with
    | nil => exact ⟨rfl, rfl⟩
    | cons c rest => simp [hrest c rfl]
  rw [List.takeWhile_append_of_pos hrun, List.dropWhile_append_of_pos hrun, hnone.1, hnone.2,
    List.append_nil]
  exact ⟨rfl, rfl⟩

/-- What is left behind all characters of a kind begins with none. -/
theorem stops_dropWhile (kind : Char → Bool) (s : List Char) :
  Stops kind (s.dropWhile kind)
  := by
  intro c hc
  have hnot := List.head?_dropWhile_not kind s
  rw [Option.mem_def.mp hc] at hnot
  exact hnot

/-- What is left of a text without the blank characters at its beginning. -/
theorem trimStart_eq_iff :
  trimStart s = rest ↔ ∃ blank, Blank blank ∧ s = blank ++ rest ∧ Stops isBlank rest
  := by
  constructor
  · rintro rfl
    refine ⟨s.takeWhile isBlank, ?_, ?_, stops_dropWhile isBlank s⟩
    · intro c hc
      apply List.mem_takeWhile_imp hc
    · exact List.takeWhile_append_dropWhile.symm
  · rintro ⟨blank, hblank, rfl, hrest⟩
    exact (takeWhile_append_of_stops hblank hrest).2

/-- What follows blank characters of which there is at least one. -/
theorem blanks_eq_some_iff :
  blanks s = some rest ↔
    ∃ blank, Blank blank ∧ blank ≠ [] ∧ s = blank ++ rest ∧ Stops isBlank rest
  := by
  constructor
  · intro h
    cases s with
    | nil => cases h
    | cons c s =>
        rw [blanks] at h
        split at h
        · next hc =>
            obtain ⟨blank, hblank, rfl, hrest⟩ := trimStart_eq_iff.mp (Option.some.inj h)
            refine ⟨c :: blank, ?_, by simp, rfl, hrest⟩
            exact List.forall_mem_cons.mpr ⟨hc, hblank⟩
        · cases h
  · rintro ⟨blank, hblank, hne, rfl, hrest⟩
    cases blank with
    | nil => cases hne rfl
    | cons c blank =>
        obtain ⟨hc, hblank⟩ := List.forall_mem_cons.mp hblank
        rw [List.cons_append, blanks, if_pos hc]
        exact congrArg some (trimStart_eq_iff.mpr ⟨blank, hblank, rfl, hrest⟩)

/-- What follows a character. -/
theorem char_eq_some_iff {c : Char} :
  char c s = some rest ↔ s = c :: rest
  := by
  cases s with
  | nil => simp [char]
  | cons d s => simp [char, eq_comm]

/-- A sign is taken from a text that does not go on with another. -/
theorem optional_append {signs sign : List Char} (hsign : Sign signs sign)
    (hrest : Stops signs.contains rest) :
  optional signs (sign ++ rest) = rest
  := by
  obtain rfl | ⟨c, hc, rfl⟩ := hsign
  · cases rest with
    | nil => rfl
    | cons d rest => simpa [optional] using hrest d rfl
  · simp [optional, hc]

/-- What is left of a text without the sign at its beginning. -/
theorem exists_of_optional (signs s : List Char) :
  ∃ sign, Sign signs sign ∧ s = sign ++ optional signs s
  := by
  cases s with
  | nil => exact ⟨[], .inl rfl, rfl⟩
  | cons c s =>
      by_cases hc : signs.contains c = true
      · refine ⟨[c], .inr ⟨c, List.contains_iff_mem.mp hc, rfl⟩, ?_⟩
        simp [optional, List.contains_iff_mem.mp hc]
      · refine ⟨[], .inl rfl, ?_⟩
        rw [optional, if_neg hc, List.nil_append]

/-! ### Kinds of characters -/

/-- All blank characters. -/
def blankChars : List Char :=
  blankRanges.flatMap fun (first, last) => (List.range' first (last + 1 - first)).map Char.ofNat

/-- What holds of all blank characters holds of each. -/
theorem of_isBlank {c : Char} (p : Char → Bool) (hall : blankChars.all p = true)
    (h : isBlank c = true) :
  p c = true
  := by
  obtain ⟨range, hrange, hc⟩ := List.any_eq_true.mp h
  simp only [Bool.and_eq_true, decide_eq_true_eq] at hc
  apply List.all_eq_true.mp hall
  apply List.mem_flatMap_of_mem hrange
  refine List.mem_map.mpr ⟨c.toNat, ?_, Char.ofNat_toNat c⟩
  rw [List.mem_range'_1]
  omega

/-- The ranges of blank characters and of word characters have no character in common. -/
theorem disjoint_ranges :
  (blankRanges.all fun b => wordRanges.toList.all fun w => decide (b.2 < w.1 ∨ w.2 < b.1)) = true
  := by decide +kernel

/-- No blank character belongs to a word. -/
theorem isWord_of_isBlank {c : Char} (h : isBlank c = true) :
  isWord c = false
  := by
  unfold isWord
  split
  · next hascii =>
      have hall := of_isBlank (fun c => decide (0x80 ≤ c.toNat) || !(c.isAlphanum || c == '_'))
        (by decide +kernel) h
      have hlarge : decide (0x80 ≤ c.toNat) = false := by simpa using hascii
      simpa [hlarge] using hall
  · rw [← Bool.not_eq_true, inRanges]
    intro hword
    rw [← Array.any_toList] at hword
    obtain ⟨b, hb, hc⟩ := List.any_eq_true.mp h
    obtain ⟨w, hw, hd⟩ := List.any_eq_true.mp hword
    have hapart := List.all_eq_true.mp (List.all_eq_true.mp disjoint_ranges b hb) w hw
    simp only [Bool.and_eq_true, decide_eq_true_eq] at hc hd hapart
    omega

/-- No blank character is a sign before a name. -/
theorem not_openSigns_of_isBlank {c : Char} (h : isBlank c = true) :
  openSigns.contains c = false
  := by
  have hall := of_isBlank (fun c => !openSigns.contains c) (by decide +kernel) h
  simpa using hall

/-- No blank character is a sign behind a name. -/
theorem not_closeSigns_of_isBlank {c : Char} (h : isBlank c = true) :
  closeSigns.contains c = false
  := by
  have hall := of_isBlank (fun c => !closeSigns.contains c) (by decide +kernel) h
  simpa using hall

/-- A text that begins with characters of a kind begins with none of another. -/
theorem stops_append {kind : Char → Bool} {run : List Char} (hne : run ≠ [])
    (hrun : ∀ c ∈ run, kind c = false) (rest : List Char) :
  Stops kind (run ++ rest)
  := by
  cases run with
  | nil => cases hne rfl
  | cons c run =>
      rintro _ ⟨⟩
      apply hrun c (by simp)

/-- A text begins with no character of a kind if its first character is of another. -/
theorem stops_cons {kind : Char → Bool} {c : Char} (hc : kind c = false) (rest : List Char) :
  Stops kind (c :: rest)
  := by
  rintro _ ⟨⟩
  exact hc

/-- Blank characters do not begin a text with a character of another kind. -/
theorem Blank.stops {kind : Char → Bool} {blank : List Char} (h : Blank blank)
    (hkind : ∀ {c}, isBlank c = true → kind c = false) (hrest : Stops kind rest) :
  Stops kind (blank ++ rest)
  := by
  cases blank with
  | nil => exact hrest
  | cons c blank => exact stops_cons (hkind (h c (by simp))) _

/-- A keyword begins with no blank character. -/
theorem Spells.stops {word : String} {keyword : List Char} (h : Spells word keyword)
    (hne : word.toList ≠ [])
    (hword : (blankChars.all fun c => word.toList.all (!isLetter · c)) = true)
    (rest : List Char) :
  Stops isBlank (keyword ++ rest)
  := by
  unfold Spells at h
  cases hlist : word.toList with
  | nil => cases hne hlist
  | cons k ks =>
      rw [hlist, List.forall₂_cons_left_iff] at h
      obtain ⟨c, cs, hc, -, rfl⟩ := h
      rintro _ ⟨⟩
      rw [← Bool.not_eq_true]
      intro hblank
      have hall := of_isBlank (fun c => word.toList.all (!isLetter · c)) hword hblank
      simp [hlist, hc] at hall

/-- A name begins with no blank character. -/
theorem Named.stops {word name : List Char} (h : Named word name) (rest : List Char) :
  Stops isBlank (name ++ rest)
  := by
  obtain ⟨opening, closing, rfl, hopening, -, hne, hword⟩ := h
  intro c hc
  rw [← Bool.not_eq_true]
  intro hblank
  obtain rfl | ⟨d, hd, rfl⟩ := hopening
  · cases word with
    | nil => cases hne rfl
    | cons d word =>
        cases hc
        have hnot := isWord_of_isBlank hblank
        rw [hword c (by simp)] at hnot
        cases hnot
  · cases hc
    have hnot := not_openSigns_of_isBlank hblank
    rw [List.contains_iff_mem.mpr hd] at hnot
    cases hnot

/-! ### Names -/

/-- A name is recognised in front of what does not go on with it. -/
theorem name_append {word name : List Char} (h : Named word name) (hword : Stops isWord rest)
    (hsign : Stops closeSigns.contains rest) :
  Recognize.name (name ++ rest) = some (String.ofList word, rest)
  := by
  obtain ⟨opening, closing, rfl, hopening, hclosing, hne, hchars⟩ := h
  have hsigns : ∀ c, isWord c = true → openSigns.contains c = false := by
    intro c hc
    rw [← Bool.not_eq_true]
    intro hmem
    have hnone : openSigns.any isWord = false := by decide
    rw [eq_false_of_any hnone c (List.contains_iff_mem.mp hmem)] at hc
    cases hc
  have hopen : optional openSigns (opening ++ (word ++ (closing ++ rest))) =
      word ++ (closing ++ rest) := by
    apply optional_append hopening
    apply stops_append hne
    intro c hc
    apply hsigns c (hchars c hc)
  have hclose : Stops isWord (closing ++ rest) := by
    obtain rfl | ⟨c, hc, rfl⟩ := hclosing
    · exact hword
    · rintro _ ⟨⟩
      have hnone : closeSigns.any isWord = false := by decide
      apply eq_false_of_any hnone c hc
  obtain ⟨htake, hdrop⟩ := takeWhile_append_of_stops hchars hclose
  have hempty : word.isEmpty = false := by simpa using hne
  simp only [List.append_assoc, Recognize.name, hopen, htake, hdrop, hempty,
    optional_append hclosing hsign]
  rfl

/-- What is recognised as a name is one. -/
theorem exists_of_name {word : String} (h : Recognize.name s = some (word, rest)) :
  ∃ name, Named word.toList name ∧ s = name ++ rest
  := by
  obtain ⟨opening, hopening, hs⟩ := exists_of_optional openSigns s
  have hwhole := List.takeWhile_append_dropWhile (p := isWord) (l := optional openSigns s)
  obtain ⟨closing, hclosing, hdrop⟩ :=
    exists_of_optional closeSigns ((optional openSigns s).dropWhile isWord)
  dsimp only [Recognize.name] at h
  split at h
  · cases h
  · next hne =>
      cases h
      refine ⟨opening ++ (optional openSigns s).takeWhile isWord ++ closing,
        ⟨opening, closing, by rw [String.toList_ofList], hopening, hclosing, ?_, ?_⟩, ?_⟩
      · simpa using hne
      · intro c hc
        rw [String.toList_ofList] at hc
        apply List.mem_takeWhile_imp hc
      · rw [List.append_assoc, List.append_assoc, ← hdrop, hwhole, ← hs]

/-! ### Constraints -/

/-- The beginning of a constraint is recognised in front of what is not blank. -/
theorem constraintName_append {found head : List Char} (h : Head found head)
    (hrest : Stops isBlank rest) :
  constraintName (head ++ rest) = some (String.ofList found, rest)
  := by
  obtain ⟨word, before, name, after, rfl, hword, hbefore, hne, hname, hafter, hne'⟩ := h
  have hkeyword : keyword "CONSTRAINT" (word ++ (before ++ (name ++ (after ++ rest)))) =
      some (before ++ (name ++ (after ++ rest))) :=
    keyword_eq_some_iff.mpr ⟨word, hword, rfl⟩
  have hblanks : blanks (before ++ (name ++ (after ++ rest))) = some (name ++ (after ++ rest)) :=
    blanks_eq_some_iff.mpr ⟨before, hbefore, hne, rfl, hname.stops _⟩
  have hfound : Recognize.name (name ++ (after ++ rest)) =
      some (String.ofList found, after ++ rest) := by
    apply name_append hname
    · apply stops_append hne'
      intro c hc
      apply isWord_of_isBlank (hafter c hc)
    · apply stops_append hne'
      intro c hc
      apply not_closeSigns_of_isBlank (hafter c hc)
  have hend : blanks (after ++ rest) = some rest :=
    blanks_eq_some_iff.mpr ⟨after, hafter, hne', rfl, hrest⟩
  simp only [List.append_assoc, constraintName, hkeyword, hblanks, hfound, hend,
    Option.bind_eq_bind, Option.bind_some, Option.pure_def]

/-- What is recognised as the beginning of a constraint is one. -/
theorem exists_of_constraintName {found : String} (h : constraintName s = some (found, rest)) :
  ∃ head, Head found.toList head ∧ s = head ++ rest
  := by
  simp only [constraintName, Option.bind_eq_bind, Option.bind_eq_some_iff, Option.pure_def,
    Option.some_inj, Prod.exists, Prod.mk.injEq] at h
  obtain ⟨s₁, hkeyword, s₂, hbefore, w, s₃, hname, s₄, hafter, rfl, rfl⟩ := h
  obtain ⟨word, hword, rfl⟩ := keyword_eq_some_iff.mp hkeyword
  obtain ⟨before, hblank, hne, rfl, -⟩ := blanks_eq_some_iff.mp hbefore
  obtain ⟨name, hnamed, rfl⟩ := exists_of_name hname
  obtain ⟨after, hblank', hne', rfl, hrest⟩ := blanks_eq_some_iff.mp hafter
  use word ++ before ++ name ++ after
  use ⟨word, before, name, after, rfl, hword, hblank, hne, hnamed, hblank', hne'⟩
  simp only [List.append_assoc]

/-- A foreign key is recognised exactly at the texts of one. -/
theorem foreignKey_eq_some_iff {found column : String} :
  foreignKey s = some ((found, column), rest) ↔
    ∃ run, ForeignKeyText found.toList column.toList run ∧ s = run ++ rest
  := by
  constructor
  · intro h
    simp only [foreignKey, Option.bind_eq_bind, Option.bind_eq_some_iff, Option.pure_def,
      Option.some_inj, Prod.exists, Prod.mk.injEq] at h
    obtain ⟨w, s₁, h₁, s₂, h₂, s₃, h₃, s₄, h₄, s₅, h₅, c, s₆, h₆, s₇, h₇, ⟨rfl, rfl⟩, rfl⟩ := h
    obtain ⟨head, hhead, rfl⟩ := exists_of_constraintName h₁
    obtain ⟨foreign, hforeign, rfl⟩ := keyword_eq_some_iff.mp h₂
    obtain ⟨between, hbetween, hne, rfl, -⟩ := blanks_eq_some_iff.mp h₃
    obtain ⟨key, hkey, rfl⟩ := keyword_eq_some_iff.mp h₄
    obtain ⟨before, hbefore, rfl, -⟩ := trimStart_eq_iff.mp (char_eq_some_iff.mp h₅)
    obtain ⟨name, hname, htrim⟩ := exists_of_name h₆
    obtain ⟨opened, hopened, rfl, -⟩ := trimStart_eq_iff.mp htrim
    obtain ⟨closed, hclosed, rfl, -⟩ := trimStart_eq_iff.mp (char_eq_some_iff.mp h₇)
    refine ⟨_, ⟨head, foreign, between, key, before, opened, name, closed, rfl, hhead, hforeign,
      hbetween, hne, hkey, hbefore, hopened, hname, hclosed⟩, ?_⟩
    simp only [List.append_assoc, List.cons_append, List.nil_append]
  · rintro ⟨_, ⟨head, foreign, between, key, before, opened, name, closed, rfl, hhead, hforeign,
      hbetween, hne, hkey, hbefore, hopened, hname, hclosed⟩, rfl⟩
    have h₇ : trimStart (closed ++ (')' :: rest)) = ')' :: rest :=
      trimStart_eq_iff.mpr ⟨closed, hclosed, rfl, stops_cons (by decide) rest⟩
    have hword : Stops isWord (')' :: rest) := stops_cons (by decide) rest
    have hsign : Stops closeSigns.contains (')' :: rest) := stops_cons (by decide) rest
    have h₆ := name_append hname (hclosed.stops isWord_of_isBlank hword)
      (hclosed.stops not_closeSigns_of_isBlank hsign)
    have h₅ := trimStart_eq_iff.mpr
      ⟨opened, hopened, rfl, hname.stops (closed ++ (')' :: rest))⟩
    have h₄ := trimStart_eq_iff.mpr ⟨before, hbefore, rfl,
      stops_cons (by decide : isBlank '(' = false) (opened ++ (name ++ (closed ++ (')' :: rest))))⟩
    have h₃ := blanks_eq_some_iff.mpr ⟨between, hbetween, hne, rfl,
      hkey.stops (by decide) (by decide +kernel)
        (before ++ ('(' :: (opened ++ (name ++ (closed ++ (')' :: rest))))))⟩
    have h₁ := constraintName_append hhead (hforeign.stops (by decide) (by decide +kernel)
      (between ++ (key ++ (before ++ ('(' :: (opened ++ (name ++ (closed ++ (')' :: rest)))))))))
    simp only [foreignKey, List.append_assoc, List.cons_append, List.nil_append, h₁,
      keyword_append hforeign, h₃, keyword_append hkey, h₄, char_eq_some_iff.mpr rfl, h₅, h₆, h₇,
      String.ofList_toList, Option.bind_eq_bind, Option.bind_some, Option.pure_def]

/-- A unique constraint is recognised exactly at the texts of one. -/
theorem unique_eq_some_iff {found : String} {columns : List String} :
  unique s = some ((found, columns), rest) ↔
    ∃ run members, UniqueText found.toList members run ∧ s = run ++ rest ∧
      (splitAt ',' members).map member = columns
  := by
  constructor
  · intro h
    simp only [unique, Option.bind_eq_bind, Option.bind_eq_some_iff, Option.pure_def,
      Option.some_inj, Prod.exists, Prod.mk.injEq] at h
    obtain ⟨w, s₁, h₁, s₂, h₂, s₃, h₃, s₄, h₄, ⟨rfl, hcolumns⟩, rfl⟩ := h
    obtain ⟨head, hhead, rfl⟩ := exists_of_constraintName h₁
    obtain ⟨unique, hunique, rfl⟩ := keyword_eq_some_iff.mp h₂
    obtain ⟨before, hbefore, rfl, -⟩ := trimStart_eq_iff.mp (char_eq_some_iff.mp h₃)
    have hwhole := List.takeWhile_append_dropWhile (p := (· ≠ ')')) (l := s₃)
    rw [char_eq_some_iff.mp h₄] at hwhole
    refine ⟨_, _, ⟨head, unique, before, rfl, hhead, hunique, hbefore, ?_⟩, ?_, hcolumns⟩
    · intro hmem
      simpa using List.mem_takeWhile_imp hmem
    · simp only [List.append_assoc, List.cons_append, List.nil_append, hwhole]
  · rintro ⟨_, members, ⟨head, unique, before, rfl, hhead, hunique, hbefore, hmembers⟩, rfl, rfl⟩
    have hnot : ∀ c ∈ members, decide (c ≠ ')') = true := by
      intro c hc
      apply decide_eq_true
      rintro rfl
      apply hmembers hc
    have hend : Stops (fun c => decide (c ≠ ')')) (')' :: rest) := stops_cons (by decide) rest
    have hclose := takeWhile_append_of_stops hnot hend
    have h₃ := trimStart_eq_iff.mpr ⟨before, hbefore, rfl,
      stops_cons (by decide : isBlank '(' = false) (members ++ (')' :: rest))⟩
    have h₁ := constraintName_append hhead (hunique.stops (by decide) (by decide +kernel)
      (before ++ ('(' :: (members ++ (')' :: rest)))))
    simp only [Recognize.unique, List.append_assoc, List.cons_append, List.nil_append, h₁,
      keyword_append hunique, h₃, char_eq_some_iff.mpr rfl, hclose, String.ofList_toList,
      Option.bind_eq_bind, Option.bind_some, Option.pure_def]

end Recognize

end EntityStore
