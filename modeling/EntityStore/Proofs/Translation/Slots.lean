import EntityStore.Proofs.Translation.Reading
import Mathlib.Data.List.Basic

/-!
# Parameters in texts and fragments

The placeholders of a text are the tokens of it that stand for parameters.  A text that is
put together from others has the placeholders of these, from left to right.  Those of a fragment
are its parameters in order.  Each is named after a column of a table that is read, or after
none, and they are numbered without a gap.
-/

namespace EntityStore

open Text Sql

namespace Sql

/-! ### Texts -/

/-- The parameter that a token stands for, if it does, with its mark. -/
def Token.slot? : Token → Option String
  | .parameter slot => some slot
  | _ => none

/-- The placeholders of a text in order, with their marks. -/
def placeholders (s : String) : List String :=
  (tokens s).filterMap Token.slot?

/-- Whether a text is read as tokens that mention parameters in order. -/
def Mentions (s : String) (slots : List String) : Prop :=
  ∃ ts, Lexes s ts ∧ ts.filterMap Token.slot? = slots

variable {a b : String} {xs ys : List String}

/-- A text that mentions parameters has them as its placeholders. -/
theorem Mentions.placeholders_eq (h : Mentions a xs) :
  placeholders a = xs
  := by
  obtain ⟨ts, hlexes, hslots⟩ := h
  rw [placeholders, hlexes.tokens_eq, hslots]

/-! ### Tokens -/

/-- An identifier mentions no parameter. -/
theorem mentions_word (h : isIdentifier a = true) :
  Mentions a []
  := ⟨_, lexes_word h, rfl⟩

/-- A quoted name mentions no parameter, whatever stands between its quotes. -/
theorem mentions_quoteName (name : String) :
  Mentions (quoteName name) []
  := ⟨_, lexes_quoteName name, rfl⟩

/-- A column of a table mentions no parameter. -/
theorem mentions_qualified (ha : isIdentifier a = true) (hb : isIdentifier b = true) :
  Mentions (a ++ ("." ++ b)) []
  := ⟨_, lexes_qualified ha hb, rfl⟩

/-- The text of an integer mentions no parameter. -/
theorem mentions_decimalText (n : Int) :
  Mentions (decimalText n) []
  := by
  obtain ⟨ds, h | h⟩ := lexes_decimalText n
  · exact ⟨_, h, rfl⟩
  · exact ⟨_, h, rfl⟩

/-- What joins two terms mentions no parameter. -/
theorem mentions_joint (h : a ∈ joints) :
  Mentions a []
  := by
  obtain h | h := List.mem_append.mp h
  · exact ⟨_, lexes_operator h, rfl⟩
  · have hall : ∀ w ∈ joiningWords, isIdentifier w = true := by decide
    apply mentions_word (hall a h)

/-! ### Texts put together -/

/-- Two texts with a blank between them. -/
theorem Mentions.blank (ha : Mentions a xs) (hb : Mentions b ys) :
  Mentions (a ++ " " ++ b) (xs ++ ys)
  := by
  obtain ⟨ts, hts, rfl⟩ := ha
  obtain ⟨us, hus, rfl⟩ := hb
  use ts ++ us, hts.blank hus
  apply List.filterMap_append

/-- Two texts with one between them that mentions no parameter. -/
theorem Mentions.between {joint : String} (hjoint : Mentions joint []) (ha : Mentions a xs)
    (hb : Mentions b ys) :
  Mentions (a ++ " " ++ joint ++ " " ++ b) (xs ++ ys)
  := by
  have h := (ha.blank hjoint).blank hb
  rw [List.append_nil] at h
  apply h

/-- Two texts with a word and blanks between them. -/
theorem Mentions.joinedBy {between : String} (ha : Mentions a xs) (word : String)
    (hword : isIdentifier word = true) (hbetween : between = " " ++ word ++ " ")
    (hb : Mentions b ys) :
  Mentions (a ++ between ++ b) (xs ++ ys)
  := by
  have h := Mentions.between (mentions_word hword) ha hb
  rw [hbetween]
  simp only [String.append_assoc] at h ⊢
  apply h

/-- Two texts with a comma between them. -/
theorem Mentions.comma (ha : Mentions a xs) (hb : Mentions b ys) :
  Mentions (a ++ ", " ++ b) (xs ++ ys)
  := by
  obtain ⟨ts, hts, rfl⟩ := ha
  obtain ⟨us, hus, rfl⟩ := hb
  use ts ++ .symbol "," :: us, hts.comma hus
  apply List.filterMap_append

/-- Two texts with the sign of a quotient between them. -/
theorem Mentions.quotient (ha : Mentions a xs) (hb : Mentions b ys) :
  Mentions (a ++ " / " ++ b) (xs ++ ys)
  := by
  obtain ⟨ts, hts, rfl⟩ := ha
  obtain ⟨us, hus, rfl⟩ := hb
  use ts ++ .symbol "/" :: us, hts.quotient hus
  apply List.filterMap_append

/-- A column of a table under another name mentions no parameter, whatever that name is. -/
theorem mentions_renamed (ha : isIdentifier a = true) (hb : isIdentifier b = true)
    (name : String) :
  Mentions (a ++ "." ++ b ++ " AS " ++ quoteName name) []
  := by
  have h : Mentions (a ++ ("." ++ b) ++ " AS " ++ quoteName name) [] :=
    (mentions_qualified ha hb).joinedBy "AS" (by decide) (by decide) (mentions_quoteName name)
  simp only [String.append_assoc] at h ⊢
  apply h

/-- Parentheses are no parameters. -/
theorem slots_group (ts : List Token) :
  (.symbol "(" :: (ts ++ [.symbol ")"])).filterMap Token.slot? = ts.filterMap Token.slot?
  := by
  show (ts ++ [Token.symbol ")"]).filterMap Token.slot? = _
  rw [List.filterMap_append]
  apply List.append_nil

/-- A text between parentheses. -/
theorem Mentions.group (h : Mentions a xs) :
  Mentions ("(" ++ a ++ ")") xs
  := by
  obtain ⟨ts, hts, rfl⟩ := h
  use .symbol "(" :: (ts ++ [.symbol ")"]), hts.group
  apply slots_group

/-- A text behind a keyword. -/
theorem Mentions.lead (keyword : String) (hkeyword : isIdentifier keyword = true)
    (h : Mentions a xs) :
  Mentions (keyword ++ " " ++ a) xs
  := (mentions_word hkeyword).blank h

/-- A call of a function. -/
theorem Mentions.call {function : String} (hfunction : isIdentifier function = true)
    (h : Mentions a xs) :
  Mentions (function ++ ("(" ++ a ++ ")")) xs
  := by
  obtain ⟨ts, hts, rfl⟩ := h
  use .word function :: .symbol "(" :: (ts ++ [.symbol ")"]), hts.call hfunction
  apply slots_group

/-- What asks for something of tables. -/
theorem mentions_selection (ha : Mentions a []) (hb : Mentions b []) :
  Mentions ("SELECT " ++ a ++ " FROM " ++ b) []
  := by
  have hselect := ha.lead "SELECT" (by decide)
  have h : Mentions ("SELECT" ++ " " ++ a ++ " FROM " ++ b) [] :=
    hselect.joinedBy "FROM" (by decide) (by decide) hb
  have hopening : "SELECT " = "SELECT" ++ " " := by decide
  rw [hopening]
  exact h

/-- Texts with a separator between them mention what each of them mentions. -/
theorem mentions_intercalate {separator : String} {parts : List (String × List String)}
    (hseparator : ∀ a b xs ys, Mentions a xs → Mentions b ys →
      Mentions (a ++ separator ++ b) (xs ++ ys))
    (hne : parts ≠ []) (h : ∀ x ∈ parts, Mentions x.1 x.2) :
  Mentions (separator.intercalate (parts.map (·.1))) (parts.flatMap (·.2))
  := by
  induction parts with
  | nil => cases hne rfl
  | cons x rest ih =>
      rw [List.forall_mem_cons] at h
      cases rest with
      | nil => simpa using h.1
      | cons y rest =>
          have hrest := ih (by simp) h.2
          rw [List.map_cons, List.map_cons, String.intercalate_cons_cons, List.flatMap_cons]
          apply hseparator _ _ _ _ h.1 hrest

/-- Texts without parameters have none together. -/
theorem slots_silent (texts : List String) :
  (texts.map fun a => (a, ([] : List String))).flatMap (·.2) = []
  := by simp [List.flatMap_eq_nil_iff]

/-- A list of texts that mention no parameters mentions none. -/
theorem mentions_commaList {parts : List String} (hne : parts ≠ [])
    (h : ∀ a ∈ parts, Mentions a []) :
  Mentions (commaList parts) []
  := by
  have hparts : ∀ x ∈ parts.map fun a => (a, ([] : List String)), Mentions x.1 x.2 := by
    intro x hx
    obtain ⟨a, ha, rfl⟩ := List.mem_map.mp hx
    apply h a ha
  have hcomma : ∀ a b xs ys, Mentions a xs → Mentions b ys →
      Mentions (a ++ ", " ++ b) (xs ++ ys) := by
    intro a b xs ys ha hb
    apply ha.comma hb
  have hall := mentions_intercalate hcomma (by simpa using hne) hparts
  rw [slots_silent, List.map_map, Function.comp_def, List.map_id'] at hall
  apply hall

/-- Texts that mention parameters in order. -/
def Grammar.mentions : Grammar where
  Term := Mentions
  Comparison := Mentions
  term h := h
  word := mentions_word
  qualified := mentions_qualified
  quotedName := mentions_quoteName
  quotedText text := ⟨_, lexes_quoteText text, rfl⟩
  integer := mentions_decimalText
  two := ⟨_, lexes_two, rfl⟩
  parameter hne h := ⟨_, lexes_parameter hne h, rfl⟩
  comma ha hb := ha.comma hb
  quotient ha hb := ha.quotient hb
  group h := h.group
  selection h := (h.lead "SELECT" (by decide)).group
  call hfunction h := h.call hfunction.1
  compare ha hjoint hb := .between (mentions_joint hjoint) ha hb
  compareNot ha hjoint hb := .between (mentions_joint hjoint) ha (hb.lead "NOT" (by decide))

end Sql

/-! ### Fragments -/

/-- The placeholders of a fragment are its parameters in order.  They are numbered from a
number on, each behind the spelling of a column of one of the tables or behind `Value`. -/
structure Sql.Fragment.Aligned (tables : List Descriptor) (n : Nat) (f : Fragment) : Prop where
  placeholders : placeholders f.sql = f.params.map fun p => "@" ++ p.name
  names : ∀ i (h : i < f.params.length), ∃ base,
    (base = "Value" ∨ ∃ d ∈ tables, base ∈ d.allColumns.map (·.1)) ∧
      f.params[i].name = base ++ decimalText (n + i : Nat)

/-- A text that mentions numbered parameters is aligned with them. -/
theorem Sql.Fragment.aligned_of_numbered {tables : List Descriptor} {n : Nat} {f : Fragment}
    (h : Mentions f.sql (marked (f.params.map (·.name))))
    (hnumbered : Numbered (fun base => ∃ d ∈ tables, d.IsBase base) n f.params) :
  f.Aligned tables n
  := by
  constructor
  · rw [h.placeholders_eq, marked, List.map_map]
    rfl
  · intro i hi
    obtain ⟨base, ⟨d, hd, hbase⟩, hname⟩ := hnumbered.name_getElem i hi
    use base
    constructor
    · obtain rfl | ⟨name, type, hresolve⟩ := hbase
      · left; rfl
      · right
        use d, hd
        apply List.mem_map_of_mem (Descriptor.mem_allColumns_of_resolve? hresolve)
    · apply hname

namespace Sql

/-- A condition mentions its parameters in order if its atoms do. -/
theorem mentions_text {c : Condition}
    (h : c.formula.All fun d => Mentions d.text (marked d.slots)) :
  Mentions c.text (marked c.slots)
  := by
  induction c with
  | not c ih =>
      have hnot := (ih h).group.lead "NOT" (by decide)
      have hopening : "NOT (" = "NOT" ++ " " ++ "(" := by decide
      show Mentions ("NOT (" ++ c.text ++ ")") (marked c.slots)
      rw [hopening]
      simp only [String.append_assoc] at hnot ⊢
      apply hnot
  | combine logic c d ihc ihd =>
      have hlogic : isIdentifier logic.sql = true := by cases logic <;> decide
      have hboth := (Mentions.between (mentions_word hlogic) (ihc h.1) (ihd h.2)).group
      show Mentions ("(" ++ c.text ++ " " ++ logic.sql ++ " " ++ d.text ++ ")") _
      rw [Condition.slots, marked_append]
      simp only [String.append_assoc] at hboth ⊢
      apply hboth
  | constant b => apply h
  | truth tableAlias column expected => apply h
  | compare l operator r => apply h
  | call helper args => apply h

end Sql

namespace Predicate

variable {p : Predicate} {rules : TranslationRules} {d : Descriptor} {tableAlias : Option String}
  {n : Nat}

/-- The condition of a translation mentions its parameters in order. -/
theorem mentions_translate {scope : Scope} {c : Condition} {params : List Param}
    (hscope : scope.Named) (h : (p.translate scope n).outcome = .ok (c, params)) :
  Mentions c.text (marked (params.map (·.name)))
  := by
  rw [← (translate_ok h).2.2]
  apply mentions_text
  apply (alike_of_translate h).all
  intro q c' hc'
  apply hscope.comparison_text .mentions hc'.basic

/-- The text of a fragment mentions its parameters in order. -/
theorem mentions_compile {f : Fragment}
    (hscope : Scope.Named ⟨d, tableAlias, rules.opaqueTimestamps⟩)
    (h : (p.compile rules d tableAlias n).result = .ok f) :
  Mentions f.sql (marked (f.params.map (·.name)))
  := by
  cases hout : (p.translate ⟨d, tableAlias, rules.opaqueTimestamps⟩ n).outcome with
  | ok made =>
      obtain ⟨c, params⟩ := made
      rw [compile_of_ok hout] at h
      cases h
      apply mentions_translate hscope hout
  | error u =>
      rw [compile_of_error hout] at h
      unfold TranslationRules.degrade at h
      split at h
      · cases h
      · cases h
        apply Grammar.mentions.comparison_constant false

/-- What a predicate comes to is aligned with its parameters, and the counter moves past
them. -/
theorem aligned_compile {f : Fragment}
    (hscope : Scope.Named ⟨d, tableAlias, rules.opaqueTimestamps⟩)
    (h : (p.compile rules d tableAlias n).result = .ok f) :
  f.Aligned [d] n ∧ (p.compile rules d tableAlias n).counter = n + f.params.length
  := by
  obtain ⟨hcounter, hnumbered⟩ := compile_ok h
  constructor
  · apply Fragment.aligned_of_numbered (mentions_compile hscope h)
    apply hnumbered.mono
    intro base hbase
    use d, by simp, hbase
  · apply hcounter

end Predicate

end EntityStore
