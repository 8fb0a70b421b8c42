import EntityStore.Proofs.Sql.Pattern
import EntityStore.Proofs.Sql.Tree
import EntityStore.Value.Operation

/-!
# Values of expressions

An expression has a value once its columns and parameters have.  Operators are those of stored
values, which are compared as they are stored.  A text is compared with a pattern without regard
to the case of ASCII letters, and every occurrence of one text in another can be replaced.
-/

namespace EntityStore

namespace Like

/-! ### Patterns without regard to case -/

/-- Whether signs stand for a text without regard to the case of ASCII letters. -/
def FitsAnyCase (signs : List Sign) (text : List Char) : Prop :=
  Fits (signs.map (Sign.map Char.toLower)) (text.map Char.toLower)

instance {signs : List Sign} {text : List Char} : Decidable (FitsAnyCase signs text) :=
  inferInstanceAs (Decidable (Fits _ _))

/-- A text has the form of a pattern exactly if the signs of the pattern stand for it. -/
theorem hasForm_eq_true_iff {pattern text : List Char} :
  Value.hasForm pattern text = true ↔ FitsAnyCase (Sign.ofPattern pattern) text
  := by
  unfold FitsAnyCase Sign.ofPattern
  induction pattern generalizing text with
  | nil => simp [Value.hasForm]
  | cons c pattern ih =>
      rw [List.map_cons, List.map_cons, Sign.ofChar, Value.hasForm.eq_def]
      dsimp only
      by_cases hpercent : c = '%'
      · rw [if_pos hpercent, if_pos hpercent, Sign.map, fits_run_iff, List.any_eq_true]
        constructor
        · rintro ⟨n, -, hfits⟩
          exact ⟨_, (List.drop_suffix n text).map _, ih.mp hfits⟩
        · rintro ⟨_, hrest, hfits⟩
          obtain ⟨rest, ⟨skipped, rfl⟩, rfl⟩ := List.suffix_map_iff.mp hrest
          have hin : skipped.length ∈ List.range ((skipped ++ rest).length + 1) := by
            rw [List.mem_range, List.length_append]
            omega
          refine ⟨skipped.length, hin, ?_⟩
          rw [List.drop_left]
          exact ih.mpr hfits
      · rw [if_neg hpercent, if_neg hpercent]
        by_cases hone : c = '_'
        · cases text <;> simp [Sign.map, hone, ih]
        · cases text <;> simp [Sign.map, hone, ih]

/-- If nothing is escaped, the signs of a pattern are those of its characters. -/
theorem Sign.ofEscaped?_of_not_mem {escape : Char} {pattern : List Char} (h : escape ∉ pattern) :
  ofEscaped? escape pattern = some (ofPattern pattern)
  := by
  fun_induction ofEscaped? escape pattern with
  | case1 => rfl
  | case2 => simp_all
  | case3 c => simp_all [ofPattern]
  | case4 c d rest => simp_all
  | case5 c d rest hc ih => simp_all [ofPattern]

end Like

/-! ### Texts replaced -/

/-- A text with another one in place of each occurrence of the first, from left to right, after
`skipped` characters of an occurrence. -/
def Text.replaceFrom (old new : List Char) : (skipped : Nat) → List Char → List Char
  | _, [] => []
  | skipped + 1, _ :: rest => replaceFrom old new skipped rest
  | 0, c :: rest =>
    if old.isPrefixOf (c :: rest) then new ++ replaceFrom old new (old.length - 1) rest
    else c :: replaceFrom old new 0 rest

/-- A text with another one in place of each occurrence of the first.  The empty text occurs
nowhere. -/
def Text.replaceAll (old new s : List Char) : List Char :=
  if old = [] then s else replaceFrom old new 0 s

namespace Value

/-- The text of a value with another one in place of each occurrence of the first. -/
def replace (a old new : Value) : Value :=
  match a.joined?, old.joined?, new.joined? with
  | some s, some p, some t => text (String.ofList (Text.replaceAll p.toList t.toList s.toList))
  | _, _, _ => null

/-- Whether the text of a value has the form of a pattern in which a character escapes others. -/
def likeEscaped (c : Char) (a pattern : Value) : Value :=
  match a.joined?, pattern.joined? with
  | some s, some p => ofTruth (some ((Like.Sign.ofEscaped? c p.toList).any fun signs =>
      Like.FitsAnyCase signs s.toList))
  | _, _ => null

/-- The same with a value for the escape sign, which has to be one character. -/
def likeEscaped? (a pattern sign : Value) : Option Value :=
  match sign.joined?.map String.toList with
  | none => some null
  | some [c] => some (likeEscaped c a pattern)
  | some _ => none

/-- Nothing is escaped by a character that a pattern does not have. -/
theorem likeEscaped_eq_like {a : Value} {pattern : String} {c : Char} (h : c ∉ pattern.toList) :
  likeEscaped c a (.text pattern) = a.like (.text pattern)
  := by
  unfold likeEscaped like
  cases a.joined? with
  | none => rfl
  | some s =>
      simp only [joined?, Like.Sign.ofEscaped?_of_not_mem h, Option.any_some,
        ← Like.hasForm_eq_true_iff, Bool.decide_eq_true]

end Value

namespace Sql

/-! ### Operators and functions -/

/-- The operation on stored values that an operator stands for, if it is one of two operands. -/
def Operator.operation? : Operator → Option BinaryOp
  | equal => some .equal
  | unequal => some .unequal
  | is => some .is
  | isNot => some .isNot
  | like => some .like
  | less => some .less
  | atMost => some .atMost
  | greater => some .greater
  | atLeast => some .atLeast
  | add => some .add
  | divide => some .divide
  | join => some .join
  | comma | within | escape => none

/-- The values that an operator makes of those of its operands.  A comma lists them, and so does
`ESCAPE`, whose operands are both taken by `LIKE`. -/
def Operator.apply? (op : Operator) (as bs : List Value) : Option (List Value) :=
  match op, as, bs with
  | comma, _, _ | escape, _, _ => some (as ++ bs)
  | like, [a], [pattern, sign] => (a.likeEscaped? pattern sign).map ([·])
  | _, [a], [b] => op.operation?.map fun o => [o.apply a b]
  | _, _, _ => none

/-- The value of a call of a function.  The functions that reckon with numbers and dates are left
out. -/
def Function.apply? (f : Function) (arguments : List Value) : Option Value :=
  match f, arguments with
  | replace, [a, old, new] => some (a.replace old new)
  | _, _ => none

/-! ### Trees -/

/-- The value of a leaf.  Those of columns and parameters are given. -/
def Leaf.value? (given : Leaf → Option Value) : Leaf → Option Value
  | textLiteral s => some (.text s)
  | number digits => some (Value.leadingNumber digits.toList)
  | negative digits => some ((Value.int 0).minus (Value.leadingNumber digits.toList))
  | l => given l

namespace Tree

/-- The values of an expression: there are several if it is a list of arguments. -/
def values? (given : Leaf → Option Value) : Tree → Option (List Value)
  | leaf l => (l.value? given).map ([·])
  | call f arguments => do
    let values ← arguments.values? given
    return [← f.apply? values]
  | binary op a b => do
    op.apply? (← a.values? given) (← b.values? given)

/-- The value of an expression that has one. -/
def value? (given : Leaf → Option Value) (T : Tree) : Option Value :=
  match T.values? given with
  | some [v] => some v
  | _ => none

variable {given : Leaf → Option Value} {A B : Tree} {v w : Value}

/-- An expression has one value exactly if its values are that one. -/
theorem value?_eq_some_iff {T : Tree} :
  T.value? given = some v ↔ T.values? given = some [v]
  := by
  unfold value?
  split
  · next heq => rw [heq]; simp
  · next hother =>
      constructor
      · rintro ⟨⟩
      · intro h
        exact absurd h (hother v)

/-- The value of two operands with an operator. -/
theorem value?_binary {op : Operator} {o : BinaryOp} (hop : op.operation? = some o)
    (ha : A.value? given = some v) (hb : B.value? given = some w) :
  (binary op A B).value? given = some (o.apply v w)
  := by
  rw [value?_eq_some_iff] at ha hb ⊢
  rw [values?, ha, hb]
  cases op <;> cases hop <;> rfl

end Tree

end Sql

end EntityStore
