import EntityStore.Number.Rounded
import EntityStore.Value.Numeric

/-!
# Operations on stored values

Logic with three truth values, the order of all values, arithmetic, bits and the joining of
texts.  Where a value is null nothing is known of it, so most operations answer null then.
-/

namespace EntityStore

open Text

/-- An operation on one value. -/
inductive UnaryOp where
  | not
  | minus
  /-- Turns every bit. -/
  | complement
  | abs
  /-- Whether the value is known to be true, or to be false. -/
  | isTruth (b : Bool)
  deriving DecidableEq, Repr

/-- An operation on two values. -/
inductive BinaryOp where
  | or
  | and
  /-- Equality for which null is a value like others. -/
  | is
  | isNot
  | equal
  | unequal
  | less
  | atMost
  | greater
  | atLeast
  | bitAnd
  | bitOr
  | shiftLeft
  | shiftRight
  | add
  | subtract
  | multiply
  | divide
  | remainder
  | join
  /-- Whether a text has the form of a pattern. -/
  | like
  deriving DecidableEq, Repr

namespace Value

/-! ### Order -/

/-- The place of the kind of a value: null, numbers, texts, bytes. -/
def rank : Value → Nat
  | null => 0
  | text _ => 2
  | bytes _ => 3
  | _ => 1

/-- The order of an integer and a number. -/
def compareMixed (n : Int64) (x : Binary64) : Ordering :=
  match (Binary64.ofInt n.toInt).compare? x, x.truncate? with
  | some .eq, some m => compare n.toInt m
  | some o, _ => o
  | none, _ => .eq

/-- The order of all stored values. -/
def storedOrder : Value → Value → Ordering
  | int n, double x => compareMixed n x
  | double x, int n => (compareMixed n x).swap
  | a, b => if a.rank = b.rank then (a.compare? b).getD .eq else compare a.rank b.rank

/-- The answer of a comparison. -/
def comparison (holds : Ordering → Bool) (a b : Value) : Value :=
  if a.isNull || b.isNull then null else ofTruth (some (holds (a.storedOrder b)))

/-- Whether two values are the same, where null is a value like others. -/
def same (a b : Value) : Bool :=
  a.storedOrder b = .eq

/-! ### Logic -/

/-- Whether one of two truth values holds. -/
def either : Option Bool → Option Bool → Option Bool
  | some true, _ | _, some true => some true
  | some false, some false => some false
  | _, _ => none

/-- Whether both of two truth values hold. -/
def both (a b : Option Bool) : Option Bool :=
  (either (a.map (!·)) (b.map (!·))).map (!·)

/-! ### Arithmetic -/

/-- The result of an operation by its rule for numbers. -/
def onReals (f : Binary64 → Binary64 → Binary64) (a b : Value) : Value :=
  match a.real?, b.real? with
  | some x, some y => ofReal (f x y)
  | _, _ => null

/-- The result of an operation by its rule for integers if there are two and 64 bits
suffice, else by that for numbers. -/
def arithmetic (f : Int → Int → Int) (g : Binary64 → Binary64 → Binary64) (a b : Value) :
    Value :=
  match a.numeric, b.numeric with
  | int n, int m =>
    let k := f n.toInt m.toInt
    if (clamp k).toInt = k then int (clamp k) else onReals g a b
  | _, _ => onReals g a b

/-- The difference. -/
def minus : Value → Value → Value :=
  arithmetic (· - ·) fun x y => x.add y.neg

/-- The quotient; there is none by zero. -/
def quotient (a b : Value) : Value :=
  if b.truth? = some true then arithmetic Int.tdiv Binary64.div a b else null

/-- The remainder of two integers; there is none by zero.  It is an integer unless one of
the values was a number. -/
def remainder (a b : Value) : Value :=
  match a.integer?, b.integer? with
  | some n, some m =>
    if m = 0 then null
    else
      let k := n.toInt.tmod m.toInt
      match a.numeric, b.numeric with
      | int _, int _ => ofInt k
      | _, _ => double (Binary64.ofInt k)
  | _, _ => null

/-! ### Bits -/

/-- The result of an operation on integers. -/
def onIntegers (f : Int64 → Int64 → Int64) (a b : Value) : Value :=
  match a.integer?, b.integer? with
  | some n, some m => int (f n m)
  | _, _ => null

/-- The integer with its bits moved to the left, or to the right for a negative number of
places, where the sign fills up. -/
def shifted (n : Int64) (places : Int) : Int64 :=
  if 64 ≤ places then 0
  else if 0 ≤ places then n <<< Int64.ofInt places
  else if places ≤ -64 then if n < 0 then -1 else 0
  else n >>> Int64.ofInt (-places)

/-! ### Text -/

/-- The text of a value where texts are joined, unless it is null. -/
def joined? : Value → Option String
  | text s => some s
  | int n => some (decimalText n.toInt)
  | double x => some x.roundedText
  | bytes b => some (ofUtf8 b)
  | _ => none

/-- Two texts as one. -/
def join (a b : Value) : Value :=
  match a.joined?, b.joined? with
  | some s, some t => text (s ++ t)
  | _, _ => null

/-- Whether a text has the form of a pattern, where a percent sign stands for any text, an
underscore for any character and a letter of ASCII for both of its cases. -/
def hasForm : List Char → List Char → Bool
  | [], s => s.isEmpty
  | c :: pattern, s =>
    if c = '%' then (List.range (s.length + 1)).any fun n => hasForm pattern (s.drop n)
    else match s with
      | [] => false
      | d :: rest => (c = '_' || c.toLower = d.toLower) && hasForm pattern rest

/-- Whether the text of a value has the form of a pattern. -/
def like (a pattern : Value) : Value :=
  match a.joined?, pattern.joined? with
  | some s, some p => ofTruth (some (hasForm p.toList s.toList))
  | _, _ => null

/-- The value without its sign.  The least integer has none without. -/
def magnitude? : Value → Option Value
  | null => some null
  | int n => if n = Int64.minValue then none else some (int (if n < 0 then -n else n))
  | v => some ((v.real?.map fun x => if x.position < 0 then x.neg else x).elim null double)

end Value

/-- The result of an operation, if there is one. -/
def UnaryOp.apply? (op : UnaryOp) (v : Value) : Option Value :=
  match op with
  | not => some (Value.ofTruth (v.truth?.map (!·)))
  | minus => some ((Value.int 0).minus v)
  | complement => some (v.integer?.elim .null fun n => .int (~~~n))
  | abs => v.magnitude?
  | isTruth b => some (Value.ofTruth (some (v.truth? = some b)))

/-- The result of an operation. -/
def BinaryOp.apply (op : BinaryOp) (a b : Value) : Value :=
  match op with
  | or => Value.ofTruth (Value.either a.truth? b.truth?)
  | and => Value.ofTruth (Value.both a.truth? b.truth?)
  | is => Value.ofTruth (some (a.same b))
  | isNot => Value.ofTruth (some (!a.same b))
  | equal => a.comparison (· = .eq) b
  | unequal => a.comparison (· ≠ .eq) b
  | less => a.comparison (· = .lt) b
  | atMost => a.comparison (· ≠ .gt) b
  | greater => a.comparison (· = .gt) b
  | atLeast => a.comparison (· ≠ .lt) b
  | bitAnd => a.onIntegers (· &&& ·) b
  | bitOr => a.onIntegers (· ||| ·) b
  | shiftLeft => a.onIntegers (fun n m => Value.shifted n m.toInt) b
  | shiftRight => a.onIntegers (fun n m => Value.shifted n (-m.toInt)) b
  | add => a.arithmetic (· + ·) Binary64.add b
  | subtract => a.minus b
  | multiply => a.arithmetic (· * ·) Binary64.mul b
  | divide => a.quotient b
  | remainder => a.remainder b
  | join => a.join b
  | like => a.like b

end EntityStore
