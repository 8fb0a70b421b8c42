import EntityStore.Proofs.Calendar.International

/-!
# International layouts

A format has an international layout if its items are the parts of a date, perhaps with a time
behind it, in the order and between the signs of the international standard.  Blanks may stand
before each number.  In such a format all timestamps have international texts.
-/

namespace EntityStore.Calendar

open Text

/-! ### Items of formats -/

/-- Whether an item can be one of a format: a literal is not blank, a blank is, and there are only
three numbers of digits of a fraction. -/
def Item.isRegular : Item → Bool
  | .literal c => !isBlank c
  | .blank c => isBlank c
  | .fixed (.fractionDigits n) | .fixed (.bareDigits n) => n = 3 || n = 6 || n = 9
  | _ => true

theorem isRegular_plain (c : Char) :
  (Item.plain c).isRegular = true
  := by
  unfold Item.plain
  cases h : isBlank c <;> simp [Item.isRegular, h]

theorem isRegular_of_ofLetter? {c : Char} {items : List Item} (h : Item.ofLetter? c = some items) :
  ∀ item ∈ items, item.isRegular
  := by
  unfold Item.ofLetter? at h
  split at h <;> cases h <;> decide

/-- Whether a pending directive makes an item that can be one of a format. -/
def Item.Pending.isRegular : Item.Pending → Bool
  | .digits part => (Item.fixed part).isRegular
  | _ => true

theorem isRegular_of_map {start items : List Item} {more : Option (List Item)}
    (hstart : ∀ item ∈ start, item.isRegular)
    (hmore : ∀ {rest}, more = some rest → ∀ item ∈ rest, item.isRegular)
    (h : more.map (start ++ ·) = some items) :
  ∀ item ∈ items, item.isRegular
  := by
  obtain ⟨rest, hrest, rfl⟩ := Option.map_eq_some_iff.mp h
  rw [List.forall_mem_append]
  exact ⟨hstart, hmore hrest⟩

/-- What is scanned can be one of a format. -/
theorem isRegular_of_scan {pending : Item.Pending} {s : List Char} {items : List Item}
    (hpending : pending.isRegular) (h : Item.scan pending s = some items) :
  ∀ item ∈ items, item.isRegular
  := by
  fun_induction Item.scan pending s generalizing items
  case case1 =>
    cases h
    simp
  case case4 ih =>
    exact @isRegular_of_map [_] _ _ (by simp [isRegular_plain]) (ih rfl) h
  case case14 hletter ih =>
    exact isRegular_of_map (isRegular_of_ofLetter? hletter) (ih rfl) h
  case case28 ih =>
    exact @isRegular_of_map [_] _ _ (by simpa [Item.Pending.isRegular] using hpending)
      (ih rfl) h
  -- Either nothing is scanned, or the scan goes on, perhaps behind one more item.
  all_goals first
    | cases h
    | next ih => exact ih rfl h
    | next ih => exact @isRegular_of_map [_] _ _ (by simp [Item.isRegular]) (ih rfl) h

theorem isRegular_of_items? {format : String} {items : List Item}
    (h : items? format = some items) :
  ∀ item ∈ items, item.isRegular
  := isRegular_of_scan rfl h

/-! ### Layouts -/

/-- The parts that layouts consist of. -/
def layoutParts : List NumberPart :=
  [.year, .month, .day, .hour, .minute]

/-- A text begins with the number of a part of a timestamp, perhaps behind blanks. -/
def NumberPart.ShownIn (part : NumberPart) (t : Timestamp) (s rest : List Char) : Prop :=
  (if (Reading.shape part).2.2 then Reading.signed? (Reading.shape part).2.1 (trimStart s)
    else Reading.digits? (Reading.shape part).2.1 (trimStart s)) = some (part.value t, rest)

/-- How the first number of items is filled, and what comes behind it, if it is one of a part and
only blanks stand before it. -/
def number? (part : NumberPart) : List Item → Option (Pad × List Item)
  | .blank _ :: items => number? part items
  | .number p pad :: items => if p = part then some (pad, items) else none
  | _ => none

/-- What comes behind a literal. -/
def literal? (c : Char) : List Item → Option (List Item)
  | .literal d :: items => if d = c then some items else none
  | _ => none

/-- How the day is filled, and what comes behind a date. -/
def dateLayout? (items : List Item) : Option (Pad × List Item) := do
  let (_, items) ← number? .year items
  let items ← literal? '-' items
  let (_, items) ← number? .month items
  let items ← literal? '-' items
  number? .day items

/-- What comes behind an hour and a minute. -/
def minuteLayout? (items : List Item) : Option (List Item) := do
  let (_, items) ← number? .hour items
  let items ← literal? ':' items
  let (_, items) ← number? .minute items
  return items

/-- What comes behind an hour and a minute that stand behind a day.  Without anything between them
the day must have two digits. -/
def timeLayout? (pad : Pad) : List Item → Option (List Item)
  | .literal 'T' :: items => minuteLayout? items
  | .blank c :: items => minuteLayout? (.blank c :: items)
  | items => if pad = .zeros then minuteLayout? items else none

/-- Behind a minute is nothing, or a colon and items that make a second for every timestamp. -/
def EndsInSecond (items : List Item) : Prop :=
  items = [] ∨ ∃ seconds, items = .literal ':' :: seconds ∧
    ∀ t, ∃ text, renderItems? t seconds = some text ∧ IsSecond text

/-- Items are those of a date, perhaps with a time behind it. -/
def IsInternationalLayout (items : List Item) : Prop :=
  ∃ pad rest, dateLayout? items = some (pad, rest) ∧
    (rest = [] ∨ ∃ after, timeLayout? pad rest = some after ∧ EndsInSecond after)

/-! ### Texts of layouts -/

section

variable {part : NumberPart} {pad : Pad} {items rest : List Item} {t : Timestamp}
  {text more : List Char}

/-- Before a number at the beginning of items are blanks only. -/
theorem exists_of_number? (h : number? part items = some (pad, rest)) :
  ∃ cs : List Char, items = cs.map .blank ++ .number part pad :: rest
  := by
  fun_induction number? part items with
  | case1 c items ih =>
      obtain ⟨cs, rfl⟩ := ih h
      exact ⟨c :: cs, rfl⟩
  | case2 p items =>
      cases h
      exact ⟨[], rfl⟩
  | case3 => cases h
  | case4 => cases h

theorem literal?_eq_some_iff {c : Char} :
  literal? c items = some rest ↔ items = .literal c :: rest
  := by
  unfold literal?
  split
  · next d items =>
      by_cases h : d = c <;> simp [h]
  · next hne =>
      simp only [false_iff, reduceCtorEq]
      exact fun heq => hne c rest heq

theorem renderItems?_cons {item : Item} {start : List Char} (h : item.render? t = some start) :
  renderItems? t (item :: items) = (renderItems? t items).map (start ++ ·)
  := by
  simp only [renderItems?, h]
  cases renderItems? t items <;> rfl

/-- The text of items with a number at the beginning is blank up to that number. -/
theorem exists_blanks_of_number? (hitems : ∀ item ∈ items, item.isRegular)
    (h : number? part items = some (pad, rest)) :
  (∀ item ∈ rest, item.isRegular) ∧ ∃ blanks, (∀ c ∈ blanks, isBlank c) ∧
    ∀ t, renderItems? t items =
      (renderItems? t rest).map fun more => blanks ++ (part.render pad t ++ more)
  := by
  obtain ⟨cs, rfl⟩ := exists_of_number? h
  rw [List.forall_mem_append, List.forall_mem_cons] at hitems
  obtain ⟨hblanks, -, hrest⟩ := hitems
  refine ⟨hrest, cs, ?_, fun t => ?_⟩
  · intro c hc
    exact hblanks _ (List.mem_map_of_mem hc)
  · clear hblanks h
    induction cs with
    | nil => exact renderItems?_cons rfl
    | cons c cs ih =>
        rw [List.map_cons, List.cons_append, @renderItems?_cons _ t (.blank c) [c] rfl, ih,
          Option.map_map]
        rfl

/-- Blanks at the beginning do not count. -/
theorem trimStart_append_of_isBlank {blanks : List Char} (h : ∀ c ∈ blanks, isBlank c)
    (s : List Char) :
  trimStart (blanks ++ s) = trimStart s
  := by
  induction blanks with
  | nil => rfl
  | cons c blanks ih =>
      obtain ⟨hc, hblanks⟩ := List.forall_mem_cons.mp h
      rw [List.cons_append, trimStart_cons_of_isBlank hc, ih hblanks]

/-- A number of two digits is filled with nothing. -/
theorem twoPlaces_of_ten_le (pad : Pad) {n : Nat} (h : 10 ≤ n) :
  pad.twoPlaces n = Pad.zeros.twoPlaces n
  := by
  have hne : n / 10 ≠ 0 := by omega
  simp only [Pad.twoPlaces, hne, if_false]

/-- A number is shown if it is written like one that is filled up with zeros to its places, or if
no digit follows. -/
theorem shownIn_render (hpart : part ∈ layoutParts) {blanks : List Char}
    (hblanks : ∀ c ∈ blanks, isBlank c)
    (hmore : (part.InPlaces t ∧ part.render pad t = part.render .zeros t) ∨ Apart more) :
  part.ShownIn t (blanks ++ (part.render pad t ++ more)) more
  := by
  have hkind : part ≠ .unixSeconds ∧ part.inSpan t.date.year t.date.year = true := by
    fin_cases hpart <;> exact ⟨by decide, rfl⟩
  obtain ⟨hunix, hspan⟩ := hkind
  have hreadable := NumberPart.readable hspan (Int.le_refl _) (Int.le_refl _)
  have htrim := trimStart_append_of_isBlank hblanks (part.render pad t ++ more)
  rcases hmore with ⟨hplaces, hrender⟩ | hapart
  · rw [hrender] at htrim ⊢
    exact Reading.number_append hreadable .zeros htrim (.inl ⟨hplaces, hunix, .inl rfl⟩)
  · exact Reading.number_append hreadable pad htrim (.inr hapart)

/-- A number of two places is shown if it is filled up with zeros, or has two digits, or no digit
follows. -/
theorem shownIn_render_two (hpart : part ∈ [NumberPart.month, .day, .hour, .minute])
    {blanks : List Char} (hblanks : ∀ c ∈ blanks, isBlank c)
    (hmore : pad = .zeros ∨ 10 ≤ part.value t ∨ Apart more) :
  part.ShownIn t (blanks ++ (part.render pad t ++ more)) more
  := by
  have hkind : part.inSpan t.date.year t.date.year = true ∧
      (part.Readable t → part.InPlaces t) ∧
      (10 ≤ part.value t → part.render pad t = part.render .zeros t) := by
    have htwo : ∀ k : Nat, (10 : Int) ≤ k → pad.twoPlaces k = Pad.zeros.twoPlaces k :=
      fun k hk => twoPlaces_of_ten_le pad (by omega)
    fin_cases hpart <;> exact ⟨rfl, id, htwo _⟩
  obtain ⟨hspan, hplaces, hten⟩ := hkind
  have hplaces := hplaces (NumberPart.readable hspan (Int.le_refl _) (Int.le_refl _))
  apply shownIn_render (List.mem_cons_of_mem _ hpart) hblanks
  rcases hmore with rfl | hvalue | hapart
  · exact .inl ⟨hplaces, rfl⟩
  · exact .inl ⟨hplaces, hten hvalue⟩
  · exact .inr hapart

/-- Behind a number that is shown comes one text. -/
theorem NumberPart.ShownIn.unique {s r r' : List Char} (h : part.ShownIn t s r)
    (h' : part.ShownIn t s r') :
  r = r'
  := by
  have heq := Option.some.inj (h.symm.trans h')
  exact congrArg Prod.snd heq

theorem renderItems?_literal {c : Char} :
  renderItems? t (.literal c :: items) = (renderItems? t items).map (c :: ·)
  := @renderItems?_cons items t (.literal c) [c] rfl

/-- No digit is in no text. -/
theorem apart_nil :
  Apart []
  := by
  intro d hd
  cases hd

/-- A text that begins with something other than a digit. -/
theorem apart_cons {c : Char} (h : c.isDigit = false) (s : List Char) :
  Apart (c :: s)
  := by
  intro d hd
  cases hd
  exact h

/-- In the layout of a date, what is shown behind the date is what comes behind its items. -/
theorem exists_showsDate_iff (hitems : ∀ item ∈ items, item.isRegular)
    (h : dateLayout? items = some (pad, rest)) :
  (∀ item ∈ rest, item.isRegular) ∧ ∀ t, ∃ f,
    renderItems? t items = (renderItems? t rest).map f ∧
    ∀ more, (pad = .zeros ∨ 10 ≤ t.date.day ∨ Apart more) →
      ∀ r, ShowsDate t (f more) r ↔ r = more
  := by
  simp only [dateLayout?, Option.bind_eq_bind, Option.bind_eq_some_iff, Prod.exists,
    literal?_eq_some_iff] at h
  obtain ⟨pad₁, _, hyear, items₁, rfl, pad₂, _, hmonth, items₂, rfl, hday⟩ := h
  obtain ⟨hitems₁, b₁, hb₁, hyear⟩ := exists_blanks_of_number? hitems hyear
  obtain ⟨-, hitems₁⟩ := List.forall_mem_cons.mp hitems₁
  obtain ⟨hitems₂, b₂, hb₂, hmonth⟩ := exists_blanks_of_number? hitems₁ hmonth
  obtain ⟨-, hitems₂⟩ := List.forall_mem_cons.mp hitems₂
  obtain ⟨hitems₃, b₃, hb₃, hday⟩ := exists_blanks_of_number? hitems₂ hday
  refine ⟨hitems₃, fun t => ⟨fun more => b₁ ++ (NumberPart.year.render pad₁ t ++ '-' ::
    (b₂ ++ (NumberPart.month.render pad₂ t ++ '-' ::
      (b₃ ++ (NumberPart.day.render pad t ++ more))))), ?_, ?_⟩⟩
  · rw [hyear, renderItems?_literal, hmonth, renderItems?_literal, hday]
    simp only [Option.map_map]
    rfl
  intro more hexact r
  have hyear := fun s => @shownIn_render .year pad₁ t ('-' :: s) (by decide) b₁ hb₁
    (.inr (apart_cons (by decide) s))
  have hmonth := fun s => @shownIn_render .month pad₂ t ('-' :: s) (by decide) b₂ hb₂
    (.inr (apart_cons (by decide) s))
  have hday := @shownIn_render_two .day pad t more (by decide) b₃ hb₃
    (hexact.imp_right (.imp_left Int.ofNat_le.mpr))
  constructor
  · rintro ⟨r₁, r₂, hy, hm, hd⟩
    cases (hyear _).unique hy
    cases (hmonth _).unique hm
    exact (hday.unique hd).symm
  · rintro rfl
    exact ⟨_, _, hyear _, hmonth _, hday⟩

/-- In the layout of an hour and a minute, what is shown behind the minute is what comes behind its
items. -/
theorem exists_showsMinute_iff (hitems : ∀ item ∈ items, item.isRegular)
    (h : minuteLayout? items = some rest) :
  (∀ item ∈ rest, item.isRegular) ∧ ∀ t, ∃ f,
    renderItems? t items = (renderItems? t rest).map f ∧
    ∀ more, (10 ≤ t.time.minute ∨ Apart more) → ∀ r, ShowsMinute t (f more) r ↔ r = more
  := by
  simp only [minuteLayout?, Option.bind_eq_bind, Option.bind_eq_some_iff, Prod.exists,
    literal?_eq_some_iff, Option.pure_def, Option.some_inj] at h
  obtain ⟨pad₁, _, hhour, items₁, rfl, pad₂, _, hminute, rfl⟩ := h
  obtain ⟨hitems₁, b₁, hb₁, hhour⟩ := exists_blanks_of_number? hitems hhour
  obtain ⟨-, hitems₁⟩ := List.forall_mem_cons.mp hitems₁
  obtain ⟨hitems₂, b₂, hb₂, hminute⟩ := exists_blanks_of_number? hitems₁ hminute
  refine ⟨hitems₂, fun t => ⟨fun more => b₁ ++ (NumberPart.hour.render pad₁ t ++ ':' ::
    (b₂ ++ (NumberPart.minute.render pad₂ t ++ more))), ?_, ?_⟩⟩
  · rw [hhour, renderItems?_literal, hminute]
    simp only [Option.map_map]
    rfl
  intro more hexact r
  have hhour := fun s => @shownIn_render .hour pad₁ t (':' :: s) (by decide) b₁ hb₁
    (.inr (apart_cons (by decide) s))
  have hminute := @shownIn_render_two .minute pad₂ t more (by decide) b₂ hb₂
    (.inr (hexact.imp_left Int.ofNat_le.mpr))
  constructor
  · rintro ⟨r₁, hh, hn⟩
    cases (hhour _).unique hh
    exact (hminute.unique hn).symm
  · rintro rfl
    exact ⟨_, hhour _, hminute⟩

/-- Neither nothing nor a letter shows a number. -/
theorem not_shows {n : Nat} {s r : List Char} (h : s = [] ∨ ∃ s', s = 'T' :: s') :
  ¬ Shows s n r
  := by
  rintro hshows
  rcases h with rfl | ⟨s', rfl⟩
  · cases hshows
  · cases hshows

/-- A text that begins with an hour is a time exactly if what is shown behind the minute is a second
or nothing. -/
theorem isTimeOrNothing_of_showsMinute {s more : List Char}
    (h : ∀ r, ShowsMinute t s r ↔ r = more) :
  IsTimeOrNothing t s ↔ IsSecondOrNothing more
  := by
  obtain ⟨r, hhour, -⟩ := (h more).mpr rfl
  have hne : ¬ (s = [] ∨ ∃ s', s = 'T' :: s') := fun hs => not_shows hs hhour
  simp only [IsTimeOrNothing, IsTimeText, h, exists_eq_left]
  constructor
  · rintro (hnil | ⟨s', hs, -⟩ | hmore)
    · exact absurd (.inl hnil) hne
    · exact absurd (.inr ⟨s', hs⟩) hne
    · exact hmore
  · exact fun hmore => .inr (.inr hmore)

/-- A letter before a time does not count. -/
theorem isTimeOrNothing_letter {s more : List Char} (h : ∀ r, ShowsMinute t s r ↔ r = more) :
  IsTimeOrNothing t ('T' :: s) ↔ IsSecondOrNothing more
  := by
  have hletter : ¬ IsTimeText t ('T' :: s) := by
    rintro ⟨r, ⟨r', hhour, -⟩, -⟩
    exact not_shows (.inr ⟨s, rfl⟩) hhour
  simp only [IsTimeOrNothing, hletter, or_false, reduceCtorEq, false_or, List.cons.injEq, true_and,
    exists_eq_left']
  simp only [IsTimeText, h, exists_eq_left]

/-- In the layout of a time, a text is a time exactly if what comes behind the minute is a second
or nothing. -/
theorem exists_isTimeOrNothing_iff (hitems : ∀ item ∈ items, item.isRegular)
    (h : timeLayout? pad items = some rest) :
  (∀ item ∈ rest, item.isRegular) ∧ ∀ t, ∃ f,
    renderItems? t items = (renderItems? t rest).map f ∧
    ∀ more, renderItems? t rest = some more → (10 ≤ t.time.minute ∨ Apart more) →
      (pad = .zeros ∨ Apart (f more)) ∧ (IsTimeOrNothing t (f more) ↔ IsSecondOrNothing more)
  := by
  unfold timeLayout? at h
  split at h
  · next items =>
      obtain ⟨-, hitems⟩ := List.forall_mem_cons.mp hitems
      obtain ⟨hrest, hminute⟩ := exists_showsMinute_iff hitems h
      refine ⟨hrest, fun t => ?_⟩
      obtain ⟨f, hrender, hshows⟩ := hminute t
      refine ⟨fun more => 'T' :: f more, ?_, fun more _ hexact => ?_⟩
      · rw [renderItems?_literal, hrender, Option.map_map]
        rfl
      · exact ⟨.inr (apart_cons (by decide) _), isTimeOrNothing_letter (hshows more hexact)⟩
  · next c items =>
      obtain ⟨hrest, hminute⟩ := exists_showsMinute_iff hitems h
      refine ⟨hrest, fun t => ?_⟩
      obtain ⟨f, hrender, hshows⟩ := hminute t
      refine ⟨f, hrender, fun more hmore hexact => ⟨.inr ?_, ?_⟩⟩
      · obtain ⟨hc, -⟩ := List.forall_mem_cons.mp hitems
        rw [hmore, @renderItems?_cons _ t (.blank c) [c] rfl] at hrender
        obtain ⟨s, -, hs⟩ := Option.map_eq_some_iff.mp hrender
        rw [← hs]
        apply apart_cons
        by_contra hdigit
        have hblank := isBlank_of_isDigit (Bool.not_eq_false _ ▸ hdigit)
        simp [Item.isRegular, hblank] at hc
      · exact isTimeOrNothing_of_showsMinute (hshows more hexact)
  · obtain ⟨hpad, h⟩ := Option.ite_none_right_eq_some.mp h
    obtain ⟨hrest, hminute⟩ := exists_showsMinute_iff hitems h
    refine ⟨hrest, fun t => ?_⟩
    obtain ⟨f, hrender, hshows⟩ := hminute t
    exact ⟨f, hrender, fun more _ hexact =>
      ⟨.inl hpad, isTimeOrNothing_of_showsMinute (hshows more hexact)⟩⟩

/-- In the layout of a date and a time, a text is international exactly if what comes behind the
minute is a second or nothing. -/
theorem exists_isInternationalText_iff {after : List Item} (hitems : ∀ item ∈ items, item.isRegular)
    (hdate : dateLayout? items = some (pad, rest)) (htime : timeLayout? pad rest = some after) :
  (∀ item ∈ after, item.isRegular) ∧ ∀ t, ∃ f,
    renderItems? t items = (renderItems? t after).map f ∧
    ∀ more, renderItems? t after = some more → (10 ≤ t.time.minute ∨ Apart more) →
      (IsInternationalText t (f more) ↔ IsSecondOrNothing more)
  := by
  obtain ⟨hrest, hdate⟩ := exists_showsDate_iff hitems hdate
  obtain ⟨hafter, htime⟩ := exists_isTimeOrNothing_iff hrest htime
  refine ⟨hafter, fun t => ?_⟩
  obtain ⟨f, hrender, hshows⟩ := hdate t
  obtain ⟨g, hrender', hiff⟩ := htime t
  refine ⟨f ∘ g, by rw [hrender, hrender', Option.map_map], fun more hmore hexact => ?_⟩
  obtain ⟨hpad, hiff⟩ := hiff more hmore hexact
  rw [← hiff]
  simp only [IsInternationalText, Function.comp_apply, hshows _ (hpad.imp_right .inr),
    exists_eq_left]

/-- In an international layout every timestamp has an international text. -/
theorem IsInternationalLayout.exists_text (h : IsInternationalLayout items)
    (hitems : ∀ item ∈ items, item.isRegular) (t : Timestamp) :
  ∃ text, renderItems? t items = some text ∧ IsInternationalText t text
  := by
  obtain ⟨pad, rest, hdate, rfl | ⟨after, htime, hend⟩⟩ := h
  · obtain ⟨-, hdate⟩ := exists_showsDate_iff hitems hdate
    obtain ⟨f, hrender, hshows⟩ := hdate t
    refine ⟨f [], hrender, [], ?_, .inl rfl⟩
    exact (hshows [] (.inr (.inr apart_nil)) []).mpr rfl
  · obtain ⟨-, htext⟩ := exists_isInternationalText_iff hitems hdate htime
    obtain ⟨f, hrender, hiff⟩ := htext t
    have hmore : ∃ more, renderItems? t after = some more ∧ Apart more ∧ IsSecondOrNothing more := by
      rcases hend with rfl | ⟨seconds, rfl, hsecond⟩
      · exact ⟨[], rfl, apart_nil, .inl rfl⟩
      · obtain ⟨s, hs, hsecond⟩ := hsecond t
        exact ⟨':' :: s, by rw [renderItems?_literal, hs]; rfl, apart_cons (by decide) s,
          .inr ⟨s, rfl, hsecond⟩⟩
    obtain ⟨more, hmore, hapart, hsecond⟩ := hmore
    rw [hmore] at hrender
    exact ⟨f more, hrender, (hiff more hmore (.inr hapart)).mpr hsecond⟩

/-! ### Formats with a layout -/

/-- A timestamp has the text of the items of its format. -/
theorem render?_eq {format : String} (hformat : items? format = some items) (t : Timestamp) :
  t.render? format = (renderItems? t items).map String.ofList
  := by
  simp only [Timestamp.render?, hformat, Option.bind_eq_bind, Option.bind_some]
  cases renderItems? t items <;> rfl

/-- In a format with an international layout every timestamp is read back to the minute. -/
theorem IsInternationalLayout.exists_readsBack {format : String} (h : IsInternationalLayout items)
    (hformat : items? format = some items) (t : Timestamp) :
  ∃ text, Timestamp.render? t format = some text ∧ ReadsBack t text
  := by
  obtain ⟨s, hs, htext⟩ := h.exists_text (isRegular_of_items? hformat) t
  refine ⟨String.ofList s, by rw [render?_eq hformat, hs]; rfl, ?_⟩
  rw [readsBack_iff, String.toList_ofList]
  exact htext

/-- The number of a second is a second, also in a leap second. -/
theorem isSecond_render (pad : Pad) (t : Timestamp) :
  IsSecond (NumberPart.second.render pad t)
  := by
  have hreadable : NumberPart.second.Readable t :=
    NumberPart.readable rfl (Int.le_refl t.date.year) (Int.le_refl _)
  have hread := Reading.number_append hreadable pad
    (congrArg trimStart (List.append_nil (NumberPart.second.render pad t)).symm)
    (.inr apart_nil)
  obtain ⟨-, -, hsecond, hnano⟩ := t.time.isTime
  refine ⟨Timestamp.shownSecond t.time, [], hread, ?_, .inl rfl⟩
  unfold nanosPerSecond at hnano
  unfold Timestamp.shownSecond nanosPerSecond
  omega

/-- What is written in the default format is read back. -/
theorem exists_readsBack_defaultFormat (t : Timestamp) :
  ∃ text, Timestamp.render? t defaultFormat = some text ∧ ReadsBack t text
  := by
  have hformat : items? defaultFormat = some (dateItems ++ .blank ' ' :: minuteItems ++
      [.literal ':', .number .second .zeros]) := by decide +kernel
  refine IsInternationalLayout.exists_readsBack ?_ hformat t
  refine ⟨_, _, rfl, .inr ⟨_, rfl, .inr ⟨_, rfl, fun t => ?_⟩⟩⟩
  refine ⟨NumberPart.second.render .zeros t, ?_, isSecond_render .zeros t⟩
  exact congrArg some (List.append_nil _)

end

end EntityStore.Calendar
