import EntityStore.Proofs.Calendar.Layout

/-!
# Formats that are read back

At two timestamps the directives of formats begin with different characters, so texts tell which
items they come from.  Hence a format has an international layout if all its texts are
international.  One sample does not tell that: hours of the half day look like hours in the
morning.
-/

namespace EntityStore.Calendar

open Text

/-! ### Beginnings of texts -/

/-- The digit that a character writes. -/
theorem eq_digitChar_of_digit? {c : Char} {d : Nat} (h : digit? c = some d) :
  c = d.digitChar ∧ d < 10
  := by
  obtain ⟨⟨hfirst, hlast⟩, heq⟩ := Option.ite_none_right_eq_some.mp h
  cases heq
  have hfirst : 48 ≤ c.toNat := hfirst
  have hlast : c.toNat ≤ 57 := hlast
  have hzero : '0'.toNat = 48 := rfl
  have hall : ∀ i : Fin 10, Char.ofNat (48 + i) = Nat.digitChar i := by decide
  have hchar := hall ⟨c.toNat - 48, by omega⟩
  rw [hzero]
  refine ⟨?_, by omega⟩
  rw [← hchar, Nat.add_sub_cancel' hfirst, Char.ofNat_toNat]

/-- A numeral begins with the digit of its highest place. -/
theorem Numeral.first_eq {c : Char} {ds : List Char} {n : Nat} (h : Numeral (c :: ds) n) :
  c = (n / 10 ^ ds.length).digitChar ∧ n / 10 ^ ds.length < 10
  := by
  obtain ⟨-, hdigits, rfl⟩ := h
  induction ds using List.reverseRecOn with
  | nil =>
      obtain ⟨d, -, hd⟩ := exists_digit?_eq (hdigits c List.mem_cons_self)
      simpa [hd, ofDigits] using eq_digitChar_of_digit? hd
  | append_singleton ds e ih =>
      obtain ⟨d, hlt, hd⟩ := exists_digit?_eq (hdigits e (by simp))
      have hbefore := ih fun x hx => hdigits x (List.mem_append_left [e] hx)
      have hdiv : (ofDigits ((c :: ds).filterMap digit?) * 10 + d) / 10 =
          ofDigits ((c :: ds).filterMap digit?) := by omega
      rw [← List.cons_append, List.filterMap_append, List.filterMap_cons_some hd,
        List.filterMap_nil, ofDigits_append_singleton, List.length_append, List.length_singleton,
        Nat.pow_succ', ← Nat.div_div_eq_div_mul, hdiv]
      exact hbefore

/-- The characters that can be at the beginning of a text in which the number of a part is read. -/
def NumberPart.leads (part : NumberPart) (t : Timestamp) : List Char :=
  let n := part.value t
  let signs := (if 0 ≤ n then ['+'] else []) ++ (if n ≤ 0 then ['-'] else [])
  let starts := if 0 ≤ n then (List.range part.places).map (n.toNat / 10 ^ ·) else []
  (if (Reading.shape part).2.2 then signs else []) ++
    (starts.filter (· < 10)).map Nat.digitChar

theorem exists_first_of_digits? {width : Nat} {s rest : List Char} {n : Int}
    (h : Reading.digits? (some width) s = some (n, rest)) :
  0 ≤ n ∧ ∃ k < width, n.toNat / 10 ^ k < 10 ∧ s.head? = some (n.toNat / 10 ^ k).digitChar
  := by
  dsimp only [Reading.digits?] at h
  obtain ⟨hne, heq⟩ := Option.ite_none_left_eq_some.mp h
  cases heq
  obtain ⟨hne, -⟩ := not_or.mp hne
  have hprefix : (s.takeWhile Char.isDigit).take width <+: s :=
    (List.take_prefix ..).trans (List.takeWhile_prefix ..)
  have hdigits : ∀ c ∈ (s.takeWhile Char.isDigit).take width, c.isDigit = true := by
    intro c hc
    exact List.mem_takeWhile_imp (List.mem_of_mem_take hc)
  have hlength := List.length_take_le width (s.takeWhile Char.isDigit)
  obtain ⟨c, ds, hwritten⟩ := List.exists_cons_of_ne_nil fun hnil =>
    hne (List.isEmpty_iff.mpr hnil)
  rw [hwritten] at hprefix hdigits hlength ⊢
  obtain ⟨k, hk, -⟩ := Numeral.of_isDigit (List.cons_ne_nil c ds) hdigits
  obtain ⟨hfirst, hlt⟩ := hk.first_eq
  obtain ⟨more, rfl⟩ := hprefix
  refine ⟨Int.natCast_nonneg _, ds.length, hlength, ?_⟩
  rw [hk.value_eq, Int.toNat_natCast]
  exact ⟨hlt, congrArg some hfirst⟩

/-- A text in which the number of a part is read begins with one of these characters. -/
theorem NumberPart.ShownIn.first_mem {part : NumberPart} {t : Timestamp} {s rest : List Char}
    (h : part.ShownIn t s rest) (hpart : part ∈ layoutParts) :
  ∃ c ∈ (trimStart s).head?, c ∈ part.leads t
  := by
  have hwidth : (Reading.shape part).2.1 = some part.places := by
    fin_cases hpart <;> rfl
  have hdigits : ∀ s' n, Reading.digits? (some part.places) s' = some (n, rest) →
      n = part.value t → ∃ c ∈ s'.head?, c ∈ part.leads t := by
    rintro s' _ hread rfl
    obtain ⟨hnonneg, k, hk, hlt, hfirst⟩ := exists_first_of_digits? hread
    refine ⟨_, hfirst, List.mem_append_right _ (List.mem_map_of_mem (List.mem_filter.mpr ?_))⟩
    rw [if_pos hnonneg]
    exact ⟨List.mem_map_of_mem (List.mem_range.mpr hk), decide_eq_true hlt⟩
  unfold ShownIn at h
  rw [hwidth] at h
  cases hsign : (Reading.shape part).2.2 with
  | false =>
      rw [hsign, if_neg (by decide)] at h
      exact hdigits _ _ h rfl
  | true =>
      rw [hsign, if_pos rfl] at h
      generalize trimStart s = s' at h
      unfold Reading.signed? at h
      split at h
      · next s' =>
          obtain ⟨⟨n, _⟩, hread, heq⟩ := Option.map_eq_some_iff.mp h
          obtain ⟨k, rfl⟩ := exists_natCast_of_digits? hread
          have hvalue : part.value t ≤ 0 := by
            have hneg : -(k : Int) = part.value t := congrArg Prod.fst heq
            omega
          exact ⟨'-', rfl, by simp [leads, hsign, hvalue]⟩
      · next s' =>
          obtain ⟨k, hk⟩ := exists_natCast_of_digits? h
          have hvalue : 0 ≤ part.value t := by omega
          exact ⟨'+', rfl, by simp [leads, hsign, hvalue]⟩
      · exact hdigits _ _ h rfl

/-! ### Two timestamps -/

/-- A timestamp late in the calendar, in a year that ends before its last week. -/
def late : Timestamp :=
  ⟨⟨2999, 12, 30, by decide⟩, ⟨15, 34, 46, 567890123, by decide⟩⟩

/-- A timestamp early in the calendar, in a year with a sign. -/
def early : Timestamp :=
  ⟨⟨-1, 3, 15, by decide⟩, ⟨20, 41, 57, 600000000, by decide⟩⟩

/-- All parts that are written as numbers. -/
def numberParts : List NumberPart :=
  [.year, .century, .yearOfCentury, .weekYear, .weekYearOfCentury, .quarter, .month, .day,
    .weekFromSunday, .weekFromMonday, .isoWeek, .dayFromSunday, .dayFromMonday, .dayOfYear, .hour,
    .hour12, .minute, .second, .nanosecond, .unixSeconds]

/-- All parts that formats write in ways of their own, but for zones, which have no text. -/
def fixedParts : List FixedPart :=
  [.shortMonth, .longMonth, .shortWeekday, .longWeekday, .lowerHalf, .upperHalf, .fraction] ++
    [3, 6, 9].flatMap fun digits => [.fractionDigits digits, .bareDigits digits]

/-- All items of formats that write parts of a timestamp. -/
def partItems : List Item :=
  (numberParts.flatMap fun part => [.nothing, .zeros, .spaces].map (.number part)) ++
    fixedParts.map .fixed

/-- Whether an item writes a part as a number. -/
def Item.isNumber (part : NumberPart) : Item → Bool
  | .number p _ => p = part
  | _ => false

/-- An item is a character, or writes a part of a timestamp. -/
theorem mem_partItems {item : Item} {t : Timestamp} {text : List Char} (h : item.isRegular)
    (hrender : item.render? t = some text) :
  (∃ c, item = .literal c ∨ item = .blank c) ∨ item ∈ partItems
  := by
  cases item with
  | literal c => exact .inl ⟨c, .inl rfl⟩
  | blank c => exact .inl ⟨c, .inr rfl⟩
  | number part pad =>
      right
      apply List.mem_append_left
      apply List.mem_flatMap.mpr
      exact ⟨part, by cases part <;> decide, List.mem_map_of_mem (by cases pad <;> decide)⟩
  | fixed part =>
      right
      apply List.mem_append_right
      apply List.mem_map_of_mem
      cases part with
      | fractionDigits digits | bareDigits digits =>
          simp only [Item.isRegular, Bool.or_eq_true, decide_eq_true_eq] at h
          rcases h with (rfl | rfl) | rfl <;> decide
      | zoneName | zoneOffset | looseOffset | standard => cases hrender
      | _ => decide

/-- A character cannot be at the beginning of a number in both timestamps. -/
theorem leads_inter :
  ∀ part ∈ layoutParts, part.leads late ∩ part.leads early = []
  := by decide +kernel

/-- Nor can anything else that formats write. -/
theorem exists_lead_notMem :
  ∀ part ∈ layoutParts, ∀ item ∈ partItems, item.isNumber part ∨ ∃ t ∈ [late, early],
    ∀ text ∈ item.render? t, (trimStart text).head?.any (· ∉ part.leads t)
  := by decide +kernel

/-- Nothing that formats write begins with a sign or a letter of the international forms, but for
years with a sign. -/
theorem exists_first_ne :
  ∀ item ∈ partItems, ∀ t ∈ [late, early], ∀ text ∈ item.render? t,
    text.head?.any fun c => c ≠ ':' ∧ c ≠ 'T' ∧ (t = late → c ≠ '-')
  := by decide +kernel

/-! ### Items told by their texts -/

section

variable {part : NumberPart} {pad : Pad} {item : Item} {items rest : List Item} {t : Timestamp}
  {text s : List Char} {c : Char}

/-- The text of items begins with that of the first one. -/
theorem exists_of_renderItems?_cons (h : renderItems? t (item :: items) = some text) :
  ∃ start more, item.render? t = some start ∧ renderItems? t items = some more ∧
    text = start ++ more
  := by
  simp only [renderItems?, Option.bind_eq_bind, Option.bind_eq_some_iff, Option.pure_def,
    Option.some_inj] at h
  obtain ⟨start, hstart, more, hmore, rfl⟩ := h
  exact ⟨start, more, hstart, hmore, rfl⟩

/-- Items that have a text at one timestamp have one at every other. -/
theorem exists_renderItems? (h : renderItems? t items = some text) (t' : Timestamp) :
  ∃ text', renderItems? t' items = some text'
  := by
  induction items generalizing text with
  | nil => exact ⟨[], rfl⟩
  | cons item items ih =>
      obtain ⟨start, more, hstart, hmore, -⟩ := exists_of_renderItems?_cons h
      obtain ⟨more', hmore'⟩ := ih hmore
      have hstart' : ∃ start', item.render? t' = some start' := by
        cases item with
        | fixed part => cases part <;> first | exact ⟨_, rfl⟩ | cases hstart
        | literal | blank | number => exact ⟨_, rfl⟩
      obtain ⟨start', hstart'⟩ := hstart'
      exact ⟨start' ++ more', by rw [renderItems?_cons hstart', hmore']; rfl⟩

/-- What comes behind a text that is not blank does not change its beginning. -/
theorem head?_trimStart_append (h : (trimStart s).head? = some c) (more : List Char) :
  (trimStart (s ++ more)).head? = some c
  := by
  induction s with
  | nil => cases h
  | cons d s ih =>
      rw [List.cons_append]
      cases hd : isBlank d with
      | true =>
          rw [trimStart_cons_of_isBlank hd] at h ⊢
          exact ih h
      | false =>
          rw [trimStart_cons hd] at h ⊢
          exact h

/-- A blank before a number does not count. -/
theorem shownIn_cons_of_isBlank {r : List Char} (h : isBlank c = true) :
  part.ShownIn t (c :: s) r ↔ part.ShownIn t s r
  := by rw [NumberPart.ShownIn, NumberPart.ShownIn, trimStart_cons_of_isBlank h]

/-- A character is not the beginning of a number at both timestamps. -/
theorem not_shownIn_cons (hpart : part ∈ layoutParts) (hc : isBlank c = false)
    (h : ∀ t ∈ [late, early], ∃ s r, part.ShownIn t (c :: s) r) :
  False
  := by
  have hlead : ∀ t ∈ [late, early], c ∈ part.leads t := by
    intro t ht
    obtain ⟨s, r, hshown⟩ := h t ht
    obtain ⟨d, hd, hlead⟩ := hshown.first_mem hpart
    rw [trimStart_cons hc] at hd
    cases hd
    exact hlead
  have hboth := List.mem_inter_iff.mpr ⟨hlead late (by simp), hlead early (by simp)⟩
  rw [leads_inter part hpart] at hboth
  cases hboth

/-- An item that shows a number at both timestamps is that number. -/
theorem exists_eq_number (hpart : part ∈ layoutParts) (hitem : item ∈ partItems)
    (h : ∀ t ∈ [late, early], ∃ start more r, item.render? t = some start ∧
      part.ShownIn t (start ++ more) r) :
  ∃ pad, item = .number part pad
  := by
  rcases exists_lead_notMem part hpart item hitem with hnumber | ⟨t, ht, hmiss⟩
  · cases item with
    | number p pad => exact ⟨pad, congrArg (Item.number · pad) (of_decide_eq_true hnumber)⟩
    | literal | blank | fixed => cases hnumber
  · obtain ⟨start, more, r, hstart, hshown⟩ := h t ht
    obtain ⟨c, hc, hnot⟩ := (Option.any_eq_true _ _).mp (hmiss start hstart)
    obtain ⟨d, hd, hlead⟩ := hshown.first_mem hpart
    cases hd.symm.trans (head?_trimStart_append hc more)
    exact absurd hlead (of_decide_eq_true hnot)

/-- Items that show a number at both timestamps begin with that number. -/
theorem exists_number? (hpart : part ∈ layoutParts) (hitems : ∀ item ∈ items, item.isRegular)
    (h : ∀ t ∈ [late, early], ∃ text r, renderItems? t items = some text ∧
      part.ShownIn t text r) :
  ∃ pad rest, number? part items = some (pad, rest)
  := by
  -- The induction goes past the blanks; the first item that is not blank is the number.
  induction items with
  | nil =>
      obtain ⟨text, r, hrender, hshown⟩ := h late (by simp)
      cases hrender
      obtain ⟨c, hc, -⟩ := hshown.first_mem hpart
      cases hc
  | cons item items ih =>
      rw [List.forall_mem_cons] at hitems
      obtain ⟨hitem, hitems⟩ := hitems
      have hstart : ∀ t ∈ [late, early], ∃ start more r, item.render? t = some start ∧
          renderItems? t items = some more ∧ part.ShownIn t (start ++ more) r := by
        intro t ht
        obtain ⟨text, r, hrender, hshown⟩ := h t ht
        obtain ⟨start, more, hstart, hmore, rfl⟩ := exists_of_renderItems?_cons hrender
        exact ⟨start, more, r, hstart, hmore, hshown⟩
      obtain ⟨_, _, _, hlate, -, -⟩ := hstart late (by simp)
      rcases mem_partItems hitem hlate with ⟨c, rfl | rfl⟩ | hmem
      · have hblank : isBlank c = false := by simpa [Item.isRegular] using hitem
        refine (not_shownIn_cons hpart hblank fun t ht => ?_).elim
        obtain ⟨start, more, r, hrender, -, hshown⟩ := hstart t ht
        cases hrender
        exact ⟨more, r, hshown⟩
      · apply ih hitems
        intro t ht
        obtain ⟨start, more, r, hrender, hmore, hshown⟩ := hstart t ht
        cases hrender
        exact ⟨more, r, hmore, (shownIn_cons_of_isBlank hitem).mp hshown⟩
      · obtain ⟨pad, rfl⟩ := exists_eq_number hpart hmem fun t ht => by
          obtain ⟨start, more, r, hrender, -, hshown⟩ := hstart t ht
          exact ⟨start, more, r, hrender, hshown⟩
        exact ⟨pad, items, if_pos rfl⟩

/-- Items begin with a character, or with a text that does not begin with a sign or a letter of the
international forms. -/
theorem exists_first (ht : t ∈ [late, early]) (hitem : item.isRegular)
    (h : renderItems? t (item :: items) = some text) :
  ∃ c s, text = c :: s ∧ (((item = .literal c ∨ item = .blank c) ∧ renderItems? t items = some s) ∨
    (c ≠ ':' ∧ c ≠ 'T' ∧ (t = late → c ≠ '-')))
  := by
  obtain ⟨start, more, hstart, hmore, rfl⟩ := exists_of_renderItems?_cons h
  rcases mem_partItems hitem hstart with ⟨c, rfl | rfl⟩ | hmem
  · cases hstart
    exact ⟨c, more, rfl, .inl ⟨.inl rfl, hmore⟩⟩
  · cases hstart
    exact ⟨c, more, rfl, .inl ⟨.inr rfl, hmore⟩⟩
  · obtain ⟨c, hc, hne⟩ := (Option.any_eq_true _ _).mp (exists_first_ne item hmem t ht start hstart)
    obtain ⟨s, rfl⟩ := List.head?_eq_some_iff.mp hc
    exact ⟨c, s ++ more, rfl, .inr (of_decide_eq_true hne)⟩

/-- A sign or a letter of the international forms is written by itself only. -/
theorem exists_eq_literal (ht : t ∈ [late, early]) (hc : c = ':' ∨ c = 'T' ∨ (t = late ∧ c = '-'))
    (hitems : ∀ item ∈ items, item.isRegular) (h : renderItems? t items = some (c :: s)) :
  ∃ rest, items = .literal c :: rest ∧ renderItems? t rest = some s
  := by
  cases items with
  | nil => cases h
  | cons item items =>
      obtain ⟨hitem, -⟩ := List.forall_mem_cons.mp hitems
      obtain ⟨d, s', heq, ⟨hchar, hrender⟩ | ⟨hcolon, hletter, hsign⟩⟩ := exists_first ht hitem h
      · cases heq
        rcases hchar with rfl | rfl
        · exact ⟨items, rfl, hrender⟩
        · rcases hc with rfl | rfl | ⟨-, rfl⟩ <;> exact absurd hitem (by decide)
      · cases heq
        rcases hc with rfl | rfl | ⟨rfl, rfl⟩
        · exact absurd rfl hcolon
        · exact absurd rfl hletter
        · exact absurd rfl (hsign rfl)

/-! ### Layouts told by texts -/

/-- Items have at some timestamps texts with a property. -/
def Writes (ts : Set Timestamp) (P : Timestamp → List Char → Prop) (items : List Item) : Prop :=
  ∀ t ∈ ts, ∃ text, renderItems? t items = some text ∧ P t text

/-- Items with a number and a sign in their texts begin with that number and that sign. -/
theorem Writes.exists_number?_literal {ts : Set Timestamp} {P : Timestamp → List Char → Prop}
    (hpart : part ∈ layoutParts) (hc : c ∈ [':', '-']) (hts : ∀ t ∈ [late, early], t ∈ ts)
    (hitems : ∀ item ∈ items, item.isRegular)
    (h : Writes ts (fun t s => ∃ r, part.ShownIn t s (c :: r) ∧ P t r) items) :
  ∃ pad rest, number? part items = some (pad, .literal c :: rest) ∧
    (∀ item ∈ rest, item.isRegular) ∧ Writes ts P rest
  := by
  obtain ⟨pad, rest, hnumber⟩ := exists_number? hpart hitems fun t ht => by
    obtain ⟨text, hrender, r, hshown, -⟩ := h t (hts t ht)
    exact ⟨text, _, hrender, hshown⟩
  obtain ⟨hrest, blanks, hblanks, hmap⟩ := exists_blanks_of_number? hitems hnumber
  have hmore : ∀ t ∈ ts, ∃ more r, renderItems? t rest = some more ∧
      part.ShownIn t (blanks ++ (part.render pad t ++ more)) (c :: r) ∧ P t r := by
    intro t ht
    obtain ⟨text, hrender, r, hshown, hr⟩ := h t ht
    obtain ⟨more, hmore, rfl⟩ := Option.map_eq_some_iff.mp ((hmap t).symm.trans hrender)
    exact ⟨more, r, hmore, hshown, hr⟩
  -- The late timestamp fills all places of its numbers, so the sign is what comes next.
  have hfull : part.InPlaces late ∧ part.render pad late = part.render .zeros late := by
    unfold NumberPart.InPlaces
    fin_cases hpart <;> cases pad <;> decide
  obtain ⟨more, r, hlate, hshown, -⟩ := hmore late (hts late (by simp))
  obtain rfl := (shownIn_render hpart hblanks (.inl hfull)).unique hshown
  have hsign : c = ':' ∨ c = 'T' ∨ (late = late ∧ c = '-') := by
    fin_cases hc <;> simp
  obtain ⟨rest, rfl, -⟩ := exists_eq_literal (by simp) hsign hrest hlate
  refine ⟨pad, rest, hnumber, (List.forall_mem_cons.mp hrest).2, fun t ht => ?_⟩
  obtain ⟨_, r, hrender, hshown, hr⟩ := hmore t ht
  rw [renderItems?_literal] at hrender
  obtain ⟨behind, hbehind, rfl⟩ := Option.map_eq_some_iff.mp hrender
  have hapart : Apart (c :: behind) := apart_cons (by fin_cases hc <;> rfl) behind
  cases (shownIn_render hpart hblanks (.inr hapart)).unique hshown
  exact ⟨_, hbehind, hr⟩

/-- Items whose texts are international begin with the layout of a date, and their texts show the
day whatever comes behind it. -/
theorem Writes.exists_dateLayout? (hitems : ∀ item ∈ items, item.isRegular)
    (h : Writes Set.univ IsInternationalText items) :
  ∃ pad rest, dateLayout? items = some (pad, rest) ∧
    ∀ t more, renderItems? t rest = some more →
      ∃ r, Shows (pad.twoPlaces t.date.day ++ more) t.date.day r
  := by
  have hdate : Writes Set.univ (fun t s => ∃ r₁, NumberPart.year.ShownIn t s ('-' :: r₁) ∧
      ∃ r₂, NumberPart.month.ShownIn t r₁ ('-' :: r₂) ∧ ∃ r₃, Shows r₂ t.date.day r₃) items := by
    intro t ht
    obtain ⟨text, hrender, r₃, ⟨r₁, r₂, hyear, hmonth, hday⟩, -⟩ := h t ht
    exact ⟨text, hrender, r₁, hyear, r₂, hmonth, r₃, hday⟩
  have hall : ∀ t ∈ [late, early], t ∈ Set.univ := fun t _ => Set.mem_univ t
  obtain ⟨_, items₁, hyear, hitems₁, hmonth⟩ :=
    hdate.exists_number?_literal (by decide) (by decide) hall hitems
  obtain ⟨_, items₂, hmonth, hitems₂, hday⟩ :=
    hmonth.exists_number?_literal (by decide) (by decide) hall hitems₁
  obtain ⟨pad, rest, hnumber⟩ := @exists_number? .day _ (by decide) hitems₂ fun t _ => by
    obtain ⟨text, hrender, r, hshown⟩ := hday t (Set.mem_univ t)
    exact ⟨text, r, hrender, hshown⟩
  refine ⟨pad, rest, ?_, fun t more hmore => ?_⟩
  · simp [dateLayout?, hyear, hmonth, hnumber, literal?]
  · obtain ⟨-, blanks, hblanks, hmap⟩ := exists_blanks_of_number? hitems₂ hnumber
    obtain ⟨text, hrender, r, hshown⟩ := hday t (Set.mem_univ t)
    rw [hmap, hmore] at hrender
    cases hrender
    refine ⟨r, ?_⟩
    unfold Shows at hshown ⊢
    rw [trimStart_append_of_isBlank hblanks] at hshown
    exact hshown

/-- Items whose texts are times are the layout of an hour and a minute. -/
theorem Writes.exists_minuteLayout? (hitems : ∀ item ∈ items, item.isRegular)
    (h : Writes {late, early} IsTimeText items) :
  ∃ after, minuteLayout? items = some after
  := by
  have hclock : Writes {late, early} (fun t s => ∃ r, NumberPart.hour.ShownIn t s (':' :: r) ∧
      ∃ after, NumberPart.minute.ShownIn t r after) items := by
    intro t ht
    obtain ⟨text, hrender, after, ⟨r, hhour, hminute⟩, -⟩ := h t ht
    exact ⟨text, hrender, r, hhour, after, hminute⟩
  have hprobes : ∀ t ∈ [late, early], t ∈ ({late, early} : Set Timestamp) := by simp
  obtain ⟨_, items₁, hhour, hitems₁, hminute⟩ :=
    hclock.exists_number?_literal (by decide) (by decide) hprobes hitems
  obtain ⟨_, after, hnumber⟩ := @exists_number? .minute _ (by decide) hitems₁ fun t ht => by
    obtain ⟨text, hrender, after, hshown⟩ := hminute t (hprobes t ht)
    exact ⟨text, after, hrender, hshown⟩
  refine ⟨after, ?_⟩
  simp [minuteLayout?, hhour, hnumber, literal?]

/-- Before another digit, a number of one digit is only shown with a zero before it. -/
theorem eq_zeros_of_shows {r : List Char} (h : Shows (pad.twoPlaces 3 ++ '1' :: s) 3 r) :
  pad = .zeros
  := by
  have hjoined : Shows ('3' :: '1' :: s) 31 s := rfl
  cases pad with
  | zeros => rfl
  | nothing | spaces => cases h.symm.trans hjoined

/-- If nothing is between a day and an hour, the day is filled up with zeros: the third of a month
shows that. -/
theorem eq_zeros_of_hour {padHour : Pad}
    (hday : ∀ t more, renderItems? t (.number .hour padHour :: items) = some more →
      ∃ r, Shows (pad.twoPlaces t.date.day ++ more) t.date.day r)
    (h : renderItems? late (.number .hour padHour :: items) = some text) :
  pad = .zeros
  := by
  obtain ⟨more, hmore⟩ := exists_renderItems? h ⟨⟨2999, 12, 3, by decide⟩, late.time⟩
  obtain ⟨r, hshown⟩ := hday _ more hmore
  obtain ⟨_, s, hstart, -, rfl⟩ := exists_of_renderItems?_cons hmore
  cases hstart
  have htwo : padHour.twoPlaces late.time.hour = ['1', '5'] := by cases padHour <;> rfl
  simp only [NumberPart.render, htwo] at hshown
  exact eq_zeros_of_shows hshown

/-- Behind a letter, texts are times. -/
theorem Writes.isTimeText_of_letter {ts : Set Timestamp}
    (h : Writes ts IsTimeOrNothing (.literal 'T' :: items)) :
  Writes ts IsTimeText items
  := by
  intro t ht
  obtain ⟨text, hrender, htime⟩ := h t ht
  rw [renderItems?_literal] at hrender
  obtain ⟨s, hs, rfl⟩ := Option.map_eq_some_iff.mp hrender
  rcases htime with hnil | ⟨s', heq, htime⟩ | ⟨r, ⟨r', hhour, -⟩, -⟩
  · cases hnil
  · cases heq
    exact ⟨s, hs, htime⟩
  · exact absurd hhour (not_shows (.inr ⟨s, rfl⟩))

/-- Without a letter, texts are times unless there are no items. -/
theorem Writes.isTimeText (hitems : ∀ i ∈ item :: items, i.isRegular)
    (hletter : item ≠ .literal 'T') (h : Writes {late, early} IsTimeOrNothing (item :: items)) :
  Writes {late, early} IsTimeText (item :: items)
  := by
  intro t ht
  have hprobe : t ∈ [late, early] := by simpa using ht
  obtain ⟨text, hrender, hnil | ⟨s, rfl, -⟩ | htime⟩ := h t ht
  · obtain ⟨c, s, heq, -⟩ := exists_first hprobe (List.forall_mem_cons.mp hitems).1 hrender
    rw [hnil] at heq
    cases heq
  · obtain ⟨_, heq, -⟩ := exists_eq_literal hprobe (.inr (.inl rfl)) hitems hrender
    cases heq
    exact absurd rfl hletter
  · exact ⟨text, hrender, htime⟩

/-- Items whose texts are times, or nothing, are the layout of a time, or no items. -/
theorem Writes.exists_timeLayout? (hitems : ∀ item ∈ items, item.isRegular) (hne : items ≠ [])
    (hday : ∀ t more, renderItems? t items = some more →
      ∃ r, Shows (pad.twoPlaces t.date.day ++ more) t.date.day r)
    (h : Writes {late, early} IsTimeOrNothing items) :
  ∃ after, timeLayout? pad items = some after
  := by
  obtain ⟨item, items, rfl⟩ := List.exists_cons_of_ne_nil hne
  by_cases hletter : item = .literal 'T'
  · subst hletter
    exact h.isTimeText_of_letter.exists_minuteLayout? (List.forall_mem_cons.mp hitems).2
  have htime := h.isTimeText hitems hletter
  obtain ⟨after, hafter⟩ := htime.exists_minuteLayout? hitems
  refine ⟨after, ?_⟩
  unfold timeLayout?
  split
  · next hcons =>
      cases hcons
      exact absurd rfl hletter
  · next hcons =>
      cases hcons
      exact hafter
  · next hblank =>
      obtain ⟨⟨padHour, rest⟩, hnumber, -⟩ := Option.bind_eq_some_iff.mp hafter
      obtain ⟨cs, hcons⟩ := exists_of_number? hnumber
      cases cs with
      | cons c cs => exact absurd hcons (hblank c _)
      | nil =>
          cases hcons
          obtain ⟨_, hlate, -⟩ := htime late (by simp)
          rw [if_pos (eq_zeros_of_hour hday hlate)]
          exact hafter

/-- Items whose texts are a second behind a colon, or nothing, end a time. -/
theorem endsInSecond_of_renderItems? (hitems : ∀ item ∈ items, item.isRegular)
    (h : ∀ t, ∃ more, renderItems? t items = some more ∧
      ((10 ≤ t.time.minute ∨ Apart more) → IsSecondOrNothing more)) :
  EndsInSecond items
  := by
  cases items with
  | nil => exact .inl rfl
  | cons item items =>
      obtain ⟨more, hmore, hsecond⟩ := h late
      obtain ⟨c, s, rfl, -⟩ := exists_first (by simp) (List.forall_mem_cons.mp hitems).1 hmore
      obtain hnil | ⟨s', heq, -⟩ := hsecond (.inl (by decide))
      · cases hnil
      rw [heq] at hmore
      obtain ⟨seconds, hcons, -⟩ := exists_eq_literal (by simp) (.inl rfl) hitems hmore
      refine .inr ⟨seconds, hcons, fun t => ?_⟩
      obtain ⟨more, hmore, hsecond⟩ := h t
      rw [hcons, renderItems?_literal] at hmore
      obtain ⟨s, hs, rfl⟩ := Option.map_eq_some_iff.mp hmore
      obtain hnil | ⟨_, heq, hsecond⟩ := hsecond (.inr (apart_cons (by decide) s))
      · cases hnil
      · cases heq
        exact ⟨s, hs, hsecond⟩

/-- Items whose texts are international at all timestamps have an international layout. -/
theorem Writes.isInternationalLayout (hitems : ∀ item ∈ items, item.isRegular)
    (h : Writes Set.univ IsInternationalText items) :
  IsInternationalLayout items
  := by
  obtain ⟨pad, rest, hdate, hday⟩ := h.exists_dateLayout? hitems
  refine ⟨pad, rest, hdate, ?_⟩
  by_cases hne : rest = []
  · exact .inl hne
  right
  obtain ⟨hrest, hshows⟩ := exists_showsDate_iff hitems hdate
  have htime : Writes {late, early} IsTimeOrNothing rest := by
    intro t ht
    have hten : 10 ≤ t.date.day := by rcases ht with rfl | rfl <;> decide
    obtain ⟨f, hmap, hiff⟩ := hshows t
    obtain ⟨text, hrender, r, hr, htime⟩ := h t (Set.mem_univ t)
    obtain ⟨more, hmore, rfl⟩ := Option.map_eq_some_iff.mp (hmap.symm.trans hrender)
    obtain rfl := (hiff more (.inr (.inl hten)) r).mp hr
    exact ⟨r, hmore, htime⟩
  obtain ⟨after, hafter⟩ := htime.exists_timeLayout? hrest hne hday
  obtain ⟨hregular, hinternational⟩ := exists_isInternationalText_iff hitems hdate hafter
  refine ⟨after, hafter, endsInSecond_of_renderItems? hregular fun t => ?_⟩
  obtain ⟨f, hmap, hiff⟩ := hinternational t
  obtain ⟨text, hrender, htext⟩ := h t (Set.mem_univ t)
  obtain ⟨more, hmore, rfl⟩ := Option.map_eq_some_iff.mp (hmap.symm.trans hrender)
  exact ⟨more, hmore, fun hexact => (hiff more hmore hexact).mp htext⟩

/-! ### Formats -/

/-- A format is taken to be international if one sample is read back. -/
theorem isInternational_iff {format : String} :
  isInternational format = true ↔ ∃ text, sample.render? format = some text ∧ ReadsBack sample text
  := by
  unfold isInternational
  cases sample.render? format with
  | none => simp
  | some text =>
      simp only [ReadsBack, Bool.or_eq_true, List.any_eq_true, Option.any_eq_true, Option.mem_def,
        Option.some.injEq, exists_eq_left', decide_eq_true_eq, exists_eq_right]

/-- In a format that is taken to be international, all timestamps are read back to the minute
exactly if the format has an international layout. -/
theorem reads_back_iff_layout {format : String} :
  (isInternational format = true ∧
      ∀ t text, Timestamp.render? t format = some text → ReadsBack t text) ↔
    ∃ items ∈ items? format, IsInternationalLayout items
  := by
  constructor
  · rintro ⟨hsample, hall⟩
    obtain ⟨text, hrender, -⟩ := isInternational_iff.mp hsample
    obtain ⟨items, hformat, hrender⟩ := Option.bind_eq_some_iff.mp hrender
    obtain ⟨s, hs, -⟩ := Option.bind_eq_some_iff.mp hrender
    refine ⟨items, hformat, Writes.isInternationalLayout (isRegular_of_items? hformat) ?_⟩
    intro t _
    obtain ⟨s, hs⟩ := exists_renderItems? hs t
    refine ⟨s, hs, ?_⟩
    have hread := hall t (String.ofList s) (by rw [render?_eq hformat, hs]; rfl)
    rw [readsBack_iff, String.toList_ofList] at hread
    exact hread
  · rintro ⟨items, hformat, hlayout⟩
    have hread := hlayout.exists_readsBack hformat
    refine ⟨isInternational_iff.mpr (hread sample), fun t text hrender => ?_⟩
    obtain ⟨text', hrender', hread⟩ := hread t
    cases hrender.symm.trans hrender'
    exact hread

/-- The sample is in a morning, so the hour of the half day passes, but an afternoon is read back as
a morning. -/
theorem afternoon_not_read_back :
  let format := "%Y-%m-%d %I:%M"
  let t : Timestamp := ⟨⟨2001, 2, 3, by decide⟩, ⟨16, 5, 0, 0, by decide⟩⟩
  isInternational format = true ∧ Timestamp.render? t format = some "2001-02-03 04:05" ∧
    ¬ ReadsBack t "2001-02-03 04:05"
  := by decide +kernel

end

end EntityStore.Calendar
