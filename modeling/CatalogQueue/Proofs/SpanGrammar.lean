import CatalogQueue.Proofs.SpanText

/-!
The grammar of a span's text (`SpanText.Spelling`): reading accepts exactly the texts the grammar
spells in range, between blanks, and gives the span they spell.
-/

namespace CatalogQueue

namespace Text

theorem dropBlanks_blanks_append {lead rest : List Char} (hlead : ∀ c ∈ lead, isBlank c = true)
    (hrest : ∀ c ∈ rest.head?, isBlank c = false) : dropBlanks (lead ++ rest) = rest := by
  unfold dropBlanks
  rw [List.dropWhile_append_of_pos hlead]
  cases rest with
  | nil => rfl
  | cons c r => exact List.dropWhile_cons_of_neg (by simp [hrest c rfl])

theorem trimBlanks_blanks_append {lead body trail : List Char}
    (hlead : ∀ c ∈ lead, isBlank c = true) (htrail : ∀ c ∈ trail, isBlank c = true)
    (hbody : ∀ c ∈ body, isBlank c = false) (hne : body ≠ []) :
    trimBlanks (lead ++ body ++ trail) = body := by
  have hfront : dropBlanks (lead ++ body ++ trail) = body ++ trail := by
    rw [List.append_assoc]
    refine dropBlanks_blanks_append hlead fun c hc => hbody c ?_
    cases body with
    | nil => exact absurd rfl hne
    | cons b bs =>
      simp only [List.cons_append, List.head?_cons, Option.mem_def, Option.some.injEq] at hc
      exact hc ▸ List.mem_cons_self
  have hback : dropBlanks (body ++ trail).reverse = body.reverse := by
    rw [List.reverse_append]
    exact dropBlanks_blanks_append (fun c hc => htrail c (List.mem_reverse.1 hc))
      fun c hc => hbody c (List.mem_reverse.1 (List.mem_of_mem_head? hc))
  rw [trimBlanks, hfront, hback, List.reverse_reverse]

theorem eq_blanks_append_trimBlanks (cs : List Char) :
    ∃ lead trail, (∀ c ∈ lead, isBlank c = true) ∧ (∀ c ∈ trail, isBlank c = true) ∧
      cs = lead ++ trimBlanks cs ++ trail := by
  refine ⟨cs.takeWhile isBlank, ((dropBlanks cs).reverse.takeWhile isBlank).reverse,
    List.all_eq_true.1 List.all_takeWhile,
    fun c hc => List.all_eq_true.1 List.all_takeWhile c (List.mem_reverse.1 hc), ?_⟩
  rw [trimBlanks, List.append_assoc, ← List.reverse_append, dropBlanks, dropBlanks,
    List.takeWhile_append_dropWhile, List.reverse_reverse, List.takeWhile_append_dropWhile]

end Text

namespace SpanText

def decimal (ds : List Char) : Nat := Nat.ofDigitChars 10 ds 0

def ShortRun (ds : List Char) : Prop :=
  1 ≤ ds.length ∧ ds.length ≤ 2 ∧ ∀ c ∈ ds, c.isDigit = true

/-- A span's text between its blanks, taken apart into its pieces as written. -/
structure Spelling where
  /-- The day count, written before a `.`. -/
  days : Option (List Char)
  hours : List Char
  minutes : List Char
  /-- The seconds, written after a `:`, and the fraction of a second, written after a `.`. -/
  seconds : Option (List Char × Option (List Char))

namespace Spelling

def secondsText : Option (List Char × Option (List Char)) → List Char
  | none => []
  | some (s, none) => ':' :: s
  | some (s, some f) => ':' :: (s ++ '.' :: f)

def clockText (p : Spelling) : List Char :=
  p.hours ++ ':' :: (p.minutes ++ secondsText p.seconds)

def text (p : Spelling) : List Char :=
  match p.days with
  | some d => d ++ '.' :: p.clockText
  | none => p.clockText

def SecondsOk : Option (List Char × Option (List Char)) → Prop
  | none => True
  | some (s, none) => ShortRun s
  | some (s, some f) => ShortRun s ∧ 1 ≤ f.length ∧ f.length ≤ 7 ∧ ∀ c ∈ f, c.isDigit = true

/-- The rules of the grammar on each piece. -/
structure Grammatical (p : Spelling) : Prop where
  days : ∀ d ∈ p.days, d ≠ [] ∧ ∀ c ∈ d, c.isDigit = true
  hours : ShortRun p.hours
  minutes : ShortRun p.minutes
  seconds : SecondsOk p.seconds

/-- The whole seconds and the nanoseconds of the fraction written in the seconds part; a
fraction of `k` digits counts in units of `10 ^ (9 - k)` nanoseconds. -/
def secondsValue : Option (List Char × Option (List Char)) → Nat × Nat
  | none => (0, 0)
  | some (s, none) => (decimal s, 0)
  | some (s, some f) => (decimal s, decimal f * 10 ^ (9 - f.length))

def dayCount (p : Spelling) : Nat := (p.days.map decimal).getD 0

def InRange (p : Spelling) : Prop :=
  p.dayCount ≤ maxDays ∧ decimal p.hours ≤ 23 ∧ decimal p.minutes ≤ 59 ∧
    (secondsValue p.seconds).1 ≤ 59

def totalSecs (p : Spelling) : Nat :=
  ((p.dayCount * 24 + decimal p.hours) * 60 + decimal p.minutes) * 60 + (secondsValue p.seconds).1

def fracNanos (p : Spelling) : Nat := (secondsValue p.seconds).2

/-! The rules are decided through their Boolean forms, which run by `decide`. -/

theorem shortRun_iff (ds : List Char) :
    ShortRun ds ↔ 1 ≤ ds.length ∧ ds.length ≤ 2 ∧ ds.all Char.isDigit = true := by
  simp [ShortRun]

instance : DecidablePred ShortRun := fun ds => decidable_of_iff _ (shortRun_iff ds).symm

theorem secondsOk_fraction_iff (s f : List Char) :
    SecondsOk (some (s, some f)) ↔
      ShortRun s ∧ 1 ≤ f.length ∧ f.length ≤ 7 ∧ f.all Char.isDigit = true := by
  simp [SecondsOk]

instance : DecidablePred SecondsOk
  | none => isTrue trivial
  | some (s, none) => inferInstanceAs (Decidable (ShortRun s))
  | some (s, some f) => decidable_of_iff _ (secondsOk_fraction_iff s f).symm

theorem grammatical_iff (p : Spelling) :
    p.Grammatical ↔ p.days.all (fun d => !d.isEmpty && d.all Char.isDigit) = true ∧
      ShortRun p.hours ∧ ShortRun p.minutes ∧ SecondsOk p.seconds := by
  have hdays : (∀ d ∈ p.days, d ≠ [] ∧ ∀ c ∈ d, c.isDigit = true) ↔
      p.days.all (fun d => !d.isEmpty && d.all Char.isDigit) = true := by
    cases p.days <;> simp
  rw [← hdays]
  exact ⟨fun ⟨hd, hh, hm, hs⟩ => ⟨hd, hh, hm, hs⟩, fun ⟨hd, hh, hm, hs⟩ => ⟨hd, hh, hm, hs⟩⟩

instance : DecidablePred Grammatical := fun p => decidable_of_iff _ (grammatical_iff p).symm

instance : DecidablePred InRange := fun p =>
  inferInstanceAs (Decidable (p.dayCount ≤ maxDays ∧ decimal p.hours ≤ 23 ∧
    decimal p.minutes ≤ 59 ∧ (secondsValue p.seconds).1 ≤ 59))

def fields (p : Spelling) : Fields :=
  { days := p.dayCount, hours := decimal p.hours, minutes := decimal p.minutes,
    seconds := (secondsValue p.seconds).1, nanos := (secondsValue p.seconds).2 }

end Spelling

/-! ### Runs of digits as the reader takes them -/

theorem digitsValue_eq_decimal (ds : List Char) : digitsValue ds = decimal ds :=
  digitsValue_eq_ofDigitChars ds

theorem takeDigits_eq_iff {cs ds rest : List Char} :
    takeDigits cs = (ds, rest) ↔
      cs = ds ++ rest ∧ (∀ c ∈ ds, c.isDigit = true) ∧ ∀ c ∈ rest.head?, c.isDigit = false := by
  constructor
  · intro h
    simp only [takeDigits, Prod.mk.injEq] at h
    obtain ⟨rfl, rfl⟩ := h
    refine ⟨List.takeWhile_append_dropWhile.symm, List.all_eq_true.1 List.all_takeWhile, ?_⟩
    intro c hc
    have hne : cs.dropWhile Char.isDigit ≠ [] := fun hnil => by simp [hnil] at hc
    rw [List.head?_eq_some_head hne, Option.mem_def, Option.some.injEq] at hc
    rw [← hc]
    exact List.head_dropWhile_not _ hne
  · rintro ⟨rfl, hds, hrest⟩
    exact takeDigits_append hds hrest

theorem isShortRun_of_shortRun {ds : List Char} (h : ShortRun ds) : isShortRun ds = true := by
  simp [isShortRun, h.1, h.2.1]

theorem shortRun_of_isShortRun {ds : List Char} (h : isShortRun ds = true)
    (hds : ∀ c ∈ ds, c.isDigit = true) : ShortRun ds := by
  simp only [isShortRun, Bool.and_eq_true, decide_eq_true_eq] at h
  exact ⟨h.1, h.2, hds⟩

/-- What a reader takes as hours, minutes or seconds: the leading digits, when they are one or
two. -/
theorem shortRun_of_takeDigits {cs ds rest : List Char} (htake : takeDigits cs = (ds, rest))
    (hshort : ¬(!isShortRun ds) = true) : cs = ds ++ rest ∧ ShortRun ds := by
  obtain ⟨hcs, hdigits, -⟩ := takeDigits_eq_iff.1 htake
  exact ⟨hcs, shortRun_of_isShortRun (by simpa using hshort) hdigits⟩

namespace Spelling

/-! ### Completeness: the reader takes a spelled text apart as it was spelled -/

theorem readSeconds_secondsText {sec : Option (List Char × Option (List Char))}
    (h : SecondsOk sec) : readSeconds (secondsText sec) = some (secondsValue sec) := by
  match sec, h with
  | none, _ => rfl
  | some (s, none), hs =>
    simp [secondsText, readSeconds, takeDigits_of_digits hs.2.2, isShortRun_of_shortRun hs,
      secondsValue, digitsValue_eq_decimal]
  | some (s, some f), ⟨hs, hlo, hhi, hf⟩ =>
    simp [secondsText, readSeconds, takeDigits_append_cons (c := '.') hs.2.2 (by decide),
      isShortRun_of_shortRun hs, hlo, hhi, secondsValue, fractionNanos, digitsValue_eq_decimal]
    exact hf

/-- The seconds part starts with `:` or is empty, so no digit follows the minutes. -/
theorem secondsText_head {sec : Option (List Char × Option (List Char))} :
    ∀ c ∈ (secondsText sec).head?, c.isDigit = false := by
  intro c hc
  match sec with
  | none => cases hc
  | some (_, none) | some (_, some _) =>
    simp only [secondsText, List.head?_cons, Option.mem_def, Option.some.injEq] at hc
    rw [← hc]
    decide

theorem readClock_clockText (days : Nat) {p : Spelling} (hp : p.Grammatical) :
    readClock days p.clockText = some { p.fields with days } := by
  simp [readClock, clockText, takeDigits_append_cons (c := ':') hp.hours.2.2 (by decide),
    isShortRun_of_shortRun hp.hours, takeDigits_append hp.minutes.2.2 secondsText_head,
    isShortRun_of_shortRun hp.minutes, readSeconds_secondsText hp.seconds, fields,
    digitsValue_eq_decimal]

theorem readFields_text {p : Spelling} (hp : p.Grammatical) :
    readFields p.text = some p.fields := by
  cases hd : p.days with
  | none =>
    -- no day count: the hours come first, and `:` follows them
    have htext : p.text = p.clockText := by simp [text, hd]
    have htake : takeDigits p.clockText = (p.hours, ':' :: (p.minutes ++ secondsText p.seconds)) :=
      takeDigits_append_cons hp.hours.2.2 (by decide)
    rw [htext, readFields, htake]
    simp only
    rw [readClock_clockText 0 hp]
    simp [fields, dayCount, hd]
  | some d =>
    obtain ⟨hne, hdigits⟩ := hp.days d hd
    have htext : p.text = d ++ '.' :: p.clockText := by simp [text, hd]
    rw [htext, readFields, takeDigits_append_cons (c := '.') hdigits (by decide)]
    simp only [List.isEmpty_iff, hne, if_false]
    rw [readClock_clockText _ hp]
    simp [fields, dayCount, hd, digitsValue_eq_decimal]

/-! ### Soundness: a text the reader accepts is spelled by the grammar -/

theorem readSeconds_eq_some {cs : List Char} {r : Nat × Nat} (h : readSeconds cs = some r) :
    ∃ sec, SecondsOk sec ∧ cs = secondsText sec ∧ r = secondsValue sec := by
  unfold readSeconds at h
  split at h
  · -- nothing follows the minutes
    cases h
    exact ⟨none, trivial, rfl, rfl⟩
  · -- `:`, the seconds, then nothing or a fraction
    split at h
    rename_i rest s after htake
    split at h
    · cases h
    · rename_i hshort
      obtain ⟨rfl, hs⟩ := shortRun_of_takeDigits htake hshort
      split at h
      · cases h
        exact ⟨some (s, none), hs, by simp [secondsText],
          by simp [secondsValue, digitsValue_eq_decimal]⟩
      · split at h
        · rename_i frac hfrac
          cases h
          simp only [Bool.and_eq_true, decide_eq_true_eq, List.all_eq_true] at hfrac
          exact ⟨some (s, some frac), ⟨hs, hfrac.1.1, hfrac.1.2, hfrac.2⟩, by simp [secondsText],
            by simp [secondsValue, fractionNanos, digitsValue_eq_decimal]⟩
        · cases h
      · cases h
  · cases h

theorem readClock_eq_some {days : Nat} {cs : List Char} {f : Fields}
    (h : readClock days cs = some f) :
    ∃ hours minutes sec, ShortRun hours ∧ ShortRun minutes ∧ SecondsOk sec ∧
      cs = hours ++ ':' :: (minutes ++ secondsText sec) ∧
      f = { days, hours := decimal hours, minutes := decimal minutes,
            seconds := (secondsValue sec).1, nanos := (secondsValue sec).2 } := by
  unfold readClock at h
  split at h
  rename_i hours afterH htake
  split at h
  · cases h
  · rename_i hshort
    obtain ⟨rfl, hh⟩ := shortRun_of_takeDigits htake hshort
    split at h
    · -- `:` follows the hours: the minutes, then the seconds
      rename_i rest
      split at h
      rename_i minutes afterM htake'
      split at h
      · cases h
      · rename_i hshort'
        obtain ⟨rfl, hm⟩ := shortRun_of_takeDigits htake' hshort'
        obtain ⟨⟨s, n⟩, hsec, rfl⟩ := Option.map_eq_some_iff.1 h
        obtain ⟨sec, hok, rfl, hval⟩ := readSeconds_eq_some hsec
        refine ⟨hours, minutes, sec, hh, hm, hok, rfl, ?_⟩
        rw [← hval]
        simp [digitsValue_eq_decimal]
    · cases h

theorem readFields_eq_some {cs : List Char} {f : Fields} (h : readFields cs = some f) :
    ∃ p : Spelling, p.Grammatical ∧ p.text = cs ∧ p.fields = f := by
  unfold readFields at h
  split at h
  rename_i first rest htake
  split at h
  · -- digits and `.`: a day count, then the clock
    rename_i clock
    obtain ⟨rfl, hdigits, -⟩ := takeDigits_eq_iff.1 htake
    split at h
    · cases h
    · rename_i hne
      obtain ⟨hours, minutes, sec, hh, hm, hs, rfl, rfl⟩ := readClock_eq_some h
      refine ⟨⟨some first, hours, minutes, sec⟩, ⟨fun d hd => ?_, hh, hm, hs⟩, rfl, ?_⟩
      · cases hd
        exact ⟨by simpa using hne, hdigits⟩
      · simp [fields, dayCount, digitsValue_eq_decimal]
  · -- no day count: the clock alone
    obtain ⟨hours, minutes, sec, hh, hm, hs, rfl, rfl⟩ := readClock_eq_some h
    exact ⟨⟨none, hours, minutes, sec⟩, ⟨(fun d hd => nomatch hd), hh, hm, hs⟩, rfl, rfl⟩

/-! ### What a spelled text is made of, and what it is worth -/

variable {p : Spelling}

theorem fields_inRange : p.fields.inRange = true ↔ p.InRange := by
  rw [Fields.inRange_iff]
  rfl

theorem mem_secondsText {sec : Option (List Char × Option (List Char))} (h : SecondsOk sec)
    {c : Char} (hc : c ∈ secondsText sec) : c.isDigit = true ∨ c = '.' ∨ c = ':' := by
  match sec, h with
  | none, _ => cases hc
  | some (s, none), hs =>
    simp only [secondsText, List.mem_cons] at hc
    rcases hc with rfl | hc
    · exact .inr (.inr rfl)
    · exact .inl (hs.2.2 c hc)
  | some (s, some f), ⟨hs, _, _, hf⟩ =>
    simp only [secondsText, List.mem_cons, List.mem_append] at hc
    rcases hc with rfl | hc | rfl | hc
    · exact .inr (.inr rfl)
    · exact .inl (hs.2.2 c hc)
    · exact .inr (.inl rfl)
    · exact .inl (hf c hc)

theorem mem_text (hp : p.Grammatical) {c : Char} (hc : c ∈ p.text) :
    c.isDigit = true ∨ c = '.' ∨ c = ':' := by
  have hclock : c ∈ p.clockText → c.isDigit = true ∨ c = '.' ∨ c = ':' := fun hc => by
    simp only [clockText, List.mem_append, List.mem_cons] at hc
    rcases hc with hh | rfl | hm | hsec
    · exact .inl (hp.hours.2.2 c hh)
    · exact .inr (.inr rfl)
    · exact .inl (hp.minutes.2.2 c hm)
    · exact mem_secondsText hp.seconds hsec
  cases hd : p.days with
  | none =>
    simp only [text, hd] at hc
    exact hclock hc
  | some d =>
    simp only [text, hd, List.mem_append, List.mem_cons] at hc
    rcases hc with hday | rfl | hc
    · exact .inl ((hp.days d hd).2 c hday)
    · exact .inr (.inl rfl)
    · exact hclock hc

theorem text_not_blank (hp : p.Grammatical) : ∀ c ∈ p.text, Text.isBlank c = false := by
  intro c hc
  rcases mem_text hp hc with hdigit | rfl | rfl
  · exact Text.isBlank_of_isDigit hdigit
  · decide
  · decide

theorem text_ne_nil (p : Spelling) : p.text ≠ [] := by
  cases hd : p.days <;> simp [text, hd, clockText]

theorem secondsValue_nanos_lt {sec : Option (List Char × Option (List Char))}
    (h : SecondsOk sec) : (secondsValue sec).2 < nanosPerSec := by
  match sec, h with
  | none, _ => simp [secondsValue, nanosPerSec]
  | some (_, none), _ => simp [secondsValue, nanosPerSec]
  | some (_, some f), ⟨_, _, hhi, hf⟩ =>
    have hlt := fractionNanos_lt hhi hf
    rwa [fractionNanos, digitsValue_eq_decimal] at hlt

/-- The fraction of a spelled text is less than a second: no nanosecond carries into the
seconds. -/
theorem fracNanos_lt (hp : p.Grammatical) : p.fracNanos < nanosPerSec :=
  secondsValue_nanos_lt hp.seconds

/-- In range, the whole seconds fit 64 bits: reading never overflows. -/
theorem totalSecs_lt (hr : p.InRange) : p.totalSecs < secsBound := by
  obtain ⟨hd, hh, hm, hs⟩ := hr
  simp only [totalSecs, secsBound, maxDays] at hd ⊢
  omega

end Spelling

end SpanText

namespace Span

open SpanText Spelling

/-- Whole seconds that fit 64 bits and less than a second of nanoseconds make a span, with
nothing clamped. -/
theorem ofParts?_of_lt {t n : Nat} (ht : t < secsBound) (hn : n < nanosPerSec) :
    ∃ d, ofParts? t n = some d ∧ d.toNanos = t * nanosPerSec + n := by
  have hle : t * nanosPerSec + n ≤ maxSpanNanos := by
    simp only [maxSpanNanos, secsBound, nanosPerSec] at ht hn ⊢
    omega
  exact ⟨⟨_, hle⟩, by simp [ofParts?, hle], rfl⟩

/-- Reading accepts exactly the spelled texts in range, between blanks, and gives the span
they spell. -/
theorem parse?_eq_some_iff {s : String} {d : Span} :
    parse? s = some d ↔
      ∃ (lead : List Char) (p : Spelling) (trail : List Char),
        (∀ c ∈ lead, Text.isBlank c = true) ∧ (∀ c ∈ trail, Text.isBlank c = true) ∧
        p.Grammatical ∧ s.toList = lead ++ p.text ++ trail ∧ p.InRange ∧
        d.toNanos = p.totalSecs * nanosPerSec + p.fracNanos := by
  constructor
  · intro h
    unfold parse? at h
    obtain ⟨f, hread, hf⟩ := Option.bind_eq_some_iff.1 h
    split at hf
    · rename_i hrange
      obtain ⟨p, hp, htext, rfl⟩ := readFields_eq_some hread
      obtain ⟨lead, trail, hlead, htrail, hsplit⟩ := Text.eq_blanks_append_trimBlanks s.toList
      refine ⟨lead, p, trail, hlead, htrail, hp, by rw [htext]; exact hsplit,
        fields_inRange.1 hrange, ?_⟩
      exact toNanos_ofParts? hf
    · cases hf
  · rintro ⟨lead, p, trail, hlead, htrail, hp, hs, hr, hd⟩
    have htrim : Text.trimBlanks s.toList = p.text := by
      rw [hs]
      exact Text.trimBlanks_blanks_append hlead htrail (text_not_blank hp) p.text_ne_nil
    obtain ⟨d', hd', hnanos⟩ := ofParts?_of_lt (totalSecs_lt hr) (fracNanos_lt hp)
    obtain rfl : d = d' := ext_toNanos (hd.trans hnanos.symm)
    simp only [parse?, htrim, readFields_text hp, Option.bind_eq_bind, Option.bind_some,
      fields_inRange.2 hr, if_true]
    exact hd'

/-- A character that is neither a blank, an ASCII digit, `.` nor `:`, such as a digit of
another script, makes a text no span. -/
theorem parse?_eq_none_of_stray {s : String} {c : Char} (hc : c ∈ s.toList)
    (hblank : Text.isBlank c = false) (hdigit : c.isDigit = false) (hdot : c ≠ '.')
    (hcolon : c ≠ ':') : parse? s = none := by
  cases h : parse? s with
  | none => rfl
  | some d =>
    obtain ⟨lead, p, trail, hlead, htrail, hp, hs, -, -⟩ := parse?_eq_some_iff.1 h
    rw [hs, List.mem_append, List.mem_append] at hc
    rcases hc with (hl | ht) | htr
    · rw [hlead c hl] at hblank
      cases hblank
    · rcases mem_text hp ht with hd | rfl | rfl
      · rw [hd] at hdigit
        cases hdigit
      · exact absurd rfl hdot
      · exact absurd rfl hcolon
    · rw [htrail c htr] at hblank
      cases hblank

/-- Reading a span's text accepts exactly its grammar. A text reads as a span exactly when it
is a spelled text between blanks, with at most `maxDays` days, 23 hours and 59 minutes and
seconds; the span is then the whole seconds the text spells and the nanoseconds of its
fraction. A character that is neither a blank, an ASCII digit, `.` nor `:` makes a text no
span. And in range, the whole seconds fit 64 bits and the fraction stays below a second, so
nothing overflows or carries. -/
theorem parse_accepts_its_grammar :
    (∀ (s : String) (d : Span), parse? s = some d ↔
      ∃ (lead : List Char) (p : Spelling) (trail : List Char),
        (∀ c ∈ lead, Text.isBlank c = true) ∧ (∀ c ∈ trail, Text.isBlank c = true) ∧
        p.Grammatical ∧ s.toList = lead ++ p.text ++ trail ∧ p.InRange ∧
        d.toNanos = p.totalSecs * nanosPerSec + p.fracNanos) ∧
    (∀ (s : String) (c : Char), c ∈ s.toList → Text.isBlank c = false → c.isDigit = false →
      c ≠ '.' → c ≠ ':' → parse? s = none) ∧
    (∀ p : Spelling, p.Grammatical → p.InRange →
      p.totalSecs < secsBound ∧ p.fracNanos < nanosPerSec) :=
  ⟨fun _ _ => parse?_eq_some_iff,
    fun _ _ hc hblank hdigit hdot hcolon => parse?_eq_none_of_stray hc hblank hdigit hdot hcolon,
    fun _ hp hr => ⟨totalSecs_lt hr, fracNanos_lt hp⟩⟩

/-- A day count, a fraction and blanks around: the spelling of `1.02:03:04.5` is in range and
stands for 93784 seconds and half a second; minutes in Arabic-Indic digits are no span. -/
theorem parse_accepts_its_grammar_samples :
    let p : Spelling := ⟨some ['1'], ['0', '2'], ['0', '3'], some (['0', '4'], some ['5'])⟩
    p.Grammatical ∧ p.InRange ∧ p.totalSecs = 93784 ∧ p.fracNanos = 500000000 ∧
      (p.totalSecs < secsBound ∧ p.fracNanos < nanosPerSec) ∧ parse? "12:٣٠" = none := by
  intro p
  have hp : p.Grammatical := by decide
  have hr : p.InRange := by decide
  exact ⟨hp, hr, by decide, by decide, parse_accepts_its_grammar.2.2 p hp hr,
    parse_accepts_its_grammar.2.1 _ '٣' (by decide) (by decide) (by decide) (by decide)
      (by decide)⟩

end Span

end CatalogQueue
