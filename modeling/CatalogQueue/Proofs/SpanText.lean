import Mathlib
import CatalogQueue.Span.Text

/-!
Reading back the text of a span: writing a span and reading it gives the span cut to whole
seconds, as long as its day count is one that reading accepts.
-/

namespace CatalogQueue

namespace Text

theorem isBlank_of_isDigit {c : Char} (h : c.isDigit = true) : isBlank c = false := by
  simp only [Char.isDigit, Bool.and_eq_true, decide_eq_true_eq] at h
  have hlo : 48 ≤ c.toNat := h.1
  have hhi : c.toNat ≤ 57 := h.2
  simp only [isBlank, blankCodes, List.contains_eq_mem, List.mem_cons, List.not_mem_nil,
    decide_eq_false_iff_not, or_false]
  intro hcode
  omega

theorem trimBlanks_eq_self {cs : List Char} (h : ∀ c ∈ cs, isBlank c = false) :
    trimBlanks cs = cs := by
  have hdrop : ∀ ds : List Char, (∀ c ∈ ds, isBlank c = false) → dropBlanks ds = ds := by
    intro ds hds
    cases ds with
    | nil => rfl
    | cons c rest =>
      exact List.dropWhile_cons_of_neg (by simp [hds c List.mem_cons_self])
  have hrev : ∀ c ∈ cs.reverse, isBlank c = false := fun c hc => h c (List.mem_reverse.1 hc)
  rw [trimBlanks, hdrop cs h, hdrop cs.reverse hrev, List.reverse_reverse]

end Text

namespace SpanText

/-! ### Runs of digits -/

theorem digitsValue_eq_ofDigitChars (ds : List Char) :
    digitsValue ds = Nat.ofDigitChars 10 ds 0 := by
  simp only [digitsValue, Nat.ofDigitChars_eq_foldl, Nat.mul_comm]

@[simp] theorem digitsValue_toDigits (n : Nat) : digitsValue (Nat.toDigits 10 n) = n := by
  rw [digitsValue_eq_ofDigitChars, Nat.ofDigitChars_ten_toDigits]

theorem digitsValue_zero_cons (ds : List Char) : digitsValue ('0' :: ds) = digitsValue ds := by
  simp [digitsValue_eq_ofDigitChars, Nat.ofDigitChars_cons]

theorem digitsValue_lt {ds : List Char} (h : ∀ c ∈ ds, c.isDigit = true) :
    digitsValue ds < 10 ^ ds.length := by
  -- the fold is bounded from any starting value: `a` followed by the digits
  suffices hfold : ∀ (a : Nat) (ds : List Char), (∀ c ∈ ds, c.isDigit = true) →
      ds.foldl (fun n c => n * 10 + (c.toNat - '0'.toNat)) a < (a + 1) * 10 ^ ds.length by
    simpa [digitsValue] using hfold 0 ds h
  intro a ds hds
  induction ds generalizing a with
  | nil => simp
  | cons c rest ih =>
    have hc := hds c List.mem_cons_self
    simp only [Char.isDigit, Bool.and_eq_true, decide_eq_true_eq] at hc
    have hdigit : c.toNat - '0'.toNat ≤ 9 := by
      have : c.toNat ≤ 57 := hc.2
      simp only [Char.reduceToNat]
      omega
    have hstep := ih (a * 10 + (c.toNat - '0'.toNat)) fun x hx => hds x (List.mem_cons_of_mem c hx)
    calc rest.foldl _ (a * 10 + (c.toNat - '0'.toNat))
        < (a * 10 + (c.toNat - '0'.toNat) + 1) * 10 ^ rest.length := hstep
      _ ≤ (a + 1) * 10 * 10 ^ rest.length := Nat.mul_le_mul_right _ (by omega)
      _ = (a + 1) * 10 ^ (c :: rest).length := by
        rw [List.length_cons, Nat.pow_succ, Nat.mul_comm (10 ^ _) 10, Nat.mul_assoc]

theorem takeDigits_append {ds rest : List Char} (hds : ∀ c ∈ ds, c.isDigit = true)
    (hrest : ∀ c ∈ rest.head?, c.isDigit = false) : takeDigits (ds ++ rest) = (ds, rest) := by
  unfold takeDigits
  rw [List.takeWhile_append_of_pos hds, List.dropWhile_append_of_pos hds]
  cases rest with
  | nil => simp
  | cons c r =>
    have hc : c.isDigit = false := hrest c rfl
    rw [List.takeWhile_cons_of_neg (by simp [hc]), List.dropWhile_cons_of_neg (by simp [hc]),
      List.append_nil]

theorem takeDigits_of_digits {ds : List Char} (hds : ∀ c ∈ ds, c.isDigit = true) :
    takeDigits ds = (ds, []) := by
  simpa using (takeDigits_append hds (by simp) : takeDigits (ds ++ []) = (ds, []))

theorem takeDigits_append_cons {ds rest : List Char} {c : Char}
    (hds : ∀ c ∈ ds, c.isDigit = true) (hc : c.isDigit = false) :
    takeDigits (ds ++ c :: rest) = (ds, c :: rest) :=
  takeDigits_append hds (by simpa using hc)

/-! ### Two-digit fields -/

theorem twoDigits_toList (n : Nat) :
    (twoDigits n).toList = (if n < 10 then ['0'] else []) ++ Nat.toDigits 10 n := by
  unfold twoDigits
  split <;> simp

theorem toDigits_digits (n : Nat) : ∀ c ∈ Nat.toDigits 10 n, c.isDigit = true :=
  fun _ hc => Nat.isDigit_of_mem_toDigits (by decide) (by decide) hc

theorem twoDigits_digits (n : Nat) : ∀ c ∈ (twoDigits n).toList, c.isDigit = true := by
  intro c hc
  rw [twoDigits_toList, List.mem_append] at hc
  rcases hc with hzero | hdigit
  · split at hzero
    · rw [List.mem_singleton.1 hzero]
      rfl
    · cases hzero
  · exact toDigits_digits n c hdigit

theorem twoDigits_length {n : Nat} (h : n < 100) : (twoDigits n).toList.length = 2 := by
  rw [twoDigits_toList, List.length_append]
  split
  · rename_i hn
    rw [Nat.toDigits_of_lt_base hn]
    rfl
  · rename_i hn
    have hle : (Nat.toDigits 10 n).length ≤ 2 := (Nat.length_toDigits_le_iff (by decide) (by decide)).2 h
    have hgt : ¬(Nat.toDigits 10 n).length ≤ 1 := by
      rw [Nat.length_toDigits_le_iff (by decide) (by decide)]
      simpa using hn
    simp only [List.length_nil, Nat.zero_add]
    omega

@[simp] theorem digitsValue_twoDigits (n : Nat) : digitsValue (twoDigits n).toList = n := by
  rw [twoDigits_toList]
  split
  · rw [List.singleton_append, digitsValue_zero_cons, digitsValue_toDigits]
  · rw [List.nil_append, digitsValue_toDigits]

theorem isShortRun_twoDigits {n : Nat} (h : n < 100) : isShortRun (twoDigits n).toList = true := by
  simp [isShortRun, twoDigits_length h]

/-! ### Reading the written fields -/

theorem Fields.inRange_iff (f : Fields) :
    f.inRange = true ↔ f.days ≤ maxDays ∧ f.hours ≤ 23 ∧ f.minutes ≤ 59 ∧ f.seconds ≤ 59 := by
  simp [Fields.inRange, and_assoc]

theorem readClock_twoDigits (days : Nat) {h m s : Nat} (hh : h < 100) (hm : m < 100)
    (hs : s < 100) :
    readClock days ((twoDigits h).toList ++ ':' :: ((twoDigits m).toList ++ ':' ::
      (twoDigits s).toList)) = some { days, hours := h, minutes := m, seconds := s } := by
  have hseconds : readSeconds (':' :: (twoDigits s).toList) = some (s, 0) := by
    simp [readSeconds, takeDigits_of_digits (twoDigits_digits s), isShortRun_twoDigits hs]
  simp [readClock, takeDigits_append_cons (c := ':') (twoDigits_digits h) (by decide),
    takeDigits_append_cons (c := ':') (twoDigits_digits m) (by decide), isShortRun_twoDigits hh,
    isShortRun_twoDigits hm, hseconds]

def fieldsOfSecs (t : Nat) : Fields :=
  { days := t / 86400, hours := t % 86400 / 3600, minutes := t % 3600 / 60, seconds := t % 60 }

theorem readFields_format (d : Span) :
    readFields d.format.toList = some (fieldsOfSecs d.secs) := by
  have hh : d.secs % 86400 / 3600 < 100 := by omega
  have hm : d.secs % 3600 / 60 < 100 := by omega
  have hs : d.secs % 60 < 100 := by omega
  simp only [Span.format]
  split
  · -- a day count, then `.`, then the clock
    simp only [String.toList_append, List.append_assoc, Nat.toString_eq_repr, Nat.toList_repr,
      String.reduceToList, List.cons_append]
    rw [readFields, takeDigits_append_cons (c := '.') (toDigits_digits _) (by decide)]
    simp only [Nat.toDigits_ne_nil, List.isEmpty_iff, if_false, digitsValue_toDigits]
    exact readClock_twoDigits _ hh hm hs
  · -- the clock alone: its hours are not followed by `.`
    rename_i hdays
    have hzero : d.secs / 86400 = 0 := by omega
    simp only [String.toList_append, String.reduceToList, List.append_assoc, List.cons_append]
    rw [readFields, takeDigits_append_cons (c := ':') (twoDigits_digits _) (by decide)]
    simp only [fieldsOfSecs, hzero]
    exact readClock_twoDigits 0 hh hm hs

theorem format_not_blank (d : Span) : ∀ c ∈ d.format.toList, Text.isBlank c = false := by
  have hdigits : ∀ ds : List Char, (∀ c ∈ ds, c.isDigit = true) →
      ds.all (fun c => !Text.isBlank c) = true := fun ds hds =>
    List.all_eq_true.2 fun c hc => by simp [Text.isBlank_of_isDigit (hds c hc)]
  have hfield : ∀ n, (twoDigits n).toList.all (fun c => !Text.isBlank c) = true :=
    fun n => hdigits _ (twoDigits_digits n)
  have hdays : ∀ n, (Nat.toDigits 10 n).all (fun c => !Text.isBlank c) = true :=
    fun n => hdigits _ (toDigits_digits n)
  have hall : d.format.toList.all (fun c => !Text.isBlank c) = true := by
    simp only [Span.format]
    split <;>
      simp only [String.toList_append, List.all_append, Nat.toString_eq_repr, Nat.toList_repr,
        String.reduceToList, hfield, hdays, Bool.and_true, Bool.true_and] <;> decide
  intro c hc
  simpa using List.all_eq_true.1 hall c hc

end SpanText

namespace Span

open SpanText

theorem secs_lt_secsBound (d : Span) : d.secs < secsBound := by
  have hle := d.le_max
  unfold secs
  rw [Nat.div_lt_iff_lt_mul (by decide)]
  simp only [maxSpanNanos, secsBound, nanosPerSec] at hle ⊢
  omega

theorem toNanos_ofParts? {t n : Nat} {x : Span} (h : ofParts? t n = some x) :
    x.toNanos = t * nanosPerSec + n := by
  simp only [ofParts?] at h
  split at h
  · cases h
    rfl
  · cases h

theorem ofParts?_secs {t : Nat} (ht : t < secsBound) : ofParts? t 0 = some (ofSecs t) := by
  have hle : t * nanosPerSec ≤ maxSpanNanos := by
    simp only [maxSpanNanos, secsBound, nanosPerSec] at ht ⊢
    omega
  simp only [ofParts?]
  rw [dif_pos (by simpa using hle)]
  congr 1
  apply ext_toNanos
  simp [ofSecs, ofNanosClamped, Nat.min_eq_left hle]

theorem secs_ofSecs {t : Nat} (ht : t < secsBound) : (ofSecs t).secs = t := by
  have hle : t * nanosPerSec ≤ maxSpanNanos := by
    simp only [maxSpanNanos, secsBound, nanosPerSec] at ht ⊢
    omega
  simp only [secs, ofSecs, ofNanosClamped]
  rw [Nat.min_eq_left hle, Nat.mul_div_cancel t (by decide)]

/-- The text of a span depends on its whole seconds only. -/
theorem format_eq_of_secs_eq {a b : Span} (h : a.secs = b.secs) : a.format = b.format := by
  simp only [format, h]

/-- Writing a span and reading the text back gives the span cut to whole seconds, unless it
holds more days than reading accepts. -/
theorem parse_format (d : Span) :
    parse? d.format =
      if d.secs < (maxDays + 1) * 86400 then some (ofSecs d.secs) else none := by
  have hbound := secs_lt_secsBound d
  unfold parse?
  rw [Text.trimBlanks_eq_self (format_not_blank d), readFields_format]
  simp only [Option.bind_eq_bind, Option.bind_some]
  have htotal : (fieldsOfSecs d.secs).totalSecs = d.secs := by
    simp only [fieldsOfSecs, Fields.totalSecs]
    omega
  by_cases hdays : d.secs < (maxDays + 1) * 86400
  · have hrange : (fieldsOfSecs d.secs).inRange = true := by
      rw [Fields.inRange_iff]
      simp only [fieldsOfSecs]
      omega
    rw [if_pos hrange, if_pos hdays, htotal]
    exact ofParts?_secs hbound
  · have hrange : (fieldsOfSecs d.secs).inRange = false := by
      rw [← Bool.not_eq_true, Fields.inRange_iff]
      simp only [fieldsOfSecs]
      omega
    rw [if_neg (by simp [hrange]), if_neg hdays]

end Span

namespace SpanText

theorem fractionNanos_lt {frac : List Char} (hlen : frac.length ≤ 7)
    (hdigits : ∀ c ∈ frac, c.isDigit = true) : fractionNanos frac < nanosPerSec := by
  have hval := digitsValue_lt hdigits
  unfold fractionNanos nanosPerSec
  calc digitsValue frac * 10 ^ (9 - frac.length)
      < 10 ^ frac.length * 10 ^ (9 - frac.length) :=
        Nat.mul_lt_mul_of_pos_right hval (Nat.pow_pos (by decide))
    _ = 10 ^ 9 := by rw [← Nat.pow_add]; congr 1; omega
    _ = 1000000000 := by decide

theorem readSeconds_nanos_lt {cs : List Char} {s n : Nat} (h : readSeconds cs = some (s, n)) :
    n < nanosPerSec := by
  unfold readSeconds at h
  split at h
  · cases h
    decide
  · -- the seconds digits, then nothing or a fraction
    split at h
    split at h
    · cases h
    · split at h
      · cases h
        decide
      · split at h
        · rename_i hfrac
          cases h
          simp only [Bool.and_eq_true, decide_eq_true_eq, List.all_eq_true] at hfrac
          exact fractionNanos_lt hfrac.1.2 hfrac.2
        · cases h
      · cases h
  · cases h

theorem readClock_nanos_lt {days : Nat} {cs : List Char} {f : Fields}
    (h : readClock days cs = some f) : f.nanos < nanosPerSec := by
  unfold readClock at h
  split at h
  split at h
  · cases h
  · -- hours, `:`, minutes, then the seconds
    split at h
    · split at h
      split at h
      · cases h
      · obtain ⟨⟨s, n⟩, hsec, rfl⟩ := Option.map_eq_some_iff.1 h
        exact readSeconds_nanos_lt hsec
    · cases h

theorem readFields_nanos_lt {cs : List Char} {f : Fields} (h : readFields cs = some f) :
    f.nanos < nanosPerSec := by
  unfold readFields at h
  split at h
  split at h
  · split at h
    · cases h
    · exact readClock_nanos_lt h
  · exact readClock_nanos_lt h

end SpanText

namespace Span

open SpanText

theorem secs_lt_of_parse {s : String} {x : Span} (h : parse? s = some x) :
    x.secs < (maxDays + 1) * 86400 := by
  unfold parse? at h
  cases hf : readFields (Text.trimBlanks s.toList) with
  | none => simp [hf] at h
  | some f =>
    simp only [hf, Option.bind_eq_bind, Option.bind_some] at h
    split at h
    · rename_i hrange
      have hnanos := readFields_nanos_lt hf
      have hx := toNanos_ofParts? h
      rw [Fields.inRange_iff] at hrange
      have hsecs : x.secs = f.totalSecs := by
        unfold secs
        rw [hx, Nat.mul_comm, Nat.mul_add_div (by decide), Nat.div_eq_of_lt hnanos, Nat.add_zero]
      rw [hsecs]
      simp only [Fields.totalSecs]
      omega
    · cases h

/-- The text of a span reads back as the span cut to whole seconds while its day count is one
that reading accepts, and not at all past it. So a span read from any text, written out, reads
back without its fraction of a second, and writing what was read back gives the same text. -/
theorem format_reads_back :
    (∀ d : Span, parse? d.format =
      if d.secs < (maxDays + 1) * 86400 then some (ofSecs d.secs) else none) ∧
    ∀ (s : String) (x : Span), parse? s = some x →
      parse? x.format = some (ofSecs x.secs) ∧ (ofSecs x.secs).format = x.format := by
  refine ⟨parse_format, fun s x hx => ?_⟩
  have hdays := secs_lt_of_parse hx
  refine ⟨by rw [parse_format, if_pos hdays], ?_⟩
  exact format_eq_of_secs_eq (secs_ofSecs (secs_lt_secsBound x))

/-- A span with a day count and a fraction of a second, read from text. -/
theorem format_reads_back_day_and_fraction :
    parse? " 1.02:03:04.5 " = some ⟨93784500000000, by decide⟩ ∧
      parse? (⟨93784500000000, by decide⟩ : Span).format =
          some (ofSecs (⟨93784500000000, by decide⟩ : Span).secs) ∧
        (ofSecs (⟨93784500000000, by decide⟩ : Span).secs).format =
          (⟨93784500000000, by decide⟩ : Span).format :=
  ⟨by decide, format_reads_back.2 " 1.02:03:04.5 " _ (by decide)⟩

end Span

end CatalogQueue
