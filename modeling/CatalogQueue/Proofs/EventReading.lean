import CatalogQueue.Yaml.Decode

/-!
Decoding the events that a text gives back when it is read. `Stands c E`: the events `E` stand
for the content value `c`, untagged. `Reads need d E a`: from wherever `E` stands next, the
decoder `d` returns `a` and moves just past `E`. Scalars, sequences, mappings and records of
the decoder are read this way, their loops as walks over the items or entries.
-/

namespace CatalogQueue.Yaml

namespace Scalar

/-- An integer is a count of 64 bits if it can be, and otherwise a signed or wider one. -/
theorem intOf?_cases {t : String} {r : Resolved} (h : intOf? t = some r) :
    (∃ n, r = .unsigned n ∧ unsignedOf? max64 t = some n) ∨ (∃ i, r = .signed i) ∨
      (∃ n, r = .wideUnsigned n) ∨ ∃ i, r = .wideSigned i := by
  unfold intOf? at h
  split at h
  · rename_i n hn
    cases h
    exact .inl ⟨n, rfl, hn⟩
  · split at h
    · cases h
      exact .inr (.inl ⟨_, rfl⟩)
    · split at h
      · cases h
        exact .inr (.inr (.inl ⟨_, rfl⟩))
      · split at h
        · cases h
          exact .inr (.inr (.inr ⟨_, rfl⟩))
        · cases h

theorem boolOf?_of_resolve {t : String} {b : Bool} (h : resolve t = .bool b) : boolOf? t = some b := by
  unfold resolve at h
  split at h
  · cases h
  · split at h
    · rename_i b' hb
      cases h
      exact hb
    · split at h
      · -- an integer is never a boolean
        rename_i r hr
        subst h
        rcases intOf?_cases hr with ⟨_, h, -⟩ | ⟨_, h⟩ | ⟨_, h⟩ | ⟨_, h⟩ <;> cases h
      · split at h
        · cases h
        · split at h <;> cases h

theorem unsignedOf?_of_resolve {t : String} {n : Nat} (h : resolve t = .unsigned n) :
    unsignedOf? max64 t = some n := by
  unfold resolve at h
  split at h
  · cases h
  · split at h
    · cases h
    · split at h
      · rename_i r hr
        subst h
        rcases intOf?_cases hr with ⟨_, h, hn⟩ | ⟨_, h⟩ | ⟨_, h⟩ | ⟨_, h⟩ <;> cases h
        exact hn
      · split at h
        · cases h
        · split at h <;> cases h

end Scalar

/-! ### The events that stand for a value -/

mutual

/-- The events that stand for a content value when it is read back: an untagged scalar that
means the value, or an untagged collection of the events of its items, in order. -/
inductive Stands : Content → List Entry → Prop
  | scalar {c : Content} (text : String) (style : ScalarStyle)
      (h : (scalarMeaning none text style).bind (Decode.contentOf text) = .ok c) :
      Stands c [.scalar none text style]
  | seq {items : List Content} {E : List Entry} (h : StandsAll items E) :
      Stands (.seq items) (.sequenceStart none :: E ++ [.sequenceEnd])
  | map {entries : List (Content × Content)} {E : List Entry} (h : StandsEntries entries E) :
      Stands (.map entries) (.mappingStart none :: E ++ [.mappingEnd])

inductive StandsAll : List Content → List Entry → Prop
  | nil : StandsAll [] []
  | cons {c : Content} {cs : List Content} {E E' : List Entry} (h : Stands c E)
      (hs : StandsAll cs E') : StandsAll (c :: cs) (E ++ E')

inductive StandsEntries : List (Content × Content) → List Entry → Prop
  | nil : StandsEntries [] []
  | cons {k v : Content} {es : List (Content × Content)} {K V E : List Entry} (hk : Stands k K)
      (hv : Stands v V) (hs : StandsEntries es E) : StandsEntries ((k, v) :: es) (K ++ V ++ E)

end

/-- What an untagged scalar means: what a plain one resolves to, or text. -/
theorem meaning_untagged {text : String} {style : ScalarStyle} {c : Content}
    (h : (scalarMeaning none text style).bind (Decode.contentOf text) = .ok c) :
    (style = .plain ∧ Decode.contentOf text (Scalar.resolve text) = .ok c) ∨ c = .string text := by
  by_cases hs : style = .plain
  · left
    subst hs
    exact ⟨rfl, h⟩
  · right
    have hmean : scalarMeaning none text style = .ok .text := by
      simp [scalarMeaning, hs]
    rw [hmean] at h
    cases h
    rfl

/-- An untagged scalar stands for no collection. -/
theorem meaning_not_collection {text : String} {style : ScalarStyle} {c : Content}
    (h : (scalarMeaning none text style).bind (Decode.contentOf text) = .ok c) :
    (∀ items, c ≠ .seq items) ∧ ∀ entries, c ≠ .map entries := by
  rcases meaning_untagged h with ⟨-, hc⟩ | rfl
  · cases hr : Scalar.resolve text <;> rw [hr] at hc <;> cases hc <;>
      exact ⟨fun _ => nofun, fun _ => nofun⟩
  · exact ⟨fun _ => nofun, fun _ => nofun⟩

namespace Stands

theorem of_seq {items : List Content} {E : List Entry} (h : Stands (.seq items) E) :
    ∃ E', E = .sequenceStart none :: E' ++ [.sequenceEnd] ∧ StandsAll items E' := by
  cases h with
  | scalar text style h => exact absurd rfl ((meaning_not_collection h).1 items)
  | seq h => exact ⟨_, rfl, h⟩

theorem of_map {entries : List (Content × Content)} {E : List Entry} (h : Stands (.map entries) E) :
    ∃ E', E = .mappingStart none :: E' ++ [.mappingEnd] ∧ StandsEntries entries E' := by
  cases h with
  | scalar text style h => exact absurd rfl ((meaning_not_collection h).2 entries)
  | map h => exact ⟨_, rfl, h⟩

theorem of_string {t : String} {E : List Entry} (h : Stands (.string t) E) :
    ∃ style, E = [.scalar none t style] := by
  cases h with
  | scalar text style h =>
    refine ⟨style, ?_⟩
    rcases meaning_untagged h with ⟨-, hc⟩ | hc
    · -- only text means a string
      cases hr : Scalar.resolve text <;> rw [hr] at hc <;> cases hc
      rfl
    · cases hc
      rfl

theorem of_bool {b : Bool} {E : List Entry} (h : Stands (.bool b) E) :
    ∃ t, E = [.scalar none t .plain] ∧ Scalar.resolve t = .bool b := by
  cases h with
  | scalar text style h =>
    rcases meaning_untagged h with ⟨rfl, hc⟩ | hc
    · refine ⟨text, rfl, ?_⟩
      cases hr : Scalar.resolve text <;> rw [hr] at hc <;> cases hc
      rfl
    · cases hc

theorem of_unsigned {n : Nat} {E : List Entry} (h : Stands (.unsigned n) E) :
    ∃ t, E = [.scalar none t .plain] ∧ Scalar.resolve t = .unsigned n := by
  cases h with
  | scalar text style h =>
    rcases meaning_untagged h with ⟨rfl, hc⟩ | hc
    · refine ⟨text, rfl, ?_⟩
      cases hr : Scalar.resolve text <;> rw [hr] at hc <;> cases hc
      rfl
    · cases hc

/-- Events that stand for a value begin with an event that opens no end of a collection. -/
theorem eq_cons {c : Content} {E : List Entry} (h : Stands c E) :
    ∃ e E', E = e :: E' ∧ e ≠ .sequenceEnd ∧ e ≠ .mappingEnd ∧ e ≠ .void := by
  cases h with
  | scalar text style _ => exact ⟨_, [], rfl, nofun, nofun, nofun⟩
  | seq _ => exact ⟨_, _, rfl, nofun, nofun, nofun⟩
  | map _ => exact ⟨_, _, rfl, nofun, nofun, nofun⟩

/-- Text is never an absent value: its scalar is quoted, or plain and resolved as text. -/
theorem absence_of_string {t : String} {E : List Entry} (h : Stands (.string t) E) :
    ∃ style, E = [.scalar none t style] ∧ Decode.absence (.scalar none t style) = .ok false := by
  obtain ⟨style, rfl⟩ := h.of_string
  refine ⟨style, rfl, ?_⟩
  by_cases hs : style = .plain
  · subst hs
    cases h with
    | scalar _ _ hm =>
      -- a plain scalar that means text resolves as text, so it spells no null
      have hres : Scalar.resolve t = .text := by
        cases hr : Scalar.resolve t <;> simp [scalarMeaning, hr, Except.bind, Decode.contentOf] at hm ⊢
      have hnull : (t.isEmpty || Scalar.isNullWord t) = false := by
        unfold Scalar.resolve at hres
        split at hres
        · cases hres
        · exact Bool.eq_false_iff.mpr ‹_›
      simp [Decode.absence, hnull]
  · simp [Decode.absence, hs]

end Stands

theorem StandsEntries.of_cons {k v : Content} {es : List (Content × Content)} {E : List Entry}
    (h : StandsEntries ((k, v) :: es) E) :
    ∃ K V E', E = K ++ V ++ E' ∧ Stands k K ∧ Stands v V ∧ StandsEntries es E' := by
  cases h with
  | cons hk hv hs => exact ⟨_, _, _, rfl, hk, hv, hs⟩

theorem StandsEntries.of_nil {E : List Entry} (h : StandsEntries [] E) : E = [] := by
  cases h
  rfl

namespace Decode

variable {α β : Type} {s : Scope} {c c' : Cursor}

theorem run_bind_of {x : DecodeM α} {f : α → DecodeM β} {a : α} (hx : x s c = .ok (a, c')) :
    (x >>= f) s c = f a s c' := by
  show (x s c).bind _ = _
  rw [hx]
  rfl

theorem run_map_of {x : DecodeM α} {f : α → β} {a : α} (hx : x s c = .ok (a, c')) :
    (f <$> x) s c = .ok (f a, c') := by
  show (x s c).bind _ = _
  rw [hx]
  rfl

/-- The events of the document from position `pos` on begin with `E`. -/
def Ahead (s : Scope) (pos : Nat) (E : List Entry) : Prop :=
  ∃ rest, (s.doc.entries.toList.drop pos).map Prod.fst = E ++ rest

namespace Ahead

theorem entry {pos : Nat} {e : Entry} {E : List Entry} (h : Ahead s pos (e :: E)) :
    ∃ m, s.doc.entries[pos]? = some (e, m) := by
  obtain ⟨rest, h⟩ := h
  cases hd : s.doc.entries.toList.drop pos with
  | nil => rw [hd] at h; cases h
  | cons p ps =>
    rw [hd, List.map_cons, List.cons_append, List.cons.injEq] at h
    refine ⟨p.2, ?_⟩
    rw [← Array.getElem?_toList, ← List.head?_drop, hd, ← h.1]
    rfl

theorem tail {pos : Nat} {e : Entry} {E : List Entry} (h : Ahead s pos (e :: E)) :
    Ahead s (pos + 1) E := by
  obtain ⟨rest, h⟩ := h
  refine ⟨rest, ?_⟩
  rw [← List.drop_drop, List.map_drop, h]
  rfl

theorem left {pos : Nat} {E E' : List Entry} (h : Ahead s pos (E ++ E')) : Ahead s pos E := by
  obtain ⟨rest, h⟩ := h
  exact ⟨E' ++ rest, by rw [h, List.append_assoc]⟩

theorem right {pos : Nat} {E E' : List Entry} (h : Ahead s pos (E ++ E')) :
    Ahead s (pos + E.length) E' := by
  obtain ⟨rest, h⟩ := h
  refine ⟨rest, ?_⟩
  rw [← List.drop_drop, List.map_drop, h, List.append_assoc, List.drop_left]

theorem le_size {pos : Nat} {E : List Entry} (h : Ahead s pos E) (hne : E ≠ []) :
    pos + E.length ≤ s.doc.entries.size := by
  obtain ⟨rest, h⟩ := h
  have hlen := congrArg List.length h
  have hpos : 0 < E.length := List.length_pos_iff.2 hne
  simp only [List.length_map, List.length_drop, Array.length_toList, List.length_append] at hlen
  omega

end Ahead

theorem peek_eq (s : Scope) (c : Cursor) :
    peek s c = match s.doc.entries[c.pos]? with
      | some e => .ok (e, c)
      | none => .error (match s.doc.fault with
        | some (Fault.malformed p) => DecodeError.malformed p
        | some (Fault.unknownAnchor m) => DecodeError.unknownAnchor m
        | none => DecodeError.endOfStream) := by
  show (match s.doc.entries[c.pos]? with
    | some e => (pure e : DecodeM (Entry × Mark))
    | none => throw (match s.doc.fault with
      | some (Fault.malformed p) => DecodeError.malformed p
      | some (Fault.unknownAnchor m) => DecodeError.unknownAnchor m
      | none => DecodeError.endOfStream)) s c = _
  cases s.doc.entries[c.pos]? <;> rfl

theorem peek_of_ahead {e : Entry} {E : List Entry} (h : Ahead s c.pos (e :: E)) :
    ∃ m, peek s c = .ok ((e, m), c) := by
  obtain ⟨m, hm⟩ := h.entry
  refine ⟨m, ?_⟩
  rw [peek_eq, hm]

theorem next_of_ahead {e : Entry} {E : List Entry} (h : Ahead s c.pos (e :: E)) :
    ∃ m, next s c = .ok ((e, m), { c with pos := c.pos + 1 }) := by
  obtain ⟨m, hm⟩ := peek_of_ahead h
  exact ⟨m, run_bind_of hm⟩

theorem fixAt_of {m : Mark} {k : DecodeM α} {r : α × Cursor} (hk : k s c = .ok r) :
    fixAt m k s c = .ok r := by
  show (tryCatch k _) s c = _
  show (k s c).tryCatch _ = _
  rw [hk]
  rfl

/-- `d` reads the events `E` into `a`: wherever they stand next, with at least `need`
collections left to enter, it returns `a` and moves just past them. -/
def Reads (need : Nat) (d : DecodeM α) (E : List Entry) (a : α) : Prop :=
  ∀ s c, need ≤ s.depth → Ahead s c.pos E → d s c = .ok (a, { c with pos := c.pos + E.length })

namespace Reads

variable {need : Nat} {E E' : List Entry}

/-- What a decoder reads from given events is determined by them: run it on a document of just
those events. -/
theorem unique {d : DecodeM α} {a a' : α} {need' : Nat} (h : Reads need d E a)
    (h' : Reads need' d E a') : a = a' := by
  let s : Scope :=
    { doc := { entries := (E.map fun e => (e, ({} : Mark))).toArray }, depth := max need need' }
  have hE : Ahead s 0 E := ⟨[], by simp [s, List.map_map, Function.comp_def]⟩
  have hread := h s {} (Nat.le_max_left _ _) hE
  rw [h' s {} (Nat.le_max_right _ _) hE] at hread
  cases hread
  rfl

theorem pure (a : α) : Reads need (Pure.pure a : DecodeM α) [] a := fun s c _ _ => by
  cases c
  rfl

theorem bind {x : DecodeM α} {f : α → DecodeM β} {a : α} {b : β} (hx : Reads need x E a)
    (hf : Reads need (f a) E' b) : Reads need (x >>= f) (E ++ E') b := by
  intro s c hd hE
  rw [run_bind_of (hx s c hd hE.left), hf s _ hd hE.right]
  simp [Nat.add_assoc]

/-- A step followed by returning what is already known. -/
theorem bind_done {x : DecodeM α} {f : α → DecodeM β} {a : α} {b : β} (hx : Reads need x E a)
    (hf : f a = Pure.pure b) : Reads need (x >>= f) E b := by
  have h := bind hx (hf ▸ pure b)
  rwa [List.append_nil] at h

theorem map {x : DecodeM α} (f : α → β) {a : α} (hx : Reads need x E a) :
    Reads need (f <$> x) E (f a) := fun s c hd hE => run_map_of (hx s c hd hE)

theorem mono {d : DecodeM α} {a : α} (h : Reads need d E a) {need' : Nat} (hle : need ≤ need') :
    Reads need' d E a := fun s c hd hE => h s c (Nat.le_trans hle hd) hE

theorem withPath {k : DecodeM α} {a : α} (f : Path → Path) (h : Reads need k E a) :
    Reads need (Decode.withPath f k) E a := fun s c hd hE =>
  h { s with path := f s.path } c hd hE

theorem underKey {k : DecodeM α} {a : α} (key? : Option String) (h : Reads need k E a) :
    Reads need (Decode.underKey key? k) E a := withPath _ h

/-- Entering a collection takes one level of those left. -/
theorem enter {k : DecodeM α} {a : α} (m : Mark) (h : Reads need k E a) :
    Reads (need + 1) (Decode.enter m k) E a := by
  intro s c hd hE
  have hpos : (s.depth == 0) = false := by simp; omega
  show ((read : DecodeM Scope) >>= fun s => if s.depth == 0 then throw (.recursionLimit m)
    else withReader (fun s => { s with depth := s.depth - 1 }) k) s c = _
  rw [run_bind_of (rfl : (read : DecodeM Scope) s c = .ok (s, c)), hpos, if_neg (by simp)]
  exact h { s with depth := s.depth - 1 } c (by simp; omega) hE

/-- A node that is no alias is read by its decoder from its first event on. -/
theorem node {f : Entry → Mark → DecodeM α} {e : Entry} {a : α} (he : ∀ id, e ≠ .alias id)
    (hf : ∀ m, Reads need (f e m) E a) : Reads need (Decode.node f) (e :: E) a := by
  intro s c hd hE
  obtain ⟨m, hm⟩ := next_of_ahead hE
  have hrest := hf m s { c with pos := c.pos + 1 } hd hE.tail
  unfold Decode.node
  rw [run_bind_of hm]
  have hpos : c.pos + 1 + E.length = c.pos + (e :: E).length := by simp; omega
  cases e
  · exact absurd rfl (he _)
  all_goals exact (fixAt_of hrest).trans (by rw [hpos])

end Reads

/-- The walk of mapping entries with `n` rounds left. -/
def walkEntriesFor (step : β → Option String → DecodeM β) : Nat → β → DecodeM β
  | 0, acc => pure acc
  | n + 1, acc => do
    let (e, _) ← peek
    match e with
    | .mappingEnd | .void => pure acc
    | .scalar _ t _ => walkEntriesFor step n (← step acc (some t))
    | _ => walkEntriesFor step n (← step acc none)

theorem walkEntries_eq (init : β) (step : β → Option String → DecodeM β) :
    walkEntries init step = budget >>= fun b => walkEntriesFor step b init := by
  unfold walkEntries
  simp only [Std.Legacy.Range.forIn_eq_forIn_range']
  congr 1
  funext b
  simp only [Std.Legacy.Range.size, bind_pure, Nat.sub_zero, Nat.add_sub_cancel, Nat.div_one]
  generalize (0 : Nat) = k
  induction b generalizing k init with
  | zero => rfl
  | succ b ih =>
    rw [List.range'_succ, List.forIn_cons, walkEntriesFor, bind_assoc]
    congr 1
    funext ⟨e, m⟩
    -- the round that stops at the end of the mapping, or reads one entry and goes on
    cases e
    case mappingEnd | void => simp only [pure_bind]
    all_goals
      simp only [bind_assoc, pure_bind]
      congr 1
      funext acc
      exact ih acc (k + 1)

/-- The walk of sequence items with `n` rounds left, the next item at index `i`. -/
def walkItemsFor (step : β → DecodeM β) : Nat → Nat → β → DecodeM β
  | 0, _, acc => pure acc
  | n + 1, i, acc => do
    let (e, _) ← peek
    match e with
    | .sequenceEnd | .void => pure acc
    | _ => walkItemsFor step n (i + 1) (← withPath (.index · i) (step acc))

theorem walkItems_eq (start : Nat) (init : β) (step : β → DecodeM β) :
    walkItems start init step = budget >>= fun b => walkItemsFor step b start init := by
  unfold walkItems
  simp only [Std.Legacy.Range.forIn_eq_forIn_range']
  congr 1
  funext b
  simp only [Std.Legacy.Range.size, Nat.sub_zero, Nat.add_sub_cancel, Nat.div_one]
  generalize (0 : Nat) = k
  induction b generalizing k init start with
  | zero => rfl
  | succ b ih =>
    rw [List.range'_succ, List.forIn_cons, walkItemsFor, bind_assoc, bind_assoc]
    congr 1
    funext ⟨e, m⟩
    -- the round that stops at the end of the sequence, or reads one item and goes on
    cases e
    case sequenceEnd | void => simp only [pure_bind]
    all_goals
      simp only [bind_assoc, pure_bind]
      congr 1
      funext acc
      exact ih _ _ _

variable {need : Nat}

/-- The text of a scalar key, which the walk of a mapping hands to its step. -/
def keyText : Entry → Option String
  | .scalar _ t _ => some t
  | _ => none

/-- The entries of a mapping walked from `acc` to `fin`: each entry's events read by `step`
from the accumulator so far. -/
inductive WalksEntries (need : Nat) (step : β → Option String → DecodeM β) :
    β → List Entry → β → Prop
  | nil (acc : β) : WalksEntries need step acc [] acc
  | cons {acc acc' fin : β} {e : Entry} {E rest : List Entry}
      (he : e ≠ .mappingEnd ∧ e ≠ .void) (hstep : Reads need (step acc (keyText e)) (e :: E) acc')
      (hrest : WalksEntries need step acc' rest fin) :
      WalksEntries need step acc (e :: E ++ rest) fin

/-- The items of a sequence walked from `acc` to `fin`: each item's events read by `step` from
the accumulator so far. -/
inductive WalksItems (need : Nat) (step : β → DecodeM β) : β → List Entry → β → Prop
  | nil (acc : β) : WalksItems need step acc [] acc
  | cons {acc acc' fin : β} {e : Entry} {E rest : List Entry}
      (he : e ≠ .sequenceEnd ∧ e ≠ .void) (hstep : Reads need (step acc) (e :: E) acc')
      (hrest : WalksItems need step acc' rest fin) :
      WalksItems need step acc (e :: E ++ rest) fin

theorem walkEntriesFor_reads {step : β → Option String → DecodeM β} {acc fin : β}
    {E : List Entry} (h : WalksEntries need step acc E fin) :
    ∀ n s c, E.length < n → need ≤ s.depth → Ahead s c.pos (E ++ [.mappingEnd]) →
      walkEntriesFor step n acc s c = .ok (fin, { c with pos := c.pos + E.length }) := by
  induction h with
  | nil acc =>
    intro n s c hn hd hE
    obtain ⟨n, rfl⟩ : ∃ n', n = n' + 1 := ⟨n - 1, by omega⟩
    obtain ⟨m, hm⟩ := peek_of_ahead hE
    rw [walkEntriesFor, run_bind_of hm]
    cases c
    rfl
  | @cons acc acc' fin e E rest he hstep hrest ih =>
    intro n s c hn hd hE
    obtain ⟨n, rfl⟩ : ∃ n', n = n' + 1 := ⟨n - 1, by omega⟩
    obtain ⟨m, hm⟩ := peek_of_ahead hE
    have hE' : Ahead s c.pos ((e :: E) ++ (rest ++ [.mappingEnd])) := by
      simpa [List.append_assoc] using hE
    have hread := hstep s c hd hE'.left
    have hnext := ih n s { c with pos := c.pos + (e :: E).length } (by simp at hn; omega) hd
      hE'.right
    -- one round: the step reads the entry, then the walk goes on from just past it
    have hround : walkEntriesFor step (n + 1) acc s c =
        (step acc (keyText e) >>= walkEntriesFor step n) s c := by
      rw [walkEntriesFor, run_bind_of hm]
      cases e
      case mappingEnd => exact absurd rfl he.1
      case void => exact absurd rfl he.2
      all_goals rfl
    rw [hround, run_bind_of hread, hnext]
    simp [Nat.add_assoc]
    omega

theorem walkEntries_reads {step : β → Option String → DecodeM β} {init fin : β} {E : List Entry}
    (h : WalksEntries need step init E fin) (s : Scope) (c : Cursor) (hd : need ≤ s.depth)
    (hE : Ahead s c.pos (E ++ [.mappingEnd])) :
    walkEntries init step s c = .ok (fin, { c with pos := c.pos + E.length }) := by
  have hsize := hE.le_size (by simp)
  rw [walkEntries_eq, run_bind_of (rfl : budget s c = .ok (s.doc.entries.size + 1, c))]
  exact walkEntriesFor_reads h _ s c (by simp at hsize; omega) hd hE

theorem walkItemsFor_reads {step : β → DecodeM β} {acc fin : β} {E : List Entry}
    (h : WalksItems need step acc E fin) :
    ∀ n i s c, E.length < n → need ≤ s.depth → Ahead s c.pos (E ++ [.sequenceEnd]) →
      walkItemsFor step n i acc s c = .ok (fin, { c with pos := c.pos + E.length }) := by
  induction h with
  | nil acc =>
    intro n i s c hn hd hE
    obtain ⟨n, rfl⟩ : ∃ n', n = n' + 1 := ⟨n - 1, by omega⟩
    obtain ⟨m, hm⟩ := peek_of_ahead hE
    rw [walkItemsFor, run_bind_of hm]
    cases c
    rfl
  | @cons acc acc' fin e E rest he hstep hrest ih =>
    intro n i s c hn hd hE
    obtain ⟨n, rfl⟩ : ∃ n', n = n' + 1 := ⟨n - 1, by omega⟩
    obtain ⟨m, hm⟩ := peek_of_ahead hE
    have hE' : Ahead s c.pos ((e :: E) ++ (rest ++ [.sequenceEnd])) := by
      simpa [List.append_assoc] using hE
    have hread := (Reads.withPath (· |>.index i) hstep) s c hd hE'.left
    have hnext := ih n (i + 1) s { c with pos := c.pos + (e :: E).length } (by simp at hn; omega)
      hd hE'.right
    -- one round: the step reads the item, then the walk goes on from just past it
    have hround : walkItemsFor step (n + 1) i acc s c =
        (withPath (· |>.index i) (step acc) >>= walkItemsFor step n (i + 1)) s c := by
      rw [walkItemsFor, run_bind_of hm]
      cases e
      case sequenceEnd => exact absurd rfl he.1
      case void => exact absurd rfl he.2
      all_goals rfl
    rw [hround, run_bind_of hread, hnext]
    simp [Nat.add_assoc]
    omega

theorem walkItems_reads {step : β → DecodeM β} {init fin : β} {E : List Entry} (start : Nat)
    (h : WalksItems need step init E fin) (s : Scope) (c : Cursor) (hd : need ≤ s.depth)
    (hE : Ahead s c.pos (E ++ [.sequenceEnd])) :
    walkItems start init step s c = .ok (fin, { c with pos := c.pos + E.length }) := by
  have hsize := hE.le_size (by simp)
  rw [walkItems_eq, run_bind_of (rfl : budget s c = .ok (s.doc.entries.size + 1, c))]
  exact walkItemsFor_reads h _ start s c (by simp at hsize; omega) hd hE

section Walks

variable {χ : Type}

/-- The items of a sequence walked by a step that reads each item's events into its own change
of the accumulator. -/
theorem walksItems_of {step : β → DecodeM β} (view : χ → Content) (push : β → χ → β) :
    ∀ {xs : List χ} {acc : β} {E : List Entry},
      (∀ x ∈ xs, ∀ acc E, Stands (view x) E → Reads need (step acc) E (push acc x)) →
      StandsAll (xs.map view) E → WalksItems need step acc E (xs.foldl push acc)
  | [], acc, _, _, h => by
    cases h
    exact .nil acc
  | x :: xs, acc, _, hstep, h => by
    cases h with
    | cons hx hs =>
      obtain ⟨e, E', rfl, hseq, -, hvoid⟩ := hx.eq_cons
      exact .cons ⟨hseq, hvoid⟩ (hstep x (.head _) acc _ hx)
        (walksItems_of view push (fun x' hx' => hstep x' (.tail _ hx')) hs)

/-- The entries of a mapping with text keys walked by a step that reads each key's and value's
events into its own change of the accumulator, which stays in the image of `lift`. -/
theorem walksEntries_of {γ : Type} {step : β → Option String → DecodeM β} (key : χ → String)
    (view : χ → Content) (lift : γ → β) (push : γ → χ → γ) :
    ∀ {xs : List χ} {acc : γ} {E : List Entry},
      (∀ x ∈ xs, ∀ acc K V, Stands (.string (key x)) K → Stands (view x) V →
        Reads need (step (lift acc) (some (key x))) (K ++ V) (lift (push acc x))) →
      StandsEntries (xs.map fun x => (.string (key x), view x)) E →
      WalksEntries need step (lift acc) E (lift (xs.foldl push acc))
  | [], acc, _, _, h => by
    cases h
    exact .nil _
  | x :: xs, acc, _, hstep, h => by
    cases h with
    | cons hk hv hs =>
      -- a key is one scalar, whose text the walk hands to the step
      obtain ⟨style, rfl⟩ := hk.of_string
      exact .cons ⟨nofun, nofun⟩ (hstep x (.head _) acc _ _ hk hv)
        (walksEntries_of key view lift push (fun x' hx' => hstep x' (.tail _ hx')) hs)

end Walks

theorem run_discard_of {x : DecodeM α} {a : α} (hx : x s c = .ok (a, c')) :
    (discard x : DecodeM PUnit) s c = .ok ((), c') := by
  show (Functor.mapConst () x : DecodeM PUnit) s c = _
  show (x s c).bind _ = _
  rw [hx]
  rfl

theorem discard_next_reads (e : Entry) : Reads need (discard next : DecodeM PUnit) [e] () :=
  fun _ _ _ hE => by
    obtain ⟨m, hm⟩ := next_of_ahead hE
    exact run_discard_of hm

/-- A walk that stops at a closing event, followed by what reads that event. -/
theorem close_reads {γ : Type} {walk : DecodeM β} {k : β → DecodeM γ} {fin : β} {b : γ}
    {E : List Entry} {close : Entry}
    (hwalk : ∀ s c, need ≤ s.depth → Ahead s c.pos (E ++ [close]) →
      walk s c = .ok (fin, { c with pos := c.pos + E.length }))
    (hk : Reads need (k fin) [close] b) : Reads need (walk >>= k) (E ++ [close]) b := by
  intro s c hd hE
  rw [run_bind_of (hwalk s c hd hE), hk s _ hd hE.right]
  simp [Nat.add_assoc]

theorem mapping_reads {step : β → Option String → DecodeM β} {init fin : β} {E : List Entry}
    (h : WalksEntries need step init E fin) (expected : String) :
    Reads (need + 1) (mapping expected init step) (.mappingStart none :: (E ++ [.mappingEnd])) fin :=
  Reads.node (fun _ => nofun) fun m =>
    Reads.enter m (close_reads (walkEntries_reads h) (Reads.bind_done (discard_next_reads _) rfl))

theorem sequence_reads {step : β → DecodeM β} {init fin : β} {E : List Entry}
    (h : WalksItems need step init E fin) (expected : String) :
    Reads (need + 1) (sequence expected init step) (.sequenceStart none :: (E ++ [.sequenceEnd])) fin :=
  Reads.node (fun _ => nofun) fun m =>
    Reads.enter m (close_reads (walkItems_reads 0 h) (Reads.bind_done (discard_next_reads _) rfl))

theorem text_reads {t : String} {E : List Entry} (h : Stands (.string t) E) (expected : String) :
    Reads need (text expected) E t := by
  obtain ⟨style, rfl⟩ := h.of_string
  exact Reads.node (fun _ => nofun) fun _ => Reads.pure t

theorem bool_reads {b : Bool} {E : List Entry} (h : Stands (.bool b) E) : Reads need bool E b := by
  obtain ⟨t, rfl, ht⟩ := h.of_bool
  refine Reads.node (fun _ => nofun) fun _ => ?_
  simp only [plainOrTagged, Scalar.boolOf?_of_resolve ht]
  exact Reads.pure b

theorem unsigned_reads {n max : Nat} {E : List Entry} (h : Stands (.unsigned n) E) (hmax : n ≤ max)
    (expected : String) : Reads need (unsigned max expected) E n := by
  obtain ⟨t, rfl, ht⟩ := h.of_unsigned
  refine Reads.node (fun _ => nofun) fun _ => ?_
  simp only [plainOrTagged, Scalar.unsignedOf?_of_resolve ht, beq_self_eq_true, Bool.true_or,
    if_true, if_pos hmax]
  exact Reads.pure n

/-- The entries of a record read in order, after the fields `seen` given before: each key names
a field not given before, whose decoder reads the value into a change of the record. -/
inductive FieldsRead {σ : Type} (names : List String) (field : Nat → DecodeM (σ → σ)) (need : Nat) :
    List Nat → σ → List Entry → σ → Prop
  | nil (seen : List Nat) (acc : σ) : FieldsRead names field need seen acc [] acc
  | cons {seen : List Nat} {acc fin : σ} {k : String} {i : Nat} {K V E : List Entry}
      {g : σ → σ} (hk : Stands (.string k) K) (hi : indexOf? names k = some i) (hfresh : i ∉ seen)
      (hv : Reads need (field i) V g) (hrest : FieldsRead names field need (i :: seen) (g acc) E fin) :
      FieldsRead names field need seen acc (K ++ V ++ E) fin

theorem FieldsRead.walks {σ : Type} {names : List String} {field : Nat → DecodeM (σ → σ)}
    {step : σ × List Nat → Option String → DecodeM (σ × List Nat)}
    (hstep : ∀ seen acc k i K V g, Stands (.string k) K → indexOf? names k = some i → i ∉ seen →
      Reads need (field i) V g → Reads need (step (acc, seen) (some k)) (K ++ V) (g acc, i :: seen))
    {seen : List Nat} {acc fin : σ} {E : List Entry} (h : FieldsRead names field need seen acc E fin) :
    ∃ seen', WalksEntries need step (acc, seen) E (fin, seen') := by
  induction h with
  | nil seen acc => exact ⟨seen, .nil _⟩
  | @cons seen acc fin k i K V E g hk hi hfresh hv _ ih =>
    -- a key is one scalar, which the walk hands to the step as its text
    obtain ⟨seen', hrest⟩ := ih
    obtain ⟨style, rfl⟩ := hk.of_string
    exact ⟨seen', .cons (by simp) (hstep seen acc k i _ V g hk hi hfresh hv) hrest⟩

theorem record_reads {σ : Type} {names : List String} {field : Nat → DecodeM (σ → σ)}
    {init fin : σ} {E : List Entry} (h : FieldsRead names field need [] init E fin)
    (expected : String) :
    Reads (need + 1) (record expected names init field)
      (.mappingStart none :: (E ++ [.mappingEnd])) fin := by
  unfold record
  -- the fields seen at the end play no part in the record read
  refine Reads.bind_done (mapping_reads (h.walks ?step).choose_spec expected) rfl
  case step =>
    intro seen acc k i K V g hk hi hfresh hv
    refine Reads.bind (text_reads hk _) ?_
    have hnew : seen.contains i = false := by simpa using hfresh
    simp only [hi, hnew, Bool.false_eq_true, if_false]
    exact Reads.bind_done (Reads.underKey (some k) hv) rfl

theorem variantName_reads {names : List String} {t : String} {i : Nat} {E : List Entry}
    (h : Stands (.string t) E) (hi : indexOf? names t = some i) :
    Reads need (variantName names) E i := by
  obtain ⟨style, rfl⟩ := h.of_string
  refine Reads.node (fun _ => nofun) fun _ => ?_
  simp only [hi]
  exact Reads.pure i

theorem unitVariant_reads {names : List String} {t : String} {i : Nat} {E : List Entry}
    (h : Stands (.string t) E) (hi : indexOf? names t = some i) :
    Reads need (unitVariant names) E i := by
  obtain ⟨style, rfl⟩ := h.of_string
  intro s c hd hE
  obtain ⟨m, hm⟩ := peek_of_ahead hE
  unfold unitVariant
  rw [run_bind_of hm]
  simp only [run_bind_of hm, variantTag?, Option.bind_none]
  -- an untagged scalar names its variant by its text
  exact fixAt_of (Reads.bind_done (text_reads h _) (by simp only [hi]) s c hd hE)

/-- An optional value that is present: the next node is no alias and not absent. -/
theorem option_reads {inner : DecodeM α} {a : α} {e : Entry} {E : List Entry}
    (he : ∀ id, e ≠ .alias id) (habsent : absence e = .ok false) (h : Reads need inner (e :: E) a) :
    Reads need (option inner) (e :: E) (some a) := by
  intro s c hd hE
  obtain ⟨m, hm⟩ := peek_of_ahead hE
  unfold option
  rw [run_bind_of hm]
  cases e
  · exact absurd rfl (he _)
  all_goals
    simp only [run_bind_of hm, habsent]
    exact run_map_of (h s c hd hE)

/-- A decoder that reads the events of the first document of a text, within the depth that
decoding starts with, decodes the text when it holds one document without fault. -/
theorem run_of_reads {d : DecodeM α} {text : String} {a : α}
    (h : Reads need d ((Stream.read text).first.entries.toList.map Prod.fst) a) (hneed : need ≤ 128)
    (hfault : (Stream.read text).first.fault = none) (hmore : (Stream.read text).more = false) :
    run d text = .ok a := by
  have hread := h { doc := (Stream.read text).first } {} hneed ⟨[], by simp⟩
  unfold run
  simp only
  rw [show (d.run { doc := (Stream.read text).first }).run {} =
    d { doc := (Stream.read text).first } {} from rfl, hread]
  simp [hfault, hmore]

end Decode

end CatalogQueue.Yaml
