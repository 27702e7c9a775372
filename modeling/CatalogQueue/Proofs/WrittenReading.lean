import CatalogQueue.Proofs.EventReading
import CatalogQueue.Proofs.RuleSave

/-!
Written values read back from the events of their text. When the events stand for a written
value's content, the content reader, deep enough for the value's nesting, reads them back to that
content, and a record whose first entry names its variant under a tag is read as the variant and
its other entries. `Written.ReadsBack` is what the YAML layer is assumed to do with the text of a
written value; `Written.rereads` checks it by running the layer.
-/

namespace CatalogQueue

open Yaml Yaml.Decode

namespace Written

mutual

/-- How many collections a written value nests. -/
def nesting : Written → Nat
  | .text _ => 0
  | .flag _ => 0
  | .count _ => 0
  | .list items => nestingAll items + 1
  | .record fields => nestingFields fields + 1

def nestingAll : List Written → Nat
  | [] => 0
  | w :: ws => max w.nesting (nestingAll ws)

def nestingFields : List (String × Written) → Nat
  | [] => 0
  | (_, w) :: rest => max w.nesting (nestingFields rest)

end

theorem nesting_le_nestingAll {w : Written} : ∀ {ws : List Written}, w ∈ ws →
    w.nesting ≤ nestingAll ws
  | _ :: _, .head _ => Nat.le_max_left _ _
  | _ :: _, .tail _ h => Nat.le_trans (nesting_le_nestingAll h) (Nat.le_max_right _ _)

theorem nesting_le_nestingFields {k : String} {w : Written} :
    ∀ {fields : List (String × Written)}, (k, w) ∈ fields → w.nesting ≤ nestingFields fields
  | _ :: _, .head _ => Nat.le_max_left _ _
  | (_, _) :: _, .tail _ h => Nat.le_trans (nesting_le_nestingFields h) (Nat.le_max_right _ _)

theorem contents_eq_map : ∀ ws : List Written, contents ws = ws.map content
  | [] => rfl
  | w :: ws => congrArg (w.content :: ·) (contents_eq_map ws)

theorem contentEntries_eq_map : ∀ fields : List (String × Written),
    contentEntries fields = fields.map fun e => (.string e.1, e.2.content)
  | [] => rfl
  | (k, w) :: rest => congrArg ((Content.string k, w.content) :: ·) (contentEntries_eq_map rest)

mutual

/-- Written values of different shapes or parts have different content. -/
theorem content_injective : ∀ w w' : Written, w.content = w'.content → w = w'
  | .text _, w', h => by cases w' <;> simp_all [content]
  | .flag _, w', h => by cases w' <;> simp_all [content]
  | .count _, w', h => by cases w' <;> simp_all [content]
  | .list items, w', h => by
    cases w' with
    | list items' =>
      simp only [content, Content.seq.injEq] at h
      rw [contents_injective items items' h]
    | _ => simp [content] at h
  | .record fields, w', h => by
    cases w' with
    | record fields' =>
      simp only [content, Content.map.injEq] at h
      rw [contentEntries_injective fields fields' h]
    | _ => simp [content] at h

theorem contents_injective : ∀ ws ws' : List Written, contents ws = contents ws' → ws = ws'
  | [], [], _ => rfl
  | [], _ :: _, h => by simp [contents] at h
  | _ :: _, [], h => by simp [contents] at h
  | w :: ws, w' :: ws', h => by
    simp only [contents, List.cons.injEq] at h
    rw [content_injective w w' h.1, contents_injective ws ws' h.2]

theorem contentEntries_injective : ∀ fields fields' : List (String × Written),
    contentEntries fields = contentEntries fields' → fields = fields'
  | [], [], _ => rfl
  | [], _ :: _, h => by simp [contentEntries] at h
  | _ :: _, [], h => by simp [contentEntries] at h
  | (k, w) :: rest, (k', w') :: rest', h => by
    simp only [contentEntries, List.cons.injEq, Prod.mk.injEq, Content.string.injEq] at h
    rw [h.1.1, content_injective w w' h.1.2, contentEntries_injective rest rest' h.2]

end

end Written

/-! ### Values of any kind -/

theorem contentAt_eq (d : Nat) : ∃ child, contentAt d = contentWith child := by
  cases d <;> exact ⟨_, rfl⟩

theorem contentWith_scalar_reads {need : Nat} {c : Content} {text : String} {style : ScalarStyle}
    (child : Option (DecodeM Content))
    (h : (scalarMeaning none text style).bind (contentOf text) = .ok c) :
    Reads need (contentWith child) [.scalar none text style] c := by
  refine Reads.node (fun _ => nofun) fun _ => ?_
  simp only [variantTag?]
  cases hm : scalarMeaning none text style with
  | error e => rw [hm] at h; cases h
  | ok r =>
    rw [hm] at h
    simp only [Except.bind] at h
    simp only [h]
    exact Reads.pure c

theorem contentAt_scalar_reads {need d : Nat} {c : Content} {text : String} {style : ScalarStyle}
    (h : (scalarMeaning none text style).bind (contentOf text) = .ok c) :
    Reads need (contentAt d) [.scalar none text style] c := by
  obtain ⟨child, hchild⟩ := contentAt_eq d
  rw [hchild]
  exact contentWith_scalar_reads child h

/-- The content reader reads the events that stand for a scalar back to it. -/
theorem contentAt_scalar_of_stands {need d : Nat} {c : Content} {E : List Entry} (h : Stands c E)
    (hseq : ∀ items, c ≠ .seq items) (hmap : ∀ entries, c ≠ .map entries) :
    Reads need (contentAt d) E c := by
  cases h with
  | scalar text style hm => exact contentAt_scalar_reads hm
  | seq _ => exact absurd rfl (hseq _)
  | map _ => exact absurd rfl (hmap _)

theorem contentAt_string_reads {need d : Nat} {t : String} {E : List Entry}
    (h : Stands (.string t) E) : Reads need (contentAt d) E (.string t) :=
  contentAt_scalar_of_stands h (fun _ => nofun) (fun _ => nofun)

/-- A child read at a depth of its own reads what it reads at that depth. -/
theorem Reads.atDepth {α : Type} {k : DecodeM α} {E : List Entry} {a : α} (d : Nat)
    (h : Reads 0 k E a) : Reads 0 (withReader (fun s => { s with depth := d }) k) E a :=
  fun s c _ hE => h { s with depth := d } c (Nat.zero_le _) hE

mutual

/-- The content reader at a depth of at least the nesting of a written value reads the events
that stand for its content back to that content. -/
theorem contentAt_reads : ∀ (w : Written) {d : Nat} {E : List Entry}, w.nesting ≤ d →
    Stands w.content E → Reads 0 (contentAt d) E w.content
  | .text _, _, _, _, h => contentAt_string_reads h
  | .flag _, _, _, _, h => contentAt_scalar_of_stands h (fun _ => nofun) (fun _ => nofun)
  | .count _, _, _, _, h => contentAt_scalar_of_stands h (fun _ => nofun) (fun _ => nofun)
  | .list items, d, _, hd, h => by
    obtain ⟨d, rfl⟩ : ∃ d', d = d' + 1 := ⟨d - 1, by simp [Written.nesting] at hd; omega⟩
    have hitems : Written.nestingAll items ≤ d := by simp [Written.nesting] at hd; omega
    obtain ⟨E, rfl, hs⟩ := Stands.of_seq h
    rw [contentAt]
    refine Reads.node (fun _ => nofun) fun _ => ?_
    simp only [variantTag?, Option.bind_none, Option.isSome_none, Bool.false_eq_true, if_false]
    -- each item is read by the child reader one level down
    have hwalk : WalksItems 0
        (fun acc => acc.push <$> withReader (fun s => { s with depth := d }) (contentAt d)) #[] E
        (items.foldl (fun acc w => acc.push w.content) #[]) :=
      walksItems_of Written.content (fun (acc : Array Content) w => acc.push w.content)
        (fun w hw _ _ hE => Reads.map _ (Reads.atDepth d (contentAt_reads_all items w hw
          (Nat.le_trans (Written.nesting_le_nestingAll hw) hitems) hE)))
        (Written.contents_eq_map items ▸ hs)
    have hvalue : (Written.list items).content =
        .seq (items.foldl (fun acc w => acc.push w.content) #[]).toList := by
      simp [Written.content, Written.contents_eq_map, List.foldl_push_eq_append]
    rw [hvalue]
    exact close_reads (walkItems_reads 0 hwalk) (Reads.bind_done (discard_next_reads _) rfl)
  | .record fields, d, _, hd, h => by
    obtain ⟨d, rfl⟩ : ∃ d', d = d' + 1 := ⟨d - 1, by simp [Written.nesting] at hd; omega⟩
    have hfields : Written.nestingFields fields ≤ d := by simp [Written.nesting] at hd; omega
    obtain ⟨E, rfl, hs⟩ := Stands.of_map h
    rw [contentAt]
    refine Reads.node (fun _ => nofun) fun _ => ?_
    simp only [variantTag?, Option.bind_none, Option.isSome_none, Bool.false_eq_true, if_false]
    -- each key and value is read by the child reader one level down
    have hwalk : WalksEntries 0
        (fun acc key? => do
          let k ← withReader (fun s => { s with depth := d }) (contentAt d)
          let v ← underKey key? (withReader (fun s => { s with depth := d }) (contentAt d))
          pure (acc.push (k, v))) #[] E
        (fields.foldl (fun acc e => acc.push (.string e.1, e.2.content)) #[]) := by
      refine walksEntries_of Prod.fst (fun e : String × Written => e.2.content) id
        (fun (acc : Array (Content × Content)) (e : String × Written) =>
          acc.push (.string e.1, e.2.content))
        (fun ⟨k, w⟩ hw _ K V hK hV => ?_) (Written.contentEntries_eq_map fields ▸ hs)
      have hkey : Reads 0 (withReader (fun s => { s with depth := d }) (contentAt d)) K
          (.string k) :=
        Reads.atDepth d (contentAt_string_reads hK)
      have hvalue := Reads.underKey (some k) (Reads.atDepth d (contentAt_reads_fields fields k w hw
        (Nat.le_trans (Written.nesting_le_nestingFields hw) hfields) hV))
      exact Reads.bind hkey (Reads.bind_done hvalue rfl)
    have hvalue : (Written.record fields).content =
        .map (fields.foldl (fun acc e => acc.push (.string e.1, e.2.content)) #[]).toList := by
      simp [Written.content, Written.contentEntries_eq_map, List.foldl_push_eq_append]
    rw [hvalue]
    exact close_reads (walkEntries_reads hwalk) (Reads.bind_done (discard_next_reads _) rfl)

theorem contentAt_reads_all : ∀ (ws : List Written) (w : Written), w ∈ ws → ∀ {d : Nat}
    {E : List Entry}, w.nesting ≤ d → Stands w.content E → Reads 0 (contentAt d) E w.content
  | w' :: _, _, .head _ => contentAt_reads w'
  | _ :: ws, w, .tail _ hw => contentAt_reads_all ws w hw

theorem contentAt_reads_fields : ∀ (fields : List (String × Written)) (k : String) (w : Written),
    (k, w) ∈ fields → ∀ {d : Nat} {E : List Entry}, w.nesting ≤ d → Stands w.content E →
      Reads 0 (contentAt d) E w.content
  | (_, w') :: _, _, _, .head _ => contentAt_reads w'
  | _ :: rest, k, w, .tail _ hw => contentAt_reads_fields rest k w hw

end

/-- The content reader reads the events that stand for a written value's content back to that
content, with at least its nesting left to enter. -/
theorem content_reads {w : Written} {E : List Entry} (h : Stands w.content E) :
    Reads w.nesting content E w.content :=
  fun s c hd hE => contentAt_reads w hd h s c (Nat.zero_le _) hE

theorem content_string_reads {need : Nat} {t : String} {E : List Entry}
    (h : Stands (.string t) E) : Reads need content E (.string t) :=
  fun s c _ hE => contentAt_string_reads h s c (Nat.zero_le _) hE

/-! ### Values named by a tag -/

section Tagged

variable {need : Nat} {tagName t : String} {i : Nat} {fields : List (String × Written)}

/-- The walk of a record whose first entry names its variant: the tag's entry sets the variant,
and each entry after it is kept as content. -/
theorem tagged_walk {step : Option Nat × Array (Content × Content) → Option String →
      DecodeM (Option Nat × Array (Content × Content))}
    (htag : ∀ K V, Stands (.string tagName) K → Stands (.string t) V →
      Reads need (step (none, #[]) (some tagName)) (K ++ V) (some i, #[]))
    (hentry : ∀ acc k w K V, (k, w) ∈ fields → Stands (.string k) K → Stands w.content V →
      Reads need (step (some i, acc) (some k)) (K ++ V) (some i, acc.push (.string k, w.content)))
    {E : List Entry}
    (h : StandsEntries (Written.contentEntries ((tagName, .text t) :: fields)) E) :
    WalksEntries need step (none, #[]) E (some i, (Written.contentEntries fields).toArray) := by
  change StandsEntries ((.string tagName, .string t) :: Written.contentEntries fields) E at h
  cases h with
  | cons hK hV hs =>
    obtain ⟨style, rfl⟩ := hK.of_string
    refine .cons ⟨nofun, nofun⟩ (htag _ _ hK hV) ?_
    -- after the tag, the variant stays set and the entries are kept in order
    have hfin : (some i, (Written.contentEntries fields).toArray) = (fun arr => (some i, arr))
        (fields.foldl (fun acc e => acc.push (.string e.1, e.2.content)) #[]) := by
      simp [List.foldl_push_eq_append, Written.contentEntries_eq_map]
    rw [hfin]
    exact walksEntries_of Prod.fst (fun e : String × Written => e.2.content)
      (fun arr => (some i, arr))
      (fun (acc : Array (Content × Content)) (e : String × Written) =>
        acc.push (.string e.1, e.2.content))
      (fun ⟨k, w⟩ hw acc K V hK hV => hentry acc k w K V hw hK hV)
      (Written.contentEntries_eq_map fields ▸ hs)

/-- A written record whose first entry names its variant under the tag, while no other entry
names the tag, is read as the variant's index and its other entries as content. -/
theorem tagged_reads {expected : String} {names : List String} (hi : indexOf? names t = some i)
    (hkeys : ∀ e ∈ fields, e.1 ≠ tagName) {E : List Entry}
    (h : Stands (Written.record ((tagName, .text t) :: fields)).content E) :
    Reads (Written.record ((tagName, .text t) :: fields)).nesting (tagged expected tagName names) E
      (i, .map (Written.contentEntries fields)) := by
  obtain ⟨E, rfl, hs⟩ := Stands.of_map h
  have hnest : (Written.record ((tagName, .text t) :: fields)).nesting =
      Written.nestingFields fields + 1 := by
    simp [Written.nesting, Written.nestingFields]
  rw [hnest]
  refine Reads.node (fun _ => nofun) fun m => ?_
  simp only [variantTag?, Option.bind_none, Option.isSome_none, Bool.false_eq_true, if_false]
  refine Reads.enter m (close_reads (walkEntries_reads (tagged_walk (i := i) ?tag ?entry hs)) ?close)
  case tag =>
    -- the tag's entry names the variant
    intro K V hK hV
    refine Reads.bind (content_string_reads hK) ?_
    simp only [beq_self_eq_true, if_true, Option.isSome_none, Bool.false_eq_true, if_false]
    exact Reads.bind_done (Reads.underKey _ (variantName_reads hV hi)) rfl
  case entry =>
    -- any other entry is kept as content
    intro acc k w K V hw hK hV
    have hother : (k == tagName) = false := by simpa using hkeys _ hw
    refine Reads.bind (content_string_reads hK) ?_
    simp only [hother, Bool.false_eq_true, if_false]
    exact Reads.bind_done (Reads.underKey _
      ((content_reads hV).mono (Written.nesting_le_nestingFields hw))) rfl
  case close =>
    exact Reads.bind_done (discard_next_reads _) rfl

end Tagged

/-! ### The text of a written value read back -/

/-- The YAML layer reads back the text of a written value: the text holds one document, read
without fault, whose events stand for the value's content. -/
structure Written.ReadsBack (w : Written) : Prop where
  single : (Stream.read w.toNode.render).more = false
  whole : (Stream.read w.toNode.render).first.fault = none
  stands : Stands w.content ((Stream.read w.toNode.render).first.entries.toList.map Prod.fst)

/-- Two written values whose texts the YAML layer reads back are written as the same text only
when they are the same. -/
theorem Written.eq_of_render_eq {w w' : Written} (hback : w.ReadsBack) (hback' : w'.ReadsBack)
    (h : w.toNode.render = w'.toNode.render) : w = w' := by
  have hstands := hback.stands
  rw [h] at hstands
  -- the content reader, deep enough for both, reads the one list of events to each content
  exact content_injective w w' ((contentAt_reads w (Nat.le_max_left w.nesting w'.nesting)
    hstands).unique (contentAt_reads w' (Nat.le_max_right _ _) hback'.stands))

/-! ### Checking that the text of a written value reads back -/

namespace Written

/-- Whether the meaning of a scalar is the content of a written scalar. -/
def scalarMeant : Written → Except String Content → Bool
  | .text s, .ok (.string t) => s == t
  | .flag b, .ok (.bool b') => b == b'
  | .count n, .ok (.unsigned n') => n == n'
  | _, _ => false

theorem eq_of_scalarMeant {w : Written} {r : Except String Content} (h : w.scalarMeant r = true) :
    r = .ok w.content := by
  unfold scalarMeant at h
  split at h <;> simp_all [content]

/-- The events after an untagged scalar that means a written scalar. -/
def scalarRest (w : Written) : List Entry → Option (List Entry)
  | .scalar none t style :: rest =>
    if w.scalarMeant ((scalarMeaning none t style).bind (contentOf t)) then some rest else none
  | _ => none

theorem stands_of_scalarRest {w : Written} {E rest : List Entry} (h : w.scalarRest E = some rest) :
    ∃ E₁, E = E₁ ++ rest ∧ Stands w.content E₁ := by
  unfold scalarRest at h
  split at h
  · split at h
    · cases h
      exact ⟨_, rfl, .scalar _ _ (eq_of_scalarMeant ‹_›)⟩
    · cases h
  · cases h

mutual

/-- The events after those that stand for a written value, when the events begin with them. -/
def eventsRest : Written → List Entry → Option (List Entry)
  | .text s, E => (Written.text s).scalarRest E
  | .flag b, E => (Written.flag b).scalarRest E
  | .count n, E => (Written.count n).scalarRest E
  | .list items, .sequenceStart none :: E =>
    match eventsRestAll items E with
    | some (.sequenceEnd :: rest) => some rest
    | _ => none
  | .record fields, .mappingStart none :: E =>
    match eventsRestFields fields E with
    | some (.mappingEnd :: rest) => some rest
    | _ => none
  | _, _ => none

def eventsRestAll : List Written → List Entry → Option (List Entry)
  | [], E => some E
  | w :: ws, E => (w.eventsRest E).bind (eventsRestAll ws)

def eventsRestFields : List (String × Written) → List Entry → Option (List Entry)
  | [], E => some E
  | (k, w) :: rest, E =>
    ((Written.text k).scalarRest E).bind fun E => (w.eventsRest E).bind (eventsRestFields rest)

end

mutual

theorem stands_of_eventsRest : ∀ (w : Written) {E rest : List Entry}, w.eventsRest E = some rest →
    ∃ E₁, E = E₁ ++ rest ∧ Stands w.content E₁
  | .text _, _, _, h | .flag _, _, _, h | .count _, _, _, h => stands_of_scalarRest h
  | .list items, E, rest, h => by
    -- only a sequence opened without a tag stands for a list
    rcases E with _ | ⟨_ | _ | ⟨_ | _⟩ | _ | _ | _ | _, E⟩ <;>
      simp only [eventsRest, reduceCtorEq] at h
    split at h
    · cases h
      obtain ⟨E₁, hE, hs⟩ := standsAll_of_eventsRestAll items ‹_›
      have hlist : Stands (list items).content (.sequenceStart none :: E₁ ++ [.sequenceEnd]) := .seq hs
      exact ⟨_, by simp [hE], hlist⟩
    · cases h
  | .record fields, E, rest, h => by
    -- only a mapping opened without a tag stands for a record
    rcases E with _ | ⟨_ | _ | _ | _ | ⟨_ | _⟩ | _ | _, E⟩ <;>
      simp only [eventsRest, reduceCtorEq] at h
    split at h
    · cases h
      obtain ⟨E₁, hE, hs⟩ := standsEntries_of_eventsRestFields fields ‹_›
      have hrecord : Stands (record fields).content (.mappingStart none :: E₁ ++ [.mappingEnd]) :=
        .map hs
      exact ⟨_, by simp [hE], hrecord⟩
    · cases h

theorem standsAll_of_eventsRestAll : ∀ (ws : List Written) {E rest : List Entry},
    eventsRestAll ws E = some rest → ∃ E₁, E = E₁ ++ rest ∧ StandsAll (contents ws) E₁
  | [], _, _, h => by
    cases h
    exact ⟨[], rfl, .nil⟩
  | w :: ws, E, rest, h => by
    obtain ⟨E', hw, hws⟩ := Option.bind_eq_some_iff.mp h
    obtain ⟨E₁, rfl, h₁⟩ := stands_of_eventsRest w hw
    obtain ⟨E₂, rfl, h₂⟩ := standsAll_of_eventsRestAll ws hws
    exact ⟨E₁ ++ E₂, by simp, .cons h₁ h₂⟩

theorem standsEntries_of_eventsRestFields : ∀ (fields : List (String × Written))
    {E rest : List Entry}, eventsRestFields fields E = some rest →
      ∃ E₁, E = E₁ ++ rest ∧ StandsEntries (contentEntries fields) E₁
  | [], _, _, h => by
    cases h
    exact ⟨[], rfl, .nil⟩
  | (k, w) :: fields, E, rest, h => by
    obtain ⟨E', hk, h'⟩ := Option.bind_eq_some_iff.mp h
    obtain ⟨E'', hw, hfields⟩ := Option.bind_eq_some_iff.mp h'
    obtain ⟨K, rfl, hK⟩ := stands_of_scalarRest hk
    obtain ⟨V, rfl, hV⟩ := stands_of_eventsRest w hw
    obtain ⟨R, rfl, hR⟩ := standsEntries_of_eventsRestFields fields hfields
    exact ⟨K ++ V ++ R, by simp, .cons hK hV hR⟩

end

/-- Whether the YAML layer reads back the text of a written value, checked by reading it. -/
def rereads (w : Written) : Bool :=
  let stream := Stream.read w.toNode.render
  !stream.more && stream.first.fault.isNone &&
    match w.eventsRest (stream.first.entries.toList.map Prod.fst) with
    | some [] => true
    | _ => false

theorem readsBack_of_rereads {w : Written} (h : w.rereads = true) : w.ReadsBack := by
  simp only [rereads, Bool.and_eq_true, Bool.not_eq_true', Option.isNone_iff_eq_none] at h
  obtain ⟨⟨hmore, hfault⟩, hevents⟩ := h
  refine ⟨hmore, hfault, ?_⟩
  split at hevents
  · obtain ⟨E₁, hE, hstands⟩ := stands_of_eventsRest w ‹_›
    rwa [hE, List.append_nil]
  · cases hevents

end Written

end CatalogQueue
