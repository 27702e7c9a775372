import CatalogQueue.Proofs.Resubmission

/-!
The marker store and the memory store agree: given the same calls, they answer alike as long as
the file system takes every marker name, by the simulation `RecordList.Twins`.
-/

namespace CatalogQueue

namespace MediaInfo

theorem keyChar_ne_slash (c : Char) : keyChar c ≠ '/' := by
  unfold keyChar
  split
  · decide
  · rename_i hsafe
    intro hslash
    subst hslash
    exact hsafe (by decide)

/-- A queue key holds no `/`: its marker is a file of the directory itself. -/
theorem slash_not_mem_queueKey (m : MediaInfo) : '/' ∉ m.queueKey.toList := by
  intro h
  rw [queueKey, String.toList_ofList] at h
  obtain ⟨c, -, hc⟩ := List.mem_map.1 ((List.dropWhile_sublist _).subset h)
  exact keyChar_ne_slash c hc

end MediaInfo

/-- A call on a record list: record a video, or ask whether it is recorded. -/
inductive RecordCall where
  | add (m : MediaInfo)
  | query (m : MediaInfo)
  deriving DecidableEq

/-- What a record list answers: the result of a record, or whether the video is recorded. -/
inductive RecordAnswer where
  | added (result : Except RecordError Unit)
  | found (held : Bool)

def RecordCall.legal : RecordCall → Bool
  | .add m => (markerFault? m.queueKey).isNone
  | .query _ => true

namespace RecordList

def call (l : RecordList) : RecordCall → RecordList × RecordAnswer
  | .add m =>
    match l.add m with
    | .ok l' => (l', .added (.ok ()))
    | .error e => (l, .added (.error e))
  | .query m => (l, .found (l.contains m))

def replay (l : RecordList) : List RecordCall → RecordList × List RecordAnswer
  | [] => (l, [])
  | c :: cs =>
    let rest := (l.call c).1.replay cs
    (rest.1, (l.call c).2 :: rest.2)

variable {l l' : RecordList} {key : String}

/-- Everything a record can do: a recorded key leaves the list alone; a new key is refused on
markers when the file system refuses its marker name, and appended otherwise. -/
theorem addKey_cases (l : RecordList) (key : String) :
    (l.containsKey key = true ∧ l.addKey key = .ok l) ∨
      (l.containsKey key = false ∧ ∃ fault, l.store = .markers ∧ markerFault? key = some fault ∧
        l.addKey key = .error (.refused key fault)) ∨
      (l.containsKey key = false ∧ (l.store = .markers → markerFault? key = none) ∧
        l.addKey key = .ok { l with keys := l.keys ++ [key] }) := by
  cases hc : l.containsKey key with
  | true => exact .inl ⟨rfl, by simp [addKey, hc]⟩
  | false =>
    right
    cases hstore : l.store with
    | memory => exact .inr ⟨rfl, (fun h => nomatch h), by simp [addKey, hc, hstore]⟩
    | markers =>
      cases hfault : markerFault? key with
      | some fault => exact .inl ⟨rfl, fault, rfl, rfl, by simp [addKey, hc, hstore, hfault]⟩
      | none => exact .inr ⟨rfl, fun _ => rfl, by simp [addKey, hc, hstore, hfault]⟩

theorem addKey_eq_ok (h : l.addKey key = .ok l') :
    l' = if l.containsKey key then l else { l with keys := l.keys ++ [key] } := by
  rcases addKey_cases l key with ⟨hc, hadd⟩ | ⟨-, fault, -, -, hadd⟩ | ⟨hc, -, hadd⟩
  · rw [hadd, Except.ok.injEq] at h
    rw [← h, if_pos hc]
  · rw [hadd] at h
    cases h
  · rw [hadd, Except.ok.injEq] at h
    rw [← h, if_neg (by simp [hc])]

theorem addKey_of_canKeep (h : l.store.CanKeep key) :
    l.addKey key = .ok (if l.containsKey key then l else { l with keys := l.keys ++ [key] }) := by
  cases hadd : l.addKey key with
  | ok l' => rw [addKey_eq_ok hadd]
  | error e => exact absurd h (not_canKeep_of_addKey hadd)

/-- A new key gets into a list on markers only if the file system takes its marker name. -/
theorem markerFault?_of_addKey (hstore : l.store = .markers) (hc : l.containsKey key = false)
    (h : l.addKey key = .ok l') : markerFault? key = none := by
  rcases addKey_cases l key with ⟨hheld, -⟩ | ⟨-, fault, -, -, hadd⟩ | ⟨-, hlegal, -⟩
  · rw [hc] at hheld
    cases hheld
  · rw [hadd] at h
    cases h
  · exact hlegal hstore

theorem store_call (l : RecordList) (c : RecordCall) : (l.call c).1.store = l.store := by
  cases c with
  | query m => rfl
  | add m =>
    cases hadd : l.add m with
    | ok l' =>
      simp only [call, hadd]
      exact store_addKey hadd
    | error e => simp only [call, hadd]

theorem store_replay (l : RecordList) (calls : List RecordCall) :
    (l.replay calls).1.store = l.store := by
  induction calls generalizing l with
  | nil => rfl
  | cons c cs ih => exact (ih (l.call c).1).trans (store_call l c)

/-! ### Twins -/

/-- A list on markers and a list in memory holding the same keys in the same order. -/
structure Twins (f m : RecordList) : Prop where
  markers : f.store = .markers
  memory : m.store = .memory
  keys : f.keys = m.keys

theorem Twins.empty : Twins (empty .markers) (empty .memory) :=
  ⟨rfl, rfl, rfl⟩

theorem Twins.mem_listing {f m : RecordList} (h : Twins f m) (k : String) :
    k ∈ f.listing ↔ k ∈ m.listing := by
  simp only [listing, h.markers, h.memory, List.mem_mergeSort, h.keys]

/-- One call whose marker name the file system takes gives the same answer on twins, a
successful one if it records, and leaves them twins. -/
theorem Twins.call {f m : RecordList} (h : Twins f m) {c : RecordCall} (hc : c.legal = true) :
    (f.call c).2 = (m.call c).2 ∧ (∀ r, (f.call c).2 = .added r → r = .ok ()) ∧
      Twins (f.call c).1 (m.call c).1 := by
  have hsame : ∀ k, f.containsKey k = m.containsKey k := fun k => by
    simp only [containsKey, h.keys]
  cases c with
  | query x =>
    refine ⟨?_, ?_, h⟩
    · simp only [RecordList.call, contains, hsame]
    · intro r hr
      simp [RecordList.call] at hr
  | add x =>
    have hlegal : markerFault? x.queueKey = none := by
      simpa [RecordCall.legal] using hc
    have hf := addKey_of_canKeep (l := f) (.inr hlegal)
    have hm := addKey_of_canKeep (show m.store.CanKeep x.queueKey from .inl h.memory)
    have hfc : f.call (.add x) =
        (if m.containsKey x.queueKey then f else { f with keys := f.keys ++ [x.queueKey] },
          .added (.ok ())) := by
      simp only [RecordList.call, add, hf, hsame]
    have hmc : m.call (.add x) =
        (if m.containsKey x.queueKey then m else { m with keys := m.keys ++ [x.queueKey] },
          .added (.ok ())) := by
      simp only [RecordList.call, add, hm]
    rw [hfc, hmc]
    refine ⟨rfl, fun r hr => (RecordAnswer.added.inj hr).symm, ?_⟩
    cases m.containsKey x.queueKey with
    | true => exact h
    | false => exact ⟨h.markers, h.memory, by simp only [Bool.false_eq_true, if_false, h.keys]⟩

/-- Twins given the same calls, each with a marker name the file system takes, answer alike,
every record succeeds, and they stay twins. -/
theorem Twins.replay {f m : RecordList} (h : Twins f m) {calls : List RecordCall}
    (hcalls : ∀ c ∈ calls, c.legal = true) :
    (f.replay calls).2 = (m.replay calls).2 ∧ (∀ r, .added r ∈ (f.replay calls).2 → r = .ok ()) ∧
      Twins (f.replay calls).1 (m.replay calls).1 := by
  induction calls generalizing f m with
  | nil => exact ⟨rfl, fun r hr => by simp [RecordList.replay] at hr, h⟩
  | cons c cs ih =>
    obtain ⟨hanswer, hok, htwins⟩ := h.call (hcalls c List.mem_cons_self)
    obtain ⟨hanswers, hoks, htwins'⟩ :=
      ih htwins fun c' hc' => hcalls c' (List.mem_cons_of_mem _ hc')
    refine ⟨by simp only [RecordList.replay, hanswer, hanswers], fun r hr => ?_, htwins'⟩
    rcases List.mem_cons.1 hr with hfirst | hrest
    · exact hok r hfirst.symm
    · exact hoks r hrest

/-! ### What every list keeps -/

/-- What every list reached from an empty one keeps: each key once, and on markers only keys
whose marker name the file system takes. -/
structure Kept (l : RecordList) : Prop where
  nodup : l.keys.Nodup
  legal : l.store = .markers → ∀ k ∈ l.keys, markerFault? k = none

theorem Kept.empty (store : RecordStore) : (empty store).Kept :=
  ⟨List.nodup_nil, fun _ _ hk => nomatch hk⟩

theorem Kept.addKey (h : l.Kept) (hadd : l.addKey key = .ok l') : l'.Kept := by
  have hl' := addKey_eq_ok hadd
  cases hc : l.containsKey key with
  | true =>
    simp only [hc, ↓reduceIte] at hl'
    rw [hl']
    exact h
  | false =>
    -- a new key: it was not among the keys, and on markers its name was taken
    simp only [hc, Bool.false_eq_true, if_false] at hl'
    subst hl'
    have hnew : key ∉ l.keys := by simpa [containsKey] using hc
    refine ⟨?_, fun hstore k hk => ?_⟩
    · rw [List.nodup_append]
      refine ⟨h.nodup, by simp, fun a ha b hb hab => ?_⟩
      rw [List.mem_singleton] at hb
      rw [hab, hb] at ha
      exact hnew ha
    · rcases List.mem_append.1 hk with hold | hkey
      · exact h.legal hstore k hold
      · rw [List.mem_singleton.1 hkey]
        exact markerFault?_of_addKey (l := l) hstore hc hadd

theorem Kept.call (h : l.Kept) (c : RecordCall) : (l.call c).1.Kept := by
  cases c with
  | query m => exact h
  | add m =>
    cases hadd : l.add m with
    | ok l' =>
      simp only [RecordList.call, hadd]
      exact h.addKey hadd
    | error e =>
      simp only [RecordList.call, hadd]
      exact h

theorem Kept.replay (h : l.Kept) (calls : List RecordCall) : (l.replay calls).1.Kept := by
  induction calls generalizing l with
  | nil => exact h
  | cons c cs ih => exact ih (h.call c)

/-- On a kept list on markers, recording a video whose marker name the file system refuses
fails with the I/O error naming the key. -/
theorem Kept.add_of_fault (h : l.Kept) (hstore : l.store = .markers) {m : MediaInfo}
    {fault : MarkerFault} (hfault : markerFault? m.queueKey = some fault) :
    l.add m = .error (.refused m.queueKey fault) := by
  -- a key on a kept list on markers has a name the file system takes, so this one is new
  rcases addKey_cases l m.queueKey with ⟨hc, -⟩ | ⟨-, fault', -, hfault', hadd⟩ | ⟨-, hlegal, -⟩
  · have hk : m.queueKey ∈ l.keys := by simpa [containsKey] using hc
    rw [h.legal hstore _ hk] at hfault
    cases hfault
  · rw [hfault, Option.some.injEq] at hfault'
    rw [add, hadd, hfault']
  · rw [hlegal hstore] at hfault
    cases hfault

/-- The marker store and the memory store agree. Started empty and given the same calls, as
long as the file system takes the marker name of every video recorded, they give the same
answers, every record succeeds on both, and the directory lists exactly the keys the memory store
holds, each once. Every marker name is one file name of the directory. And after any calls, a
record whose marker name the file system refuses fails on markers with the I/O error naming the
key, leaving the directory as it was. -/
theorem marker_and_memory_lists_agree :
    (∀ calls : List RecordCall, (∀ c ∈ calls, c.legal = true) →
      let markers := (empty .markers).replay calls
      let memory := (empty .memory).replay calls
      markers.2 = memory.2 ∧ (∀ r, .added r ∈ markers.2 → r = .ok ()) ∧
        (∀ k, k ∈ markers.1.listing ↔ k ∈ memory.1.listing) ∧ memory.1.listing.Nodup) ∧
    (∀ m : MediaInfo, '/' ∉ (m.queueKey ++ markerSuffix).toList) ∧
    (∀ (calls : List RecordCall) (m : MediaInfo) (fault : MarkerFault),
      markerFault? m.queueKey = some fault →
      let markers := ((empty .markers).replay calls).1
      markers.add m = .error (.refused m.queueKey fault) ∧
        (markers.call (.add m)).1 = markers) := by
  refine ⟨fun calls hcalls => ?_, fun m => ?_, fun calls m fault hfault => ?_⟩
  · obtain ⟨hanswers, hok, htwins⟩ := Twins.empty.replay hcalls
    have hnodup := ((Kept.empty .memory).replay calls).nodup
    rw [← htwins.keys] at hnodup
    refine ⟨hanswers, hok, htwins.mem_listing, ?_⟩
    simpa only [listing, htwins.memory, htwins.keys] using hnodup
  · -- the suffix holds no `/` either
    rw [String.toList_append, List.mem_append, not_or]
    exact ⟨m.slash_not_mem_queueKey, by decide⟩
  · have hkept := (Kept.empty .markers).replay calls
    have hadd := hkept.add_of_fault (store_replay _ calls) hfault
    refine ⟨hadd, ?_⟩
    simp only [RecordList.call, hadd]

/-- Recording a video twice and asking for it and for another gives the same answers on both
stores; afterwards a video whose key holds a NUL byte is refused on markers. -/
theorem marker_and_memory_lists_agree_on_repeats :
    let calls := [RecordCall.add { title := "a" }, .query { title := "a" },
      .add { title := "a" }, .query { title := "b" }]
    let bad : MediaInfo := { title := "b\x00" }
    (∀ c ∈ calls, c.legal = true) ∧
      ((empty .markers).replay calls).2 = ((empty .memory).replay calls).2 ∧
      markerFault? bad.queueKey = some .nulByte ∧
      ((empty .markers).replay calls).1.add bad = .error (.refused bad.queueKey .nulByte) := by
  intro calls bad
  have hlegal : ∀ c ∈ calls, c.legal = true := by decide
  have hfault : markerFault? bad.queueKey = some .nulByte := by decide
  exact ⟨hlegal, (marker_and_memory_lists_agree.1 calls hlegal).1, hfault,
    (marker_and_memory_lists_agree.2.2 calls bad _ hfault).1⟩

end RecordList

end CatalogQueue
