import CatalogQueue.Proofs.Modes

/-!
Submitting a video once: after the server accepted a video, a run submits no video of the same
key again, as long as the record list can keep that key (`Remembers`).
-/

namespace CatalogQueue

/-- Whether a record list on `store` can keep `key`: memory keeps every key, markers only a key
whose marker name the file system takes. -/
def RecordStore.CanKeep (store : RecordStore) (key : String) : Prop :=
  store = .memory ∨ markerFault? key = none

namespace RecordList

variable {l l' : RecordList} {key : String}

theorem store_addKey (h : l.addKey key = .ok l') : l'.store = l.store := by
  unfold addKey at h
  split at h
  · cases h
    rfl
  · split at h
    · cases h
    · cases h
      rfl

theorem not_canKeep_of_addKey {e : RecordError} (h : l.addKey key = .error e) :
    ¬l.store.CanKeep key := by
  unfold addKey at h
  split at h
  · cases h
  · split at h
    · rename_i fault hstore hfault
      rintro (hmemory | hnone)
      · rw [hstore] at hmemory
        cases hmemory
      · rw [hfault] at hnone
        cases hnone
    · cases h

end RecordList

namespace Admission

variable {a a' : Admission} {m : MediaInfo}

theorem containsKey_of_check (h : a.check m = .ok ()) :
    a.records.containsKey m.queueKey = false := by
  unfold check at h
  cases hc : a.records.contains m with
  | false => exact hc
  | true => simp [hc] at h

theorem records_record (h : a.record m = .ok a') :
    a'.records.store = a.records.store ∧
      ∀ k, a'.records.containsKey k = (a.records.containsKey k || k == m.queueKey) := by
  obtain ⟨records, hadd, rfl⟩ := record_ok a m h
  rw [records_count]
  exact ⟨RecordList.store_addKey hadd, RecordList.containsKey_addKey hadd⟩

theorem not_canKeep_of_record {e : RecordError} (h : a.record m = .error e) :
    ¬a.records.store.CanKeep m.queueKey := by
  unfold record at h
  cases hadd : a.records.add m with
  | ok records =>
    rw [hadd] at h
    cases h
  | error e' => exact RecordList.not_canKeep_of_addKey hadd

end Admission

/-- No video is submitted after the server accepted a video of the same key, for the keys
that `keep` holds of. -/
def SubmitsOnce (keep : String → Prop) (es : List Event) : Prop :=
  ∀ pre url m mid url' m' answer post,
    es = pre ++ .submit url m (.ok .accepted) :: (mid ++ .submit url' m' answer :: post) →
    keep m.queueKey → m'.queueKey ≠ m.queueKey

namespace SubmitsOnce

variable {keep : String → Prop} {es : List Event}

theorem nil : SubmitsOnce keep [] := by
  intro pre url m mid url' m' answer post h
  simp at h

/-- A trace keeps the property when the event added submits nothing, or submits a key that
no accepted submission before it had. -/
theorem snoc (h : SubmitsOnce keep es) {e : Event}
    (hnew : ∀ url' m' answer, e = .submit url' m' answer →
      ∀ url m, .submit url m (.ok .accepted) ∈ es → keep m.queueKey → m'.queueKey ≠ m.queueKey) :
    SubmitsOnce keep (es ++ [e]) := by
  intro pre url m mid url' m' answer post hsplit hkeep
  have hsplit' : es ++ [e] =
      (pre ++ .submit url m (.ok .accepted) :: mid) ++ .submit url' m' answer :: post := by
    simpa using hsplit
  rcases append_singleton_eq_append_cons hsplit' with ⟨hes, he, -⟩ | ⟨post', -, hes⟩
  · -- the later submission is the new event
    exact hnew url' m' answer he.symm url m (by simp [← hes]) hkeep
  · exact h pre url m mid url' m' answer post' (by simpa using hes) hkeep

theorem append_quiet (h : SubmitsOnce keep es) {new : List Event}
    (hnew : ∀ e ∈ new, e.isSubmit = false) : SubmitsOnce keep (es ++ new) := by
  induction new generalizing es with
  | nil => simpa using h
  | cons e new ih =>
    have he : SubmitsOnce keep (es ++ [e]) := h.snoc fun url' m' answer hsubmit => by
      simpa [hsubmit, Event.isSubmit] using hnew e (by simp)
    rw [List.append_cons]
    exact ih he fun e' he' => hnew e' (by simp [he'])

end SubmitsOnce

/-- What a run keeps while it submits: the record list stays on `store` and holds the key of
every video that the server accepted and the store can keep, and no video of such a key was
submitted after it was accepted. -/
structure Remembers (store : RecordStore) (s : RunState) : Prop where
  store_eq : s.admission.records.store = store
  accepted : ∀ url m, .submit url m (.ok .accepted) ∈ s.events → store.CanKeep m.queueKey →
    s.admission.records.containsKey m.queueKey = true
  once : SubmitsOnce store.CanKeep s.events

namespace Remembers

variable {store : RecordStore} {s t : RunState}

theorem init (a : Admission) : Remembers a.records.store { admission := a } where
  store_eq := rfl
  accepted _ _ h := by simp at h
  once := SubmitsOnce.nil

theorem quiet (hs : Remembers store s) (new : List Event) (hnew : ∀ e ∈ new, e.isSubmit = false)
    (hstore : t.admission.records.store = store)
    (hgrow : ∀ k, s.admission.records.containsKey k = true →
      t.admission.records.containsKey k = true)
    (ht : t.events = s.events ++ new) : Remembers store t where
  store_eq := hstore
  accepted url m hm hkeep := by
    rw [ht, List.mem_append] at hm
    rcases hm with hm | hm
    · exact hgrow _ (hs.accepted url m hm hkeep)
    · simpa [Event.isSubmit] using hnew _ hm
  once := ht ▸ hs.once.append_quiet hnew

theorem untouched (hs : Remembers store s) (new : List Event)
    (hnew : ∀ e ∈ new, e.isSubmit = false) (hrecords : t.admission.records = s.admission.records)
    (ht : t.events = s.events ++ new) : Remembers store t :=
  hs.quiet new hnew (hrecords ▸ hs.store_eq) (fun _ hk => hrecords ▸ hk) ht

theorem frame (hs : Remembers store s) (ha : t.admission = s.admission)
    (he : t.events = s.events) : Remembers store t :=
  hs.untouched [] (by simp) (by rw [ha]) (by simp [he])

/-- A submission of a key that the record list does not hold, between events that submit
nothing. If the server accepted it and the store can keep its key, the list holds the key
afterwards. -/
theorem submitted (hs : Remembers store s) {d : MediaInfo} {url : String}
    {answer : Except ServerError Submission} (before after : List Event)
    (hbefore : ∀ e ∈ before, e.isSubmit = false) (hafter : ∀ e ∈ after, e.isSubmit = false)
    (hfresh : s.admission.records.containsKey d.queueKey = false)
    (hstore : t.admission.records.store = store)
    (hgrow : ∀ k, s.admission.records.containsKey k = true →
      t.admission.records.containsKey k = true)
    (hkept : answer = .ok .accepted → store.CanKeep d.queueKey →
      t.admission.records.containsKey d.queueKey = true)
    (ht : t.events = s.events ++ (before ++ .submit url d answer :: after)) :
    Remembers store t where
  store_eq := hstore
  accepted url' m hm hkeep := by
    rw [ht] at hm
    simp only [List.mem_append, List.mem_cons] at hm
    rcases hm with hm | hm | hm | hm
    · exact hgrow _ (hs.accepted url' m hm hkeep)
    · simpa [Event.isSubmit] using hbefore _ hm
    · simp only [Event.submit.injEq] at hm
      obtain ⟨-, rfl, hanswer⟩ := hm
      exact hkept hanswer.symm hkeep
    · simpa [Event.isSubmit] using hafter _ hm
  once := by
    -- every key accepted before is recorded, and the one submitted is not
    have hsubmit : SubmitsOnce store.CanKeep (s.events ++ before ++ [.submit url d answer]) := by
      refine (hs.once.append_quiet hbefore).snoc ?_
      intro url' m' answer' heq url'' m hm hkeep hkey
      simp only [Event.submit.injEq] at heq
      obtain ⟨-, rfl, -⟩ := heq
      have hquiet : Event.submit url'' m (.ok .accepted) ∉ before := fun hb => by
        simpa [Event.isSubmit] using hbefore _ hb
      have hrecorded := hs.accepted url'' m ((List.mem_append.1 hm).resolve_right hquiet) hkeep
      rw [← hkey, hfresh] at hrecorded
      cases hrecorded
    rw [ht, ← List.append_assoc, List.append_cons (s.events ++ before)]
    exact hsubmit.append_quiet hafter

theorem unaccepted (hs : Remembers store s) {d : MediaInfo} {url : String}
    {answer : Except ServerError Submission} (hcheck : s.admission.check d = .ok ())
    (hanswer : answer ≠ .ok .accepted) (ha : t.admission = s.admission)
    (ht : t.events = s.events ++ [.check d (.ok ()), .submit url d answer]) : Remembers store t :=
  hs.submitted [.check d (.ok ())] [] (by simp [Event.isSubmit]) (by simp)
    (Admission.containsKey_of_check hcheck) (ha ▸ hs.store_eq) (fun _ hk => ha ▸ hk)
    (fun h => absurd h hanswer) ht

theorem resolved {srv : Server} {mode : RunMode} {v : Video} {d : MediaInfo}
    {r : Except Failure Outcome} (h : Resolved srv mode v d s r t) (hs : Remembers store s) :
    Remembers store t := by
  cases h with
  | skipped a _ hrec =>
    obtain ⟨hstore, hkeys⟩ := Admission.records_record hrec
    exact hs.quiet [.record d (.ok ())] (by simp [Event.isSubmit]) (hstore.trans hs.store_eq)
      (fun k hk => by simp [hkeys, hk]) rfl
  | skipRefused => exact hs.untouched _ (by simp [Event.isSubmit]) rfl rfl
  | rejected => exact hs.untouched _ (by simp [Event.isSubmit]) rfl rfl
  | previewed => exact hs.untouched _ (by simp [Event.isSubmit]) (Admission.records_count _ _) rfl
  | queued a _ _ hcheck _ hrec =>
    -- accepted and recorded: the key is in the list from now on
    obtain ⟨hstore, hkeys⟩ := Admission.records_record hrec
    exact hs.submitted [.check d (.ok ())] [.record d (.ok ())] (by simp [Event.isSubmit])
      (by simp [Event.isSubmit]) (Admission.containsKey_of_check hcheck)
      (hstore.trans hs.store_eq) (fun k hk => by simp [hkeys, hk]) (fun _ _ => by simp [hkeys]) rfl
  | unrecorded e _ _ hcheck _ hrec =>
    -- accepted but refused by the list, which can only be a key the store cannot keep
    exact hs.submitted [.check d (.ok ())] [.record d (.error e)] (by simp [Event.isSubmit])
      (by simp [Event.isSubmit]) (Admission.containsKey_of_check hcheck) hs.store_eq
      (fun _ hk => hk)
      (fun _ hkeep => absurd (hs.store_eq ▸ hkeep) (Admission.not_canKeep_of_record hrec)) rfl
  | alreadyQueued _ _ hcheck => exact hs.unaccepted hcheck (by simp) rfl rfl
  | noQueueLink _ _ hcheck => exact hs.unaccepted hcheck (by simp) rfl rfl
  | refused _ _ hcheck => exact hs.unaccepted hcheck (by simp) rfl rfl
  | failed _ _ _ hcheck => exact hs.unaccepted hcheck (by simp) rfl rfl

theorem written (hs : Remembers store t) (d : MediaInfo) (r : Except Failure Outcome) :
    Remembers store (Run.written d r t) := by
  have ha := Run.written_admission d r t
  rcases Run.written_events d r t with hw | ⟨o, hw⟩
  · exact hs.frame ha hw
  · exact hs.untouched [.outcome d o] (by simp [Event.isSubmit]) (by rw [ha]) hw

end Remembers

/-- Every run remembers the keys it had accepted, on the store it started with. -/
theorem runPasses_remembers (srv : Server) (mode : RunMode) (a : Admission) (ps : List Pass) :
    Remembers a.records.store (runPasses srv mode a ps) :=
  Run.passes_keep srv mode (fun _ _ ha he hs => hs.frame ha he)
    (fun _ r hs => hs.untouched [.request r] (by simp [Event.isSubmit]) rfl rfl)
    (fun _ c d hs => hs.untouched [.enterLimits c d] (by simp [Event.isSubmit]) (by simp) (by simp))
    (fun _ g hs => hs.untouched [.releaseLimits g] (by simp [Event.isSubmit]) (by simp) (by simp))
    (fun _ _ _ _ _ h hs => (hs.resolved h).written _ _) ps (Remembers.init a)

/-- Once the server has accepted a video, no run submits a video of the same key again, as
long as the record list's store can keep that key: always in memory, and as markers when the
file system takes the key's marker name. This holds for every server, mode, admission state
and list of passes. -/
theorem runPasses_submits_once (srv : Server) (mode : RunMode) (a : Admission) (ps : List Pass)
    (pre : List Event) (url : String) (m : MediaInfo) (mid : List Event) (url' : String)
    (m' : MediaInfo) (answer : Except ServerError Submission) (post : List Event)
    (hsplit : (runPasses srv mode a ps).events =
      pre ++ .submit url m (.ok .accepted) :: (mid ++ .submit url' m' answer :: post))
    (hkeep : a.records.store.CanKeep m.queueKey) : m'.queueKey ≠ m.queueKey :=
  (runPasses_remembers srv mode a ps).once pre url m mid url' m' answer post hsplit hkeep

/-! ### Concrete runs -/

def Event.acceptedKey? : Event → Option String
  | .submit _ m (.ok .accepted) => some m.queueKey
  | _ => none

theorem Event.acceptedKey?_eq_some {e : Event} {k : String} (h : e.acceptedKey? = some k) :
    ∃ url m, e = .submit url m (.ok .accepted) ∧ m.queueKey = k := by
  unfold acceptedKey? at h
  split at h
  · cases h
    exact ⟨_, _, rfl, rfl⟩
  · cases h

theorem exists_split_of_acceptedKeys {es : List Event} {k k' : String} {rest : List String}
    (h : es.filterMap Event.acceptedKey? = k :: k' :: rest) :
    ∃ pre url m mid url' m' post,
      es = pre ++ .submit url m (.ok .accepted) ::
        (mid ++ .submit url' m' (.ok .accepted) :: post) ∧
      m.queueKey = k ∧ m'.queueKey = k' := by
  obtain ⟨pre, e, after, rfl, -, he, hafter⟩ := List.filterMap_eq_cons_iff.1 h
  obtain ⟨mid, e', post, rfl, -, he', -⟩ := List.filterMap_eq_cons_iff.1 hafter
  obtain ⟨url, m, rfl, hm⟩ := Event.acceptedKey?_eq_some he
  obtain ⟨url', m', rfl, hm'⟩ := Event.acceptedKey?_eq_some he'
  exact ⟨pre, url, m, mid, url', m', post, rfl, hm, hm'⟩

def Server.accepting (vs : List Video) : Server where
  catalog _ := .ok (.folder (.mk "PlayOn" rootUrl false (some (vs.map .video))))
  items _ _ := .ok []
  search _ _ _ := .ok []
  details _ _ := .ok {}
  submit _ _ := .ok .accepted
  received _ := []

/-- One pass queues two videos of different keys from a memory list: the second submission
comes after the first was accepted. -/
theorem runPasses_submits_two_keys :
    ∃ pre url m mid url' m' answer post,
      (runPasses (.accepting [⟨"A", "/a", some { series := "S", title := "a" }⟩,
          ⟨"B", "/b", some { series := "S", title := "b" }⟩]) { queue := true }
          (.ofRecords (.empty .memory)) [⟨"Weekly", true, [.queue ⟨"*", "", false⟩ 0 .zero]⟩]).events =
        pre ++ .submit url m (.ok .accepted) :: (mid ++ .submit url' m' answer :: post) ∧
      RecordStore.memory.CanKeep m.queueKey ∧ m'.queueKey ≠ m.queueKey := by
  have hkeys : (runPasses (.accepting [⟨"A", "/a", some { series := "S", title := "a" }⟩,
      ⟨"B", "/b", some { series := "S", title := "b" }⟩]) { queue := true }
      (.ofRecords (.empty .memory))
      [⟨"Weekly", true, [.queue ⟨"*", "", false⟩ 0 .zero]⟩]).events.filterMap
        Event.acceptedKey? = ["S - a", "S - b"] := by
    decide +kernel
  obtain ⟨pre, url, m, mid, url', m', post, hsplit, -, -⟩ := exists_split_of_acceptedKeys hkeys
  exact ⟨pre, url, m, mid, url', m', _, post, hsplit, .inl rfl,
    runPasses_submits_once _ _ _ _ pre url m mid url' m' _ post hsplit (.inl rfl)⟩

/-- On the marker store a video whose marker name is longer than a directory takes is accepted
by the server and refused by the list; the next pass submits it again. -/
theorem runPasses_resubmits_unkept_key :
    ∃ pre url m mid url' m' answer post,
      (runPasses (.accepting [⟨"A", "/v", some
            { series := "S", title := String.ofList (List.replicate 240 'a') }⟩])
          { queue := true } (.ofRecords (.empty .markers))
          [⟨"Weekly", true, [.queue ⟨"*", "", false⟩ 0 .zero]⟩,
           ⟨"Weekly", true, [.queue ⟨"*", "", false⟩ 0 .zero]⟩]).events =
        pre ++ .submit url m (.ok .accepted) :: (mid ++ .submit url' m' answer :: post) ∧
      m'.queueKey = m.queueKey := by
  have hkeys : (runPasses (.accepting [⟨"A", "/v", some
        { series := "S", title := String.ofList (List.replicate 240 'a') }⟩])
      { queue := true } (.ofRecords (.empty .markers))
      [⟨"Weekly", true, [.queue ⟨"*", "", false⟩ 0 .zero]⟩,
       ⟨"Weekly", true, [.queue ⟨"*", "", false⟩ 0 .zero]⟩]).events.filterMap
        Event.acceptedKey? =
      ["S - " ++ String.ofList (List.replicate 240 'a'),
       "S - " ++ String.ofList (List.replicate 240 'a')] := by
    decide +kernel
  obtain ⟨pre, url, m, mid, url', m', post, hsplit, hm, hm'⟩ := exists_split_of_acceptedKeys hkeys
  exact ⟨pre, url, m, mid, url', m', _, post, hsplit, hm'.trans hm.symm⟩

end CatalogQueue
