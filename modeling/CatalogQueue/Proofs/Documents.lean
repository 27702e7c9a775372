import Mathlib
import CatalogQueue.Client
import CatalogQueue.Proofs.Reasoning

/-!
Catalog documents and the items they become: reading succeeds exactly when every node looked
at is a folder or a video, and otherwise fails on the first one that is neither.
-/

namespace CatalogQueue

def Group.isKnown (g : Group) : Bool := g.kind == "folder" || g.kind == "video"

mutual

/-- The nodes that reading a node looks at, in document order: the node, then, for a folder,
the nodes looked at in each node it lists. -/
def Group.visited : Group → List Group
  | g@⟨kind, _, _, _, groups, _, _, _, _, _, _, _⟩ =>
    g :: if kind == "folder" then Group.visitedAll groups else []

def Group.visitedAll : List Group → List Group
  | [] => []
  | g :: gs => g.visited ++ Group.visitedAll gs

end

def SaysYes (v : String) : Prop :=
  List.Forall₂ (fun c l => c = l ∨ c = l.toUpper) v.toList "true".toList ∨ v = "1"

/-! ### Equations -/

namespace Group

def flag (g : Group) : Bool := (g.searchable.map isSearchFlag).getD false

theorem toItem_eq (g : Group) : g.toItem =
    if g.kind == "folder" then
      if g.groups.isEmpty then .ok (.folder (.mk g.name g.href g.flag none))
      else (toItems g.groups).map fun cs => .folder (.mk g.name g.href g.flag (some cs))
    else if g.kind == "video" then .ok (.video { name := g.name, url := g.href })
    else .error (.unhandledNode g.kind) := by
  obtain ⟨kind, name, href, searchable, groups, _, _, _, _, _, _, _⟩ := g
  simp only [toItem, flag]
  split
  · split
    · rfl
    · cases toItems groups <;> rfl
  · rfl

@[simp] theorem toItems_nil : toItems [] = .ok [] := rfl

theorem toItems_cons (g : Group) (gs : List Group) :
    toItems (g :: gs) = g.toItem >>= fun i => (toItems gs).map (i :: ·) := by
  simp only [toItems]
  cases g.toItem <;> cases toItems gs <;> rfl

theorem visited_eq (g : Group) :
    g.visited = g :: if g.kind == "folder" then visitedAll g.groups else [] := by
  obtain ⟨kind, name, href, searchable, groups, _, _, _, _, _, _, _⟩ := g
  simp [visited]

@[simp] theorem visitedAll_nil : visitedAll [] = [] := by simp [visitedAll]

@[simp] theorem visitedAll_cons (g : Group) (gs : List Group) :
    visitedAll (g :: gs) = g.visited ++ visitedAll gs := by simp [visitedAll]

/-! ### Which documents can be read -/

def firstUnknown? (nodes : List Group) : Option Group := nodes.find? (!·.isKnown)

theorem firstUnknown?_cons_known {g : Group} (hg : g.isKnown = true) (nodes : List Group) :
    firstUnknown? (g :: nodes) = firstUnknown? nodes := by
  simp [firstUnknown?, hg]

theorem firstUnknown?_append (nodes nodes' : List Group) :
    firstUnknown? (nodes ++ nodes') = (firstUnknown? nodes).or (firstUnknown? nodes') := by
  simp [firstUnknown?, List.find?_append]

/-- The error of a reading names the first unknown node it looked at. -/
def FailsOn (nodes : List Group) (e : ServerError) : Prop :=
  ∃ n, firstUnknown? nodes = some n ∧ e = .unhandledNode n.kind

theorem failsOn_cons_known {g : Group} (hg : g.isKnown = true) (nodes : List Group)
    (e : ServerError) : FailsOn (g :: nodes) e ↔ FailsOn nodes e := by
  simp [FailsOn, firstUnknown?_cons_known hg]

theorem failsOn_append_of_none {nodes : List Group} (h : firstUnknown? nodes = none)
    (nodes' : List Group) (e : ServerError) : FailsOn (nodes ++ nodes') e ↔ FailsOn nodes' e := by
  simp [FailsOn, firstUnknown?_append, h]

theorem failsOn_append_of_some {nodes : List Group} {n : Group} (h : firstUnknown? nodes = some n)
    (nodes' : List Group) (e : ServerError) :
    FailsOn (nodes ++ nodes') e ↔ e = .unhandledNode n.kind := by
  simp [FailsOn, firstUnknown?_append, h]

theorem map_eq_error {α β : Type} (f : α → β) (x : Except ServerError α) (e : ServerError) :
    x.map f = .error e ↔ x = .error e := by
  cases x <;> simp [Except.map]

/-- Reading a node fails exactly on the first unknown node it looks at, and so does reading a
list of nodes. -/
theorem toItem_error_iff_and_toItems :
    (∀ (g : Group) (e : ServerError), g.toItem = .error e ↔ FailsOn g.visited e) ∧
      (∀ (gs : List Group) (e : ServerError), toItems gs = .error e ↔ FailsOn (visitedAll gs) e) := by
  -- along the reading: a folder that lists nodes fails as its list does, since the folder itself
  -- is known; a list fails on its first node's error, and past a node that reads well, on the rest
  refine ⟨toItem.induct (fun g => ∀ e, g.toItem = .error e ↔ FailsOn g.visited e)
    (fun gs => ∀ e, toItems gs = .error e ↔ FailsOn (visitedAll gs) e)
    ?emptyFolder ?folder ?video ?unknown ?nil ?cons, toItems.induct _ _
    ?emptyFolder ?folder ?video ?unknown ?nil ?cons⟩
  case emptyFolder =>
    intro kind name href searchable groups _ _ _ _ _ _ _ hkind hempty e
    have hgroups : groups = [] := List.isEmpty_iff.1 hempty
    subst hgroups
    simp [toItem_eq, visited_eq, hkind, FailsOn, firstUnknown?, isKnown]
  case folder =>
    intro kind name href searchable groups _ _ _ _ _ _ _ hkind hempty ih e
    rw [toItem_eq, visited_eq]
    simp only [hkind, if_true, hempty, Bool.false_eq_true, if_false, map_eq_error]
    rw [failsOn_cons_known (by simp [isKnown, hkind])]
    exact ih e
  case video =>
    intro kind name href searchable groups _ _ _ _ _ _ _ hfolder hvideo e
    simp [toItem_eq, visited_eq, hfolder, hvideo, FailsOn, firstUnknown?, isKnown]
  case unknown =>
    intro kind name href searchable groups _ _ _ _ _ _ _ hfolder hvideo e
    simp [toItem_eq, visited_eq, hfolder, hvideo, FailsOn, firstUnknown?, isKnown, eq_comm]
  case nil => simp [FailsOn, firstUnknown?]
  case cons =>
    intro g gs ihg ihgs e
    rw [toItems_cons, visitedAll_cons]
    cases hg : g.toItem with
    | error e' =>
      -- the first node's error, on the first unknown node it looked at
      obtain ⟨n, hn, rfl⟩ := (ihg e').1 hg
      rw [failsOn_append_of_some hn]
      show Except.error (ServerError.unhandledNode n.kind) = .error e ↔ _
      simp [eq_comm]
    | ok i =>
      -- the first node reads well, so it looked at no unknown node
      have hnone : firstUnknown? g.visited = none := by
        cases hn : firstUnknown? g.visited with
        | none => rfl
        | some n => simp [(ihg _).2 ⟨n, hn, rfl⟩] at hg
      rw [failsOn_append_of_none hnone, ← ihgs e]
      exact map_eq_error _ _ _

theorem toItem_error_iff (g : Group) (e : ServerError) : g.toItem = .error e ↔ FailsOn g.visited e :=
  toItem_error_iff_and_toItems.1 g e

theorem toItems_error_iff (gs : List Group) (e : ServerError) :
    toItems gs = .error e ↔ FailsOn (visitedAll gs) e :=
  toItem_error_iff_and_toItems.2 gs e

theorem exists_ok_iff {α : Type} (x : Except ServerError α) (nodes : List Group)
    (herror : ∀ e, x = .error e ↔ FailsOn nodes e) :
    (∃ a, x = .ok a) ↔ ∀ n ∈ nodes, n.isKnown = true := by
  have hnone : (∀ n ∈ nodes, n.isKnown = true) ↔ firstUnknown? nodes = none := by
    simp [firstUnknown?, List.find?_eq_none]
  rw [hnone]
  cases x with
  | ok a =>
    refine iff_of_true ⟨a, rfl⟩ ?_
    cases hn : firstUnknown? nodes with
    | none => rfl
    | some n => exact absurd ((herror _).2 ⟨n, hn, rfl⟩) (by simp)
  | error e =>
    obtain ⟨n, hn, -⟩ := (herror e).1 rfl
    simp [hn]

theorem toItem_ok_iff (g : Group) : (∃ i, g.toItem = .ok i) ↔ ∀ n ∈ g.visited, n.isKnown = true :=
  exists_ok_iff _ _ (toItem_error_iff g)

theorem toItems_ok_iff (gs : List Group) :
    (∃ cs, toItems gs = .ok cs) ↔ ∀ n ∈ visitedAll gs, n.isKnown = true :=
  exists_ok_iff _ _ (toItems_error_iff gs)

theorem toItems_eq_ok_iff (gs : List Group) (cs : List Item) :
    toItems gs = .ok cs ↔ List.Forall₂ (fun g c => g.toItem = .ok c) gs cs := by
  induction gs generalizing cs with
  | nil => cases cs <;> simp [toItems_nil]
  | cons g gs ih =>
    rw [toItems_cons]
    cases hg : g.toItem with
    | error e => cases cs <;> simp [bind, Except.bind, hg]
    | ok i =>
      cases hgs : toItems gs with
      | error e => cases cs <;> simp [bind, Except.bind, Except.map, ← ih, hgs]
      | ok is => cases cs <;> simp [bind, Except.bind, Except.map, ← ih, hgs, hg]

end Group

/-! ### What the items hold -/

theorem toLower_eq_iff_of_isLower {c l : Char} (hl : l.isLower = true) :
    c.toLower = l ↔ c = l ∨ c = l.toUpper := by
  simp only [Char.isLower, Bool.and_eq_true, decide_eq_true_eq] at hl
  unfold Char.toLower Char.toUpper
  rw [dif_pos (show 'a'.val ≤ l.val ∧ l.val ≤ 'z'.val from ⟨hl.1, hl.2⟩)]
  -- the case shift is 32 code points either way, in 32-bit arithmetic
  have hA : 'A'.val.toNat = 65 := rfl
  have hZ : 'Z'.val.toNat = 90 := rfl
  have ha : 'a'.val.toNat = 97 := rfl
  have hz : 'z'.val.toNat = 122 := rfl
  have hc := c.val.toNat_lt
  simp only [Char.ext_iff, ← UInt32.toNat_inj, UInt32.le_iff_toNat_le, UInt32.toNat_add,
    UInt32.toNat_sub, hA, hZ, ha, hz] at hl ⊢
  split
  · simp only [UInt32.toNat_add, UInt32.toNat_sub, hA, ha]
    omega
  · omega

theorem isSearchFlag_iff (v : String) : isSearchFlag v = true ↔ SaysYes v := by
  simp only [isSearchFlag, Bool.or_eq_true, beq_iff_eq, SaysYes]
  refine or_congr_left ?_
  rw [← String.toList_inj, String.toLower, String.toList_map, ← List.forall₂_eq_eq_eq,
    List.forall₂_map_left_iff, List.forall₂_iff_zip, List.forall₂_iff_zip]
  refine and_congr_right fun _ => forall₂_congr fun c l => imp_congr_right fun hmem => ?_
  have hlower : ∀ l ∈ "true".toList, l.isLower = true := by
    intro l hl
    rw [show "true".toList = ['t', 'r', 'u', 'e'] from rfl] at hl
    simp only [List.mem_cons, List.not_mem_nil, or_false] at hl
    rcases hl with rfl | rfl | rfl | rfl <;> rfl
  exact toLower_eq_iff_of_isLower (hlower l (List.of_mem_zip hmem).2)

namespace Group

theorem flag_iff (g : Group) : g.flag = true ↔ ∃ v, g.searchable = some v ∧ SaysYes v := by
  cases h : g.searchable <;> simp [flag, h, isSearchFlag_iff]

/-- A video node reads as a video with the node's name and address and no details, whatever
else the node holds. -/
theorem toItem_video {g : Group} (hkind : g.kind = "video") :
    g.toItem = .ok (.video { name := g.name, url := g.href }) := by
  simp [toItem_eq, hkind]

/-- What a folder read from a node holds: the node's name and address, its search flag, and,
exactly when the node lists nodes, the items those nodes read as. -/
structure ReadsAsFolder (g : Group) (f : Folder) : Prop where
  name : f.name = g.name
  url : f.url = g.href
  searchable : f.searchable = true ↔ ∃ v, g.searchable = some v ∧ SaysYes v
  loaded : f.children.isSome ↔ g.groups ≠ []
  children : ∀ cs, f.children = some cs → List.Forall₂ (fun n c => n.toItem = .ok c) g.groups cs

theorem toItem_folder {g : Group} (hkind : g.kind = "folder") {i : Item} (h : g.toItem = .ok i) :
    ∃ f, i = .folder f ∧ ReadsAsFolder g f := by
  rw [toItem_eq, hkind] at h
  simp only [beq_self_eq_true, if_true] at h
  split at h
  · next hempty =>
    -- a folder that lists nothing is read unloaded
    cases h
    have hgroups : g.groups = [] := List.isEmpty_iff.1 hempty
    exact ⟨_, rfl, rfl, rfl, flag_iff g, by simp [Folder.children, hgroups], by simp [Folder.children]⟩
  · next hempty =>
    obtain ⟨cs, hcs, rfl⟩ : ∃ cs, toItems g.groups = .ok cs ∧ i = .folder (.mk g.name g.href g.flag (some cs)) := by
      cases hcs : toItems g.groups <;> simp_all [Except.map]
    refine ⟨_, rfl, rfl, rfl, flag_iff g, ?_, ?_⟩
    · simpa [Folder.children] using hempty
    · intro cs' hcs'
      cases hcs'
      exact (toItems_eq_ok_iff _ _).1 hcs

end Group

/-! ### Through the client -/

namespace Transport

variable (t : Transport) (sent : List Request)

theorem server_catalog {g : Group} (h : t.document rootUrl = .ok g) :
    t.server.catalog sent = g.toItem := by
  simp [server, h, bind, Except.bind]

theorem server_items {url : String} {g : Group} (h : t.document url = .ok g) :
    t.server.items sent url = g.toChildren := by
  simp [server, h, bind, Except.bind]

theorem server_search {url term : String} {g : Group}
    (h : t.document (Url.searchUrl url term) = .ok g) :
    t.server.search sent url term = g.toChildren := by
  simp [server, h, bind, Except.bind]

end Transport

/-- The folder of search results holds its results, even none, so it never fetches children;
it is named for the term, at the search's address, and cannot be searched. -/
theorem Run.resultsFolder_loaded (url term : String) (cs : List Item) :
    (Run.resultsFolder url term cs).children = some cs ∧
      (Run.resultsFolder url term cs).searchable = false ∧
      (Run.resultsFolder url term cs).name = "Search results for " ++ Run.quote term ∧
      (Run.resultsFolder url term cs).url = Url.searchUrl url term :=
  ⟨rfl, rfl, rfl, rfl⟩

theorem Run.exec_childrenOf_of_loaded (srv : Server) {f : Folder} {cs : List Item}
    (h : f.children = some cs) (s : RunState) :
    (Run.childrenOf srv f).exec s = (.ok (f, cs), s) := by
  simp [Run.childrenOf, h]

/-- Reading catalog documents. A node reads well exactly when every node it looks at (itself,
and below each folder the nodes it lists) is a folder or a video, and otherwise fails on the
first such node that is neither, in document order; a list of nodes, as the children of any
document, reads the same way. A video node reads as a video with its name and address and no
details; a folder node as a folder with its name, address and search flag, loaded exactly when
it lists nodes, with the items they read as. The client's catalog root, children and search
results are these readings of the documents it fetches, and the folder of search results is
always loaded and never searchable. -/
theorem Group.reads_catalog_documents :
    (∀ g : Group,
      ((∃ i, g.toItem = .ok i) ↔ ∀ n ∈ g.visited, n.isKnown = true) ∧
      (∀ e, g.toItem = .error e ↔ Group.FailsOn g.visited e) ∧
      (g.kind = "video" → g.toItem = .ok (.video { name := g.name, url := g.href })) ∧
      (g.kind = "folder" → ∀ i, g.toItem = .ok i → ∃ f, i = .folder f ∧ Group.ReadsAsFolder g f) ∧
      ((∃ cs, g.toChildren = .ok cs) ↔ ∀ n ∈ Group.visitedAll g.groups, n.isKnown = true) ∧
      (∀ e, g.toChildren = .error e ↔ Group.FailsOn (Group.visitedAll g.groups) e) ∧
      (∀ cs, g.toChildren = .ok cs ↔ List.Forall₂ (fun n c => n.toItem = .ok c) g.groups cs)) ∧
    (∀ (t : Transport) (sent : List Request) (g : Group),
      (t.document rootUrl = .ok g → t.server.catalog sent = g.toItem) ∧
      (∀ url, t.document url = .ok g → t.server.items sent url = g.toChildren) ∧
      (∀ url term, t.document (Url.searchUrl url term) = .ok g →
        t.server.search sent url term = g.toChildren)) ∧
    (∀ url term cs, (Run.resultsFolder url term cs).children = some cs ∧
      (Run.resultsFolder url term cs).searchable = false) ∧
    (∀ (srv : Server) (f : Folder) (cs : List Item) (s : RunState), f.children = some cs →
      (Run.childrenOf srv f).exec s = (.ok (f, cs), s)) :=
  ⟨fun g => ⟨Group.toItem_ok_iff g, Group.toItem_error_iff g, Group.toItem_video,
      fun hkind _ h => Group.toItem_folder hkind h, Group.toItems_ok_iff g.groups,
      Group.toItems_error_iff g.groups, Group.toItems_eq_ok_iff g.groups⟩,
    fun t sent _ => ⟨t.server_catalog sent, fun _ => t.server_items sent,
      fun _ _ => t.server_search sent⟩,
    fun url term cs => ⟨(Run.resultsFolder_loaded url term cs).1,
      (Run.resultsFolder_loaded url term cs).2.1⟩,
    fun srv _ _ s h => Run.exec_childrenOf_of_loaded srv h s⟩

/-- A root document that lists two folders, the second flagged searchable, reads as a loaded
folder whose children are unloaded folders. -/
theorem Group.reads_listed_folders :
    let root : Group :=
      { kind := "folder", name := "PlayOn", href := rootUrl
        groups := [{ kind := "folder", name := "Random TV Network", href := "/data/data.xml?id=rtv" },
                   { kind := "folder", name := "Static TV Network", href := "/data/data.xml?id=stv"
                     searchable := some "True" }] }
    root.kind = "folder" ∧ ∃ f, root.toItem = .ok (.folder f) ∧ Group.ReadsAsFolder root f := by
  intro root
  obtain ⟨i, hi⟩ : ∃ i, root.toItem = .ok i := ⟨_, rfl⟩
  obtain ⟨f, rfl, hf⟩ := (Group.reads_catalog_documents.1 root).2.2.2.1 rfl i hi
  exact ⟨rfl, f, hi, hf⟩

end CatalogQueue
