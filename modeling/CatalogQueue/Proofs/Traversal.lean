import Mathlib.Data.List.Forall2
import CatalogQueue.Run

/-!
The reference walk of a pass over a catalog that never changes (`Catalog.visitActions`), and
folders that walk alike (`Folder.WalksAs`).
-/

namespace CatalogQueue

/-- A catalog whose answers never change: its root, the children listed at each address, the
results of each search (by the folder's address and the search term) and the details of the
video at each address. -/
structure Catalog where
  root : Item
  items : String → List Item
  search : String → String → List Item
  details : String → MediaInfo

namespace Selection

/-- Whether a selection picks an item: its name matches the pattern and not the exclusion
pattern. -/
def picks (sel : Selection) (i : Item) : Bool :=
  matchesPattern i.name sel.name && !matchesPattern i.name sel.exclude

/-- The items a selection picks among children, in listing order, or reversed as a whole when
the selection asks. -/
def candidates (sel : Selection) (children : List Item) : List Item :=
  if sel.reverse then (children.filter sel.picks).reverse else children.filter sel.picks

end Selection

def leadingVideos : List Item → List Video
  | .video v :: rest => v :: leadingVideos rest
  | _ => []

def leadingFolders : List Item → List Folder
  | .folder f :: rest => f :: leadingFolders rest
  | _ => []

namespace Catalog

variable (cat : Catalog)

def childrenOf (f : Folder) : List Item := f.children.getD (cat.items f.url)

def resultsOf (url term : String) : Folder := Run.resultsFolder url term (cat.search url term)

mutual

def visitActions (f : Folder) : List Action → List Video
  | [] => []
  | a :: rest => visitAction f a ++ visitActions f rest

def visitAction (f : Folder) : Action → List Video
  | .scan sel acts =>
    (leadingFolders (sel.candidates (cat.childrenOf f))).flatMap fun g => visitActions g acts
  | .search sel acts =>
    if f.searchable then visitActions (cat.resultsOf f.url sel.name) acts else []
  | .queue sel _ _ => leadingVideos (sel.candidates (cat.childrenOf f))

end

/-- The videos a pass's actions decide about, walking from the root; a root that is no folder
gives none. -/
def visitRoot (acts : List Action) : List Video :=
  match cat.root with
  | .folder r => cat.visitActions r acts
  | .video _ => []

@[simp] theorem visitActions_nil (f : Folder) : cat.visitActions f [] = [] := by
  simp [visitActions]

@[simp] theorem visitActions_cons (f : Folder) (a : Action) (rest : List Action) :
    cat.visitActions f (a :: rest) = cat.visitAction f a ++ cat.visitActions f rest := by
  simp [visitActions]

end Catalog

/-! ### Walking alike -/

/-- Two folders walk alike: they have one name, and any actions give videos of the same names
from both. -/
def Folder.WalksAs (cat : Catalog) (f' f : Folder) : Prop :=
  f'.name = f.name ∧
    ∀ acts, (cat.visitActions f' acts).map Video.name = (cat.visitActions f acts).map Video.name

/-- Two items are alike for a walk: videos of one name, or folders that walk alike. -/
def Item.WalksAs (cat : Catalog) : Item → Item → Prop
  | .video v', .video v => v'.name = v.name
  | .folder f', .folder f => Folder.WalksAs cat f' f
  | _, _ => False

variable {cat : Catalog}

theorem Folder.WalksAs.refl (f : Folder) : Folder.WalksAs cat f f := ⟨rfl, fun _ => rfl⟩

theorem Folder.WalksAs.trans {f f' f'' : Folder} (h : Folder.WalksAs cat f f')
    (h' : Folder.WalksAs cat f' f'') : Folder.WalksAs cat f f'' :=
  ⟨h.1.trans h'.1, fun acts => (h.2 acts).trans (h'.2 acts)⟩

theorem Item.WalksAs.refl : ∀ i : Item, Item.WalksAs cat i i
  | .video _ => rfl
  | .folder f => Folder.WalksAs.refl f

theorem Item.WalksAs.trans : ∀ {i i' i'' : Item}, Item.WalksAs cat i i' →
    Item.WalksAs cat i' i'' → Item.WalksAs cat i i''
  | .video _, .video _, .video _, h, h' => Eq.trans h h'
  | .folder _, .folder _, .folder _, h, h' => Folder.WalksAs.trans h h'

theorem Item.WalksAs.name_eq : ∀ {i' i : Item}, Item.WalksAs cat i' i → i'.name = i.name
  | .video _, .video _, h => h
  | .folder _, .folder _, h => h.1

/-- Items alike for a walk are picked alike: a selection reads names only. -/
theorem Selection.candidates_walksAs (sel : Selection) {cs' cs : List Item}
    (h : List.Forall₂ (Item.WalksAs cat) cs' cs) :
    List.Forall₂ (Item.WalksAs cat) (sel.candidates cs') (sel.candidates cs) := by
  have hfilter : List.Forall₂ (Item.WalksAs cat) (cs'.filter sel.picks) (cs.filter sel.picks) := by
    induction h with
    | nil => exact .nil
    | @cons x' x _ _ hx _ ih =>
      have hpick : sel.picks x' = sel.picks x := by simp [Selection.picks, hx.name_eq]
      rw [List.filter_cons, List.filter_cons, hpick]
      split
      · exact .cons hx ih
      · exact ih
  unfold Selection.candidates
  split
  · exact List.forall₂_reverse_iff.2 hfilter
  · exact hfilter

theorem leadingVideos_names {cs' cs : List Item} (h : List.Forall₂ (Item.WalksAs cat) cs' cs) :
    (leadingVideos cs').map Video.name = (leadingVideos cs).map Video.name := by
  induction h with
  | nil => rfl
  | @cons x' x _ _ hx _ ih =>
    cases x' <;> cases x <;> simp_all [leadingVideos, Item.WalksAs]

theorem leadingFolders_walksAs {cs' cs : List Item} (h : List.Forall₂ (Item.WalksAs cat) cs' cs) :
    List.Forall₂ (Folder.WalksAs cat) (leadingFolders cs') (leadingFolders cs) := by
  induction h with
  | nil => exact .nil
  | @cons x' x _ _ hx _ ih =>
    cases x' <;> cases x
    · exact .cons hx ih
    · exact hx.elim
    · exact hx.elim
    · exact .nil

theorem flatMap_walksAs (acts : List Action) {gs' gs : List Folder}
    (h : List.Forall₂ (Folder.WalksAs cat) gs' gs) :
    (gs'.flatMap fun g => cat.visitActions g acts).map Video.name =
      (gs.flatMap fun g => cat.visitActions g acts).map Video.name := by
  induction h with
  | nil => rfl
  | cons hg _ ih => simp only [List.flatMap_cons, List.map_append, hg.2 acts, ih]

@[simp] theorem Folder.name_withChildren (f : Folder) (cs : List Item) :
    (f.withChildren cs).name = f.name := rfl

@[simp] theorem Folder.url_withChildren (f : Folder) (cs : List Item) :
    (f.withChildren cs).url = f.url := rfl

@[simp] theorem Folder.searchable_withChildren (f : Folder) (cs : List Item) :
    (f.withChildren cs).searchable = f.searchable := rfl

@[simp] theorem Folder.children_withChildren (f : Folder) (cs : List Item) :
    (f.withChildren cs).children = some cs := rfl

@[simp] theorem Folder.withChildren_withChildren (f : Folder) (cs cs' : List Item) :
    (f.withChildren cs).withChildren cs' = f.withChildren cs' := rfl

@[simp] theorem Catalog.childrenOf_withChildren (f : Folder) (cs : List Item) :
    cat.childrenOf (f.withChildren cs) = cs := rfl

/-- A folder that keeps children alike to its own walks as it does: a walk reads a folder's
address, its search flag and its children only. -/
theorem Folder.walksAs_withChildren {f : Folder} {cs : List Item}
    (h : List.Forall₂ (Item.WalksAs cat) cs (cat.childrenOf f)) :
    Folder.WalksAs cat (f.withChildren cs) f := by
  refine ⟨rfl, fun acts => ?_⟩
  induction acts with
  | nil => rfl
  | cons a rest ih =>
    simp only [Catalog.visitActions_cons, List.map_append, ih]
    congr 1
    cases a with
    | scan sel acts =>
      simp only [Catalog.visitAction, Catalog.childrenOf_withChildren]
      exact flatMap_walksAs acts (leadingFolders_walksAs (sel.candidates_walksAs h))
    | search sel acts => rfl
    | queue sel _ _ =>
      simp only [Catalog.visitAction, Catalog.childrenOf_withChildren]
      exact leadingVideos_names (sel.candidates_walksAs h)

theorem Catalog.visitActions_of_empty {f : Folder} (hchildren : f.children = some [])
    (hsearch : f.searchable = false) (acts : List Action) : cat.visitActions f acts = [] := by
  induction acts with
  | nil => rfl
  | cons a rest ih =>
    rw [Catalog.visitActions_cons, ih, List.append_nil]
    cases a <;> simp [Catalog.visitAction, Catalog.childrenOf, hchildren, hsearch,
      Selection.candidates, leadingFolders, leadingVideos]

end CatalogQueue
