import CatalogQueue.Media
import CatalogQueue.Server.Error

/-!
The catalog tree of a media server and the documents it is read from. A folder's children and
a video's details are fetched when first needed and kept with the item (`none`: not fetched
yet). A node of kind `folder` or `video` becomes that item; any other kind is refused.
-/

namespace CatalogQueue

/-- A video of the catalog: its name, its address, and its details once fetched. -/
structure Video where
  name : String
  url : String
  details : Option MediaInfo := none
  deriving Inhabited

mutual

/-- A node of the catalog tree. -/
inductive Item where
  | folder (f : Folder)
  | video (v : Video)

/-- A folder of the catalog: its name, its address, whether the server can search in it, and
its children once fetched. -/
inductive Folder where
  | mk (name url : String) (searchable : Bool) (children : Option (List Item))

end

instance : Inhabited Folder := ⟨.mk "" "" false none⟩

instance : Inhabited Item := ⟨.video default⟩

namespace Folder

def name : Folder → String
  | .mk name _ _ _ => name

def url : Folder → String
  | .mk _ url _ _ => url

def searchable : Folder → Bool
  | .mk _ _ searchable _ => searchable

def children : Folder → Option (List Item)
  | .mk _ _ _ children => children

def withChildren (f : Folder) (children : List Item) : Folder :=
  .mk f.name f.url f.searchable (some children)

end Folder

namespace Item

def name : Item → String
  | .folder f => f.name
  | .video v => v.name

def url : Item → String
  | .folder f => f.url
  | .video v => v.url

end Item

/-! ### Catalog documents -/

/-- A media node of a detail document: a name, a source address and an artwork address. -/
structure Source where
  name : String := ""
  src : String := ""
  art : String := ""
  deriving Inhabited, DecidableEq, Repr

/-- A node of a catalog document: its kind, name and address, its search flag text, the nodes
it lists, and the detail nodes of a video (each given by its name text). -/
structure Group where
  kind : String := ""
  name : String := ""
  href : String := ""
  searchable : Option String := none
  groups : List Group := []
  media : Option Source := none
  playLater : Option Source := none
  date : Option String := none
  description : Option String := none
  mediaTitle : Option String := none
  time : Option String := none
  series : Option String := none
  deriving Inhabited

/-- Whether a search flag text says yes: `true` in any case of letters, or `1`. -/
def isSearchFlag (v : String) : Bool := v.toLower == "true" || v == "1"

mutual

def Group.toItem : Group → Except ServerError Item
  | ⟨kind, name, href, searchable, groups, _, _, _, _, _, _, _⟩ =>
    if kind == "folder" then do
      let flag := (searchable.map isSearchFlag).getD false
      if groups.isEmpty then pure (.folder (.mk name href flag none))
      else pure (.folder (.mk name href flag (some (← Group.toItems groups))))
    else if kind == "video" then pure (.video { name, url := href })
    else .error (.unhandledNode kind)

/-- The catalog items of a list of nodes, in order; the first refused node ends the list. -/
def Group.toItems : List Group → Except ServerError (List Item)
  | [] => pure []
  | g :: gs => do
    let i ← g.toItem
    let is ← Group.toItems gs
    pure (i :: is)

end

def Group.toChildren (g : Group) : Except ServerError (List Item) := Group.toItems g.groups

def Group.hasDetails (g : Group) : Bool :=
  g.media.isSome || g.playLater.isSome || g.date.isSome || g.description.isSome ||
    g.mediaTitle.isSome || g.time.isSome || g.series.isSome

def Group.toDetails (g : Group) : MediaInfo :=
  if !g.hasDetails then {}
  else
    let media := g.media.getD {}
    let playLater := g.playLater.getD {}
    { series := g.series.getD "", title := g.mediaTitle.getD "", runTime := g.time.getD "",
      description := g.description.getD "", airDate := g.date.getD "", artUrl := media.art,
      mediaUrl := media.src, playLaterName := playLater.name, playLaterUrl := playLater.src }

end CatalogQueue
