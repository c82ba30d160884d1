import WitBridge.Package.Parser
import WitBridge.Proofs.Version.Revision

/-!
# Places of versions

A slot is a place of a version in a tree, given by the trees that have each version there. The
lists of an interface, a world or a document are picked from the items that are read for it, so a
slot of one of these is a slot of an item.
-/
namespace WitBridge

/-- The place of the version in a path of another package. -/
inductive UsePath.Slot : (Option Version → UsePath) → Prop
  | external (vendor package : KebabName) (interface : Identifier) :
    Slot (.external vendor package interface)

/-- The place of the version in the path of a use. -/
inductive Use.Slot : (Option Version → Use) → Prop
  | path {path : Option Version → UsePath} (slot : UsePath.Slot path) (items : List UseItem)
    (renamed : Option Identifier) : Slot fun version => ⟨path version, items, renamed⟩

/-- The places of versions in the uses of an interface. -/
inductive Interface.Slot : (Option Version → Interface) → Prop
  | use (name : Identifier) (types : List TypeDefinition) (functions : List Function)
    {uses : Option Version → List Use} (slot : Listed Use.Slot uses) (docs : Documentation) :
    Slot fun version => ⟨name, types, functions, uses version, docs⟩

/-- The places of versions in what a world imports or exports. -/
inductive WorldItem.Slot : (Option Version → WorldItem) → Prop
  | inline (name : Identifier) {interface : Option Version → Interface}
    (slot : Interface.Slot interface) : Slot fun version => .inline name (interface version)
  | external (name : Identifier) {path : Option Version → UsePath} (slot : UsePath.Slot path) :
    Slot fun version => .external name (path version)

/-- The places of versions in the imports, exports and uses of a world. -/
inductive World.Slot : (Option Version → World) → Prop
  | imported (name : Identifier) {imports : Option Version → List WorldItem}
    (slot : Listed WorldItem.Slot imports) (exports : List WorldItem) (uses : List Use)
    (docs : Documentation) : Slot fun version => ⟨name, imports version, exports, uses, docs⟩
  | exported (name : Identifier) (imports : List WorldItem)
    {exports : Option Version → List WorldItem} (slot : Listed WorldItem.Slot exports)
    (uses : List Use) (docs : Documentation) :
    Slot fun version => ⟨name, imports, exports version, uses, docs⟩
  | use (name : Identifier) (imports exports : List WorldItem) {uses : Option Version → List Use}
    (slot : Listed Use.Slot uses) (docs : Documentation) :
    Slot fun version => ⟨name, imports, exports, uses version, docs⟩

/-- The places of versions in a document: in its header, its interfaces, its worlds and its uses. -/
inductive Package.Slot : (Option Version → Package) → Prop
  | header (vendor : KebabName) (nested : List KebabName) (name : KebabName) (docs : Documentation)
    (interfaces : List Interface) (worlds : List World) (uses : List Use) :
    Slot fun version => ⟨some ⟨vendor, nested, name, version, docs⟩, interfaces, worlds, uses⟩
  | interface (header : Option PackageHeader) {interfaces : Option Version → List Interface}
    (slot : Listed Interface.Slot interfaces) (worlds : List World) (uses : List Use) :
    Slot fun version => ⟨header, interfaces version, worlds, uses⟩
  | world (header : Option PackageHeader) (interfaces : List Interface)
    {worlds : Option Version → List World} (slot : Listed World.Slot worlds) (uses : List Use) :
    Slot fun version => ⟨header, interfaces, worlds version, uses⟩
  | use (header : Option PackageHeader) (interfaces : List Interface) (worlds : List World)
    {uses : Option Version → List Use} (slot : Listed Use.Slot uses) :
    Slot fun version => ⟨header, interfaces, worlds, uses version⟩

variable {α β : Type} {version : Option Version}

/-- Where items are picked from a list and the slot is in one of those picked, it is in an item of
the list, and another pick that passes over this item is the same for each version. -/
theorem Listed.exists_of_filterMap {Slot : (Option Version → α) → Prop}
    {ItemSlot : (Option Version → β) → Prop} {pick : β → Option α} (wrap : α → β)
    (pick_eq : ∀ item found, pick item = some found → item = wrap found)
    (picks : ∀ found, pick (wrap found) = some found)
    (wraps : ∀ {item}, Slot item → ItemSlot fun version => wrap (item version))
    {put : Option Version → List α} (slot : Listed Slot put) {items : List β}
    (same : items.filterMap pick = put version) :
    ∃ make, Listed ItemSlot make ∧ items = make version ∧
      (∀ found, (make found).filterMap pick = put found) ∧
      ∀ {γ : Type} (other : β → Option γ), (∀ found, other (wrap found) = none) →
        ∀ found, (make found).filterMap other = items.filterMap other := by
  obtain @⟨before, item, slot, after⟩ := slot
  obtain ⟨front, others, rfl, rfl, more⟩ := List.filterMap_eq_append_iff.1 same
  obtain ⟨passed, member, back, rfl, none, found, rfl⟩ := List.filterMap_eq_cons_iff.1 more
  obtain rfl := pick_eq member (item version) found
  have empty : passed.filterMap pick = [] := List.filterMap_eq_nil_iff.2 none
  refine ⟨fun version => (front ++ passed) ++ wrap (item version) :: back,
    .mk (front ++ passed) (wraps slot) back, by simp, fun version => ?_, ?_⟩
  · simp [picks, empty]
  · intro γ other misses found
    simp [misses]

/-- The places of versions in the items of an interface. -/
inductive InterfaceItem.Slot : (Option Version → InterfaceItem) → Prop
  | use {use : Option Version → Use} (slot : Use.Slot use) : Slot fun version => .use (use version)

/-- The places of versions in the members of a world. -/
inductive WorldMember.Slot : (Option Version → WorldMember) → Prop
  | imported {item : Option Version → WorldItem} (slot : WorldItem.Slot item) :
    Slot fun version => .imported (item version)
  | exported {item : Option Version → WorldItem} (slot : WorldItem.Slot item) :
    Slot fun version => .exported (item version)
  | use {use : Option Version → Use} (slot : Use.Slot use) : Slot fun version => .use (use version)

/-- The places of versions in the items of a document. -/
inductive PackageItem.Slot : (Option Version → PackageItem) → Prop
  | interface {interface : Option Version → Interface} (slot : Interface.Slot interface) :
    Slot fun version => .interface (interface version)
  | world {world : Option Version → World} (slot : World.Slot world) :
    Slot fun version => .world (world version)
  | use {use : Option Version → Use} (slot : Use.Slot use) : Slot fun version => .use (use version)

/-- The interface of some items. -/
def Interface.ofItems (name : Identifier) (docs : Documentation) (items : List InterfaceItem) :
    Interface :=
  { name := name, types := items.filterMap (·.type?), functions := items.filterMap (·.function?),
    uses := items.filterMap (·.use?), docs := docs }

/-- The world of some members. -/
def World.ofMembers (name : Identifier) (docs : Documentation) (members : List WorldMember) :
    World :=
  { name := name, imports := members.filterMap (·.imported?),
    exports := members.filterMap (·.exported?), uses := members.filterMap (·.use?), docs := docs }

/-- The document of a header and some items. -/
def Package.ofItems (header : Option PackageHeader) (items : List PackageItem) : Package :=
  { header := header, interfaces := items.filterMap (·.interface?),
    worlds := items.filterMap (·.world?), uses := items.filterMap (·.use?) }

/-- A slot of an interface is one of its items. -/
theorem Interface.Slot.exists_items {name : Identifier} {docs : Documentation}
    {items : List InterfaceItem} {put : Option Version → Interface} (slot : Interface.Slot put)
    (same : ofItems name docs items = put version) :
    ∃ make, Listed InterfaceItem.Slot make ∧ items = make version ∧
      ∀ found, ofItems name docs (make found) = put found := by
  obtain @⟨_, types, functions, uses, listed, _⟩ := slot
  obtain ⟨rfl, rfl, rfl, picked, rfl⟩ := Interface.mk.inj same
  obtain ⟨make, listed, rfl, puts, kept⟩ := listed.exists_of_filterMap .use
    (by rintro (_ | _ | _) _ ⟨⟩; rfl) (fun _ => rfl) InterfaceItem.Slot.use picked
  refine ⟨make, listed, rfl, fun found => ?_⟩
  rw [ofItems, puts, kept (·.type?) fun _ => rfl, kept (·.function?) fun _ => rfl]

/-- A slot of a world is one of its members. -/
theorem World.Slot.exists_members {name : Identifier} {docs : Documentation}
    {members : List WorldMember} {put : Option Version → World} (slot : World.Slot put)
    (same : ofMembers name docs members = put version) :
    ∃ make, Listed WorldMember.Slot make ∧ members = make version ∧
      ∀ found, ofMembers name docs (make found) = put found := by
  cases slot with
  | imported _ listed exports uses _ =>
    obtain ⟨rfl, picked, rfl, rfl, rfl⟩ := World.mk.inj same
    obtain ⟨make, listed, rfl, puts, kept⟩ := listed.exists_of_filterMap .imported
      (by rintro (_ | _ | _ | _) _ ⟨⟩; rfl) (fun _ => rfl) WorldMember.Slot.imported picked
    refine ⟨make, listed, rfl, fun found => ?_⟩
    rw [ofMembers, puts, kept (·.exported?) fun _ => rfl, kept (·.use?) fun _ => rfl]
  | exported _ imports listed uses _ =>
    obtain ⟨rfl, rfl, picked, rfl, rfl⟩ := World.mk.inj same
    obtain ⟨make, listed, rfl, puts, kept⟩ := listed.exists_of_filterMap .exported
      (by rintro (_ | _ | _ | _) _ ⟨⟩; rfl) (fun _ => rfl) WorldMember.Slot.exported picked
    refine ⟨make, listed, rfl, fun found => ?_⟩
    rw [ofMembers, puts, kept (·.imported?) fun _ => rfl, kept (·.use?) fun _ => rfl]
  | use _ imports exports listed _ =>
    obtain ⟨rfl, rfl, rfl, picked, rfl⟩ := World.mk.inj same
    obtain ⟨make, listed, rfl, puts, kept⟩ := listed.exists_of_filterMap .use
      (by rintro (_ | _ | _ | _) _ ⟨⟩; rfl) (fun _ => rfl) WorldMember.Slot.use picked
    refine ⟨make, listed, rfl, fun found => ?_⟩
    rw [ofMembers, puts, kept (·.imported?) fun _ => rfl, kept (·.exported?) fun _ => rfl]

/-- A slot of a document is its header or one of its items. -/
theorem Package.Slot.exists_items {header : Option PackageHeader} {items : List PackageItem}
    {put : Option Version → Package} (slot : Package.Slot put)
    (same : ofItems header items = put version) :
    (∃ vendor nested name docs, header = some ⟨vendor, nested, name, version, docs⟩ ∧
      ∀ found, ofItems (some ⟨vendor, nested, name, found, docs⟩) items = put found) ∨
    ∃ make, Listed PackageItem.Slot make ∧ items = make version ∧
      ∀ found, ofItems header (make found) = put found := by
  cases slot with
  | header vendor nested name docs interfaces worlds uses =>
    obtain ⟨rfl, rfl, rfl, rfl⟩ := Package.mk.inj same
    exact .inl ⟨vendor, nested, name, docs, rfl, fun _ => rfl⟩
  | interface _ listed worlds uses =>
    obtain ⟨rfl, picked, rfl, rfl⟩ := Package.mk.inj same
    obtain ⟨make, listed, rfl, puts, kept⟩ := listed.exists_of_filterMap .interface
      (by rintro (_ | _ | _) _ ⟨⟩; rfl) (fun _ => rfl) PackageItem.Slot.interface picked
    refine .inr ⟨make, listed, rfl, fun found => ?_⟩
    rw [ofItems, puts, kept (·.world?) fun _ => rfl, kept (·.use?) fun _ => rfl]
  | world _ interfaces listed uses =>
    obtain ⟨rfl, rfl, picked, rfl⟩ := Package.mk.inj same
    obtain ⟨make, listed, rfl, puts, kept⟩ := listed.exists_of_filterMap .world
      (by rintro (_ | _ | _) _ ⟨⟩; rfl) (fun _ => rfl) PackageItem.Slot.world picked
    refine .inr ⟨make, listed, rfl, fun found => ?_⟩
    rw [ofItems, puts, kept (·.interface?) fun _ => rfl, kept (·.use?) fun _ => rfl]
  | use _ interfaces worlds listed =>
    obtain ⟨rfl, rfl, rfl, picked⟩ := Package.mk.inj same
    obtain ⟨make, listed, rfl, puts, kept⟩ := listed.exists_of_filterMap .use
      (by rintro (_ | _ | _) _ ⟨⟩; rfl) (fun _ => rfl) PackageItem.Slot.use picked
    refine .inr ⟨make, listed, rfl, fun found => ?_⟩
    rw [ofItems, puts, kept (·.interface?) fun _ => rfl, kept (·.world?) fun _ => rfl]

end WitBridge
