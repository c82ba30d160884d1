import WitBridge.Proofs.Type.Nodes

/-!
# Where nodes stand

A node of a type stands at a site: the way down to it says which child to go to at each step. The
sites of a type in pre-order are the ends of its ways down in the order of the ways, a way before
its continuations, and the nodes of the type stand at them in this order.
-/
namespace WitBridge.TypeExpr

/-- A node of a type and the way down to it: which child to go to at each step. -/
structure Site where
  way : List Nat
  node : TypeExpr
  deriving DecidableEq, Repr

/-- The site in a type of which the type of the site is the child of an index. -/
def Site.under (index : Nat) (site : Site) : Site :=
  ⟨index :: site.way, site.node⟩

/-- Whether a site is one of a proper ancestor of what stands at another. -/
def Site.IsAbove (upper lower : Site) : Prop :=
  upper.way <+: lower.way ∧ upper.way ≠ lower.way

instance (upper lower : Site) : Decidable (upper.IsAbove lower) :=
  inferInstanceAs (Decidable (_ ∧ _))

/-- The sites of a type in pre-order. -/
def sites (type : TypeExpr) : List Site :=
  ⟨[], type⟩ :: type.children.attach.zipIdx.flatMap fun (⟨child, _⟩, index) =>
    (sites child).map (·.under index)
termination_by sizeOf type
decreasing_by exact sizeOf_child ‹_›

/-- What stands at the end of a way down. -/
def at? : List Nat → TypeExpr → Option TypeExpr
  | [], type => some type
  | index :: way, type => type.children[index]?.bind (at? way)

/-- The sites below a type of which these are the children from an index on. -/
def sitesBelow (start : Nat) (children : List TypeExpr) : List Site :=
  (children.zipIdx start).flatMap fun (child, index) => child.sites.map (·.under index)

/-- A type comes before the sites below it. -/
theorem sites_eq (type : TypeExpr) : type.sites = ⟨[], type⟩ :: sitesBelow 0 type.children := by
  rw [sites, sitesBelow]
  congr 1
  conv => rhs; rw [← List.attach_map_subtype_val type.children, List.zipIdx_map, List.flatMap_map]
  rfl

/-- The sites below the first child come before those below the others. -/
theorem sitesBelow_cons (start : Nat) (child : TypeExpr) (more : List TypeExpr) :
    sitesBelow start (child :: more) =
      child.sites.map (·.under start) ++ sitesBelow (start + 1) more := by
  simp [sitesBelow, List.zipIdx_cons]

/-- The nodes at the sites are the nodes in pre-order. -/
theorem map_node_sites (type : TypeExpr) : type.sites.map Site.node = type.nodes := by
  induction type using induct with
  | step type ih =>
    rw [sites_eq, nodes_eq, List.map_cons]
    congr 1
    generalize type.children = children at ih
    generalize 0 = start
    induction children generalizing start with
    | nil => rfl
    | cons first rest each =>
      have others := each (fun child listed => ih child (List.mem_cons_of_mem first listed))
      rw [sitesBelow_cons, List.map_append, others, List.flatMap_cons, List.map_map]
      congr 1
      exact ih first List.mem_cons_self

/-- A site below a type is a site of a child, under the index of the child. -/
theorem mem_sitesBelow {start : Nat} {children : List TypeExpr} {site : Site}
    (below : site ∈ sitesBelow start children) :
    ∃ (offset : Nat) (child : TypeExpr), children[offset]? = some child ∧
      ∃ inner ∈ child.sites, site = inner.under (start + offset) := by
  induction children generalizing start with
  | nil => contradiction
  | cons first rest ih =>
    rw [sitesBelow_cons, List.mem_append] at below
    rcases below with below | below
    · obtain ⟨inner, listed, rfl⟩ := List.mem_map.1 below
      exact ⟨0, first, rfl, inner, listed, rfl⟩
    · obtain ⟨offset, child, place, inner, listed, rfl⟩ := ih below
      have index : start + 1 + offset = start + (offset + 1) := by omega
      exact ⟨offset + 1, child, place, inner, listed, by rw [index]⟩

/-- A child of an index brings its sites to those below the type. -/
theorem under_mem_sitesBelow {start offset : Nat} {children : List TypeExpr} {child : TypeExpr}
    {inner : Site} (place : children[offset]? = some child) (listed : inner ∈ child.sites) :
    inner.under (start + offset) ∈ sitesBelow start children := by
  induction children generalizing start offset with
  | nil => simp at place
  | cons first rest ih =>
    rw [sitesBelow_cons, List.mem_append]
    cases offset with
    | zero =>
      obtain rfl : first = child := by simpa using place
      exact .inl (List.mem_map_of_mem listed)
    | succ offset =>
      have index : start + (offset + 1) = start + 1 + offset := by omega
      rw [index]
      exact .inr (ih (by simpa using place))

/-- The sites of a type are those where its ways down end. -/
theorem mem_sites_iff {type : TypeExpr} {site : Site} :
    site ∈ type.sites ↔ type.at? site.way = some site.node := by
  obtain ⟨way, node⟩ := site
  induction way generalizing type node with
  | nil =>
    rw [sites_eq, List.mem_cons, at?]
    constructor
    · rintro (same | below)
      · exact congrArg some (congrArg Site.node same).symm
      · obtain ⟨offset, child, -, inner, -, same⟩ := mem_sitesBelow below
        cases congrArg Site.way same
    · rintro ⟨⟩
      exact .inl rfl
  | cons index way ih =>
    rw [sites_eq, List.mem_cons, at?, Option.bind_eq_some_iff]
    constructor
    · rintro (same | below)
      · cases congrArg Site.way same
      · obtain ⟨offset, child, place, inner, listed, same⟩ := mem_sitesBelow below
        obtain ⟨position, rfl⟩ := List.cons.inj (congrArg Site.way same)
        obtain rfl : node = inner.node := congrArg Site.node same
        rw [Nat.zero_add] at position
        exact ⟨child, position ▸ place, (ih _).1 listed⟩
    · rintro ⟨child, place, ends⟩
      have below : Site.under (0 + index) ⟨way, node⟩ ∈ sitesBelow 0 type.children :=
        under_mem_sitesBelow place ((ih _).2 ends)
      rw [Nat.zero_add] at below
      exact .inr below

/-- The sites below a type come in the order of their ways if those of its children do. -/
theorem pairwise_sitesBelow {start : Nat} {children : List TypeExpr}
    (each : ∀ child ∈ children, child.sites.Pairwise fun first second => first.way < second.way) :
    (sitesBelow start children).Pairwise fun first second => first.way < second.way := by
  induction children generalizing start with
  | nil => exact List.Pairwise.nil
  | cons child rest ih =>
    obtain ⟨own, others⟩ := List.forall_mem_cons.1 each
    rw [sitesBelow_cons, List.pairwise_append, List.pairwise_map]
    refine ⟨own.imp fun before => List.Lex.cons before, ih others, ?_⟩
    intro first mine second later
    obtain ⟨inner, -, rfl⟩ := List.mem_map.1 mine
    obtain ⟨offset, _, -, other, -, rfl⟩ := mem_sitesBelow later
    have smaller : start < start + 1 + offset := by omega
    exact List.Lex.rel smaller

/-- The sites of a type come in the order of their ways. -/
theorem pairwise_sites (type : TypeExpr) :
    type.sites.Pairwise fun first second => first.way < second.way := by
  induction type using induct with
  | step type ih =>
    rw [sites_eq, List.pairwise_cons]
    refine ⟨fun site below => ?_, pairwise_sitesBelow ih⟩
    obtain ⟨offset, child, -, inner, -, rfl⟩ := mem_sitesBelow below
    exact List.Lex.nil

end WitBridge.TypeExpr
