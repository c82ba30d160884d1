import WitBridge.Proofs.Type.Nodes

/-!
# Putting a type in the place of others

A type that is put in the place of accepted nodes is searched as well. If the test accepts nothing
below its head the search comes to an end there, and what comes of it is the type with the outermost
accepted nodes replaced and all else as it was. Otherwise every replacement calls for another, and
there is an end only where nothing is replaced.
-/
namespace WitBridge.TypeExpr

section Children

variable {change : TypeExpr → TypeExpr} {become : TypeExpr → Option TypeExpr}

/-- The same type over what a change makes of its children. -/
def mapChildren (change : TypeExpr → TypeExpr) : TypeExpr → TypeExpr
  | list element => list (change element)
  | option inner => option (change inner)
  | result ok err => result (ok.map change) (err.map change)
  | tuple elements => tuple (elements.map change)
  | future inner => future (inner.map change)
  | stream element => stream (element.map change)
  | leaf => leaf

/-- The head of a type is not changed with its children. -/
@[simp]
theorem tag_mapChildren (type : TypeExpr) : (type.mapChildren change).tag = type.tag := by
  cases type <;> rfl

/-- The children are changed in their places. -/
@[simp]
theorem children_mapChildren (type : TypeExpr) :
    (type.mapChildren change).children = type.children.map change := by
  have optional (side : Option TypeExpr) : (side.map change).toList = side.toList.map change := by
    cases side <;> rfl
  cases type with
  | result ok err => simp [mapChildren, children, optional]
  | future | stream => simp [mapChildren, children, optional]
  | _ => rfl

/-- A change of no child changes nothing. -/
theorem mapChildren_eq_self {type : TypeExpr}
    (same : ∀ child ∈ type.children, change child = child) : type.mapChildren change = type := by
  have optional {side : Option TypeExpr} (same : ∀ child ∈ side.toList, change child = child) :
      side.map change = side := by
    cases side with
    | none => rfl
    | some child => rw [Option.map_some, same child (by simp)]
  cases type with
  | primitive | named | handle => rfl
  | list element => rw [mapChildren, same element (by simp [children])]
  | option inner => rw [mapChildren, same inner (by simp [children])]
  | result ok err =>
    have first := optional fun child listed => same child (List.mem_append_left _ listed)
    have second := optional fun child listed => same child (List.mem_append_right _ listed)
    rw [mapChildren, first, second]
  | tuple elements =>
    have row : elements.map change = elements.map id := List.map_congr_left same
    rw [mapChildren, row, List.map_id]
  | future inner => rw [mapChildren, optional same]
  | stream element => rw [mapChildren, optional same]

/-- Where every child becomes what the change makes of it, the type becomes the same over that. -/
theorem mapChildrenM_eq_some {type : TypeExpr}
    (each : ∀ child ∈ type.children, become child = some (change child)) :
    mapChildrenM become type = some (type.mapChildren change) := by
  have optional {side : Option TypeExpr}
      (each : ∀ child ∈ side.toList, become child = some (change child)) :
      side.mapM become = some (side.map change) := by
    cases side with
    | none => rfl
    | some child => simp [each child (by simp)]
  have row {types : List TypeExpr} (each : ∀ child ∈ types, become child = some (change child)) :
      types.mapM become = some (types.map change) := by
    induction types with
    | nil => rfl
    | cons first rest ih =>
      have later := ih fun child listed => each child (List.mem_cons_of_mem _ listed)
      simp [each first (by simp), later]
  cases type with
  | primitive | named | handle => rfl
  | list element => simp [mapChildrenM, mapChildren, each element (by simp [children])]
  | option inner => simp [mapChildrenM, mapChildren, each inner (by simp [children])]
  | result ok err =>
    have first := optional fun child listed => each child (List.mem_append_left _ listed)
    have second := optional fun child listed => each child (List.mem_append_right _ listed)
    simp [mapChildrenM, mapChildren, first, second]
  | tuple elements =>
    have members : elements.mapM become = some (elements.map change) := row each
    simp [mapChildrenM, mapChildren, members]
  | future inner => simp [mapChildrenM, mapChildren, optional each]
  | stream element => simp [mapChildrenM, mapChildren, optional each]

/-- Where every child comes back, so does the type. -/
theorem mapChildrenM_eq_self {type : TypeExpr}
    (each : ∀ child ∈ type.children, become child = some child) :
    mapChildrenM become type = some type := by
  rw [(mapChildrenM_eq_some each : _ = some (type.mapChildren id)),
    mapChildren_eq_self fun child _ => id_eq child]

/-- Where one child becomes nothing, so does the type. -/
theorem mapChildrenM_eq_none {type child : TypeExpr} (listed : child ∈ type.children)
    (nothing : become child = none) : mapChildrenM become type = none := by
  have optional {side : Option TypeExpr} (listed : child ∈ side.toList) :
      side.mapM become = none := by
    cases side with
    | none => simp at listed
    | some inner =>
      have : child = inner := by simpa using listed
      simp [← this, nothing]
  have row {types : List TypeExpr} (listed : child ∈ types) : types.mapM become = none := by
    induction types with
    | nil => simp at listed
    | cons first rest ih =>
      rcases List.mem_cons.mp listed with rfl | later
      · simp [nothing]
      · cases head : become first <;> simp [head, ih later]
  cases type with
  | primitive | named | handle => simp [children] at listed
  | list inner | option inner =>
    have : child = inner := by simpa [children] using listed
    simp [mapChildrenM, ← this, nothing]
  | result ok err =>
    rcases List.mem_append.mp listed with first | second
    · simp [mapChildrenM, optional first]
    · cases head : ok.mapM become <;> simp [mapChildrenM, head, optional second]
  | tuple elements =>
    have members : elements.mapM become = none := row listed
    simp [mapChildrenM, members]
  | future side | stream side =>
    have absent : side.mapM become = none := optional listed
    simp [mapChildrenM, absent]

end Children

section Replacing

variable (accept : TypeExpr → Bool) (replacement : TypeExpr)

mutual
/-- A type with the outermost accepted nodes replaced. -/
def replaced : TypeExpr → TypeExpr
  | primitive kind => if accept (primitive kind) then replacement else primitive kind
  | named name => if accept (named name) then replacement else named name
  | list element => if accept (list element) then replacement else list (replaced element)
  | option inner => if accept (option inner) then replacement else option (replaced inner)
  | result ok err =>
    if accept (result ok err) then replacement
    else result (replacedOption ok) (replacedOption err)
  | tuple elements =>
    if accept (tuple elements) then replacement else tuple (replacedList elements)
  | handle ownership resource =>
    if accept (handle ownership resource) then replacement else handle ownership resource
  | future inner => if accept (future inner) then replacement else future (replacedOption inner)
  | stream element =>
    if accept (stream element) then replacement else stream (replacedOption element)
/-- A type that may be missing, with the outermost accepted nodes replaced. -/
def replacedOption : Option TypeExpr → Option TypeExpr
  | none => none
  | some type => some (replaced type)
/-- The types of a list, with the outermost accepted nodes replaced. -/
def replacedList : List TypeExpr → List TypeExpr
  | [] => []
  | first :: rest => replaced first :: replacedList rest
end

/-- The type in the place of accepted nodes, and other nodes as they are. -/
def swap (node : TypeExpr) : TypeExpr :=
  if accept node then replacement else node

variable {accept replacement}

/-- An accepted type is replaced; of any other, the children are searched. -/
theorem replaced_eq (type : TypeExpr) :
    replaced accept replacement type =
      if accept type then replacement else type.mapChildren (replaced accept replacement) := by
  have optional (side : Option TypeExpr) :
      replacedOption accept replacement side = side.map (replaced accept replacement) := by
    cases side <;> rfl
  have row (types : List TypeExpr) :
      replacedList accept replacement types = types.map (replaced accept replacement) := by
    induction types with
    | nil => rfl
    | cons first rest ih => rw [replacedList, ih, List.map_cons]
  cases type <;> simp only [replaced, mapChildren, optional, row]

/-- A test that accepts no node leaves a type as it is. -/
theorem replaced_eq_self {type : TypeExpr} (refused : ∀ node ∈ type.nodes, accept node = false) :
    replaced accept replacement type = type := by
  induction type using induct with
  | step type ih =>
    rw [replaced_eq, refused type (mem_nodes_iff.mpr (.inl rfl)), if_neg Bool.false_ne_true]
    refine mapChildren_eq_self fun child listed => ih child listed fun node below => ?_
    exact refused node (mem_nodes_iff.mpr (.inr ⟨child, listed, below⟩))

/-- A search that finds nothing to replace comes back with the type. -/
theorem transform?_swap_eq_self {type : TypeExpr}
    (refused : ∀ node ∈ type.nodes, accept node = false) {fuel : Nat} (enough : type.depth ≤ fuel) :
    transform? (swap accept replacement) fuel type = some type := by
  induction type using induct generalizing fuel with
  | step type ih =>
    have head : swap accept replacement type = type := by
      rw [swap, refused type (mem_nodes_iff.mpr (.inl rfl)), if_neg Bool.false_ne_true]
    have positive := type.depth_pos
    obtain ⟨fuel, rfl⟩ : ∃ less, fuel = less + 1 := ⟨fuel - 1, by omega⟩
    have each (child : TypeExpr) (listed : child ∈ type.children) :
        transform? (swap accept replacement) fuel child = some child := by
      refine ih child listed (fun node below => ?_) ?_
      · exact refused node (mem_nodes_iff.mpr (.inr ⟨child, listed, below⟩))
      · have := depth_child listed
        omega
    rw [transform?, head, mapChildrenM_eq_self each]

/-- A replacement with nothing to replace below its head is searched and kept. The depth left is
spent on the type first, then on what replaces a node of it. -/
theorem transform?_swap_eq_replaced
    (closed : ∀ node ∈ replacement.nodes.tail, accept node = false) (type : TypeExpr) {fuel : Nat}
    (enough : type.depth + replacement.depth ≤ fuel) :
    transform? (swap accept replacement) fuel type = some (replaced accept replacement type) := by
  induction type using induct generalizing fuel with
  | step type ih =>
    have positive := type.depth_pos
    obtain ⟨fuel, rfl⟩ : ∃ less, fuel = less + 1 := ⟨fuel - 1, by omega⟩
    rw [transform?, replaced_eq, swap]
    by_cases accepted : accept type = true
    · rw [if_pos accepted, if_pos accepted]
      rw [nodes_eq, List.tail_cons] at closed
      have each (child : TypeExpr) (listed : child ∈ replacement.children) :
          transform? (swap accept replacement) fuel child = some child := by
        refine transform?_swap_eq_self (fun node below => ?_) ?_
        · exact closed node (List.mem_flatMap.mpr ⟨child, listed, below⟩)
        · have := depth_child listed
          omega
      exact mapChildrenM_eq_self each
    · rw [if_neg accepted, if_neg accepted]
      refine mapChildrenM_eq_some fun child listed => ih child listed ?_
      have := depth_child listed
      omega

/-- A replacement that calls for another below its head leads to no end: as deep as the search goes,
there is still a node to replace. -/
theorem transform?_swap_eq_none
    (opened : ∃ node ∈ replacement.nodes.tail, accept node = true) {type : TypeExpr}
    (found : ∃ node ∈ type.nodes, accept node = true) (fuel : Nat) :
    transform? (swap accept replacement) fuel type = none := by
  induction fuel generalizing type with
  | zero => rfl
  | succ fuel ih =>
    rw [transform?, swap]
    by_cases accepted : accept type = true
    · rw [if_pos accepted]
      obtain ⟨node, below, wanted⟩ := opened
      rw [nodes_eq, List.tail_cons] at below
      obtain ⟨child, listed, inside⟩ := List.mem_flatMap.mp below
      exact mapChildrenM_eq_none listed (ih ⟨node, inside, wanted⟩)
    · rw [if_neg accepted]
      obtain ⟨node, below, wanted⟩ := found
      rcases mem_nodes_iff.mp below with rfl | ⟨child, listed, inside⟩
      · exact absurd wanted accepted
      · exact mapChildrenM_eq_none listed (ih ⟨node, inside, wanted⟩)

end Replacing

section Tags

variable {wanted : String → Bool} {replacement : TypeExpr}

/-- A test of heads accepts nothing of what it leaves if it accepts nothing of the replacement. -/
theorem refused_of_mem_replaced
    (closed : ∀ node ∈ replacement.nodes.tail, wanted node.tag = false)
    (head : wanted replacement.tag = false) {type node : TypeExpr}
    (member : node ∈ (replaced (fun node => wanted node.tag) replacement type).nodes) :
    wanted node.tag = false := by
  induction type using induct with
  | step type ih =>
    rw [replaced_eq] at member
    by_cases accepted : wanted type.tag = true
    · rw [if_pos accepted] at member
      rw [nodes_eq, List.mem_cons] at member
      rw [nodes_eq, List.tail_cons] at closed
      rcases member with rfl | below
      · exact head
      · exact closed node below
    · rw [if_neg accepted, mem_nodes_iff, children_mapChildren] at member
      rcases member with rfl | ⟨changed, listed, inside⟩
      · rw [tag_mapChildren]
        exact Bool.eq_false_iff.mpr accepted
      · obtain ⟨child, origin, rfl⟩ := List.mem_map.mp listed
        exact ih child origin inside

/-- Putting a type in the place of all nodes with wanted heads, where it has none below its own,
comes to an end with the outermost of them replaced and all else as it was. No node with a wanted
head is left unless the type put there has one, and where no head is wanted nothing changes. -/
theorem substituted (closed : ∀ node ∈ replacement.nodes.tail, wanted node.tag = false)
    (type : TypeExpr) :
    let accept : TypeExpr → Bool := fun node => wanted node.tag
    let outcome := replaced accept replacement type
    (∀ fuel, type.depth + replacement.depth ≤ fuel →
      transform? (fun node => if accept node then replacement else node) fuel type =
        some outcome) ∧
    type.substitute? accept replacement = some outcome ∧
    (wanted replacement.tag = false → ∀ node ∈ outcome.nodes, wanted node.tag = false) ∧
    ((∀ tag, wanted tag = false) → outcome = type) := by
  intro accept outcome
  have ends (fuel : Nat) (enough : type.depth + replacement.depth ≤ fuel) :
      transform? (swap accept replacement) fuel type = some outcome :=
    transform?_swap_eq_replaced closed type enough
  refine ⟨ends, ends _ (Nat.le_refl _), ?_, ?_⟩
  · exact fun head node member => refused_of_mem_replaced closed head member
  · exact fun none => replaced_eq_self fun node _ => none node.tag

/-- Bytes take the place of options, an option within an option along with it, and nothing else
moves. -/
theorem substituted_options :
    substitute?
        (tuple [option (option (primitive .bool)),
          result (some (list (option (primitive .char)))) none])
        (fun node => node.tag == "option") (list (primitive .u8)) =
      some (tuple [list (primitive .u8), result (some (list (list (primitive .u8)))) none]) :=
  (@substituted (fun tag => tag == "option") (list (primitive .u8)) (by decide) _).2.1

end Tags

end WitBridge.TypeExpr
