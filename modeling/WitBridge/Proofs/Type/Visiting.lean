import Mathlib.Data.List.Basic
import WitBridge.Proofs.Type.Sites

/-!
# What traversals visit

A walk asks its visitor at just those sites of a type that have none above them where the visitor
turned away, in pre-order. A fold and a list of accepted nodes take all nodes in this order, and a
search asks along the nodes up to the first that is accepted. Visitors thread a state, so what is
said of them is said of every state that they may have come to.
-/
namespace WitBridge.TypeExpr

section Walking

variable {σ : Type} (visit : σ → TypeExpr → σ × Bool)

/-- A visitor that also writes down what it is asked: each node, with its answer. -/
def recording : σ × List (TypeExpr × Bool) → TypeExpr → (σ × List (TypeExpr × Bool)) × Bool
  | (state, log), node =>
    let (next, answer) := visit state node
    ((next, log ++ [(node, answer)]), answer)

/-- Whether a site is reached by a walk with these calls: none of them turned away above it. -/
def Reached (calls : List (Site × Bool)) (site : Site) : Prop :=
  ∀ call ∈ calls, call.2 = false → ¬call.1.IsAbove site

instance (calls : List (Site × Bool)) (site : Site) : Decidable (Reached calls site) :=
  inferInstanceAs (Decidable (∀ call ∈ calls, _))

/-- What is written down of calls. -/
def logged (calls : List (Site × Bool)) : List (TypeExpr × Bool) :=
  calls.map fun call => (call.1.node, call.2)

/-- Under a common index sites are above each other as they were, and under different ones never. -/
theorem isAbove_under {upper lower : Site} {index other : Nat} :
    (upper.under index).IsAbove (lower.under other) ↔ index = other ∧ upper.IsAbove lower := by
  simp only [Site.IsAbove, Site.under, List.cons_prefix_cons, ne_eq, List.cons.injEq]
  constructor
  · rintro ⟨⟨same, front⟩, apart⟩
    exact ⟨same, front, fun also => apart ⟨same, also⟩⟩
  · rintro ⟨same, front, apart⟩
    exact ⟨⟨same, front⟩, fun also => apart also.2⟩

/-- Whether calls are those of a walk over the children of a type from an index on. -/
def IsRow (start : Nat) (children : List TypeExpr) (calls : List (Site × Bool)) : Prop :=
  calls.map Prod.fst = (sitesBelow start children).filter (Reached calls ·)

/-- Calls one after the other reach what each of them reaches. -/
theorem reached_append_iff {first rest : List (Site × Bool)} {site : Site} :
    Reached (first ++ rest) site ↔ Reached first site ∧ Reached rest site :=
  List.forall_mem_append

/-- Calls under an index turn away there what they turned away, and nothing under another one. -/
theorem reached_map_under_iff {calls : List (Site × Bool)} {site : Site} {index other : Nat} :
    Reached (calls.map fun call => (call.1.under index, call.2)) (site.under other) ↔
      (index = other → Reached calls site) := by
  simp only [Reached, List.forall_mem_map, isAbove_under]
  constructor
  · intro reached same call listed refused above
    exact reached call listed refused ⟨same, above⟩
  · rintro reached call listed refused ⟨same, above⟩
    exact reached same call listed refused above

/-- Calls from an index on turn nothing away under the indices before it. -/
theorem IsRow.reached_under {start index : Nat} {children : List TypeExpr}
    {calls : List (Site × Bool)} (row : IsRow start children calls) (before : index < start)
    (site : Site) : Reached calls (site.under index) := by
  intro call listed refused above
  have member : call.1 ∈ calls.map Prod.fst := List.mem_map_of_mem listed
  rw [row] at member
  obtain ⟨offset, -, -, lower, -, same⟩ := mem_sitesBelow (List.mem_filter.1 member).1
  rw [same] at above
  have index := (isAbove_under.1 above).1
  omega

/-- The calls in a first child and those in the others do not turn each other away. -/
theorem isRow_cons {start : Nat} {child : TypeExpr} {more : List TypeExpr}
    {first rest : List (Site × Bool)}
    (inner : first.map Prod.fst = child.sites.filter (Reached first ·))
    (others : IsRow (start + 1) more rest) :
    IsRow start (child :: more) (first.map (fun call => (call.1.under start, call.2)) ++ rest) := by
  unfold IsRow
  rw [sitesBelow_cons, List.map_append, List.filter_append]
  congr 1
  · have alike (site : Site) : Reached (first.map (fun call => (call.1.under start, call.2)) ++
        rest) (site.under start) ↔ Reached first site := by
      have later := others.reached_under (Nat.lt_succ_self start) site
      rw [reached_append_iff, reached_map_under_iff, and_iff_left later, imp_iff_right rfl]
    rw [List.filter_map, Function.comp_def, List.map_map]
    simp only [alike]
    rw [← inner, List.map_map]
    rfl
  · rw [others]
    refine List.filter_congr fun site below => decide_eq_decide.2 ?_
    obtain ⟨offset, -, -, lower, -, rfl⟩ := mem_sitesBelow below
    have elsewhere : Reached (first.map fun call => (call.1.under start, call.2))
        (lower.under (start + 1 + offset)) :=
      reached_map_under_iff.2 fun same => absurd same (by omega)
    rw [reached_append_iff, and_iff_right elsewhere]

/-- Whether a walk over a type makes these calls, whatever was written down before. -/
structure Makes (state : σ) (type : TypeExpr) (calls : List (Site × Bool)) : Prop where
  /-- The calls are written down in order, and the state is threaded as without that. -/
  log : ∀ log, type.walk (recording visit) (state, log) =
    (type.walk visit state, log ++ logged calls)
  /-- They are made at the sites that are reached. -/
  sites : calls.map Prod.fst = type.sites.filter (Reached calls ·)

/-- A walk over children, one after the other, makes the calls of each. -/
theorem exists_row {children : List TypeExpr}
    (each : ∀ child ∈ children, ∀ state, ∃ calls, Makes visit state child calls)
    (state : σ) (start : Nat) : ∃ calls, IsRow start children calls ∧
      ∀ log, children.foldl (walk (recording visit)) (state, log) =
        (children.foldl (walk visit) state, log ++ logged calls) := by
  induction children generalizing state start with
  | nil => exact ⟨[], rfl, fun log => by simp [logged]⟩
  | cons child more ih =>
    obtain ⟨own, others⟩ := List.forall_mem_cons.1 each
    obtain ⟨first, made⟩ := own state
    obtain ⟨rest, row, onward⟩ := ih others (child.walk visit state) (start + 1)
    refine ⟨_, isRow_cons made.sites row, fun log => ?_⟩
    rw [List.foldl_cons, List.foldl_cons, made.log, onward]
    simp [logged, Site.under, Function.comp_def]

/-- A walk makes calls at the sites that are reached, in pre-order. -/
theorem exists_makes (state : σ) (type : TypeExpr) : ∃ calls, Makes visit state type calls := by
  induction type using induct generalizing state with
  | step type ih =>
    cases asked : visit state type with
    | mk next answer =>
    have root : ∀ log, recording visit (state, log) type =
        ((next, log ++ [(type, answer)]), answer) := fun log => by simp [recording, asked]
    cases answer with
    | false =>
      -- All other sites are below the root, at which the visitor turns away.
      refine ⟨[(⟨[], type⟩, false)], fun log => ?_, ?_⟩
      · rw [walk_eq, walk_eq, root, asked]
        rfl
      · have atRoot : Reached [(⟨[], type⟩, false)] ⟨[], type⟩ := by simp [Reached, Site.IsAbove]
        have below : ∀ site ∈ sitesBelow 0 type.children,
            ¬decide (Reached [(⟨[], type⟩, false)] site) = true := by
          intro site below
          obtain ⟨offset, -, -, inner, -, rfl⟩ := mem_sitesBelow below
          simp [Reached, Site.IsAbove, Site.under]
        rw [sites_eq, List.filter_cons_of_pos (by simpa using atRoot),
          List.filter_eq_nil_iff.2 below]
        rfl
    | true =>
      obtain ⟨calls, row, onward⟩ := exists_row visit ih next 0
      refine ⟨(⟨[], type⟩, true) :: calls, fun log => ?_, ?_⟩
      · rw [walk_eq, walk_eq, root, asked]
        dsimp only
        rw [onward]
        simp [logged]
      · have same : ∀ site, Reached ((⟨[], type⟩, true) :: calls) site ↔ Reached calls site := by
          simp [Reached]
        have atRoot : Reached calls ⟨[], type⟩ := by
          intro call _ _ above
          exact above.2 (List.prefix_nil.1 above.1)
        rw [sites_eq, List.map_cons, row]
        simp only [same]
        rw [List.filter_cons_of_pos (by simpa using atRoot)]

end Walking

section Listing

/-- A fold combines the nodes one after the other. -/
theorem fold_eq_foldl {α : Type} (combine : α → TypeExpr → α) (value : α) (type : TypeExpr) :
    type.fold combine value = type.nodes.foldl combine value := by
  induction type using induct generalizing value with
  | step type ih =>
    rw [fold_eq, nodes_eq, List.foldl_cons, List.foldl_flatMap]
    exact List.foldl_ext _ _ _ fun value child listed => ih child listed value

/-- A walk that turns away from nothing visits the nodes of a type one after the other. -/
theorem walk_everything {σ : Type} (visit : σ → TypeExpr → σ) (state : σ) (type : TypeExpr) :
    walk (fun state node => (visit state node, true)) state type =
      type.nodes.foldl visit state := by
  rw [← fold_eq_foldl]
  induction type using induct generalizing state with
  | step type ih =>
    rw [walk_eq, fold_eq]
    exact List.foldl_ext _ _ _ fun state child listed => ih child listed state

variable {σ : Type} (ask : σ → TypeExpr → σ × Bool)

/-- A node is asked of, and it is put behind the accepted ones if it is accepted. -/
def pick (found : σ × List TypeExpr) (node : TypeExpr) : σ × List TypeExpr :=
  ((ask found.1 node).1, if (ask found.1 node).2 then found.2 ++ [node] else found.2)

/-- The accepted nodes are picked from all nodes in pre-order. -/
theorem gather_eq_foldl (state : σ) (type : TypeExpr) :
    gather ask state type = type.nodes.foldl (pick ask) (state, []) :=
  walk_everything (pick ask) (state, []) type

/-- Each node of a list is asked of once, in order, and the accepted ones are picked in order. -/
theorem exists_pick (state : σ) (found : List TypeExpr) (nodes : List TypeExpr) :
    ∃ (last : σ) (asked : List (TypeExpr × Bool)), asked.map Prod.fst = nodes ∧
      nodes.foldl (pick ask) (state, found) =
        (last, found ++ (asked.filter Prod.snd).map Prod.fst) ∧
      ∀ log, nodes.foldl (pick (recording ask)) ((state, log), found) =
        ((last, log ++ asked), found ++ (asked.filter Prod.snd).map Prod.fst) := by
  induction nodes generalizing state found with
  | nil => exact ⟨state, [], rfl, by simp, fun log => by simp⟩
  | cons node rest ih =>
    cases answered : ask state node with
    | mk next answer =>
    obtain ⟨last, asked, all, plain, logging⟩ := ih next (if answer then found ++ [node] else found)
    refine ⟨last, (node, answer) :: asked, by rw [List.map_cons, all], ?_, fun log => ?_⟩
    · rw [List.foldl_cons, pick, answered, plain]
      cases answer <;> simp
    · rw [List.foldl_cons, pick, recording, answered]
      dsimp only
      rw [logging]
      cases answer <;> simp

/-- Asking of nodes one after the other until one is accepted. -/
def seek : σ → List TypeExpr → σ × Bool
  | state, [] => (state, false)
  | state, node :: rest =>
    match ask state node with
    | (state, true) => (state, true)
    | (state, false) => seek state rest

/-- Asking of the nodes of two lists goes on to the second if none of the first is accepted. -/
theorem seek_append (state : σ) (first second : List TypeExpr) :
    seek ask state (first ++ second) =
      match seek ask state first with
      | (state, true) => (state, true)
      | (state, false) => seek ask state second := by
  induction first generalizing state with
  | nil => rfl
  | cons node rest ih =>
    rw [List.cons_append, seek, seek]
    cases ask state node with
    | mk next answer => cases answer with
      | true => rfl
      | false => exact ih next

/-- The visitor of a search: once a node is accepted it asks no further and turns away. -/
def seeker (progress : σ × Bool) (node : TypeExpr) : (σ × Bool) × Bool :=
  if progress.2 then ((progress.1, true), false)
  else
    match ask progress.1 node with
    | (state, true) => ((state, true), false)
    | (state, false) => ((state, false), true)

/-- A search that has come to an accepted node passes by everything, and before it asks of the nodes
one after the other. -/
theorem walk_seeker (progress : σ × Bool) (type : TypeExpr) :
    type.walk (seeker ask) progress =
      if progress.2 then progress else seek ask progress.1 type.nodes := by
  induction type using induct generalizing progress with
  | step type ih =>
    obtain ⟨state, found⟩ := progress
    have passed : ∀ children : List TypeExpr, (∀ child ∈ children, child ∈ type.children) →
        ∀ progress, children.foldl (walk (seeker ask)) progress =
          if progress.2 then progress else seek ask progress.1 (children.flatMap nodes) := by
      intro children among
      induction children with
      | nil =>
        rintro ⟨state, found⟩
        cases found <;> rfl
      | cons first rest each =>
        rintro ⟨state, found⟩
        obtain ⟨own, others⟩ := List.forall_mem_cons.1 among
        rw [List.foldl_cons, ih first own, each others, List.flatMap_cons, seek_append]
        cases found with
        | true => rfl
        | false =>
          cases seek ask state first.nodes with
          | mk next answer => cases answer <;> rfl
    rw [walk_eq, nodes_eq]
    cases found with
    | true => rfl
    | false =>
      simp only [seeker, Bool.false_eq_true, if_false, seek]
      cases ask state type with
      | mk next answer => cases answer with
        | true => rfl
        | false => exact passed type.children (fun _ listed => listed) (next, false)

/-- A search asks of the nodes one after the other until one is accepted. -/
theorem search_eq_seek (state : σ) (type : TypeExpr) :
    search ask state type = seek ask state type.nodes :=
  walk_seeker ask (state, false) type

/-- The nodes before the first accepted one are asked of, and that one; or all are, if none is
accepted. -/
theorem exists_seek (state : σ) (nodes : List TypeExpr) :
    ∃ (last : σ) (found : Bool) (asked : List (TypeExpr × Bool)),
      seek ask state nodes = (last, found) ∧
      (∀ log, seek (recording ask) (state, log) nodes = ((last, log ++ asked), found)) ∧
      ((found = true ∧ ∃ before node after, nodes = before ++ node :: after ∧
          asked = before.map (·, false) ++ [(node, true)]) ∨
        found = false ∧ asked = nodes.map (·, false)) := by
  induction nodes generalizing state with
  | nil => exact ⟨state, false, [], rfl, fun log => by simp [seek], .inr ⟨rfl, rfl⟩⟩
  | cons node rest ih =>
    cases answered : ask state node with
    | mk next answer => cases answer with
      | true =>
        refine ⟨next, true, [(node, true)], by simp [seek, answered], fun log => ?_,
          .inl ⟨rfl, [], node, rest, rfl, rfl⟩⟩
        simp [seek, recording, answered]
      | false =>
        obtain ⟨last, found, asked, plain, logging, which⟩ := ih next
        refine ⟨last, found, (node, false) :: asked, by simp [seek, answered, plain],
          fun log => by simp [seek, recording, answered, logging], ?_⟩
        rcases which with ⟨rfl, before, hit, after, rfl, rfl⟩ | ⟨rfl, rfl⟩
        · exact .inl ⟨rfl, node :: before, hit, after, rfl, rfl⟩
        · exact .inr ⟨rfl, rfl⟩

end Listing

/-- What the traversals of a type do, told by its sites and nodes in pre-order. What a visitor is
asked is what a visitor that keeps a record writes down. -/
structure Traversed (type : TypeExpr) : Prop where
  /-- The sites of the type are the ends of its ways down. -/
  ended : ∀ site : Site, site ∈ type.sites ↔ type.at? site.way = some site.node
  /-- They come in the order of their ways, a way before its continuations. -/
  ordered : type.sites.Pairwise fun first second => first.way < second.way
  /-- The nodes are those at the sites, in the same order. -/
  occupied : type.sites.map Site.node = type.nodes
  /-- A walk asks its visitor at the sites that have none above them where it turned away, in order
  and nowhere else. -/
  walked : ∀ {σ : Type} (visit : σ → TypeExpr → σ × Bool) (state : σ),
    ∃ calls : List (Site × Bool), calls.map Prod.fst = type.sites.filter (Reached calls ·) ∧
      type.walk (recording visit) (state, []) = (type.walk visit state, logged calls)
  /-- A fold combines the nodes from the left. -/
  folded : ∀ {α : Type} (combine : α → TypeExpr → α) (value : α),
    type.fold combine value = type.nodes.foldl combine value
  /-- The nodes that a test accepts are collected in order. -/
  collected : ∀ accept : TypeExpr → Bool, type.collect accept = type.nodes.filter accept
  /-- A test with a state is asked of every node once, in order, and the nodes that it accepted are
  gathered. -/
  gathered : ∀ {σ : Type} (ask : σ → TypeExpr → σ × Bool) (state : σ),
    ∃ (last : σ) (asked : List (TypeExpr × Bool)), asked.map Prod.fst = type.nodes ∧
      gather ask state type = (last, (asked.filter Prod.snd).map Prod.fst) ∧
      gather (recording ask) (state, []) type =
        ((last, asked), (asked.filter Prod.snd).map Prod.fst)
  /-- A type contains what a test accepts if it accepts some node. -/
  contained : ∀ accept : TypeExpr → Bool,
    type.contains accept = true ↔ ∃ node ∈ type.nodes, accept node = true
  /-- A search asks of the nodes up to the first that is accepted and of no other, or of all of them
  if none is. -/
  searched : ∀ {σ : Type} (ask : σ → TypeExpr → σ × Bool) (state : σ),
    ∃ (last : σ) (found : Bool) (asked : List (TypeExpr × Bool)),
      search ask state type = (last, found) ∧
      search (recording ask) (state, []) type = ((last, asked), found) ∧
      ((found = true ∧ ∃ before node after, type.nodes = before ++ node :: after ∧
          asked = before.map (·, false) ++ [(node, true)]) ∨
        found = false ∧ asked = type.nodes.map (·, false))

/-- A test without a state picks the nodes that it accepts. -/
theorem foldl_pick_stateless (accept : TypeExpr → Bool) (found nodes : List TypeExpr) :
    nodes.foldl (pick fun _ node => ((), accept node)) ((), found) =
      ((), found ++ nodes.filter accept) := by
  induction nodes generalizing found with
  | nil => simp
  | cons node rest ih =>
    rw [List.foldl_cons, pick, ih]
    cases kept : accept node <;> simp [kept]

/-- A test without a state finds a node if it accepts one. -/
theorem seek_stateless (accept : TypeExpr → Bool) (nodes : List TypeExpr) :
    seek (fun _ node => ((), accept node)) () nodes = ((), nodes.any accept) := by
  induction nodes with
  | nil => rfl
  | cons node rest ih =>
    rw [seek]
    cases kept : accept node with
    | true => simp [kept]
    | false => simpa [kept] using ih

/-- Every traversal of a type follows its nodes in pre-order, with every visitor. -/
theorem traversed (type : TypeExpr) : type.Traversed where
  ended _ := mem_sites_iff
  ordered := pairwise_sites type
  occupied := map_node_sites type
  walked visit state := by
    obtain ⟨calls, made⟩ := exists_makes visit state type
    exact ⟨calls, made.sites, made.log []⟩
  folded combine value := fold_eq_foldl combine value type
  collected accept := by
    rw [collect, gather_eq_foldl, foldl_pick_stateless]
    rfl
  gathered ask state := by
    obtain ⟨last, asked, all, plain, logging⟩ := exists_pick ask state [] type.nodes
    refine ⟨last, asked, all, ?_, ?_⟩
    · rw [gather_eq_foldl, plain]
      rfl
    · rw [gather_eq_foldl, logging]
      rfl
  contained accept := by
    rw [contains, search_eq_seek, seek_stateless, List.any_eq_true]
  searched ask state := by
    obtain ⟨last, found, asked, plain, logging, which⟩ := exists_seek ask state type.nodes
    refine ⟨last, found, asked, ?_, ?_, which⟩
    · rw [search_eq_seek, plain]
    · rw [search_eq_seek, logging]
      rfl

end WitBridge.TypeExpr
