import WitBridge.Files.Path

/-!
# Trees of files

What can be done to files, as a function of the files. A path is walked step by step, and all
that it passes must be a directory; the last step may lead to something that is not there
yet. What is written is read back.
-/
namespace WitBridge.Files

/-- Why something cannot be done to a file. -/
inductive Refusal where
  | missing
  | present
  | notDirectory
  | isDirectory
  | nameTooLong
  deriving DecidableEq, Repr

/-- The words of the system, with the number of the cause. -/
def Refusal.message : Refusal → String
  | missing => "No such file or directory (os error 2)"
  | present => "File exists (os error 17)"
  | notDirectory => "Not a directory (os error 20)"
  | isDirectory => "Is a directory (os error 21)"
  | nameTooLong => "File name too long (os error 36)"

/-- Where places are counted from. -/
inductive Origin where
  | root
  /-- So many directories above the one that is worked in. -/
  | above (levels : Nat)
  deriving DecidableEq, Repr

/-- A place for a file or a directory. -/
structure Place where
  origin : Origin
  /-- The names that lead there from the origin, the last one first. -/
  names : List String := []
  deriving DecidableEq, Repr

/-- The place one directory up. Above the root is the root. -/
def Place.up : Place → Place
  | ⟨origin, _ :: names⟩ => ⟨origin, names⟩
  | ⟨.above levels, []⟩ => ⟨.above (levels + 1), []⟩
  | ⟨.root, []⟩ => ⟨.root, []⟩

/-- The place of a name in a directory. -/
def Place.child (place : Place) (name : String) : Place :=
  { place with names := name :: place.names }

/-- What is at a place. -/
inductive Node where
  | directory
  | file (text : String)
  deriving DecidableEq, Repr

/-- The files and directories there are. An origin is always a directory. -/
structure Tree where
  /-- What is at a place; the first entry counts. -/
  nodes : List (Place × Node) := []
  deriving DecidableEq, Repr

namespace Tree

/-- The greatest number of bytes in a name. -/
def maxName : Nat := 255

/-- The least number of bytes that is too much for a path. -/
def pathLimit : Nat := 4096

/-- What is at a place. -/
def node? (tree : Tree) (place : Place) : Option Node :=
  if place.names = [] then some .directory else tree.nodes.lookup place

/-- Look at a place. -/
def look (tree : Tree) (place : Place) : Except Refusal (Option Node) :=
  if place.names.any (maxName < ·.utf8ByteSize) then .error .nameTooLong
  else .ok (tree.node? place)

/-- Put something at a place. -/
def put (tree : Tree) (place : Place) (node : Node) : Tree :=
  ⟨(place, node) :: tree.nodes⟩

/-- Walk through directories. -/
def walk (tree : Tree) (place : Place) : List String → Except Refusal Place
  | [] => .ok place
  | "." :: rest => walk tree place rest
  | ".." :: rest => walk tree place.up rest
  | name :: rest => do
    match ← tree.look (place.child name) with
    | none => throw .missing
    | some (.file _) => throw .notDirectory
    | some .directory => walk tree (place.child name) rest

/-- What a path leads to. -/
inductive Target where
  /-- A directory that the path has walked to. -/
  | walked
  /-- A place that the path names, with a slash after the name or without. -/
  | named (place : Place) (slash : Bool)
  deriving DecidableEq, Repr

/-- What the last step of a path leads to from the place that the others lead to. -/
def arrive (path : String) (place : Place) : Target :=
  match (steps path).getLast? with
  | none | some "." | some ".." => .walked
  | some name => .named (place.child name) (endsInSlash path)

/-- Where a path starts. -/
def start (path : String) : Place :=
  ⟨if isRooted path then .root else .above 0, []⟩

/-- Follow a path. -/
def follow (tree : Tree) (path : String) : Except Refusal Target :=
  if path = "" then .error .missing
  else if pathLimit ≤ path.utf8ByteSize then .error .nameTooLong
  else (tree.walk (start path) (steps path).dropLast).map (arrive path)

/-- The text of a file. -/
def read (tree : Tree) (path : String) : Except Refusal String := do
  match ← tree.follow path with
  | .walked => throw .isDirectory
  | .named place slash =>
    match ← tree.look place with
    | none => throw .missing
    | some .directory => throw .isDirectory
    | some (.file text) => if slash then throw .notDirectory else return text

/-- Write a file. A slash after its name asks for a directory, which is not what is written. -/
def write (tree : Tree) (path text : String) : Except Refusal Tree := do
  match ← tree.follow path with
  | .walked | .named _ true => throw .isDirectory
  | .named place false =>
    match ← tree.look place with
    | some .directory => throw .isDirectory
    | none | some (.file _) => return tree.put place (.file text)

/-- Make a directory where nothing is. -/
def makeDirectory (tree : Tree) (path : String) : Except Refusal Tree := do
  match ← tree.follow path with
  | .walked => throw .present
  | .named place _ =>
    match ← tree.look place with
    | some _ => throw .present
    | none => return tree.put place .directory

/-- Whether a path leads to a directory. -/
def isDirectory (tree : Tree) (path : String) : Bool :=
  match tree.follow path with
  | .ok .walked => true
  | .ok (.named place _) => tree.node? place = some .directory
  | .error _ => false

/-- Make a directory unless it is there. -/
def ensure (tree : Tree) (path : String) : Except Refusal Tree :=
  match tree.makeDirectory path with
  | .error .present => if tree.isDirectory path then .ok tree else .error .present
  | outcome => outcome

/-- A tree after something was tried on it, with the reason if it was refused. -/
def after (tree : Tree) : Except Refusal Tree → Tree × Option Refusal
  | .ok changed => (changed, none)
  | .error refusal => (tree, some refusal)

/-- Make a directory given with those around it, the nearest first. Those around it are made
only where one is missing, and they stay where a nearer one is refused. -/
def ensureAll (tree : Tree) : List String → Tree × Option Refusal
  | [] => (tree, none)
  | path :: around =>
    match tree.ensure path with
    | .error .missing =>
      match tree.ensureAll around with
      | (made, none) => made.after (made.ensure path)
      | stopped => stopped
    | outcome => tree.after outcome

/-- Write a file, with the directories that its path runs through. -/
def create (tree : Tree) (path text : String) : Tree × Option Refusal :=
  match tree.ensureAll (directories path) with
  | (made, none) => made.after (made.write path text)
  | stopped => stopped

/-- The tree of files given by their paths. A file that has no place is left out. -/
def ofFiles (files : List (String × String)) : Tree :=
  files.foldl (fun tree (path, text) => (tree.create path text).1) {}

/-- What is put at a place that has a name is there. -/
theorem node?_put_self (tree : Tree) {place : Place} (named : place.names ≠ []) (node : Node) :
    (tree.put place node).node? place = some node := by
  simp [node?, put, named]

/-- Other places stay as they are. -/
theorem node?_put_of_ne (tree : Tree) {place other : Place} (different : other ≠ place)
    (node : Node) : (tree.put place node).node? other = tree.node? other := by
  have apart : (other == place) = false := beq_false_of_ne different
  simp [node?, put, List.lookup_cons, apart]

/-- A directory that is seen is still seen after something is put where no directory was. -/
theorem look_put_of_directory {tree : Tree} {place other : Place}
    (free : tree.node? place ≠ some .directory) (node : Node)
    (seen : tree.look other = .ok (some .directory)) :
    (tree.put place node).look other = .ok (some .directory) := by
  unfold look at seen ⊢
  split at seen
  · cases seen
  · next short =>
    have found : tree.node? other = some .directory := Except.ok.inj seen
    have different : other ≠ place := fun same => free (same ▸ found)
    rw [if_neg short, node?_put_of_ne tree different, found]

/-- A walk that succeeds still does after something is put where no directory was. -/
theorem walk_put {tree : Tree} {place : Place} (free : tree.node? place ≠ some .directory)
    (node : Node) {start finish : Place} {steps : List String}
    (walked : tree.walk start steps = .ok finish) :
    (tree.put place node).walk start steps = .ok finish := by
  fun_induction walk tree start steps with
  | case1 => simpa [walk] using walked
  | case2 start rest ih => simpa [walk] using ih walked
  | case3 start rest ih => simpa [walk] using ih walked
  | case4 start name rest notDot notUp ih =>
    rw [walk.eq_4 _ _ _ _ notDot notUp]
    cases seen : tree.look (start.child name) with
    | error reason => rw [seen] at walked; cases walked
    | ok found =>
      rw [seen] at walked
      match found with
      | none => cases walked
      | some (.file _) => cases walked
      | some .directory =>
        rw [look_put_of_directory free node seen]
        exact ih walked

/-- A path that leads somewhere still does after something is put where no directory was. -/
theorem follow_put {tree : Tree} {place : Place} (free : tree.node? place ≠ some .directory)
    (node : Node) {path : String} {target : Target} (followed : tree.follow path = .ok target) :
    (tree.put place node).follow path = .ok target := by
  unfold follow at followed ⊢
  split at followed
  · cases followed
  · next given =>
    split at followed
    · cases followed
    · next short =>
      rw [if_neg given, if_neg short]
      cases walked : tree.walk (start path) (steps path).dropLast with
      | error reason => rw [walked] at followed; cases followed
      | ok finish =>
        rw [walked] at followed
        rw [walk_put free node walked]
        exact followed

/-- A place that a path names has a name. -/
theorem names_ne_nil_of_follow {tree : Tree} {path : String} {place : Place} {slash : Bool}
    (followed : tree.follow path = .ok (.named place slash)) : place.names ≠ [] := by
  unfold follow at followed
  split at followed
  · cases followed
  · split at followed
    · cases followed
    · cases walked : tree.walk (start path) (steps path).dropLast with
      | error reason => rw [walked] at followed; cases followed
      | ok finish =>
        rw [walked] at followed
        have arrived : arrive path finish = .named place slash := Except.ok.inj followed
        unfold arrive at arrived
        split at arrived <;> cases arrived
        simp [Place.child]

/-- What is seen at a place that has a name is what was put there. -/
theorem look_put_self {tree : Tree} {place : Place} (named : place.names ≠ []) {found : Option Node}
    (seen : tree.look place = .ok found) (node : Node) :
    (tree.put place node).look place = .ok (some node) := by
  unfold look at seen ⊢
  split at seen
  · cases seen
  · next short => rw [if_neg short, node?_put_self tree named]

/-- What is seen at a place is there. -/
theorem node?_of_look {tree : Tree} {place : Place} {found : Option Node}
    (seen : tree.look place = .ok found) : tree.node? place = found := by
  unfold look at seen
  split at seen
  · cases seen
  · exact Except.ok.inj seen

/-- What is written is read back. -/
theorem read_of_write {tree written : Tree} {path text : String}
    (done : tree.write path text = .ok written) : written.read path = .ok text := by
  unfold write at done
  cases followed : tree.follow path with
  | error reason => rw [followed] at done; cases done
  | ok target =>
    rw [followed] at done
    match target with
    | .walked => cases done
    | .named _ true => cases done
    | .named place false =>
      cases seen : tree.look place with
      | error reason => simp [seen, bind, Except.bind] at done
      | ok found =>
        have named := names_ne_nil_of_follow followed
        have here := node?_of_look seen
        have free : found ≠ some .directory := by
          rintro rfl
          simp [seen, bind, Except.bind, throw, throwThe, MonadExceptOf.throw] at done
        have same : tree.put place (.file text) = written := by
          match found, free with
          | none, _ | some (.file _), _ =>
            simpa [seen, bind, Except.bind, pure, Except.pure] using done
        subst same
        have again := follow_put (here ▸ free) (.file text) followed
        have back := look_put_self named seen (.file text)
        simp [read, again, back, bind, Except.bind, pure, Except.pure]

end Tree

end WitBridge.Files
