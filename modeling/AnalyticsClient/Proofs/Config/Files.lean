import AnalyticsClient.Config.File
import AnalyticsClient.Proofs.Wire.Plain
import Mathlib.Data.List.Basic

/-! What a written file changes: its path leads to it, and the ways through directories stay. -/

namespace AnalyticsClient

open Wire (bind_eq_ok then_eq_ok)

namespace FileTree

/-- Whether every directory of a tree is one of another, under the same name. -/
structure KeepsWays (tree later : FileTree) : Prop where
  root : later.root = tree.root
  directory : ∀ place, tree.node? place = some .directory → later.node? place = some .directory

/-- Whether everything in a tree is in another one, under the same name. -/
structure Keeps (tree later : FileTree) : Prop where
  root : later.root = tree.root
  node : ∀ place node, tree.node? place = some node → later.node? place = some node

section

variable {tree later : FileTree} {place : Place}

/-- Where everything stays, the ways stay. -/
theorem Keeps.ways (keeps : tree.Keeps later) : tree.KeepsWays later :=
  ⟨keeps.root, fun place found => keeps.node place _ found⟩

/-- A tree has all that is in it. -/
theorem Keeps.refl (tree : FileTree) : tree.Keeps tree := ⟨rfl, fun _ _ found => found⟩

/-- What stays twice stays. -/
theorem Keeps.trans {last : FileTree} (first : tree.Keeps later) (second : later.Keeps last) :
    tree.Keeps last :=
  ⟨second.root.trans first.root, fun place node found =>
    second.node place node (first.node place node found)⟩

/-- A directory is required where there is one. -/
theorem requireDirectory_eq_ok :
    tree.requireDirectory place = .ok () ↔ tree.node? place = some .directory := by
  unfold requireDirectory
  split
  -- There is a directory, a file or nothing.
  · next found => simp [found]
  · next found => simp [found]
  · next found => simp [found]

/-- A step leads on from a directory alone. -/
theorem enter_eq_ok {step : String} {next : Place} :
    tree.enter place step = .ok next
      ↔ tree.node? place = some .directory
        ∧ (if step = "." then .ok place
          else if step = Place.upward then .ok place.above
          else if longestName < step.utf8ByteSize then .error .nameTooLong
          else .ok (place ++ [step]) : Except FileFault Place) = .ok next := by
  rw [enter, then_eq_ok, requireDirectory_eq_ok]
  rfl

/-- A way is gone part by part. -/
theorem walk_append (first last : List String) (place : Place) :
    tree.walk place (first ++ last)
      = (tree.walk place first).bind fun next => tree.walk next last := by
  induction first generalizing place with
  | nil => rfl
  | cons step rest ih =>
    rw [List.cons_append, walk, walk]
    -- Where the first step fails, the whole way does.
    cases tree.enter place step with
    | error fault => rfl
    | ok next => exact ih next

/-- A way through directories that stay leads to the same place. -/
theorem KeepsWays.walk (ways : tree.KeepsWays later) {steps : List String} {place last : Place}
    (walked : tree.walk place steps = .ok last) : later.walk place steps = .ok last := by
  induction steps generalizing place with
  | nil => exact walked
  | cons step rest ih =>
    rw [FileTree.walk, bind_eq_ok] at walked ⊢
    obtain ⟨next, entered, walked⟩ := walked
    obtain ⟨directory, entered⟩ := enter_eq_ok.1 entered
    exact ⟨next, enter_eq_ok.2 ⟨ways.directory place directory, entered⟩, ih walked⟩

/-- What is put somewhere is there. -/
theorem node?_put_self (free : place.isGiven = false) (node : FileNode) :
    (tree.put place node).node? place = some node := by
  simp [node?, put, free]

/-- What is elsewhere stays as it is. -/
theorem node?_put_other {other : Place} (ne : other ≠ place) (node : FileNode) :
    (tree.put place node).node? other = tree.node? other := by
  unfold node? put
  -- A place that is given is a directory in both trees.
  split
  · rfl
  · have others : ((place, node) :: tree.nodes.filter fun entry => entry.1 ≠ place).find?
        (fun entry => entry.1 = other) = tree.nodes.find? fun entry => entry.1 = other := by
      rw [List.find?_cons_of_neg (by simpa using ne.symm), List.find?_filter]
      congr 1
      funext entry
      -- An entry of the place asked for is not at the place that was filled.
      by_cases same : entry.1 = other
      · simp [same, ne]
      · simp [same]
    rw [others]

/-- Where there is no directory, nothing is from the start. -/
theorem isGiven_of_node? (found : tree.node? place ≠ some .directory) : place.isGiven = false := by
  by_contra given
  rw [Bool.not_eq_false] at given
  exact found (by simp [node?, given])

/-- A place that is no directory is on no way, so that the ways stay when it is filled. -/
theorem keepsWays_put (found : tree.node? place ≠ some .directory) (node : FileNode) :
    tree.KeepsWays (tree.put place node) where
  root := rfl
  directory other directory := by
    have ne : other ≠ place := fun same => found (same ▸ directory)
    rw [node?_put_other ne, directory]

/-- Nothing is lost when an empty place is filled. -/
theorem keeps_put (free : tree.node? place = none) (node : FileNode) :
    tree.Keeps (tree.put place node) where
  root := rfl
  node other found there := by
    have ne : other ≠ place := fun same => by
      rw [same, free] at there
      cases there
    rw [node?_put_other ne, there]

end

section

variable {tree later : FileTree} {path : String} {place : Place}

/-- Whether a path describes a way to a place of a file. -/
structure Leads (tree : FileTree) (path : String) (place : Place) : Prop where
  route : tree.route path = .ok (.ofPath path)
  toFile : (Route.ofPath path).toDirectory = false
  walked : tree.walk (Route.ofPath path).start (Route.ofPath path).steps = .ok place

/-- The route of a path is that of its text. -/
theorem route_eq {route : Route} (found : tree.route path = .ok route) : route = .ofPath path := by
  unfold FileTree.route at found
  split at found
  · cases found
  · split at found
    · cases found
    · exact (Except.ok.inj found).symm

/-- A path to a file leads to its place. -/
theorem exists_leads {content : ByteArray} (found : tree.find path = .ok (.file content)) :
    ∃ place, tree.Leads path place ∧ tree.node? place = some (.file content) := by
  obtain ⟨route, routed, found⟩ := bind_eq_ok.1 found
  obtain rfl := route_eq routed
  obtain ⟨place, walked, found⟩ := bind_eq_ok.1 found
  split at found
  · cases found
  -- A path that names a directory by its end finds no file.
  · next content' there =>
    split at found
    · cases found
    · next toFile =>
      cases found
      exact ⟨place, ⟨routed, by simpa using toFile, walked⟩, there⟩
  · cases found

/-- A path that leads to a file finds it. -/
theorem Leads.find (leads : tree.Leads path place) {content : ByteArray}
    (there : tree.node? place = some (.file content)) : tree.find path = .ok (.file content) := by
  simp only [FileTree.find, leads.route, leads.walked, there, leads.toFile, bind, Except.bind]
  rfl

/-- A path that leads to an empty place finds nothing. -/
theorem Leads.find_none (leads : tree.Leads path place) (free : tree.node? place = none) :
    tree.find path = .error .notFound := by
  simp only [FileTree.find, leads.route, leads.walked, free, bind, Except.bind]

/-- A path is followed alike in trees of one name. -/
theorem route_congr (root : later.root = tree.root) (path : String) :
    later.route path = tree.route path := by
  -- A path is read without a look at what is in the tree.
  cases tree
  cases later
  cases root
  rfl

/-- Where the ways stay, a path leads to the same place. -/
theorem Leads.stays (leads : tree.Leads path place) (ways : tree.KeepsWays later) :
    later.Leads path place :=
  ⟨(route_congr ways.root path).trans leads.route, leads.toFile, ways.walk leads.walked⟩

/-- What a path led to it leads to where everything stays. -/
theorem Keeps.find (keeps : tree.Keeps later) {node : FileNode}
    (found : tree.find path = .ok node) : later.find path = .ok node := by
  obtain ⟨route, routed, found⟩ := bind_eq_ok.1 found
  obtain ⟨place, walked, found⟩ := bind_eq_ok.1 found
  have routed' := (route_congr keeps.root path).trans routed
  simp only [FileTree.find, routed', keeps.ways.walk walked, bind, Except.bind]
  -- There is something at the place, and it stays there.
  cases there : tree.node? place with
  | none =>
    rw [there] at found
    cases found
  | some node' =>
    rw [there] at found
    rw [keeps.node place node' there]
    exact found

/-- A way is all its steps but the last one, and then the last one. -/
theorem dropLast_append (steps : List String) :
    steps.dropLast ++ steps.getLast?.toList = steps := by
  rcases List.eq_nil_or_concat steps with rfl | ⟨front, last, rfl⟩
  · rfl
  · simp

/-- The last step of a way starts at a directory. -/
theorem exists_parent {steps : List String} {start : Place} (given : start.isGiven = true)
    (walked : tree.walk start steps = .ok place) (free : tree.node? place ≠ some .directory) :
    ∃ parent, tree.walk start steps.dropLast = .ok parent ∧ tree.node? parent = some .directory
      ∧ tree.walk parent steps.getLast?.toList = .ok place := by
  rcases List.eq_nil_or_concat steps with rfl | ⟨front, last, rfl⟩
  · -- A way without steps stays at its start, where there is a directory.
    cases walked
    exact absurd (by simp [node?, given]) free
  · rw [List.concat_eq_append, walk_append] at walked
    obtain ⟨parent, before, walked⟩ := bind_eq_ok.1 walked
    obtain ⟨next, entered, -⟩ := bind_eq_ok.1 walked
    have directory := (enter_eq_ok.1 entered).1
    exact ⟨parent, by simpa using before, directory, by simpa using walked⟩

/-- A file can be written exactly where a path leads to a place without a directory. -/
theorem fileSite_eq_ok :
    tree.fileSite path = .ok place
      ↔ tree.Leads path place ∧ tree.node? place ≠ some .directory := by
  constructor
  · intro site
    obtain ⟨route, routed, site⟩ := bind_eq_ok.1 site
    obtain rfl := route_eq routed
    obtain ⟨parent, before, site⟩ := bind_eq_ok.1 site
    obtain ⟨-, site⟩ := then_eq_ok.1 site
    split at site
    · cases site
    · next toFile =>
      obtain ⟨last, walked, site⟩ := bind_eq_ok.1 site
      split at site
      · cases site
      · next free =>
        cases site
        refine ⟨⟨routed, by simpa using toFile, ?_⟩, fun directory => free directory⟩
        -- The last step is taken after all others.
        rw [← dropLast_append (Route.ofPath path).steps, walk_append, before]
        exact walked
  · rintro ⟨leads, free⟩
    -- Every way starts at the top of all files or at the root of the tree, and both are given.
    have given : (Route.ofPath path).start.isGiven = true := by
      unfold Route.ofPath
      dsimp only
      split <;> decide
    obtain ⟨parent, before, directory, walked⟩ := exists_parent given leads.walked free
    have required := requireDirectory_eq_ok.2 directory
    simp only [fileSite, leads.route, before, required, leads.toFile, walked, bind, Except.bind,
      Bool.false_eq_true, if_false]
    rfl

/-- Whether a path names a file that is not there, in a directory that is. -/
structure Vacant (tree : FileTree) (path : String) : Prop where
  missing : tree.find path = .error .notFound
  toFile : (Route.ofPath path).toDirectory = false
  directory : ∃ parent,
    tree.walk (Route.ofPath path).start (Route.ofPath path).steps.dropLast = .ok parent
      ∧ tree.node? parent = some .directory

/-- A path that cannot be followed at all is at fault for its text. -/
theorem route_ne_notFound : tree.route path ≠ .error .notFound := by
  unfold FileTree.route
  -- It has a character that no path has, or is too long.
  split
  · simp
  · split <;> simp

/-- From a directory, a step that cannot be taken is too long. -/
theorem enter_ne_notFound (step : String) (directory : tree.node? place = some .directory) :
    tree.enter place step ≠ .error .notFound := by
  simp only [enter, requireDirectory_eq_ok.2 directory, bind, Except.bind]
  -- Of the three ways to go on, only the one by a name can fail, and that for its length.
  split
  · simp [pure, Except.pure]
  · split
    · simp [pure, Except.pure]
    · split <;> simp [pure, Except.pure]

/-- From a directory, the last step of a way does not lead astray. -/
theorem walk_ne_notFound {step? : Option String} (directory : tree.node? place = some .directory) :
    tree.walk place step?.toList ≠ .error .notFound := by
  -- Without a last step the way has ended, and otherwise the step starts at a directory.
  cases step? with
  | none => simp [walk]
  | some step =>
    have entered := enter_ne_notFound step directory
    simp only [Option.toList, walk]
    cases taken : tree.enter place step with
    | error fault =>
      rw [taken] at entered
      exact entered
    | ok next => simp [bind, Except.bind]

/-- A path to a file that is not there leads to an empty place. -/
theorem Vacant.exists_leads (vacant : tree.Vacant path) :
    ∃ place, tree.Leads path place ∧ tree.node? place = none := by
  obtain ⟨missing, toFile, parent, before, directory⟩ := vacant
  -- All but the last step lead to a directory, so the last one decides what is found.
  have last : tree.walk (Route.ofPath path).start (Route.ofPath path).steps
      = tree.walk parent (Route.ofPath path).steps.getLast?.toList := by
    conv => lhs; rw [← dropLast_append (Route.ofPath path).steps, walk_append, before]
    rfl
  unfold FileTree.find at missing
  cases routed : tree.route path with
  | error fault =>
    rw [routed] at missing
    cases missing
    exact absurd routed route_ne_notFound
  | ok route =>
    obtain rfl := route_eq routed
    cases walked : tree.walk (Route.ofPath path).start (Route.ofPath path).steps with
    | error fault =>
      simp only [routed, walked, bind, Except.bind, Except.error.injEq] at missing
      exact absurd (last.symm.trans (missing ▸ walked)) (walk_ne_notFound directory)
    | ok place =>
      refine ⟨place, ⟨routed, toFile, walked⟩, ?_⟩
      simp only [routed, walked, bind, Except.bind] at missing
      cases there : tree.node? place with
      | none => rfl
      | some node =>
        -- Anything there would have been found.
        simp only [there, toFile, Bool.false_eq_true, if_false] at missing
        cases node <;> cases missing

/-- Whether a path leads to a file, or names one that is not there in a directory that is. -/
def Writable (tree : FileTree) (path : String) : Prop :=
  tree.Vacant path ∨ ∃ content, tree.find path = .ok (.file content)

/-- A file that can be written has a place without a directory. -/
theorem Writable.exists_site (writable : tree.Writable path) :
    ∃ place, tree.fileSite path = .ok place := by
  rcases writable with vacant | ⟨content, found⟩
  · obtain ⟨place, leads, free⟩ := vacant.exists_leads
    exact ⟨place, fileSite_eq_ok.2 ⟨leads, by simp [free]⟩⟩
  · obtain ⟨place, leads, there⟩ := exists_leads found
    exact ⟨place, fileSite_eq_ok.2 ⟨leads, by simp [there]⟩⟩

/-- Nothing is found where a file is not there. -/
theorem Vacant.reaches (vacant : tree.Vacant path) : tree.reaches path = false := by
  rw [FileTree.reaches, vacant.missing]
  rfl

/-- A text that was written is read, and whatever is elsewhere stays as it is. -/
theorem exists_write (writable : tree.Writable path) (text : String) :
    ∃ later place, tree.write path text.toUTF8 = .ok later ∧ later.root = tree.root
      ∧ later.read path = .ok text
      ∧ ∀ other, other ≠ place → later.node? other = tree.node? other := by
  obtain ⟨place, site⟩ := writable.exists_site
  obtain ⟨leads, free⟩ := fileSite_eq_ok.1 site
  -- The file is in its place, the path still leads there, and its bytes are those of the text.
  have there : (tree.put place (.file text.toUTF8)).node? place = some (.file text.toUTF8) :=
    node?_put_self (isGiven_of_node? free) _
  have found := (leads.stays (keepsWays_put free _)).find there
  refine ⟨tree.put place (.file text.toUTF8), place, ?_, rfl, ?_, fun other ne => node?_put_other ne _⟩
  · simp only [write, site, bind, Except.bind, pure, Except.pure]
  · have decoded : String.fromUTF8? text.toUTF8 = some text := dif_pos text.isValidUTF8
    simp only [FileTree.read, found, decoded, bind, Except.bind]
    rfl

/-- Nothing is lost where a file is written to which no path led. -/
theorem keeps_write {content : ByteArray} (missing : tree.reaches path = false)
    (written : tree.write path content = .ok later) : tree.Keeps later := by
  obtain ⟨place, site, put⟩ := bind_eq_ok.1 written
  cases put
  obtain ⟨leads, free⟩ := fileSite_eq_ok.1 site
  refine keeps_put ?_ _
  cases there : tree.node? place with
  | none => rfl
  | some node =>
    cases node with
    | directory => exact absurd there free
    | file old =>
      -- A file would have been found.
      rw [FileTree.reaches, leads.find there] at missing
      cases missing

end

end FileTree

end AnalyticsClient
