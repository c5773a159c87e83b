import Mathlib.Data.List.Induction
import Mathlib.Logic.Function.Basic

/-!
# POSIX paths and an ideal file system

Path objects hold a root and the components of a text; joining and printing act on these.  The file
system maps the places of a tree, named from its root, to directories and files.  A path is followed
from a starting place component by component, where `..` leads to the place above.  `mkdirs` is the
recursive creation of a directory with its parents.
-/

namespace Foundation.Posix

abbrev Name := List Char

/-! ## Paths -/

/-- A path object. -/
structure Path where
  /-- The slashes in front: none, one or two. -/
  root : List Char
  parts : List Name
  deriving DecidableEq

/-- The components of a text; empty ones and dots are dropped. -/
def components (text : List Char) : List Name :=
  (text.splitOn '/').filter fun part => part ≠ [] ∧ part ≠ ['.']

/-- Exactly two leading slashes are kept, more count as one. -/
def rootOf : List Char → List Char
  | '/' :: '/' :: '/' :: _ => ['/']
  | '/' :: '/' :: _ => ['/', '/']
  | '/' :: _ => ['/']
  | _ => []

namespace Path

def parse (text : List Char) : Path where
  root := rootOf text
  parts := components text

/-- The text of a path; the empty path is a dot. -/
def text (path : Path) : List Char :=
  if path.root = [] ∧ path.parts = [] then ['.']
  else path.root ++ List.intercalate ['/'] path.parts

/-- `path / text`; an absolute text replaces the path. -/
def join (path : Path) (text : List Char) : Path :=
  if text.head? = some '/' then parse text
  else { path with parts := path.parts ++ components text }

def parent (path : Path) : Path :=
  { path with parts := path.parts.dropLast }

theorem mem_parts_of_mem_parent {path : Path} {part : Name} (member : part ∈ path.parent.parts) :
    part ∈ path.parts :=
  List.dropLast_subset _ member

end Path

/-- The name of one component. -/
def IsComponent (name : Name) : Prop :=
  name ≠ [] ∧ name ≠ ['.'] ∧ '/' ∉ name

/-- The path is one which `parse` returns. -/
structure Path.Proper (path : Path) : Prop where
  root : path.root = [] ∨ path.root = ['/'] ∨ path.root = ['/', '/']
  parts : ∀ name ∈ path.parts, IsComponent name

/-- A name which starts with another character than a dot needs no slash only. -/
theorem isComponent_cons {c : Char} {name : Name} (no_dot : c ≠ '.') (free : '/' ∉ c :: name) :
    IsComponent (c :: name) :=
  ⟨List.cons_ne_nil c name, fun same => no_dot (List.cons.inj same).1, free⟩

theorem components_intercalate {names : List Name} (proper : ∀ name ∈ names, IsComponent name) :
    components (List.intercalate ['/'] names) = names := by
  by_cases none_there : names = []
  · subst none_there
    rfl
  · rw [components, List.splitOn_intercalate '/' (fun name member => (proper name member).2.2)
      none_there, List.filter_eq_self]
    intro name member
    have component := proper name member
    simpa using ⟨component.1, component.2.1⟩

theorem components_slash (text : List Char) : components ('/' :: text) = components text := by
  simp [components, List.splitOn_cons_eq_if_modifyHead]

/-- A component is its own and only component. -/
theorem components_of_isComponent {name : Name} (component : IsComponent name) :
    components name = [name] := by
  simp [components, List.splitOn_eq_singleton component.2.2, component.1, component.2.1]

/-- The pieces of a text hold characters of it other than the separator. -/
theorem mem_of_mem_splitOn {text part : List Char} (piece : part ∈ text.splitOn '/') {c : Char}
    (inside : c ∈ part) : c ∈ text ∧ c ≠ '/' := by
  induction text generalizing part with
  | nil =>
      obtain rfl : part = [] := by simpa using piece
      exact absurd inside List.not_mem_nil
  | cons first text ih =>
      rw [List.splitOn_cons_eq_if_modifyHead] at piece
      split at piece
      · rcases List.mem_cons.mp piece with rfl | later
        · exact absurd inside List.not_mem_nil
        · exact (ih later inside).imp_left (List.mem_cons_of_mem first)
      · rename_i other
        cases split_eq : text.splitOn '/' with
        | nil => exact absurd split_eq (List.splitOn_ne_nil '/' text)
        | cons head rest =>
            rw [split_eq, List.modifyHead_cons] at piece
            rw [split_eq] at ih
            rcases List.mem_cons.mp piece with rfl | later
            · rcases List.mem_cons.mp inside with rfl | inside
              · exact ⟨List.mem_cons_self, by simpa using other⟩
              · exact (ih List.mem_cons_self inside).imp_left (List.mem_cons_of_mem first)
            · exact (ih (List.mem_cons_of_mem head later) inside).imp_left
                (List.mem_cons_of_mem first)

theorem mem_of_mem_components {text : List Char} {name : Name} (member : name ∈ components text)
    {c : Char} (inside : c ∈ name) : c ∈ text :=
  (mem_of_mem_splitOn (List.mem_filter.mp member).1 inside).1

theorem isComponent_of_mem_components {text : List Char} {name : Name}
    (member : name ∈ components text) : IsComponent name := by
  obtain ⟨part, kept⟩ := List.mem_filter.mp member
  obtain ⟨nonempty, no_dot⟩ : name ≠ [] ∧ name ≠ ['.'] := by simpa using kept
  exact ⟨nonempty, no_dot, fun slash => (mem_of_mem_splitOn part slash).2 rfl⟩

theorem Path.proper_parse (text : List Char) : (parse text).Proper where
  root := by
    show rootOf text = [] ∨ rootOf text = ['/'] ∨ rootOf text = ['/', '/']
    unfold rootOf
    split <;> simp
  parts _ := isComponent_of_mem_components

theorem rootOf_of_head? {text : List Char} (relative : text.head? ≠ some '/') :
    rootOf text = [] := by
  unfold rootOf
  split <;> simp_all

theorem rootOf_slash {c : Char} {text : List Char} (other : c ≠ '/') :
    rootOf ('/' :: c :: text) = ['/'] := by
  unfold rootOf
  split <;> simp_all

theorem rootOf_slash_slash {c : Char} {text : List Char} (other : c ≠ '/') :
    rootOf ('/' :: '/' :: c :: text) = ['/', '/'] := by
  unfold rootOf
  split
  · rename_i same
    obtain ⟨rfl, -⟩ : c = '/' ∧ _ := by simpa using same
    exact absurd rfl other
  · rfl
  · rename_i two_slashes same
    exact (two_slashes _ (List.cons.inj same).2.symm).elim
  · rename_i one_slash
    exact (one_slash _ rfl).elim

/-- The text of components starts with the first of them. -/
theorem head?_intercalate {names : List Name} (nonempty : names ≠ [])
    (proper : ∀ name ∈ names, IsComponent name) :
    (List.intercalate ['/'] names).head? ≠ some '/' := by
  cases names with
  | nil => exact absurd rfl nonempty
  | cons first rest =>
      obtain ⟨first_ne, -, free⟩ := proper first List.mem_cons_self
      obtain ⟨c, name, rfl⟩ := List.exists_cons_of_ne_nil first_ne
      have start : (List.intercalate ['/'] ((c :: name) :: rest)).head? = some c := by
        cases rest <;> simp [List.intercalate_cons_cons]
      rw [start]
      rintro same
      exact free (Option.some.inj same ▸ List.mem_cons_self)

/-- A nonempty path is read back from its text. -/
theorem Path.parse_text {path : Path} (proper : path.Proper) (nonempty : path.parts ≠ []) :
    parse path.text = path := by
  obtain ⟨root, parts⟩ := path
  have relative := head?_intercalate nonempty proper.parts
  have printed : Path.text ⟨root, parts⟩ = root ++ List.intercalate ['/'] parts :=
    if_neg fun empty => nonempty empty.2
  have read := components_intercalate proper.parts
  rw [printed]
  generalize List.intercalate ['/'] parts = body at relative read ⊢
  obtain ⟨c, rest, rfl⟩ : ∃ c rest, body = c :: rest := by
    refine List.exists_cons_of_ne_nil ?_
    rintro rfl
    exact nonempty (read.symm.trans rfl)
  have not_slash : c ≠ '/' := fun same => relative (by simp [same])
  rcases proper.root with rfl | rfl | rfl
  · exact congrArg₂ Path.mk (rootOf_of_head? relative) read
  · exact congrArg₂ Path.mk (rootOf_slash not_slash) ((components_slash _).trans read)
  · exact congrArg₂ Path.mk (rootOf_slash_slash not_slash)
      ((components_slash _).trans ((components_slash _).trans read))

/-- More text behind a path goes to its last component. -/
theorem Path.text_append {root : List Char} {above : List Name} (last more : Name) :
    Path.text ⟨root, above ++ [last]⟩ ++ more = Path.text ⟨root, above ++ [last ++ more]⟩ := by
  have body : List.intercalate ['/'] (above ++ [last]) ++ more =
      List.intercalate ['/'] (above ++ [last ++ more]) := by
    induction above with
    | nil => simp
    | cons first above ih =>
        cases above with
        | nil => simp [List.intercalate_cons_cons]
        | cons second above =>
            simp only [List.cons_append, List.intercalate_cons_cons, List.append_assoc] at ih ⊢
            rw [ih]
  simp [Path.text, body]

theorem Path.join_of_isComponent (path : Path) {name : Name} (component : IsComponent name) :
    path.join name = { path with parts := path.parts ++ [name] } := by
  have relative : name.head? ≠ some '/' := fun first =>
    component.2.2 (List.mem_of_mem_head? (Option.mem_def.mpr first))
  rw [join, if_neg relative, components_of_isComponent component]

theorem IsComponent.append {name more : Name} (component : IsComponent name)
    (free : '/' ∉ more) : IsComponent (name ++ more) := by
  obtain ⟨nonempty, no_dot, name_free⟩ := component
  refine ⟨by simp [nonempty], ?_, by simp [name_free, free]⟩
  intro dot
  rcases List.append_eq_singleton_iff.mp dot with ⟨empty, -⟩ | ⟨same, -⟩
  · exact nonempty empty
  · exact no_dot same

theorem Path.Proper.append {path : Path} (proper : path.Proper) {name : Name}
    (component : IsComponent name) : Path.Proper { path with parts := path.parts ++ [name] } := by
  refine ⟨proper.root, ?_⟩
  intro part member
  rcases List.mem_append.mp member with above | last
  · exact proper.parts part above
  · obtain rfl : part = name := by simpa using last
    exact component

/-- The text of a path with a suffix is the path whose last component has the suffix. -/
theorem Path.parse_text_append {path : Path} (proper : path.Proper) {name more : Name}
    (component : IsComponent name) (free : '/' ∉ more) :
    parse (Path.text { path with parts := path.parts ++ [name] } ++ more) =
      { path with parts := path.parts ++ [name ++ more] } := by
  rw [Path.text_append]
  exact Path.parse_text (proper.append (component.append free)) (by simp)

/-! ## The file system -/

/-- The names on the way from the root to a place of the tree. -/
abbrev Place := List Name

inductive Node (β : Type)
  | directory
  | file (content : β)
  deriving DecidableEq

inductive OsError
  | fileNotFound
  | notADirectory
  | fileExists
  | isADirectory
  deriving DecidableEq

abbrev FileSystem (β : Type) := Place → Option (Node β)

/-- Follow one component; the root is its own parent. -/
def follow (place : Place) (name : Name) : Place :=
  if name = ['.', '.'] then place.dropLast else place ++ [name]

theorem follow_cons {c : Char} {name : Name} (no_dot : c ≠ '.') (place : Place) :
    follow place (c :: name) = place ++ [c :: name] :=
  if_neg fun same => no_dot (List.cons.inj same).1

/-- The places passed from a start, which is the first of them. -/
def walk (start : Place) (names : List Name) : List Place :=
  List.scanl follow start names

/-- The last place of the walk. -/
def destination (start : Place) (names : List Name) : Place :=
  names.foldl follow start

/-- No parent directory is asked for. -/
def IsDescending (names : List Name) : Prop :=
  ['.', '.'] ∉ names

section Walk

variable {start : Place} {names : List Name}

theorem walk_cons (start : Place) (name : Name) (names : List Name) :
    walk start (name :: names) = start :: walk (follow start name) names := by
  simp [walk]

theorem walk_snoc (start : Place) (names : List Name) (last : Name) :
    walk start (names ++ [last]) =
      walk start names ++ [follow (destination start names) last] := by
  simp [walk, destination, List.scanl_append]

theorem start_mem_walk : start ∈ walk start names := by
  cases names <;> simp [walk]

theorem destination_snoc (start : Place) (names : List Name) (last : Name) :
    destination start (names ++ [last]) = follow (destination start names) last := by
  simp [destination]

/-- A descending walk ends at its longest place. -/
theorem length_le_of_mem_walk (descending : IsDescending names) {place : Place}
    (passed : place ∈ walk start names) : place.length ≤ (destination start names).length := by
  induction names using List.reverseRecOn with
  | nil =>
      obtain rfl : place = start := by simpa [walk] using passed
      exact Nat.le_refl _
  | append_singleton names last ih =>
      have parts : IsDescending names ∧ last ≠ ['.', '.'] := by
        simpa [IsDescending, not_or, eq_comm] using descending
      have longer : (destination start (names ++ [last])).length =
          (destination start names).length + 1 := by
        simp [destination_snoc, follow, parts.2]
      rw [walk_snoc, ← destination_snoc] at passed
      rcases List.mem_append.mp passed with earlier | same
      · have shorter := ih parts.1 earlier
        omega
      · obtain rfl : place = destination start (names ++ [last]) := by simpa using same
        exact Nat.le_refl _

end Walk

namespace FileSystem

variable {β : Type}

/-- Find the place of a path; every component is looked up in a directory. -/
def resolve (files : FileSystem β) (start : Place) : List Name → Except OsError Place
  | [] => .ok start
  | name :: names =>
      match files start with
      | none => .error .fileNotFound
      | some (.file _) => .error .notADirectory
      | some .directory => files.resolve (follow start name) names

variable (files : FileSystem β) (start : Place) (names : List Name)

/-- `os.path.exists`. -/
def pathExists : Bool :=
  match files.resolve start names with
  | .ok place => (files place).isSome
  | .error _ => false

/-- `os.path.isdir`. -/
def isDir : Bool :=
  match files.resolve start names with
  | .ok place =>
      match files place with
      | some .directory => true
      | _ => false
  | .error _ => false

def read : Except OsError β := do
  let place ← files.resolve start names
  match files place with
  | none => .error .fileNotFound
  | some .directory => .error .isADirectory
  | some (.file content) => .ok content

/-- Create a file, or replace its content. -/
def write (content : β) : Except OsError Unit × FileSystem β :=
  match files.resolve start names with
  | .error error => (.error error, files)
  | .ok place =>
      match files place with
      | some .directory => (.error .isADirectory, files)
      | _ => (.ok (), Function.update files place (some (.file content)))

/-- `os.remove`. -/
def remove : Except OsError Unit × FileSystem β :=
  match files.resolve start names with
  | .error error => (.error error, files)
  | .ok place =>
      match files place with
      | none => (.error .fileNotFound, files)
      | some .directory => (.error .isADirectory, files)
      | some (.file _) => (.ok (), Function.update files place none)

/-- `os.mkdir`. -/
def mkdir : Except OsError Unit × FileSystem β :=
  match files.resolve start names with
  | .error error => (.error error, files)
  | .ok place =>
      match files place with
      | none => (.ok (), Function.update files place (some .directory))
      | some _ => (.error .fileExists, files)

/-- An error is passed over where the directory exists. -/
def mkdirExisting : Except OsError Unit × FileSystem β :=
  match files.mkdir start names with
  | (.ok (), later) => (.ok (), later)
  | (.error error, later) =>
      if later.isDir start names then (.ok (), later) else (.error error, later)

/-- Create a directory with its parents, from the last component of its path to the first. -/
def mkdirs (start : Place) : List Name → FileSystem β → Except OsError Unit × FileSystem β
  | [], files => files.mkdirExisting start []
  | last :: above, files =>
      match files.mkdir start (last :: above).reverse with
      | (.error .fileNotFound, later) =>
          match mkdirs start above later with
          | (.ok (), later) => later.mkdirExisting start (last :: above).reverse
          | (.error error, later) => (.error error, later)
      | _ => files.mkdirExisting start (last :: above).reverse

/-- Every one of the places made a directory. -/
def withDirectories (places : List Place) : FileSystem β :=
  fun place => if place ∈ places then some .directory else files place

variable {files : FileSystem β} {start : Place} {names : List Name}

/-- A path through directories leads to its destination. -/
theorem resolve_snoc_of_directories
    (directories : ∀ place ∈ walk start names, files place = some .directory) (last : Name) :
    files.resolve start (names ++ [last]) = .ok (follow (destination start names) last) := by
  induction names generalizing start with
  | nil => simp [resolve, destination, directories start start_mem_walk]
  | cons name names ih =>
      rw [walk_cons] at directories
      have first := directories start List.mem_cons_self
      have rest := ih fun place passed => directories place (List.mem_cons_of_mem start passed)
      simpa [resolve, first, destination] using rest

/-- A path on which a place is missing, but none is a file, is not found. -/
theorem resolve_snoc_of_missing
    (no_file : ∀ place ∈ walk start names, ∀ content, files place ≠ some (.file content))
    (missing : ∃ place ∈ walk start names, files place ≠ some .directory) (last : Name) :
    files.resolve start (names ++ [last]) = .error .fileNotFound := by
  induction names generalizing start with
  | nil =>
      obtain ⟨place, passed, absent⟩ := missing
      obtain rfl : place = start := by simpa [walk] using passed
      simp only [List.nil_append, resolve]
      cases found : files place with
      | none => rfl
      | some node =>
          cases node with
          | directory => exact absurd found absent
          | file content => exact absurd found (no_file place start_mem_walk content)
  | cons name names ih =>
      rw [walk_cons] at no_file missing
      simp only [List.cons_append, resolve]
      cases found : files start with
      | none => rfl
      | some node =>
          cases node with
          | file content => exact absurd found (no_file start List.mem_cons_self content)
          | directory =>
              refine ih (fun place passed => no_file place (List.mem_cons_of_mem start passed)) ?_
              obtain ⟨place, passed, absent⟩ := missing
              rcases List.mem_cons.mp passed with rfl | later
              · exact absurd found absent
              · exact ⟨place, later, absent⟩

section Found

variable {place : Place} (found : files.resolve start names = .ok place)

include found

theorem pathExists_eq : files.pathExists start names = (files place).isSome := by
  simp [pathExists, found]

theorem read_of_file {content : β} (file : files place = some (.file content)) :
    files.read start names = .ok content := by
  simp [read, found, file, bind, Except.bind]

theorem write_of_not_directory (no_directory : files place ≠ some .directory) (content : β) :
    files.write start names content =
      (.ok (), Function.update files place (some (.file content))) := by
  simp only [write, found]

theorem remove_of_file {content : β} (file : files place = some (.file content)) :
    files.remove start names = (.ok (), Function.update files place none) := by
  simp [remove, found, file]

end Found

theorem withDirectories_append (places more : List Place) :
    (files.withDirectories places).withDirectories more =
      files.withDirectories (places ++ more) := by
  funext place
  by_cases new : place ∈ more <;> by_cases old : place ∈ places <;>
    simp [withDirectories, new, old]

/-- Directories which are there already need not be made. -/
theorem withDirectories_eq_self {places : List Place}
    (directories : ∀ place ∈ places, files place = some .directory) :
    files.withDirectories places = files := by
  funext place
  unfold withDirectories
  split
  · rename_i listed
    exact (directories place listed).symm
  · rfl

theorem withDirectories_singleton (place : Place) :
    files.withDirectories [place] = Function.update files place (some .directory) := by
  funext other
  by_cases same : other = place <;> simp [withDirectories, same]

/-- Below directories, a directory is made or already there. -/
theorem mkdirExisting_snoc
    (directories : ∀ place ∈ walk start names, files place = some .directory) {last : Name}
    (no_file : ∀ content, files (follow (destination start names) last) ≠ some (.file content)) :
    files.mkdirExisting start (names ++ [last]) =
      (.ok (), files.withDirectories [follow (destination start names) last]) := by
  have found := resolve_snoc_of_directories directories last
  generalize follow (destination start names) last = place at found no_file ⊢
  cases node : files place with
  | none => simp [mkdirExisting, mkdir, found, node, withDirectories_singleton]
  | some node' =>
      cases node' with
      | file content => exact absurd node (no_file content)
      | directory =>
          have there : files.withDirectories [place] = files :=
            withDirectories_eq_self (by simpa using node)
          simp [mkdirExisting, mkdir, isDir, found, node, there]

/-- Below directories no parent has to be made. -/
theorem mkdirs_snoc_of_directories
    (directories : ∀ place ∈ walk start names, files place = some .directory) (last : Name) :
    mkdirs start (names ++ [last]).reverse files = files.mkdirExisting start (names ++ [last]) := by
  have found := resolve_snoc_of_directories directories last
  have not_missing : ∀ later, files.mkdir start (names ++ [last]) ≠
      (.error .fileNotFound, later) := by
    intro later
    unfold mkdir
    rw [found]
    dsimp only
    split <;> simp
  rw [List.reverse_append, List.reverse_singleton, List.singleton_append]
  simp only [mkdirs, List.reverse_cons, List.reverse_reverse]

/-- Where a place is missing the parents are made first. -/
theorem mkdirs_snoc_of_missing {later : FileSystem β}
    (no_file : ∀ place ∈ walk start names, ∀ content, files place ≠ some (.file content))
    (missing : ∃ place ∈ walk start names, files place ≠ some .directory)
    (made : mkdirs start names.reverse files = (.ok (), later)) (last : Name) :
    mkdirs start (names ++ [last]).reverse files = later.mkdirExisting start (names ++ [last]) := by
  have not_found := resolve_snoc_of_missing no_file missing last
  have failed : files.mkdir start (names ++ [last]) = (.error .fileNotFound, files) := by
    simp [mkdir, not_found]
  rw [List.reverse_append, List.reverse_singleton, List.singleton_append]
  simp only [mkdirs, List.reverse_cons, List.reverse_reverse, failed, made]

/-- Where no file is in the way, all the places passed become directories. -/
theorem mkdirs_eq (root : files start = some .directory)
    (no_file : ∀ place ∈ walk start names, ∀ content, files place ≠ some (.file content)) :
    mkdirs start names.reverse files = (.ok (), files.withDirectories (walk start names)) := by
  induction names using List.reverseRecOn with
  | nil =>
      have there : files.withDirectories (walk start []) = files :=
        withDirectories_eq_self (by simpa [walk] using root)
      simp [mkdirs, mkdirExisting, mkdir, isDir, resolve, root, there]
  | append_singleton names last ih =>
      rw [walk_snoc] at no_file ⊢
      have above_free : ∀ place ∈ walk start names, ∀ content,
          files place ≠ some (.file content) := fun place passed =>
        no_file place (List.mem_append_left _ passed)
      have last_free : ∀ content,
          files (follow (destination start names) last) ≠ some (.file content) :=
        no_file _ (List.mem_append_right _ List.mem_cons_self)
      by_cases directories : ∀ place ∈ walk start names, files place = some .directory
      · have there : files.withDirectories (walk start names) = files :=
          withDirectories_eq_self directories
        rw [mkdirs_snoc_of_directories directories, mkdirExisting_snoc directories last_free,
          ← withDirectories_append, there]
      · have below : ∀ place ∈ walk start names,
            files.withDirectories (walk start names) place = some .directory := fun place passed =>
          if_pos passed
        have last_free_later : ∀ content, files.withDirectories (walk start names)
            (follow (destination start names) last) ≠ some (.file content) := by
          intro content
          unfold withDirectories
          split
          · simp
          · exact last_free content
        rw [mkdirs_snoc_of_missing above_free (by simpa using directories) (ih above_free),
          mkdirExisting_snoc below last_free_later, withDirectories_append]

end FileSystem

end Foundation.Posix
