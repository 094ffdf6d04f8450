import CameraBroker.Files

/-! Making directories adds directories where nothing was, and replaces nothing: what could
be read can still be read. A path that is writable leads to a place where a file can stand,
and after its directories are made and it is written it holds what was written. -/
namespace CameraBroker

namespace Path

theorem not_mem_of_mem_splitOn {c : Char} {cs : List Char} : ∀ part ∈ cs.splitOn c, c ∉ part := by
  induction cs with
  | nil => simp
  | cons d cs ih =>
    rw [List.splitOn_cons_eq_if_modifyHead]
    split
    case isTrue => simpa using ih
    case isFalse other =>
      obtain ⟨head, tail, parts⟩ := List.exists_cons_of_ne_nil (List.splitOn_ne_nil c cs)
      have differs : ¬c = d := fun e => other (by simp [e])
      rw [parts] at ih ⊢
      simpa [differs] using ih

structure IsStep (step : String) : Prop where
  ne_empty : step ≠ ""
  ne_point : step ≠ "."
  unslashed : '/' ∉ step.toList

theorem isStep_of_mem_steps {path : String} : ∀ step ∈ steps path, IsStep step := by
  intro step mem
  obtain ⟨isPart, leads⟩ := List.mem_filter.mp mem
  obtain ⟨part, inPath, rfl⟩ := List.mem_map.mp isPart
  obtain ⟨ne_empty, ne_point⟩ : String.ofList part ≠ "" ∧ String.ofList part ≠ "." := by
    simpa only [Bool.and_eq_true, decide_eq_true_eq] using leads
  exact ⟨ne_empty, ne_point, by simpa using not_mem_of_mem_splitOn part inPath⟩

theorem toList_ofSteps (fromTop : Bool) (steps : List String) :
    (ofSteps fromTop steps).toList =
      (if fromTop then ['/'] else []) ++ ['/'].intercalate (steps.map String.toList) := by
  cases fromTop <;> simp [ofSteps, String.toList_intercalate]

/-- Steps come back from the path that they are put together to. -/
theorem steps_ofSteps (fromTop : Bool) {steps : List String} (all : ∀ step ∈ steps, IsStep step) :
    Path.steps (ofSteps fromTop steps) = steps := by
  have kept : (steps.filter fun s => s ≠ "" && s ≠ ".") = steps :=
    List.filter_eq_self.mpr fun s mem => by
      simp [(all s mem).ne_empty, (all s mem).ne_point]
  have parts : ((['/'].intercalate (steps.map String.toList)).splitOn '/').map String.ofList =
      if steps = [] then [""] else steps := by
    split
    case isTrue none => simp [none]
    case isFalse some =>
      rw [List.splitOn_intercalate '/' _ (by simpa using some)]
      · simp [List.map_map, Function.comp_def]
      · simpa using fun s mem => (all s mem).unslashed
  have filtered : ((if steps = [] then [""] else steps).filter fun s => s ≠ "" && s ≠ ".") =
      steps := by
    split
    case isTrue none => simp [none]
    case isFalse => exact kept
  cases fromTop with
  | false => rw [Path.steps, toList_ofSteps, if_neg (by simp), List.nil_append, parts, filtered]
  | true =>
    rw [Path.steps, toList_ofSteps, if_pos rfl, List.singleton_append,
      List.splitOn_cons_eq_if_modifyHead, if_pos (by simp), List.map_cons, parts,
      List.filter_cons_of_neg (by simp), filtered]

theorem startsWith_ofSteps (fromTop : Bool) {steps : List String}
    (all : ∀ step ∈ steps, IsStep step) : (ofSteps fromTop steps).startsWith "/" = fromTop := by
  rw [Bool.eq_iff_iff, String.startsWith_string_iff, toList_ofSteps]
  cases fromTop with
  | true => simp
  | false =>
    have head : ¬['/'] <+: ['/'].intercalate (steps.map String.toList) := by
      cases steps with
      | nil => simp
      | cons step steps =>
        have isStep := all step (by simp)
        obtain ⟨c, cs, chars⟩ := List.exists_cons_of_ne_nil (l := step.toList)
          (by simpa using isStep.ne_empty)
        have differs : c ≠ '/' := by
          rintro rfl
          exact isStep.unslashed (by simp [chars])
        cases steps <;> simp [List.intercalate_cons_cons, chars, differs.symm]
    simpa using head

theorem steps_parent {path parent : String} (h : parent? path = some parent) :
    steps parent = (steps path).dropLast ∧ parent.startsWith "/" = path.startsWith "/" := by
  have all : ∀ step ∈ (steps path).dropLast, IsStep step :=
    fun step mem => isStep_of_mem_steps step (List.dropLast_subset _ mem)
  rw [parent?] at h
  split at h
  · contradiction
  · obtain rfl := Option.some.inj h
    exact ⟨steps_ofSteps _ all, startsWith_ofSteps _ all⟩

end Path

namespace Files

def reached (place : List String) : List String → List (List String)
  | [] => []
  | step :: rest => next place step :: reached (next place step) rest

/-- The places of the directories on the way of a path, after the one where it starts. -/
def onTheWay (path : String) (fs : Files) : List (List String) :=
  reached (fs.start path) (Path.steps path).dropLast

/-- The place that a path names, whether there is anything or not. -/
def target (path : String) (fs : Files) : List String :=
  (Path.steps path).foldl next (fs.start path)

def Clear (path : String) (fs : Files) : Prop :=
  ∀ place ∈ fs.onTheWay path, ∀ content, fs.node? place ≠ some (.file content)

/-- A path whose file can be written: it starts in a directory, it names a place of its own
behind directories that are there or can be made, and no directory is at that place. -/
structure Writable (path : String) (fs : Files) : Prop where
  slashless : path.endsWith "/" = false
  starts : fs.node? (fs.start path) = some .directory
  clear : fs.Clear path
  apart : fs.target path ∉ fs.start path :: fs.onTheWay path
  free : fs.node? (fs.target path) ≠ some .directory

section nodes
variable {place other : List String} {n : FileNode} {fs : Files}

theorem lookup_filter_ne (h : other ≠ place) (nodes : List (List String × FileNode)) :
    (nodes.filter fun x => x.1 ≠ place).lookup other = nodes.lookup other := by
  induction nodes with
  | nil => rfl
  | cons x nodes ih =>
    obtain ⟨key, node⟩ := x
    by_cases same : key = place
    case pos =>
      subst same
      have differs : (other == key) = false := beq_eq_false_iff_ne.mpr h
      simpa [List.lookup_cons, differs] using ih
    case neg => cases matched : other == key <;> simp_all [List.lookup_cons]

theorem node?_put_of_ne (h : other ≠ place) : (fs.put place n).node? other = fs.node? other := by
  have differs : (other == place) = false := beq_eq_false_iff_ne.mpr h
  have kept := lookup_filter_ne h fs.nodes
  simp only [put, node?, List.lookup_cons, differs]
  rw [kept]

end nodes

theorem read_eq_ok_iff {path : String} {fs : Files} {content : ByteArray} :
    fs.read path = .ok content ↔ ∃ place, fs.locate path = .ok place ∧
      fs.node? place = some (.file content) ∧ path.endsWith "/" = false := by
  rw [read]
  cases located : fs.locate path with
  | error e => simp [bind, Except.bind]
  | ok place =>
    simp only [bind, Except.bind]
    cases node : fs.node? place with
    | none => simp [node, throw, throwThe, MonadExceptOf.throw]
    | some n =>
      cases n <;> cases path.endsWith "/" <;>
        simp [node, pure, Except.pure, throw, throwThe, MonadExceptOf.throw]

/-- Directories came in addition, all at places of a list, and nothing else changed. -/
structure Extends (made : List (List String)) (fs fs' : Files) : Prop where
  here : fs'.here = fs.here
  node : ∀ place, fs'.node? place = fs.node? place ∨
    fs.node? place = none ∧ fs'.node? place = some .directory ∧ place ∈ made

namespace Extends
variable {made : List (List String)} {fs fs' : Files}

theorem refl (made : List (List String)) (fs : Files) : Extends made fs fs :=
  ⟨rfl, fun _ => .inl rfl⟩

theorem node_of_eq_some (h : Extends made fs fs') {place : List String} {n : FileNode}
    (found : fs.node? place = some n) : fs'.node? place = some n := by
  rcases h.node place with same | ⟨missing, -, -⟩
  · exact same.trans found
  · simp [missing] at found

theorem walk (h : Extends made fs fs') {place last : List String} {steps : List String}
    (walks : fs.walk place steps = .ok last) : fs'.walk place steps = .ok last := by
  induction steps generalizing place with
  | nil => exact walks
  | cons step steps ih =>
    rw [Files.walk] at walks ⊢
    split at walks
    · contradiction
    · contradiction
    · next found =>
      rw [h.node_of_eq_some found]
      exact ih walks

theorem locate (h : Extends made fs fs') {path : String} {place : List String}
    (found : fs.locate path = .ok place) : fs'.locate path = .ok place := by
  have start : fs'.start path = fs.start path := by rw [Files.start, Files.start, h.here]
  rw [Files.locate] at found ⊢
  split at found
  · contradiction
  · next named =>
    rw [if_neg named, start]
    exact h.walk found

/-- What can be read can still be read. -/
theorem read (h : Extends made fs fs') {path : String} {content : ByteArray}
    (reads : fs.read path = .ok content) : fs'.read path = .ok content := by
  obtain ⟨place, found, isFile, slashless⟩ := read_eq_ok_iff.mp reads
  exact read_eq_ok_iff.mpr ⟨place, h.locate found, h.node_of_eq_some isFile, slashless⟩

end Extends

section descending
variable {place : List String} {steps : List String} {fs fs' : Files}

/-- After the way down all places on it are directories. -/
theorem descend_extends (h : descend place steps fs = .ok fs') :
    Extends (reached place steps) fs fs' ∧
      ∀ p ∈ reached place steps, fs'.node? p = some .directory := by
  induction steps generalizing place fs with
  | nil =>
    obtain rfl : fs = fs' := by simpa [descend] using h
    exact ⟨.refl _ _, by simp [reached]⟩
  | cons step steps ih =>
    rw [descend] at h
    split at h
    case h_1 missing =>
      obtain ⟨grows, directories⟩ := ih h
      have notTop : next place step ≠ [] := by
        intro top
        simp [node?, top] at missing
      have made := grows.node_of_eq_some (node?_put notTop .directory fs)
      refine ⟨⟨grows.here, fun p => ?_⟩, by simpa [reached, made] using directories⟩
      by_cases same : p = next place step
      case pos =>
        subst same
        exact .inr ⟨missing, made, by simp [reached]⟩
      case neg =>
        rcases grows.node p with kept | ⟨none, new, mem⟩
        · exact .inl (kept.trans (node?_put_of_ne same))
        · exact .inr ⟨node?_put_of_ne same ▸ none, new, by simp [reached, mem]⟩
    case h_2 found =>
      obtain ⟨grows, directories⟩ := ih h
      have made := grows.node_of_eq_some found
      refine ⟨⟨grows.here, fun p => ?_⟩, by simpa [reached, made] using directories⟩
      rcases grows.node p with kept | ⟨none, new, mem⟩
      · exact .inl kept
      · exact .inr ⟨none, new, by simp [reached, mem]⟩
    case h_3 => contradiction

/-- Only a file is in the way. -/
theorem descend_succeeds
    (clear : ∀ p ∈ reached place steps, ∀ content, fs.node? p ≠ some (.file content)) :
    ∃ fs', descend place steps fs = .ok fs' := by
  induction steps generalizing place fs with
  | nil => exact ⟨fs, rfl⟩
  | cons step steps ih =>
    rw [descend]
    have further : ∀ p ∈ reached (next place step) steps, ∀ content,
        fs.node? p ≠ some (.file content) := fun p mem => clear p (by simp [reached, mem])
    split
    case h_1 missing =>
      have notTop : next place step ≠ [] := by
        intro top
        simp [node?, top] at missing
      refine ih fun p mem content => ?_
      by_cases same : p = next place step
      case pos =>
        rw [same, node?_put notTop]
        simp
      case neg =>
        rw [node?_put_of_ne same]
        exact further p mem content
    case h_2 => exact ih further
    case h_3 content isFile => exact absurd isFile (clear _ (by simp [reached]) content)

theorem walk_of_directories (starts : fs.node? place = some .directory)
    (way : ∀ p ∈ reached place steps.dropLast, fs.node? p = some .directory) :
    fs.walk place steps = .ok (steps.foldl next place) := by
  induction steps generalizing place with
  | nil => rfl
  | cons step steps ih =>
    rw [Files.walk, starts]
    cases steps with
    | nil => rfl
    | cons second steps =>
      rw [List.dropLast_cons_cons, reached, List.forall_mem_cons] at way
      exact ih way.1 way.2

end descending

section paths
variable {path parent : String} {fs fs' : Files}

theorem makeDirectories_extends (h : fs.makeDirectories parent = .ok fs') :
    ∃ made, Extends made fs fs' := ⟨_, (descend_extends h).1⟩

theorem makeDirectories_parent (h : Path.parent? path = some parent) :
    fs.makeDirectories parent = descend (fs.start path) (Path.steps path).dropLast fs := by
  obtain ⟨steps, top⟩ := Path.steps_parent h
  rw [makeDirectories, steps, start, start, top]

theorem Clear.makeDirectories (clear : fs.Clear path) (h : Path.parent? path = some parent) :
    ∃ fs', fs.makeDirectories parent = .ok fs' := by
  rw [makeDirectories_parent h]
  exact descend_succeeds clear

theorem Writable.steps_ne_nil (h : fs.Writable path) : Path.steps path ≠ [] := by
  intro none
  have apart := h.apart
  simp [target, none] at apart

theorem Writable.hasParent (h : fs.Writable path) : ∃ parent, Path.parent? path = some parent := by
  rw [Path.parent?]
  split
  · exact absurd ‹_› h.steps_ne_nil
  · exact ⟨_, rfl⟩

theorem locate_of_directories (named : Path.steps path ≠ [])
    (starts : fs.node? (fs.start path) = some .directory)
    (way : ∀ p ∈ fs.onTheWay path, fs.node? p = some .directory) :
    fs.locate path = .ok (fs.target path) := by
  have notEmpty : path ≠ "" := by
    rintro rfl
    exact named rfl
  rw [locate, if_neg notEmpty, walk_of_directories starts way, target]

theorem write_eq_ok {place : List String} (located : fs.locate path = .ok place)
    (free : fs.node? place ≠ some .directory) (slashless : path.endsWith "/" = false)
    (content : ByteArray) : fs.write path content = .ok (fs.put place (.file content)) := by
  rw [Files.write, located]
  simp only [bind, Except.bind]
  cases node : fs.node? place with
  | none => simp [slashless, pure, Except.pure]
  | some n =>
    cases n with
    | directory => exact absurd node free
    | file => simp [slashless, pure, Except.pure]

/-- Behind its directories a writable path takes what is written, and gives it back. -/
theorem Writable.write (h : fs.Writable path) (isParent : Path.parent? path = some parent)
    (made : fs.makeDirectories parent = .ok fs') (content : ByteArray) :
    ∃ fs'', fs'.write path content = .ok fs'' ∧ fs''.read path = .ok content := by
  rw [makeDirectories_parent isParent] at made
  obtain ⟨grows, descended⟩ := descend_extends made
  have named := h.steps_ne_nil
  have start : fs'.start path = fs.start path := by rw [Files.start, Files.start, grows.here]
  have way : fs'.onTheWay path = fs.onTheWay path := by rw [onTheWay, onTheWay, start]
  have place : fs'.target path = fs.target path := by rw [target, target, start]
  have directories : ∀ p ∈ fs'.onTheWay path, fs'.node? p = some .directory := by
    rw [way]
    exact descended
  have starts : fs'.node? (fs'.start path) = some .directory :=
    start ▸ grows.node_of_eq_some h.starts
  have located : fs'.locate path = .ok (fs'.target path) :=
    locate_of_directories named starts directories
  have free : fs'.node? (fs'.target path) ≠ some .directory := by
    rw [place]
    rcases grows.node (fs.target path) with kept | ⟨-, -, mem⟩
    · exact kept ▸ h.free
    · exact absurd (List.mem_cons_of_mem _ mem) h.apart
  have notTop : fs'.target path ≠ [] := by
    intro top
    simp [node?, top] at free
  refine ⟨_, write_eq_ok located free h.slashless content, read_eq_ok_iff.mpr
    ⟨fs'.target path, ?_, node?_put notTop _ _, h.slashless⟩⟩
  -- the file is at none of the places that the path leads through
  have apart : ∀ p ∈ fs'.start path :: fs'.onTheWay path, p ≠ fs'.target path := by
    rintro p mem rfl
    rw [start, way, place] at mem
    exact h.apart mem
  have passes : ∀ p ∈ fs'.start path :: fs'.onTheWay path,
      (fs'.put (fs'.target path) (.file content)).node? p = some .directory := by
    intro p mem
    rw [node?_put_of_ne (apart p mem)]
    rcases List.mem_cons.mp mem with rfl | onTheWay
    · exact starts
    · exact directories p onTheWay
  exact locate_of_directories named (passes _ List.mem_cons_self)
    fun p mem => passes p (List.mem_cons_of_mem _ mem)

end paths

end Files

end CameraBroker
