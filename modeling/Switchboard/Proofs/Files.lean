import Mathlib.Data.List.Basic
import Switchboard.Files
import Switchboard.Proofs.Text.Octets

/-!
# Files that have been written

A path to which a file can be written leads through directories to a place that is none, and
afterwards it leads to the file there.
-/

namespace Switchboard
namespace FileTree

/-- A path to which a file can be written. -/
def IsWritable
    (tree : FileTree)
    (path : Text.Octets) : Prop :=
  ∃ place, tree.resolveNew path = .ok place

variable {tree : FileTree} {place : Place} {node : Node}

/-! ## Places -/

theorem node?_of_ne_nil
    (tree : FileTree)
    {place : Place}
    (below : place ≠ []) :
    tree.node? place = tree.nodes.lookup place := by
  cases place with
  | nil => exact absurd rfl below
  | cons name rest => rfl

/-- A node is found where it has been put. -/
theorem node?_put_self
    (tree : FileTree)
    {place : Place}
    (below : place ≠ [])
    (node : Node) :
    (tree.put place node).node? place = some node := by
  rw [node?_of_ne_nil _ below, put, List.lookup_cons_self]

theorem lookup_filter_ne
    (nodes : List (Place × Node))
    {place other : Place}
    (different : other ≠ place) :
    (nodes.filter fun entry => entry.1 ≠ place).lookup other = nodes.lookup other := by
  induction nodes with
  | nil => rfl
  | cons entry rest inductionHypothesis =>
      obtain ⟨first, node⟩ := entry
      by_cases same : first = place
      · subst same
        have elsewhere : (other == first) = false := beq_eq_false_iff_ne.mpr different
        simp only [List.filter_cons, ne_eq, not_true_eq_false, decide_false,
          Bool.false_eq_true, if_false, List.lookup_cons, elsewhere, inductionHypothesis]
      · simp only [List.filter_cons, ne_eq, same, not_false_eq_true, decide_true, if_true,
          List.lookup_cons, inductionHypothesis]

/-- A node that is put changes no other place. -/
theorem node?_put_of_ne
    (tree : FileTree)
    {place other : Place}
    (different : other ≠ place)
    (node : Node) :
    (tree.put place node).node? other = tree.node? other := by
  cases other with
  | nil => rfl
  | cons name rest =>
      change List.lookup _ ((place, node) :: _) = List.lookup _ _
      rw [List.lookup_cons, beq_eq_false_iff_ne.mpr different]
      exact lookup_filter_ne tree.nodes different

/-- Something that is put where no directory is leaves the directories where they are, and takes
nothing away. -/
theorem isSome_node?_put
    {other : Place}
    (found : (tree.node? other).isSome)
    (below : place ≠ [])
    (node : Node) :
    ((tree.put place node).node? other).isSome := by
  by_cases same : other = place
  · rw [same, node?_put_self tree below]
    rfl
  · rw [node?_put_of_ne tree same]
    exact found

/-! ## Ways -/

/-- A step on a way can still be made after something has been put where no directory is. -/
theorem enter_put
    {before after : Place}
    {name : Text.Octets}
    (enters : tree.enter before name = .ok after)
    (below : place ≠ [])
    (free : tree.node? place ≠ some .directory)
    (node : Node) :
    (tree.put place node).enter before name = .ok after := by
  unfold enter at enters ⊢
  split at enters
  · cases enters
  next directory =>
  have different : before ≠ place := by
    rintro rfl
    exact directory free
  rw [node?_put_of_ne tree different, if_neg directory]
  split at enters
  · next remains => rwa [if_pos remains]
  next moves =>
  rw [if_neg moves]
  split at enters
  · next leaves => rwa [if_pos leaves]
  next descends =>
  rw [if_neg descends]
  split at enters
  · cases enters
  next short =>
  rw [if_neg short]
  split at enters
  · next found => rwa [if_pos (isSome_node?_put found below node)]
  · cases enters

/-- A step to a name that is there. -/
theorem enter_of_isSome
    {directory : Place}
    {name : Text.Octets}
    (isDirectory : tree.node? directory = some .directory)
    (moves : stays name = false)
    (descends : leaves name = false)
    (short : name.length ≤ maxName)
    (found : (tree.node? (directory ++ [name])).isSome) :
    tree.enter directory name = .ok (directory ++ [name]) := by
  rw [enter, if_neg (not_not.mpr isDirectory), if_neg (Bool.eq_false_iff.mp moves),
    if_neg (Bool.eq_false_iff.mp descends), if_neg (Nat.not_lt.mpr short), if_pos found]

/-- A way through directories goes on as before when a node is put where no directory is. -/
theorem foldlM_enter_put
    {way : List Text.Octets}
    {before after : Place}
    (goes : way.foldlM tree.enter before = .ok after)
    (below : place ≠ [])
    (free : tree.node? place ≠ some .directory)
    (node : Node) :
    way.foldlM (tree.put place node).enter before = .ok after := by
  induction way generalizing before with
  | nil => exact goes
  | cons name rest inductionHypothesis =>
      rw [List.foldlM_cons] at goes ⊢
      cases entered : tree.enter before name with
      | error fault =>
          rw [entered] at goes
          cases goes
      | ok next =>
          rw [entered] at goes
          rw [enter_put entered below free node]
          exact inductionHypothesis goes

/-! ## Names -/

theorem names_cons
    (octet : UInt8)
    {path : Text.Octets}
    {first : Text.Octets}
    {others : List Text.Octets}
    (rest : names path = first :: others) :
    names (octet :: path) =
      if octet = slash then [] :: first :: others else (octet :: first) :: others := by
  rw [names, rest]

/-- A path that does not end with a slash ends with a name. -/
theorem exists_names_eq_concat
    {path : Text.Octets}
    (given : path ≠ [])
    (unslashed : path.getLast? ≠ some slash) :
    ∃ before name, names path = before ++ [name] ∧ name ≠ [] := by
  induction path with
  | nil => exact absurd rfl given
  | cons octet rest inductionHypothesis =>
      cases rest with
      | nil =>
          have other : octet ≠ slash := by
            rintro rfl
            exact unslashed rfl
          exact ⟨[], [octet], by simp [names, other], List.cons_ne_nil _ _⟩
      | cons next more =>
          rw [List.getLast?_cons_cons] at unslashed
          obtain ⟨before, name, whole, named⟩ :=
            inductionHypothesis (List.cons_ne_nil _ _) unslashed
          cases before with
          | nil =>
              rw [names_cons octet whole]
              split
              · exact ⟨[[]], name, rfl, named⟩
              · exact ⟨[], octet :: name, rfl, List.cons_ne_nil _ _⟩
          | cons first others =>
              rw [names_cons octet whole]
              split
              · exact ⟨[] :: first :: others, name, rfl, named⟩
              · exact ⟨(octet :: first) :: others, name, rfl, named⟩

/-- The last name of a path is split off. -/
theorem splitLast_of_names
    {path name : Text.Octets}
    {before : List Text.Octets}
    (whole : names path = before ++ [name])
    (named : name ≠ []) :
    splitLast path = (before, name) := by
  have kept : ((before ++ [name]).reverse.dropWhile List.isEmpty).reverse =
      before ++ [name] := by
    rw [List.reverse_append, List.reverse_singleton, List.singleton_append,
      List.dropWhile_cons_of_neg (by simpa using named), List.reverse_cons,
      List.reverse_reverse]
  rw [splitLast, whole]
  simp only [kept, List.dropLast_concat, List.getLast?_concat, Option.getD_some]

/-! ## Written files -/

/-- How a path leads to the place for a new file. -/
structure LeadsTo
    (tree : FileTree)
    (path : Text.Octets)
    (place : Place) : Prop where
  sound : check path = .ok ()
  free : tree.node? place ≠ some .directory
  leads : ∃ before name directory,
    names path = before ++ [name] ∧
      before.foldlM tree.enter (tree.origin path) = .ok directory ∧
      tree.node? directory = some .directory ∧
      stays name = false ∧ leaves name = false ∧ name.length ≤ maxName ∧
      place = directory ++ [name]

theorem ne_nil_of_check
    {path : Text.Octets}
    (sound : check path = .ok ()) :
    path ≠ [] := by
  rintro rfl
  cases sound

/-- A place for a new file is one its path leads to. -/
theorem leadsTo_of_resolveNew
    {path : Text.Octets}
    (resolves : tree.resolveNew path = .ok place) :
    tree.LeadsTo path place := by
  cases parts : splitLast path with
  | mk before name =>
  rw [resolveNew, parts] at resolves
  cases sound : check path with
  | error fault =>
      rw [sound] at resolves
      cases resolves
  | ok done =>
  rw [sound] at resolves
  dsimp only [bind, Except.bind] at resolves
  cases goes : before.foldlM tree.enter (tree.origin path) with
  | error fault =>
      rw [follow, goes] at resolves
      cases resolves
  | ok directory =>
  rw [follow, goes] at resolves
  dsimp only [Except.mapError] at resolves
  split at resolves
  · cases resolves
  next isDirectory =>
  split at resolves
  · cases resolves
  next fits =>
  split at resolves
  · cases resolves
  next short =>
  split at resolves
  · cases resolves
  next free =>
  simp only [Bool.or_eq_true, not_or, Bool.not_eq_true, decide_eq_true_eq] at fits
  obtain ⟨⟨moves, descends⟩, unslashed⟩ := fits
  obtain ⟨others, last, whole, named⟩ := exists_names_eq_concat (ne_nil_of_check sound) unslashed
  obtain ⟨rfl, rfl⟩ := Prod.mk.inj (parts.symm.trans (splitLast_of_names whole named))
  cases resolves
  exact ⟨sound, free, before, name, directory, whole, goes, not_not.mp isDirectory, moves,
    descends, Nat.not_lt.mp short, rfl⟩

/-- Reading a path gives the content of the file it leads to. -/
theorem readOctets_of_resolve
    {path content : Text.Octets}
    (resolved : tree.resolve path = .ok place)
    (here : tree.node? place = some (.file content)) :
    tree.readOctets path = .ok content := by
  rw [readOctets, resolved]
  dsimp only [bind, Except.bind]
  rw [here]
  rfl

/-- A file that has been put at the end of its path is found there. -/
theorem readOctets_put
    {path : Text.Octets}
    (resolves : tree.resolveNew path = .ok place)
    (content : Text.Octets) :
    (tree.put place (.file content)).readOctets path = .ok content := by
  obtain ⟨sound, free, before, name, directory, whole, goes, isDirectory, moves, descends,
    short, rfl⟩ := leadsTo_of_resolveNew resolves
  have below : directory ++ [name] ≠ [] := List.append_ne_nil_of_right_ne_nil _ (by simp)
  have here := node?_put_self tree below (.file content)
  have stillDirectory : (tree.put (directory ++ [name]) (.file content)).node? directory =
      some .directory :=
    (node?_put_of_ne tree (by simp) _).trans isDirectory
  have enters := enter_of_isSome stillDirectory moves descends short (here ▸ rfl)
  refine readOctets_of_resolve ?_ here
  have arrives : (before ++ [name]).foldlM (tree.put (directory ++ [name]) (.file content)).enter
      (tree.origin path) = .ok (directory ++ [name]) := by
    rw [List.foldlM_append, foldlM_enter_put goes below free]
    dsimp only [bind, Except.bind]
    rw [List.foldlM_cons, enters]
    rfl
  rw [resolve, sound, whole]
  exact congrArg (Except.mapError FileFault.system) arrives

/-- A text that has been written to a file is read from it. -/
theorem read_write
    {path : Text.Octets}
    (writable : tree.IsWritable path)
    (text : String) :
    ∃ after, tree.write path (Text.octets text) = .ok after ∧ after.read path = .ok text := by
  obtain ⟨place, resolves⟩ := writable
  refine ⟨tree.put place (.file (Text.octets text)), ?_, ?_⟩
  · rw [write, resolves]
    rfl
  · rw [read, readOctets_put resolves]
    dsimp only [bind, Except.bind]
    rw [Text.decode?_eq_some_iff.mpr rfl]
    rfl

end FileTree
end Switchboard
