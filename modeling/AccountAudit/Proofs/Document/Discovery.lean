import AccountAudit.Document.Discovery
import AccountAudit.Proofs.Files.Tree

/-!
# Documents that are found

What some paths stand for is a set: each document is found once, and neither the order of the paths
nor repetitions among them matter (`discover_congr`). In a proper tree, proper paths stand for proper
paths, which are found in strict order (`ascending_discover`).
-/

namespace AccountAudit
namespace Document

open Files

variable {tree : Tree} {paths : List Path}

theorem mem_discover {path : Path} :
    path ∈ discover tree paths ↔ ∃ given ∈ paths, path ∈ expand tree given := by
  rw [discover, Path.mem_distinctSorted, List.mem_flatMap]

theorem nodup_discover (tree : Tree) (paths : List Path) : (discover tree paths).Nodup :=
  Path.nodup_distinctSorted _

theorem proper_of_mem_expand (proper : tree.Proper) {given path : Path} (written : given.Proper)
    (member : path ∈ expand tree given) : path.Proper := by
  unfold expand at member
  -- A folder stands for the documents below it, and any other path for itself.
  split at member
  · rename_i entries found
    rcases List.mem_map.1 member with ⟨names, inside, rfl⟩
    have below : ∀ name ∈ names, IsName name :=
      (proper.find found).isName_of_mem_filesBelow (List.mem_filter.1 inside).1
    refine ⟨written.anchor, fun name listed => ?_⟩
    rcases List.mem_append.1 listed with above | listed
    · exact written.names name above
    · exact below name listed
  · obtain rfl := List.mem_singleton.1 member
    exact written

theorem proper_of_mem_discover (proper : tree.Proper) (written : ∀ given ∈ paths, given.Proper)
    {path : Path} (member : path ∈ discover tree paths) : path.Proper := by
  rcases mem_discover.1 member with ⟨given, inside, expanded⟩
  exact proper_of_mem_expand proper (written given inside) expanded

theorem ascending_discover (proper : tree.Proper) (written : ∀ given ∈ paths, given.Proper) :
    (discover tree paths).Pairwise fun p q => p.steps < q.steps := by
  refine Path.ascending_distinctSorted fun path member => ?_
  rcases List.mem_flatMap.1 member with ⟨given, inside, expanded⟩
  exact proper_of_mem_expand proper (written given inside) expanded

/-- Neither the order of the paths nor repetitions among them matter. -/
theorem discover_congr (proper : tree.Proper) {paths' : List Path}
    (written : ∀ given ∈ paths, given.Proper) (same : ∀ given, given ∈ paths' ↔ given ∈ paths) :
    discover tree paths' = discover tree paths := by
  have members : ∀ path, path ∈ paths.flatMap (expand tree) ↔ path ∈ paths'.flatMap (expand tree) := by
    intro path
    simp only [List.mem_flatMap, same]
  refine (Path.distinctSorted_congr (fun path member => ?_) members).symm
  rcases List.mem_flatMap.1 member with ⟨given, inside, expanded⟩
  exact proper_of_mem_expand proper (written given inside) expanded

end Document
end AccountAudit
