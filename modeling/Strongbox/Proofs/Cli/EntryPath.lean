import Strongbox.Cli.EntryPath
import Strongbox.Proofs.Key.Normalization
import Strongbox.Proofs.Tree.Listing

/-!
# Paths of entries

The path of a name in a directory has the key of that name, however the directory is spelled.

* **`EntryPath.normalize_join`** — the key of a joined path.
-/

namespace Strongbox

namespace EntryPath

lemma toList_join (directory name : String) : (join directory name).toList
    = (if directory = "/" then [] else directory.toList) ++ '/' :: name.toList := by
  rw [join]
  split
  · rw [String.toList_append]
    rfl
  · rw [String.toList_append, String.toList_append, List.append_assoc]
    rfl

/-- A name, joined to any spelling of its directory, leads to the name in the directory. -/
lemma normalize_join_name {path key name : String} (hpath : Key.normalize path = .ok key)
    (hname : Key.IsName name.toList) :
    Key.normalize (join path name) = .ok (Key.child key name) := by
  obtain ⟨-, hnul, rfl⟩ := Key.normalize_eq_ok.1 hpath
  rw [← String.ofList_toList (s := name), Key.child_ofNames (Key.walk_isName hnul),
    String.ofList_toList, Key.normalize_eq_ok, toList_join]
  refine ⟨fun hempty => ?_, ?_, ?_⟩
  · have htext := toList_join path name
    rw [hempty] at htext
    exact absurd htext.symm (List.append_ne_nil_of_right_ne_nil _ (List.cons_ne_nil _ _))
  · split <;> simp [hnul, hname.no_nul]
  · rw [Key.walk_append_name _ hname]
    split
    · next hroot =>
        subst hroot
        rfl
    · rfl

/-- The name of a child, joined to any spelling of its directory, leads to the child. -/
theorem normalize_join {path key child : String} (hpath : Key.normalize path = .ok key)
    (hchild : Key.Canonical child) (hp : Key.parent? child = some key) :
    Key.normalize (join path (Key.fileName child)) = .ok child := by
  obtain ⟨hname, hsame⟩ := Key.child_fileName hchild hp
  rw [normalize_join_name hpath hname, hsame]

end EntryPath

end Strongbox
