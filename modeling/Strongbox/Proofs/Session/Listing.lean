import Strongbox.Proofs.Session.Pool
import Strongbox.Proofs.Tree.Listing

/-!
# Listing a directory

A program that lists a directory is told the names in it and nothing about the dots.

* `Session.ListsAs` — what every session on a container is told of a key of its tree.
* **`Tree.listed_and_told`** — the calls on a directory agree on what lies in it, and a program that
  lists it is told the same.
-/

namespace Strongbox

/-- Some names are told to whoever lists a path with a key, in every mounted session on a container
with a tree. -/
def Session.ListsAs (t : Tree) (key : String) (names : List String) : Prop :=
  ∀ (suite : CipherSuite) (thread : Thread) (line : Timeline) (c : OpenContainer) (host : Host)
    (s : Session) (path : String), line.Holds c host → c.tree = t → s.isMounted = true →
    Key.normalize path = .ok key →
      ∃ line', (s.list path).runOn suite thread line = (.ok names, line') ∧ line'.Holds c host

namespace Tree

variable {t : Tree} {key : String}

lemma listsAs_names (h : t.WellFormed) (hkey : t.isDir key = true) :
    Session.ListsAs t key (t.names key) := by
  rintro suite thread line c host s path hholds rfl hs hpath
  obtain ⟨line', hlist, hholds'⟩ := Call.runOn_list suite thread hholds hs path
  rw [atPath_of_normalize hpath, names_of_readdir h hkey] at hlist
  exact ⟨line', hlist, hholds'⟩

/-- The calls on a directory tell exactly what lies in it, and so does a program's listing of it. -/
theorem listed_and_told (h : t.WellFormed) (hkey : t.isDir key = true) :
    ∃ names, t.Listed key names ∧ Session.ListsAs t key names :=
  ⟨t.names key, listed_of_isDir h hkey, listsAs_names h hkey⟩

/-- A directory is listed that holds a directory with something in it.  Between its key and the keys
in it stands that of its neighbour. -/
theorem listed_after_mkdir :
    let tree (stamp : Stamp) : Tree := madeBy stamp [.mkdir "/d" 0o755, .mkdir "/d!" 0o755,
      .create "/d/é" 0o644, .create "/d/b" 0o644, .mkdir "/d/a" 0o755, .create "/d/a/x" 0o644]
    let t : Tree := tree ⟨.epoch, 0, 0⟩
    t.WellFormed ∧ t.isDir "/d" = true
      ∧ (∃ names, t.Listed "/d" names ∧ Session.ListsAs t "/d" names)
      ∧ ∃ line, (Session.small.list "d/.").runOn .standard mainThread (.small tree)
        = (.ok ["a", "b", "é"], line) := by
  intro tree t
  have h : t.WellFormed := wellFormed_madeBy (by decide +kernel)
  have hkey : t.isDir "/d" = true := by decide +kernel
  have hread : t.readdir "/d" = .ok [".", "..", "a", "b", "é"] := by decide +kernel
  obtain ⟨names, hlisted, htold⟩ := listed_and_told h hkey
  obtain rfl : names = ["a", "b", "é"] := by simpa using hlisted.readdir.symm.trans hread
  obtain ⟨line, hline, -⟩ := htold .standard mainThread (.small tree) _ _ .small "d/." ⟨rfl, rfl⟩
    rfl rfl rfl
  exact ⟨h, hkey, ⟨_, hlisted, htold⟩, line, hline⟩

end Tree

end Strongbox
