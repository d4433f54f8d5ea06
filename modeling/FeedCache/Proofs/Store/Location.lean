/-
This file says where the stores of sessions lie.

Main statements: the store of a session is a file of its own in the directory of its namespace, and
the paths of two sessions differ by more than the name of a companion file.
-/
import FeedCache.Proofs.Disk.Path

namespace FeedCache.Store

/-- An accepted session name is neither one dot nor two, and holds no separator. -/
theorem checkName_ok {name : String} (accepted : checkName name = .ok ()) :
    name ≠ "." ∧ name ≠ ".." ∧ ∀ c ∈ name.toList, isSeparator c = false := by
  unfold checkName at accepted
  split at accepted
  · cases accepted
  · split at accepted
    · cases accepted
    · rename_i reserved
      split at accepted
      · cases accepted
      · rename_i clean
        obtain ⟨noDot, noDots⟩ := not_or.1 reserved
        refine ⟨noDot, noDots, ?_⟩
        simpa using clean

theorem noSlash_of_clean {name : String} (clean : ∀ c ∈ name.toList, isSeparator c = false) :
    '/' ∉ name.toList := fun inside => Bool.noConfusion (clean '/' inside)

theorem path_eq_ok {base namespaceName session found : String} :
    path base namespaceName session = .ok found ↔ checkName session = .ok () ∧
      found = joinPath (joinPath base ("." ++ namespaceName)) (session ++ ".db") := by
  unfold path
  cases checkName session with
  | error fault => simp [bind, Except.bind]
  | ok _ => simp [bind, Except.bind, pure, Except.pure, eq_comm]

/-- The file of an accepted session has a name. -/
theorem isName_file {session : String} (accepted : checkName session = .ok ()) :
    IsName (session ++ ".db") :=
  .ofEnding (by decide) (noSlash_of_clean (checkName_ok accepted).2.2) (by decide)

/-- The store of a session lies in the directory of its namespace. -/
theorem ofPath_path {base namespaceName session found : String}
    (named : path base namespaceName session = .ok found) (start : Place) :
    Place.ofPath start found =
      Place.ofPath start (joinPath base ("." ++ namespaceName)) ++ [session ++ ".db"] := by
  obtain ⟨accepted, rfl⟩ := path_eq_ok.1 named
  have isName := isName_file accepted
  rw [Place.ofPath_joinPath start _ isName.noSlash, Place.enter_name isName]

/-- What stands before each name that is joined to a path. -/
theorem joinPath_common (base : String) :
    ∃ front, ∀ name : String, '/' ∉ name.toList → joinPath base name = front ++ name := by
  have relative : ∀ name : String, '/' ∉ name.toList → name.toList.head? ≠ some '/' :=
    fun name noSlash first => noSlash (List.mem_of_head? first)
  by_cases complete : base.isEmpty ∨ base.toList.getLast? = some '/'
  · exact ⟨base, fun name noSlash => by
      rw [joinPath, if_neg (relative name noSlash), if_pos complete]⟩
  · exact ⟨base ++ "/", fun name noSlash => by
      rw [joinPath, if_neg (relative name noSlash), if_neg complete]⟩

/-- Two sessions with one path have one name. -/
theorem path_injective {base namespaceName first second found : String}
    (left : path base namespaceName first = .ok found)
    (right : path base namespaceName second = .ok found) : first = second := by
  obtain ⟨accepted, rfl⟩ := path_eq_ok.1 left
  obtain ⟨other, same⟩ := path_eq_ok.1 right
  obtain ⟨front, joined⟩ := joinPath_common (joinPath base ("." ++ namespaceName))
  rw [joined _ (isName_file accepted).noSlash, joined _ (isName_file other).noSlash] at same
  exact (String.append_left_inj _).1 ((String.append_right_inj _).1 same)

/-- The stores of two sessions with different names lie beside each other. -/
theorem beside_of_names {base namespaceName first second found other : String}
    (left : path base namespaceName first = .ok found)
    (right : path base namespaceName second = .ok other) (different : first ≠ second)
    (start : Place) : (Place.ofPath start found).Beside (Place.ofPath start other) := by
  rw [ofPath_path left, ofPath_path right]
  refine ⟨by simp, fun same => different ?_, by simp⟩
  have files : first ++ ".db" = second ++ ".db" := by simpa using same
  exact (String.append_left_inj _).1 files

/-- The names that a database puts behind that of a store for its companion files. -/
def companions : List String := ["-wal", "-shm", "-journal"]

/-- No store is the companion of another file. -/
theorem path_ne_companion {base namespaceName session found : String}
    (named : path base namespaceName session = .ok found) {suffix : String}
    (companion : suffix ∈ companions) (other : String) : found ≠ other ++ suffix := by
  obtain ⟨accepted, rfl⟩ := path_eq_ok.1 named
  obtain ⟨front, joined⟩ := joinPath_common (joinPath base ("." ++ namespaceName))
  rw [joined _ (isName_file accepted).noSlash]
  intro same
  have last := congrArg (fun text : String => text.toList.getLast?) same
  simp only [companions, List.mem_cons, List.not_mem_nil, or_false] at companion
  rcases companion with rfl | rfl | rfl <;> simp at last

/-- Every accepted session has a path. -/
theorem path_of_accepted {session : String} (accepted : checkName session = .ok ())
    (base namespaceName : String) : ∃ found, path base namespaceName session = .ok found :=
  ⟨_, path_eq_ok.2 ⟨accepted, rfl⟩⟩

end FeedCache.Store
