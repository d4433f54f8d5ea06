/-
This file says where valid settings put the stores of sessions.

Main statements: with valid settings a store lies two steps below the base directory, in a directory
whose name starts with a dot; the one exception is a namespace of a single dot, which leads above
the base directory.
-/
import FeedCache.Proofs.Basic
import FeedCache.Proofs.Settings.Rules
import FeedCache.Proofs.Store.Location

namespace FeedCache.Settings

/-- A valid namespace is not empty and holds no separator. -/
theorem Valid.namespaceName {settings : Settings} (valid : settings.Valid) :
    settings.namespaceName ≠ "" ∧
      ∀ c ∈ settings.namespaceName.toList, Store.isSeparator c = false := by
  have kept : settings.KeepsRule .namespaceName := violation?_eq_none.1 valid .namespaceName
  refine ⟨kept.1, fun c member => ?_⟩
  obtain ⟨slash, backslash, zero⟩ := kept.2 c member
  simp [Store.isSeparator, slash, backslash, zero]

/-- The directory of a valid namespace has a name, unless the namespace is a dot. -/
theorem Valid.isName_directory {settings : Settings} (valid : settings.Valid)
    (other : settings.namespaceName ≠ ".") : IsName ("." ++ settings.namespaceName) := by
  obtain ⟨filled, clean⟩ := valid.namespaceName
  have absent := Store.noSlash_of_clean clean
  refine ⟨by simp, fun same => filled ?_, fun same => other ?_, by simp [absent]⟩
  · exact (String.append_right_inj ".").1 (same.trans (String.append_empty).symm)
  · exact (String.append_right_inj ".").1 same

/-- A store has a place exactly if a base directory is known and the name of its session is
accepted. -/
theorem storePath_eq_ok {settings : Settings} {home : Option String} {session path : String} :
    settings.storePath home session = .ok path ↔
      ∃ base, settings.base? home = some base ∧
        Store.path base settings.namespaceName session = .ok path := by
  unfold storePath
  cases settings.base? home with
  | none => simp
  | some base => simp [mapError_eq_ok]

/-- With a home directory there is always a base directory. -/
theorem base?_home (settings : Settings) (home : String) :
    settings.base? home = some (settings.base home) := by
  rw [base?, base]
  cases settings.basePath <;> rfl

/-- The store of an accepted session lies in a hidden directory right below the base directory,
unless the namespace is a dot: then it lies beside the base directory. -/
theorem storePath_hidden (settings : Settings) (home session : String) (start : Place)
    (valid : settings.Valid) (accepted : Store.checkName session = .ok ()) :
    ∃ path, settings.storePath home session = .ok path ∧
      (settings.namespaceName ≠ "." → ∃ directory file,
        Place.ofPath start path = Place.ofPath start (settings.base home) ++ [directory, file] ∧
          IsName directory ∧ (∃ rest, directory = "." ++ rest) ∧
          IsName file ∧ ∃ front, file = front ++ ".db") ∧
      (settings.namespaceName = "." → ∃ file,
        Place.ofPath start path = (Place.ofPath start (settings.base home)).dropLast ++ [file]) := by
  obtain ⟨path, found⟩ : ∃ path,
      Store.path (settings.base home) settings.namespaceName session = .ok path :=
    ⟨_, Store.path_eq_ok.2 ⟨accepted, rfl⟩⟩
  have placed := storePath_eq_ok.2 ⟨_, settings.base?_home home, found⟩
  have place := Store.ofPath_path found start
  refine ⟨path, placed, fun other => ?_, fun dot => ?_⟩
  · have isName := valid.isName_directory other
    refine ⟨"." ++ settings.namespaceName, session ++ ".db", ?_, isName, ⟨_, rfl⟩,
      Store.isName_file accepted, ⟨_, rfl⟩⟩
    rw [place, Place.ofPath_joinPath start _ isName.noSlash, Place.enter_name isName,
      List.append_assoc]
    rfl
  · refine ⟨session ++ ".db", ?_⟩
    rw [place, dot, Place.ofPath_joinPath start _ (by decide)]
    rfl

/-- Settings whose namespace is two dots. -/
def dottedSettings : Settings := { namespaceName := "..", basePath := some "/srv/../data" }

/-- A namespace and a session that consist of dots stay below the base directory. -/
theorem storePath_hidden_sample : dottedSettings.Valid ∧ Store.checkName "..." = .ok () ∧
    ∃ path directory file, dottedSettings.storePath "" "..." = .ok path ∧
      Place.ofPath [] path = ["data", directory, file] ∧ IsName directory ∧ IsName file := by
  have valid : dottedSettings.Valid := by decide
  have accepted : Store.checkName "..." = .ok () := rfl
  obtain ⟨path, found, below, -⟩ := storePath_hidden dottedSettings "" "..." [] valid accepted
  obtain ⟨directory, file, place, isDirectory, -, isFile, -⟩ := below (by decide)
  exact ⟨valid, accepted, path, directory, file, found, place, isDirectory, isFile⟩

/-- A valid namespace of a single dot leads to a store beside the base directory. -/
theorem storePath_escapes :
    let settings : Settings := { namespaceName := ".", basePath := some "/base" }
    settings.Valid ∧ Store.checkName "news" = .ok () ∧
      settings.storePath "" "news" = .ok "/base/../news.db" ∧
      Place.ofPath [] "/base/../news.db" = ["news.db"] ∧
      ∀ directory file, ["news.db"] ≠ Place.ofPath [] "/base" ++ [directory, file] := by
  refine ⟨by decide, rfl, rfl, by decide, fun directory file same => ?_⟩
  have lengths := congrArg List.length same
  simp at lengths

end FeedCache.Settings
