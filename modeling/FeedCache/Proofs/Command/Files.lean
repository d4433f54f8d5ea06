/-
This file says which files a run writes for the bodies it has fetched.

Main statements: each resource has a file name of its own, and no such file is a store.
-/
import FeedCache.Command.Grab
import FeedCache.Proofs.Disk.Opening
import FeedCache.Proofs.Store.Location

namespace FeedCache

/-- A file that is written is put at its place, and nothing else is done. -/
theorem Disk.writeFile_ok {disk written : Disk} {place : Place} {content : ByteArray}
    (success : disk.writeFile place content = .ok written) :
    written = disk.set place (.file content) := by
  unfold writeFile at success
  split at success
  · cases success
  · split at success
    · cases success
    · split at success
      · split at success
        · cases success
        · exact (Except.ok.inj success).symm
      · cases success
      · cases success

namespace Command

/-- The name of a file for a body. -/
structure IsBodyName (name : String) : Prop extends IsName name where
  ending : ∃ front, name = front ++ ".body"

theorem IsBodyName.ofFront {front : String} (noSlash : '/' ∉ front.toList) :
    IsBodyName (front ++ ".body") :=
  ⟨.ofEnding (by decide) noSlash (by decide), front, rfl⟩

theorem isBodyName_primaryName : IsBodyName primaryName :=
  IsBodyName.ofFront (show '/' ∉ "primary".toList by decide)

/-- The place in the list with as many zeros before it as give four digits. -/
def padded (index : Nat) : List Char := (toString index).toList.leftpad 4 '0'

/-- The file of a resource is named for its place in the list, which has four digits or more. -/
def numberedName (index : Nat) : String := String.ofList (padded index) ++ ".body"

theorem fileName_eq (index : Nat) : fileName index = numberedName index := rfl

example : numberedName 7 = "0007.body" := by decide

theorem isDigit_padded {index : Nat} {c : Char} (member : c ∈ padded index) : c.isDigit := by
  rw [padded, List.leftpad] at member
  rcases List.mem_append.1 member with zero | digit
  · rw [List.eq_of_mem_replicate zero]
    rfl
  · rw [Nat.toString_eq_repr, Nat.toList_repr] at digit
    exact Nat.isDigit_of_mem_toDigits (by decide) (by decide) digit

/-- The number is read back from its digits. -/
theorem ofDigitChars_padded (index : Nat) : Nat.ofDigitChars 10 (padded index) 0 = index := by
  rw [padded, List.leftpad, Nat.ofDigitChars_append, Nat.ofDigitChars_replicate_zero, Nat.mul_zero,
    Nat.toString_eq_repr, Nat.toList_repr, Nat.ofDigitChars_ten_toDigits]

theorem isBodyName_fileName (index : Nat) : IsBodyName (fileName index) := by
  refine .ofFront fun slash => ?_
  rw [String.toList_ofList] at slash
  exact absurd (isDigit_padded slash) (by decide)

/-- Two resources have two files. -/
theorem fileName_injective : Function.Injective fileName := by
  intro first second same
  rw [fileName_eq, fileName_eq, numberedName, numberedName, String.append_left_inj,
    String.ofList_inj] at same
  rw [← ofDigitChars_padded first, same, ofDigitChars_padded]

theorem fileName_ne_primaryName (index : Nat) : fileName index ≠ primaryName := by
  intro same
  have front : String.ofList (padded index) = "primary" := (String.append_left_inj ".body").1 same
  have letter : 'p' ∈ padded index := by
    rw [← String.toList_ofList (l := padded index), front]
    decide
  exact absurd (isDigit_padded letter) (by decide)

/-- The place of the file in a directory for bodies. -/
def bodyPlace (start : Place) (directory name : String) : Place :=
  Place.ofPath start directory ++ [name]

theorem ofPath_body {name : String} (isBody : IsBodyName name) (start : Place)
    (directory : String) :
    Place.ofPath start (Store.joinPath directory name) = bodyPlace start directory name := by
  rw [Place.ofPath_joinPath start _ isBody.noSlash, Place.enter_name isBody.toIsName, bodyPlace]

theorem bodyPlace_inj {start : Place} {directory first second : String} :
    bodyPlace start directory first = bodyPlace start directory second ↔ first = second := by
  simp [bodyPlace]

/-- A body does not take the place of a store. -/
theorem bodyPlace_ne_store {base namespaceName session found : String}
    (named : Store.path base namespaceName session = .ok found) {name : String}
    (isBody : IsBodyName name) (start : Place) (directory : String) :
    bodyPlace start directory name ≠ Place.ofPath start found := by
  rw [Store.ofPath_path named, bodyPlace]
  intro same
  obtain ⟨front, rfl⟩ := isBody.ending
  have names : front ++ ".body" = session ++ ".db" := by
    simpa using congrArg List.getLast? same
  have last := congrArg (fun text : String => text.toList.getLast?) names
  simp at last

variable {State : Type}

/-- What is read from the file of a body. -/
theorem readFile?_body {world : World State} {path name : String} {body : ByteArray}
    (isBody : IsBodyName name)
    (present : world.disk.node? (bodyPlace world.start path name) = some (.file body)) :
    world.disk.readFile? (world.place (Store.joinPath path name)) = some body := by
  rw [World.place, ofPath_body isBody, Disk.readFile?, present]

/-- Each resource has a file of its own. -/
theorem files_apart (world : World State) (path : String) (first second : Nat) :
    world.place (Store.joinPath path (fileName first)) ≠
        world.place (Store.joinPath path primaryName) ∧
      (world.place (Store.joinPath path (fileName first)) =
        world.place (Store.joinPath path (fileName second)) → first = second) := by
  simp only [World.place, ofPath_body (isBodyName_fileName _), ofPath_body isBodyName_primaryName]
  exact ⟨mt bodyPlace_inj.1 (fileName_ne_primaryName first),
    fun same => fileName_injective (bodyPlace_inj.1 same)⟩

/-- A body is written into its file, if there is one and there is a directory for it. -/
inductive Wrote (world : World State) (name : String) :
    Option ByteArray → Option String → Option String → World State → Prop
  | nothing (directory : Option String) : Wrote world name none directory none world
  | nowhere (body : ByteArray) : Wrote world name (some body) none none world
  | file (body : ByteArray) (path : String) :
      Wrote world name (some body) (some path) (some (Store.joinPath path name))
        { world with disk := world.disk.set (bodyPlace world.start path name) (.file body) }

theorem writeBody_ok {world after : World State} {directory file : Option String} {name : String}
    {body : ByteArray} (isBody : IsBodyName name)
    (written : writeBody world directory name body = (.ok file, after)) :
    Wrote world name (some body) directory file after := by
  unfold writeBody at written
  cases directory with
  | none =>
      cases written
      exact .nowhere body
  | some path =>
      dsimp only at written
      rw [World.place, ofPath_body isBody] at written
      split at written
      · rename_i disk success
        cases written
        rw [Disk.writeFile_ok success]
        exact .file body path
      · cases written

namespace Wrote

variable {world after : World State} {name : String} {value : Option ByteArray}
  {directory file : Option String}

/-- Only the disk is changed. -/
theorem frame (wrote : Wrote world name value directory file after) :
    after = { world with disk := after.disk } := by
  cases wrote <;> rfl

theorem file_eq (wrote : Wrote world name value directory file after) :
    file = value.bind fun _ => directory.map fun path => Store.joinPath path name := by
  cases wrote <;> rfl

/-- The body is in its file. -/
theorem there {body : ByteArray} {path : String}
    (wrote : Wrote world name (some body) (some path) file after) :
    after.disk.node? (bodyPlace world.start path name) = some (.file body) := by
  cases wrote with
  | file => rw [Disk.node?_set _ (by simp [bodyPlace]), if_pos rfl]

/-- Every other place is as before. -/
theorem elsewhere (wrote : Wrote world name value directory file after) {place : Place}
    (apart : ∀ path, directory = some path → place ≠ bodyPlace world.start path name) :
    after.disk.node? place = world.disk.node? place := by
  cases wrote with
  | nothing => rfl
  | nowhere => rfl
  | file body path => rw [Disk.node?_set _ (by simp [bodyPlace]), if_neg (apart path rfl)]

end Wrote

end Command

end FeedCache
