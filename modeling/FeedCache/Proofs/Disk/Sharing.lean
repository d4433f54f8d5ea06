/-
This file says what the uses of one store mean to other places on the disk.

Main statements: a use of a store changes nothing beside its own place but the directories on the
way to it, and does the same on each disk that looks alike from there.
-/
import FeedCache.Proofs.Disk.Opening
import FeedCache.Proofs.Disk.Path

namespace FeedCache.Disk
open Store (Database)

/-- A directory that is made is made at its place only. -/
theorem makeDirectory_off {last : Bool} {disk made : Disk} {place other : Place}
    (success : disk.makeDirectory last place = .ok made) (off : other ≠ place) :
    made.node? other = disk.node? other := by
  unfold makeDirectory at success
  split at success
  · cases success
    rfl
  · cases success
  · rename_i absent
    split at success
    · cases success
    · cases success
      have below : place ≠ [] := by
        rintro rfl
        simp [node?] at absent
      rw [node?_set disk below, if_neg off]

/-- Directories are made on the way to a place only. -/
theorem makeDirectories_off {disk made : Disk} {way other : Place}
    (success : disk.makeDirectories way = .ok made) (off : ¬other <+: way) :
    made.node? other = disk.node? other := by
  have steps : ∀ (counts : List Nat) (disk : Disk),
      counts.foldlM (fun disk count =>
        disk.makeDirectory (count + 1 == way.length) (way.take (count + 1))) disk = .ok made →
      made.node? other = disk.node? other := by
    intro counts
    induction counts with
    | nil =>
        intro disk success
        cases success
        rfl
    | cons count counts hypothesis =>
        intro disk success
        rw [List.foldlM_cons] at success
        obtain ⟨next, step, success⟩ := bind_eq_ok.1 success
        have apart : other ≠ way.take (count + 1) := by
          rintro rfl
          exact off (List.take_prefix _ _)
        exact (hypothesis next success).trans (makeDirectory_off step apart)
  unfold makeDirectories at success
  split at success
  · cases success
  · exact steps _ _ success

/-- The directories above a place are made without a change at the place. -/
theorem makeDirectories_above {disk made : Disk} {place : Place}
    (success : disk.makeDirectories place.dropLast = .ok made) :
    made.node? place = disk.node? place := by
  by_cases root : place = []
  · simp [root, node?]
  · refine makeDirectories_off success fun above => ?_
    have lengths := above.length_le
    have positive := List.length_pos_iff.2 root
    rw [List.length_dropLast] at lengths
    omega

/-- What is put at a place is there. -/
theorem node?_set_here (disk : Disk) {place : Place} (below : place ≠ []) (node : Node) :
    (disk.set place node).node? place = some node := by
  rw [node?_set disk below, if_pos rfl]

/-- What is put at a place last is what is there. -/
theorem set_set (disk : Disk) (place : Place) (first second : Node) :
    (disk.set place first).set place second = disk.set place second := by
  simp [set, List.filter_filter]

/-- What a use of a store can leave: the disk as it is, if the way to the store cannot be made, and
otherwise the way and perhaps a node at the place of the store. -/
inductive Left (disk : Disk) (place : Place) : Disk → Prop
  | barred {fault : Fault} (barred : disk.makeDirectories place.dropLast = .error fault) :
      Left disk place disk
  | way {made : Disk} (success : disk.makeDirectories place.dropLast = .ok made) :
      Left disk place made
  | node {made : Disk} (success : disk.makeDirectories place.dropLast = .ok made)
      (below : place ≠ []) (node : Node) : Left disk place (made.set place node)

theorem openStore_left (disk : Disk) (start : Place) (path : String) (device : Store.Device) :
    Left disk (Place.ofPath start path) (disk.openStore start path device).2 := by
  unfold openStore
  dsimp only
  generalize Place.ofPath start path = place
  cases success : disk.makeDirectories place.dropLast with
  | error fault => exact .barred success
  | ok made =>
      have brought : ∀ (below : place ≠ []) (database : Database),
          Left disk place (made.bringUp place database device).2 := by
        intro below database
        unfold bringUp
        split
        · exact .node success below _
        · exact .way success
      have begun : ∀ below : place ≠ [],
          Left disk place (made.beginStore place device).2 := by
        intro below
        unfold beginStore
        split
        · exact brought below .blank
        · exact .node success below _
      have below : made.node? place ≠ some .directory → place ≠ [] := by
        rintro other rfl
        exact other (by simp [node?])
      dsimp only
      split
      · exact .way success
      · rename_i content found
        split
        · exact begun (below (by simp [found]))
        · exact .way success
      · rename_i database found
        exact brought (below (by simp [found])) database
      · rename_i found
        split
        · exact .way success
        · exact begun (below (by simp [found]))

/-- A node that is put at the place of the store is the last one there. -/
theorem Left.set {disk left : Disk} {place : Place} (leaves : Left disk place left)
    (directories : left.HasDirectories place.dropLast) (below : place ≠ []) (node : Node) :
    Left disk place (left.set place node) := by
  cases leaves with
  | barred barred =>
      rw [makeDirectories_present directories] at barred
      cases barred
  | way success => exact .node success below node
  | @node made success _ first =>
      rw [set_set made place first node]
      exact .node success below node

theorem useStore_left {α : Type} (disk : Disk) (start : Place) (path : String)
    (act : Database → Except Store.Fault (α × Database)) (device : Store.Device) :
    Left disk (Place.ofPath start path) (disk.useStore start path act device).2 := by
  have left := openStore_left disk start path device
  have readied := (openStore_spec disk start path device).2
  unfold useStore
  cases result : disk.openStore start path device with
  | mk outcome opened =>
      rw [result] at left readied
      cases outcome with
      | error fault => exact left
      | ok database =>
          have ready := readied database rfl
          dsimp only [changeStore]
          cases act database with
          | error fault => exact left
          | ok pair => exact left.set ready.directories ready.below _

/-- A place that is neither the store's nor on the way to it is left alone. -/
theorem Left.off {disk left : Disk} {place other : Place} (leaves : Left disk place left)
    (apart : other ≠ place) (off : ¬other <+: place.dropLast) :
    left.node? other = disk.node? other := by
  cases leaves with
  | barred barred => rfl
  | way success => exact makeDirectories_off success off
  | node success below node =>
      rw [node?_set _ below, if_neg apart]
      exact makeDirectories_off success off

/-- What is at another place stays there. -/
theorem Left.keeps {disk left : Disk} {place other : Place} (leaves : Left disk place left)
    (apart : other ≠ place) {node : Node} (present : disk.node? other = some node) :
    left.node? other = some node := by
  cases leaves with
  | barred barred => exact present
  | way success => exact (makeDirectories_extends success).1.keeps present
  | node success below new =>
      rw [node?_set _ below, if_neg apart]
      exact (makeDirectories_extends success).1.keeps present

/-- Whether directories can be made on a way, or what is in the way. -/
def passage (disk : Disk) (way : Place) : Except Fault Unit :=
  (disk.makeDirectories way).map fun _ => ()

/-- The way to a store can be made afterwards exactly if it could be made before. -/
theorem Left.passage {disk left : Disk} {place : Place} (leaves : Left disk place left) :
    left.passage place.dropLast = disk.passage place.dropLast := by
  cases leaves with
  | barred barred => rfl
  | way success =>
      have made := makeDirectories_present (makeDirectories_extends success).2
      rw [Disk.passage, Disk.passage, made, success]
  | node success below node =>
      have made := makeDirectories_present ((makeDirectories_extends success).2.set below node)
      rw [Disk.passage, Disk.passage, made, success]
      rfl

/-- Two disks look alike from a place: they have the same there, and the way to it is open on both
of them or barred alike. -/
structure Alike (place : Place) (first second : Disk) : Prop where
  here : first.node? place = second.node? place
  way : first.passage place.dropLast = second.passage place.dropLast

namespace Alike

theorem refl (place : Place) (disk : Disk) : Alike place disk disk := ⟨rfl, rfl⟩

theorem trans {place : Place} {first second third : Disk} (left : Alike place first second)
    (right : Alike place second third) : Alike place first third :=
  ⟨left.here.trans right.here, left.way.trans right.way⟩

/-- The use of a store is not seen from another place in the same directory. -/
theorem beside {disk left : Disk} {place other : Place} (leaves : Left disk place left)
    (beside : other.Beside place) : Alike other left disk where
  here := by
    refine leaves.off beside.apart fun above => ?_
    have lengths := above.length_le
    have positive := List.length_pos_iff.2 beside.below
    rw [← beside.sibling, List.length_dropLast] at lengths
    omega
  way := by rw [beside.sibling, leaves.passage]

end Alike

/-- Two results are the same from a place: the answer is one, and so is what is left there. -/
def SameFrom {α : Type} (place : Place) (first second : Except Store.Fault α × Disk) : Prop :=
  first.1 = second.1 ∧ first.2.node? place = second.2.node? place

theorem bringUp_same {first second : Disk} {place : Place} (below : place ≠ [])
    (same : first.node? place = second.node? place) (database : Database)
    (device : Store.Device) :
    SameFrom place (first.bringUp place database device)
      (second.bringUp place database device) := by
  unfold bringUp
  cases device.migrate database with
  | error fault => exact ⟨rfl, same⟩
  | ok migrated => exact ⟨rfl, by rw [node?_set_here _ below, node?_set_here _ below]⟩

theorem beginStore_same {first second : Disk} {place : Place} (below : place ≠ [])
    (same : first.node? place = second.node? place) (device : Store.Device) :
    SameFrom place (first.beginStore place device) (second.beginStore place device) := by
  unfold beginStore
  split
  · exact bringUp_same below same .blank device
  · exact ⟨rfl, by rw [node?_set_here _ below, node?_set_here _ below]⟩

theorem openStore_same {start : Place} {path : String} {first second : Disk}
    (alike : Alike (Place.ofPath start path) first second) (device : Store.Device) :
    SameFrom (Place.ofPath start path) (first.openStore start path device)
      (second.openStore start path device) := by
  obtain ⟨here, way⟩ := alike
  unfold openStore
  dsimp only
  generalize Place.ofPath start path = place at *
  unfold passage at way
  cases one : first.makeDirectories place.dropLast with
  | error fault =>
      cases two : second.makeDirectories place.dropLast with
      | error other =>
          rw [one, two] at way
          cases way
          exact ⟨rfl, here⟩
      | ok other =>
          rw [one, two] at way
          cases way
  | ok made =>
      cases two : second.makeDirectories place.dropLast with
      | error fault =>
          rw [one, two] at way
          cases way
      | ok other =>
          have same : made.node? place = other.node? place :=
            (makeDirectories_above one).trans (here.trans (makeDirectories_above two).symm)
          have below : made.node? place ≠ some .directory → place ≠ [] := by
            rintro unlike rfl
            exact unlike (by simp [node?])
          dsimp only
          rw [← same]
          split
          · exact ⟨rfl, same⟩
          · rename_i content found
            split
            · exact beginStore_same (below (by simp [found])) same device
            · exact ⟨rfl, same⟩
          · rename_i database found
            exact bringUp_same (below (by simp [found])) same database device
          · rename_i found
            split
            · exact ⟨rfl, same⟩
            · exact beginStore_same (below (by simp [found])) same device

/-- Both disks answer a use of a store alike, and look alike afterwards. -/
theorem Alike.useStore {α : Type} {start : Place} {path : String} {first second : Disk}
    (alike : Alike (Place.ofPath start path) first second)
    (act : Database → Except Store.Fault (α × Database)) (device : Store.Device) :
    (first.useStore start path act device).1 = (second.useStore start path act device).1 ∧
      Alike (Place.ofPath start path) (first.useStore start path act device).2
        (second.useStore start path act device).2 := by
  have left := (useStore_left first start path act device).passage
  have right := (useStore_left second start path act device).passage
  suffices same : SameFrom (Place.ofPath start path) (first.useStore start path act device)
      (second.useStore start path act device) from
    ⟨same.1, same.2, left.trans (alike.way.trans right.symm)⟩
  clear left right
  have same := openStore_same alike device
  have readied := (openStore_spec first start path device).2
  unfold Disk.useStore
  cases one : first.openStore start path device with
  | mk outcome opened =>
      cases two : second.openStore start path device with
      | mk other reopened =>
          rw [one] at readied
          rw [one, two] at same
          obtain ⟨answers, here⟩ := same
          cases answers
          cases outcome with
          | error fault => exact ⟨rfl, here⟩
          | ok database =>
              have below := (readied database rfl).below
              dsimp only [changeStore]
              cases act database with
              | error fault => exact ⟨rfl, here⟩
              | ok pair => exact ⟨rfl, by rw [node?_set_here _ below, node?_set_here _ below]⟩

/-- The second disk is what some uses of the store at a path leave of the first one. -/
inductive Worked (start : Place) (path : String) (before : Disk) : Disk → Prop
  | rest : Worked start path before before
  | use {α : Type} {after : Disk} (earlier : Worked start path before after)
      (act : Database → Except Store.Fault (α × Database)) (device : Store.Device) :
      Worked start path before (after.useStore start path act device).2

theorem Worked.once {α : Type} (disk : Disk) (start : Place) (path : String)
    (act : Database → Except Store.Fault (α × Database)) (device : Store.Device) :
    Worked start path disk (disk.useStore start path act device).2 := .use .rest act device

/-- The uses of a store are not seen from another place in the same directory. -/
theorem Worked.beside {start other : Place} {path : String} {before after : Disk}
    (worked : Worked start path before after) (beside : other.Beside (Place.ofPath start path)) :
    Alike other after before := by
  induction worked with
  | rest => exact .refl other before
  | use earlier act device hypothesis =>
      exact (Alike.beside (useStore_left _ start path act device) beside).trans hypothesis

/-- What is at another place than the store stays there. -/
theorem Worked.keeps {start other : Place} {path : String} {before after : Disk}
    (worked : Worked start path before after) (apart : other ≠ Place.ofPath start path)
    {node : Node} (present : before.node? other = some node) : after.node? other = some node := by
  induction worked with
  | rest => exact present
  | use earlier act device hypothesis =>
      exact (useStore_left _ start path act device).keeps apart hypothesis

end FeedCache.Disk
