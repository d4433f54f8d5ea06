/-
This file puts the operations on an open store beside those on a finite map from keys to payloads.

A store is open in memory, where closing it loses everything, or on a disk.
-/
import FeedCache.Disk.Stores
import FeedCache.Proofs.Store.Reading
import Mathlib.Data.Finmap
import Mathlib.Data.Finset.Sort
import Mathlib.Data.List.Lex

namespace FeedCache.Store

/-- The operations on an open store. A payload that is put is recorded with a time. -/
inductive Operation where
  | put (key : String) (payload : Payload) (time : String)
  | delete (key : String)
  | deleteKeys (keys : List String)
  | get (key : String)
  | hasKey (key : String)
  | keys
  | size
  | summaries
  deriving DecidableEq

/-- An entry is listed by its key, the length of its body and the mark of a failure. -/
inductive Answer where
  | done
  | deleted (present : Bool)
  | erased (count : Nat)
  | payload (found : Option Payload)
  | present (found : Bool)
  | keys (keys : List String)
  | size (count : Nat)
  | listing (entries : List (String × Nat × Bool))
  deriving DecidableEq

/-- An entry without the time when it was stored. -/
def Summary.shown (entry : Summary) : String × Nat × Bool := (entry.key, entry.size, entry.failed)

def Operation.run (operation : Operation) (database : Database) :
    Except Fault (Answer × Database) := do
  match operation with
  | .put key payload time => return (.done, ← database.put key payload time)
  | .delete key =>
      let (present, database) ← database.delete key
      return (.deleted present, database)
  | .deleteKeys listed =>
      let (count, database) ← database.deleteKeys listed
      return (.erased count, database)
  | .get key => return (.payload (← database.get key), database)
  | .hasKey key => return (.present (← database.hasKey key), database)
  | .keys => return (.keys (← database.keys), database)
  | .size => return (.size (← database.size), database)
  | .summaries =>
      let entries ← database.summaries
      return (.listing (entries.map Summary.shown), database)

/-- What a store is for: a finite map from keys to payloads. -/
abbrev Contents := Finmap fun _ : String => Payload

/-- The bytes of the first text do not come after those of the second one. -/
def NotAfter (first second : String) : Prop := ¬Precedes second first

instance (first second : String) : Decidable (NotAfter first second) :=
  inferInstanceAs (Decidable (¬_))

instance : IsTrans String NotAfter where
  trans _ _ _ left right := List.not_lt.2 (List.le_trans (List.not_lt.1 left) (List.not_lt.1 right))

instance : Std.Antisymm NotAfter where
  antisymm first second left right := by
    by_contra different
    have apart : Key.text first ≠ Key.text second := fun same => different (Key.text.inj same)
    exact left (text_lt_iff.1 (Key.ltOfNotLt apart fun before => right (text_lt_iff.1 before)))

instance : Std.Total NotAfter where
  total first second := by
    by_cases after : Precedes second first
    · exact .inr fun before =>
        Key.ltIrrefl _ (Key.ltTrans (text_lt_iff.2 before) (text_lt_iff.2 after))
    · exact .inl after

/-- The number of bytes that are kept for a payload. -/
def Payload.size : Payload → Nat
  | .body bytes => bytes.size
  | .failed => 0

namespace Contents

/-- The keys in increasing order of their bytes. -/
def sorted (contents : Contents) : List String := contents.keys.sort NotAfter

/-- The sorted keys are those of the map, each of them once and in strictly increasing order. -/
theorem sorted_increasing (contents : Contents) :
    contents.sorted.Pairwise Precedes ∧ ∀ key, key ∈ contents.sorted ↔ key ∈ contents := by
  have ordered := Finset.pairwise_sort contents.keys NotAfter
  have distinct := Finset.sort_nodup contents.keys NotAfter
  refine ⟨(ordered.and distinct).imp fun {first second} both => ?_, fun key => ?_⟩
  · have apart : Key.text second ≠ Key.text first := fun same => both.2 (Key.text.inj same).symm
    exact text_lt_iff.1 (Key.ltOfNotLt apart fun before => both.1 (text_lt_iff.1 before))
  · rw [sorted, Finset.mem_sort, Finmap.mem_keys]

/-- All entries in the order of their keys. -/
def listing (contents : Contents) : List (String × Nat × Bool) :=
  contents.sorted.filterMap fun key =>
    (contents.lookup key).map fun payload => (key, payload.size, payload.isFailed)

def eraseAll (contents : Contents) (keys : List String) : Contents :=
  keys.foldl (fun contents key => contents.erase key) contents

end Contents

/-- What an operation answers on a finite map, and the map that it leaves. -/
def Operation.apply (operation : Operation) (contents : Contents) : Answer × Contents :=
  match operation with
  | .put key payload _ => (.done, contents.insert key payload)
  | .delete key => (.deleted (key ∈ contents), contents.erase key)
  | .deleteKeys listed => (.erased (contents.keys ∩ listed.toFinset).card, contents.eraseAll listed)
  | .get key => (.payload (contents.lookup key), contents)
  | .hasKey key => (.present (key ∈ contents), contents)
  | .keys => (.keys contents.sorted, contents)
  | .size => (.size contents.keys.card, contents)
  | .summaries => (.listing contents.listing, contents)

/-- Where an open store keeps its entries. -/
inductive Medium where
  | memory
  | file (disk : Disk) (start : Place) (path : String)

/-- What a successful operation leaves is written through at once. -/
def Medium.write (medium : Medium) (database : Database) : Medium :=
  match medium with
  | .memory => .memory
  | .file disk start path => .file (disk.set (Place.ofPath start path) (.store database)) start path

/-- A store that is open. -/
structure OpenStore where
  medium : Medium
  database : Database

/-- An open store is used, or it is closed and opened again. -/
inductive Action where
  | use (operation : Operation)
  | reopen
  deriving DecidableEq

namespace OpenStore

/-- An operation that fails changes nothing. A store in memory is a new one when it is opened. -/
def act (store : OpenStore) : Action → Except Fault Answer × OpenStore
  | .use operation =>
      match operation.run store.database with
      | .ok (answer, database) => (.ok answer, ⟨store.medium.write database, database⟩)
      | .error fault => (.error fault, store)
  | .reopen =>
      match store.medium with
      | .memory => (.ok .done, ⟨.memory, .fresh⟩)
      | .file disk start path =>
          match disk.openStore start path with
          | (.ok database, disk) => (.ok .done, ⟨.file disk start path, database⟩)
          | (.error fault, disk) => (.error fault, ⟨.file disk start path, store.database⟩)

/-- The answers to all actions in order, and the store as they leave it. -/
def actAll (store : OpenStore) : List Action → List (Except Fault Answer) × OpenStore
  | [] => ([], store)
  | action :: actions =>
      let rest := (store.act action).2.actAll actions
      ((store.act action).1 :: rest.1, rest.2)

def isKept (store : OpenStore) : Bool :=
  match store.medium with
  | .memory => false
  | .file _ _ _ => true

/-- The store is a new one in memory, or it was opened at a place where no store had entries. -/
inductive Starts : OpenStore → Prop
  | memory : Starts ⟨.memory, .fresh⟩
  | file {disk opened : Disk} {start : Place} {path : String} {database : Database}
      (unused : ∀ before, disk.node? (Place.ofPath start path) = some (.store before) →
        before.entries = some .empty ∨
          before.entries = none ∧ before.version < latestVersion)
      (opening : disk.openStore start path = (.ok database, opened)) :
      Starts ⟨.file opened start path, database⟩

end OpenStore

/-- What an action answers on a finite map; only a map that is kept outlasts closing. -/
def Action.apply (action : Action) (kept : Bool) (contents : Contents) : Answer × Contents :=
  match action with
  | .use operation => operation.apply contents
  | .reopen => (.done, if kept then contents else ∅)

def Contents.actAll (kept : Bool) (contents : Contents) : List Action → List Answer × Contents
  | [] => ([], contents)
  | action :: actions =>
      let rest := Contents.actAll kept (action.apply kept contents).2 actions
      ((action.apply kept contents).1 :: rest.1, rest.2)

end FeedCache.Store
