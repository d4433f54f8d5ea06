/-
This file follows the look-ups of a run, one resource after another.

Main statement: a series of look-ups that succeeds serves all its resources from the store, reports
each of them, and leaves a file for each body.
-/
import FeedCache.Proofs.Command.Files
import FeedCache.Proofs.Session.Acceptance
import FeedCache.Proofs.Session.Locality
import FeedCache.Proofs.Session.Serving

namespace FeedCache.Command
open Store (Table)

variable {State : Type}

/-- The body under a key of a table; a failure and a key without a row have none. -/
def storedBody (table : Table) (key : String) : Option ByteArray :=
  match table.find? (.text key) with
  | some row => row.payload.toOption.bind Store.Payload.body?
  | none => none

theorem storedBody_of_holds {world : World State} {path key : String} {value : Option ByteArray}
    (holds : world.Holds path key value) : storedBody (world.table path) key = value := by
  obtain ⟨row, payload, present, readable, body⟩ := holds
  rw [storedBody, present]
  dsimp only
  rw [readable]
  exact body

/-- What is reported of the resource at a place in the list. -/
def reported (directory : Option String) (index : Nat) (url : String) (body : Option ByteArray) :
    Item :=
  ⟨url, body.map ByteArray.size,
    body.bind fun _ => directory.map fun path => Store.joinPath path (fileName index)⟩

/-- No body takes the place of the session's store. -/
def StoreApart (session : Session State) (start : Place) : Prop :=
  ∀ path name, IsBodyName name →
    bodyPlace start path name ≠ Place.ofPath start session.storePath

/-- What looking up resources leads to, apart from what it serves: the report of each of them, and
a file for each body. -/
structure LookedUp (directory : Option String) (index : Nat) (session : Session State)
    (world : World State) (urls : List String) (items : List Item) (later : Session State)
    (after : World State) : Prop where
  served : session.Served world urls later after
  items : items = urls.mapIdx fun offset url =>
    reported directory (index + offset) url (storedBody (after.table session.storePath) url)
  files : ∀ path, directory = some path → ∀ offset url body, urls[offset]? = some url →
    storedBody (after.table session.storePath) url = some body →
    after.disk.node? (bodyPlace world.start path (fileName (index + offset))) = some (.file body)
  keeps : ∀ place node, place ≠ world.place session.storePath →
    (∀ path, directory = some path → ∀ offset,
      place ≠ bodyPlace world.start path (fileName (index + offset))) →
    world.disk.node? place = some node → after.disk.node? place = some node

namespace LookedUp

variable {directory : Option String} {index : Nat} {session middle later : Session State}
  {world between after : World State} {urls more : List String} {items others : List Item}

theorem nothing (directory : Option String) (index : Nat) (session : Session State)
    (world : World State) : LookedUp directory index session world [] [] session world where
  served := .nothing session world
  items := rfl
  files := by simp
  keeps _ _ _ _ present := present

/-- A key that was served has the same body later on. -/
theorem storedBody_later (first : session.Served world urls middle between)
    (second : middle.Served between more later after) {url : String} (member : url ∈ urls) :
    storedBody (after.table session.storePath) url =
      storedBody (between.table session.storePath) url := by
  have path := first.storePath
  obtain ⟨value, holds⟩ := first.readable url member
  rw [storedBody_of_holds holds]
  exact storedBody_of_holds (path ▸ second.holds (path ▸ holds))

theorem trans (first : LookedUp directory index session world urls items middle between)
    (second : LookedUp directory (index + urls.length) middle between more others later after)
    (apart : StoreApart session world.start) :
    LookedUp directory index session world (urls ++ more) (items ++ others) later after where
  served := first.served.trans second.served
  items := by
    have path := first.served.storePath
    rw [first.items, second.items, path, List.mapIdx_append]
    refine congrArg₂ (· ++ ·) ?_ ?_
    · refine List.mapIdx_eq_mapIdx_iff.2 fun offset inside => ?_
      rw [storedBody_later first.served second.served (List.getElem_mem inside)]
    · refine List.mapIdx_eq_mapIdx_iff.2 fun offset inside => ?_
      rw [Nat.add_assoc, Nat.add_comm urls.length]
  files := by
    have path := first.served.storePath
    have start := first.served.start
    intro directory given offset url body listed stored
    by_cases early : offset < urls.length
    · rw [List.getElem?_append_left early] at listed
      rw [storedBody_later first.served second.served (List.mem_of_getElem? listed)] at stored
      have written := first.files directory given offset url body listed stored
      refine second.keeps _ _ ?_ ?_ written
      · rw [World.place, start, path]
        exact apart directory _ (isBodyName_fileName _)
      · intro other same further
        rw [start, Option.some.inj (same.symm.trans given)]
        refine mt bodyPlace_inj.1 fun equal => ?_
        have places := fileName_injective equal
        omega
    · rw [List.getElem?_append_right (Nat.le_of_not_lt early)] at listed
      have written := second.files directory given _ url body listed (path ▸ stored)
      have position : index + urls.length + (offset - urls.length) = index + offset := by omega
      rwa [start, position] at written
  keeps := by
    have path := first.served.storePath
    have start := first.served.start
    intro place node away elsewhere present
    have between := first.keeps place node away elsewhere present
    refine second.keeps place node ?_ ?_ between
    · rwa [World.place, start, path]
    · intro directory given offset
      rw [start, Nat.add_assoc]
      exact elsewhere directory given _

end LookedUp

/-- One resource is looked up, and its body is written. -/
theorem lookUp_single {directory : Option String} {session middle : Session State} {index : Nat}
    {world fetched between : World State} {url : String} {value : Option ByteArray}
    {file : Option String}
    (apart : StoreApart session world.start)
    (asked : session.getCached url world = (.ok value, middle, fetched))
    (wrote : Wrote fetched (fileName index) value directory file between) :
    LookedUp directory index session world [url] [⟨url, value.map ByteArray.size, file⟩] middle
      between := by
  have answered : (session.getCached url world).1 = .ok value := by rw [asked]
  have holds := Session.getCached_holds answered
  have asking := Session.getCached_served answered
  have worked := session.getCached_worked url world
  rw [asked] at holds asking worked
  have kept : between.disk.node? (fetched.place session.storePath) =
      fetched.disk.node? (fetched.place session.storePath) := by
    refine wrote.elsewhere fun path _ same => ?_
    rw [World.place, asking.start] at same
    exact apart path _ (isBodyName_fileName index) same.symm
  have table : between.disk.table (fetched.place session.storePath) =
      fetched.table session.storePath := by
    rw [World.table, Disk.table, Disk.table, kept]
  have served : session.Served world [url] middle between := by
    rw [wrote.frame]
    exact asking.redisk table
  have stored : storedBody (between.table session.storePath) url = value := by
    have same : between.table session.storePath = fetched.table session.storePath := by
      rw [wrote.frame]
      exact table
    rw [same]
    exact storedBody_of_holds holds
  exact {
    served
    items := by
      rw [List.mapIdx_singleton, stored, reported, wrote.file_eq]
      rfl
    files := by
      rintro path rfl offset other body listed found
      obtain ⟨rfl, rfl⟩ : offset = 0 ∧ other = url := by
        cases offset with
        | zero => exact ⟨rfl, (Option.some.inj listed).symm⟩
        | succ offset => cases listed
      rw [stored] at found
      subst found
      have written := wrote.there
      rwa [asking.start] at written
    keeps := by
      intro place node away elsewhere present
      rw [wrote.elsewhere]
      · exact worked.keeps away present
      · intro path given
        rw [asking.start]
        exact elsewhere path given 0 }

/-- Look-ups that succeed on some device do the same on a free one. -/
theorem lookUp_accepted {directory : Option String} {device : Store.Device} {urls : List String} :
    ∀ {session later : Session State} {index : Nat} {world after : World State} {items : List Item},
      lookUp directory session index world urls device = (.ok items, later, after) →
      lookUp directory session index world urls = (.ok items, later, after) := by
  induction urls with
  | nil =>
      intro session later index world after items success
      exact success
  | cons url urls hypothesis =>
      intro session later index world after items success
      rw [lookUp] at success ⊢
      cases asked : session.getCached url world device with
      | mk answer moment =>
          obtain ⟨middle, fetched⟩ := moment
          rw [asked] at success
          cases answer with
          | error fault => cases success
          | ok value =>
              rw [Session.getCached_accepted asked]
              dsimp only at success ⊢
              split at success
              · cases success
              · generalize again :
                  lookUp directory middle (index + 1) _ urls device = result at success
                obtain ⟨outcome, final⟩ := result
                cases outcome with
                | error failure => cases success
                | ok rest =>
                    rw [hypothesis again]
                    exact success

/-- One resource is looked up, and then the others. -/
theorem lookUp_cons {directory : Option String} {session later : Session State} {index : Nat}
    {world after : World State} {url : String} {urls : List String} {items : List Item}
    {device : Store.Device}
    (success : lookUp directory session index world (url :: urls) device =
      (.ok items, later, after)) :
    ∃ value middle fetched file between rest,
      session.getCached url world device = (.ok value, middle, fetched) ∧
      Wrote fetched (fileName index) value directory file between ∧
      lookUp directory middle (index + 1) between urls device = (.ok rest, later, after) ∧
      items = ⟨url, value.map ByteArray.size, file⟩ :: rest := by
  rw [lookUp] at success
  cases asked : session.getCached url world device with
  | mk answer moment =>
      obtain ⟨middle, fetched⟩ := moment
      rw [asked] at success
      cases answer with
      | error fault => cases success
      | ok value =>
          dsimp only at success
          split at success
          · cases success
          · rename_i file written
            generalize again : lookUp directory middle (index + 1) _ urls device = result at success
            obtain ⟨outcome, final⟩ := result
            cases outcome with
            | error failure => cases success
            | ok rest =>
                cases success
                refine ⟨_, _, _, _, _, _, rfl, ?_, again, rfl⟩
                cases value with
                | none =>
                    cases written
                    exact .nothing directory
                | some body => exact writeBody_ok (isBodyName_fileName index) (Prod.ext written rfl)

/-- A successful series of look-ups serves all its resources, and leaves files for their bodies. -/
theorem lookUp_ok {directory : Option String} {urls : List String} :
    ∀ {session later : Session State} {index : Nat} {world after : World State} {items : List Item},
      lookUp directory session index world urls = (.ok items, later, after) →
      StoreApart session world.start →
      LookedUp directory index session world urls items later after := by
  induction urls with
  | nil =>
      intro session later index world after items success apart
      cases success
      exact .nothing directory index session world
  | cons url urls hypothesis =>
      intro session later index world after items success apart
      obtain ⟨value, middle, fetched, file, between, rest, asked, wrote, others, rfl⟩ :=
        lookUp_cons success
      have first := lookUp_single apart asked wrote
      have start := first.served.start
      have path := first.served.storePath
      exact first.trans (hypothesis others (by rwa [StoreApart, start, path])) apart

end FeedCache.Command
