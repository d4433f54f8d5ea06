/-
This file says what the device of a store means to an operation that succeeds.

Main statements: a cached fetch or a cleanup that succeeds on some device does there what it does on
a free one.
-/
import FeedCache.Proofs.Session.Calls
import FeedCache.Proofs.Store.Device

namespace FeedCache

namespace Disk
open Store (Database Device)

variable {disk after : Disk} {place start : Place} {path : String} {database opened : Database}
  {device : Device}

theorem bringUp_accepted
    (success : disk.bringUp place database device = (.ok opened, after)) :
    disk.bringUp place database = (.ok opened, after) := by
  unfold bringUp at success ⊢
  split at success
  · rename_i migrated done
    rw [Device.migrate_free, Device.migrate_ok done]
    exact success
  · cases success

theorem beginStore_accepted (success : disk.beginStore place device = (.ok opened, after)) :
    disk.beginStore place = (.ok opened, after) := by
  unfold beginStore at success ⊢
  split at success
  · rename_i room
    rw [if_pos room]
    exact bringUp_accepted success
  · cases success

theorem openStore_accepted (success : disk.openStore start path device = (.ok opened, after)) :
    disk.openStore start path = (.ok opened, after) := by
  unfold openStore at success ⊢
  dsimp only at success ⊢
  cases directories : disk.makeDirectories (Place.ofPath start path).dropLast with
  | error fault =>
      rw [directories] at success
      cases success
  | ok made =>
      rw [directories] at success
      dsimp only at success ⊢
      cases found : made.node? (Place.ofPath start path) with
      | none =>
          rw [found] at success
          dsimp only at success ⊢
          split at success
          · cases success
          · rename_i short
            rw [if_neg short]
            exact beginStore_accepted success
      | some node =>
          rw [found] at success
          cases node with
          | directory => cases success
          | store held => exact bringUp_accepted success
          | file content =>
              dsimp only at success ⊢
              split at success
              · rename_i blank
                rw [if_pos blank]
                exact beginStore_accepted success
              · cases success

/-- What is done in a store on some device is done on a free one, if what acts there does so too. -/
theorem useStore_accepted {α : Type} {value : α}
    {act freely : Database → Except Store.Fault (α × Database)}
    (accepted : ∀ database result, act database = .ok result → freely database = .ok result)
    (success : disk.useStore start path act device = (.ok value, after)) :
    disk.useStore start path freely = (.ok value, after) := by
  unfold useStore at success ⊢
  cases result : disk.openStore start path device with
  | mk answer between =>
      rw [result] at success
      cases answer with
      | error fault => cases success
      | ok opened =>
          rw [openStore_accepted result]
          dsimp only [changeStore] at success ⊢
          cases done : act opened with
          | error fault =>
              rw [done] at success
              cases success
          | ok changed =>
              rw [done] at success
              rw [accepted _ _ done]
              exact success

end Disk

namespace Session

variable {State : Type} {session later : Session State} {world after : World State}
  {device : Store.Device}

theorem useStore_accepted {α : Type} {value : α}
    {act freely : Store.Database → Except Store.Fault (α × Store.Database)}
    (accepted : ∀ database result, act database = .ok result → freely database = .ok result)
    (success : session.useStore world act device = (.ok value, later, after)) :
    session.useStore world freely = (.ok value, later, after) := by
  unfold useStore World.useStore at success ⊢
  cases result : world.disk.useStore world.start session.storePath act device with
  | mk answer disk =>
      rw [result] at success
      cases answer with
      | error fault => cases success
      | ok found =>
          rw [Disk.useStore_accepted accepted result]
          exact success

theorem evict_accepted {used : List String} {database : Store.Database}
    {result : Report × Store.Database} (success : evict used database device = .ok result) :
    evict used database = .ok result := by
  obtain ⟨keys, listed, success⟩ := bind_eq_ok.1 success
  obtain ⟨⟨count, rest⟩, deleted, success⟩ := bind_eq_ok.1 success
  refine bind_eq_ok.2 ⟨keys, listed, bind_eq_ok.2 ⟨(count, rest), ?_, success⟩⟩
  exact Store.Database.deleteKeys_ok_free deleted

/-- A cached fetch that succeeds on some device does the same on a free one. -/
theorem getCached_accepted {key : String} {body : Option ByteArray}
    (success : session.getCached key world device = (.ok body, later, after)) :
    session.getCached key world = (.ok body, later, after) := by
  unfold getCached whileOpen at success ⊢
  split at success
  · cases success
  · rename_i unclosed
    rw [if_neg unclosed]
    dsimp only at success ⊢
    cases reading : (session.ask key).useStore world
        (fun database => return (← database.get key, database)) device with
    | mk answer moment =>
        obtain ⟨asked, between⟩ := moment
        rw [reading] at success
        cases answer with
        | error fault => cases success
        | ok found =>
            rw [useStore_accepted (fun _ _ same => same) reading]
            cases found with
            | some payload => exact success
            | none =>
                refine useStore_accepted (fun database result stored => ?_) success
                obtain ⟨changed, put, same⟩ := bind_eq_ok.1 stored
                exact bind_eq_ok.2 ⟨changed, Store.Database.put_ok put, same⟩

theorem getCached_freely {key : String} {body : Option ByteArray}
    (answered : (session.getCached key world device).1 = .ok body) :
    session.getCached key world = session.getCached key world device :=
  (getCached_accepted (Prod.ext answered rfl)).trans (Prod.ext answered.symm rfl)

/-- A cleanup that succeeds on some device does the same on a free one. -/
theorem cleanup_accepted {report : Report}
    (success : session.cleanup world device = (.ok report, later, after)) :
    session.cleanup world = (.ok report, later, after) := by
  unfold cleanup whileOpen at success ⊢
  split at success
  · cases success
  · rename_i unclosed
    rw [if_neg unclosed]
    cases evicted : session.useStore world (evict session.used · device) device with
    | mk answer moment =>
        obtain ⟨same, between⟩ := moment
        rw [evicted] at success
        cases answer with
        | error fault => cases success
        | ok found =>
            rw [useStore_accepted (fun _ _ => evict_accepted) evicted]
            exact success

theorem cleanup_freely {report : Report}
    (cleaned : (session.cleanup world device).1 = .ok report) :
    session.cleanup world = session.cleanup world device :=
  (cleanup_accepted (Prod.ext cleaned rfl)).trans (Prod.ext cleaned.symm rfl)

end Session

end FeedCache
