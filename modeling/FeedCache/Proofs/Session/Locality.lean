/-
This file says that an operation of a session sees nothing of the disk but its own store.

Main statements: it works on the disk through its store alone, and does the same on each disk that
looks alike from there.
-/
import FeedCache.Proofs.Disk.Sharing
import FeedCache.Proofs.Session.Calls

namespace FeedCache.Session

variable {State : Type}

theorem useStore_eq {α : Type} (session : Session State) (world : World State)
    (act : Store.Database → Except Store.Fault (α × Store.Database)) (device : Store.Device) :
    session.useStore world act device =
      ((world.disk.useStore world.start session.storePath act device).1.mapError .store, session,
        { world with disk :=
            (world.disk.useStore world.start session.storePath act device).2 }) := rfl

/-- A cached fetch works on the disk through the session's store alone. -/
theorem getCached_worked (session : Session State) (key : String) (world : World State)
    (device : Store.Device := .free) :
    Disk.Worked world.start session.storePath world.disk
      (session.getCached key world device).2.2.disk := by
  unfold getCached whileOpen
  split
  · exact .rest
  · dsimp only
    rw [useStore_eq]
    have read := Disk.Worked.once world.disk world.start (session.ask key).storePath
      (fun database => return (← database.get key, database)) device
    generalize world.disk.useStore world.start (session.ask key).storePath
      (fun database => return (← database.get key, database)) device = result at read ⊢
    obtain ⟨answer, disk⟩ := result
    cases answer with
    | error fault => exact read
    | ok found =>
        cases found with
        | some payload => exact read
        | none => exact read.use _ device

/-- A cleanup works on the disk through the session's store alone. -/
theorem cleanup_worked (session : Session State) (world : World State)
    (device : Store.Device := .free) :
    Disk.Worked world.start session.storePath world.disk
      (session.cleanup world device).2.2.disk := by
  unfold cleanup whileOpen
  split
  · exact .rest
  · rw [useStore_eq]
    have used := Disk.Worked.once world.disk world.start session.storePath
      (evict session.used · device) device
    generalize world.disk.useStore world.start session.storePath
      (evict session.used · device) device = result at used ⊢
    obtain ⟨answer, disk⟩ := result
    cases answer <;> exact used

/-- Every operation works on the disk through the session's store alone. -/
theorem perform_worked (session : Session State) (call : Call) (world : World State)
    (device : Store.Device := .free) :
    Disk.Worked world.start session.storePath world.disk
      (session.perform call world device).2.2.disk := by
  cases call with
  | cached key => exact session.getCached_worked key world device
  | text key => exact session.getCached_worked key world device
  | uncached key =>
      rw [perform, Step.as, getUncached, whileOpen]
      split <;> exact .rest
  | cleanup => exact session.cleanup_worked world device
  | entries =>
      rw [perform, Step.as, entries, whileOpen]
      split
      · exact .rest
      · exact .once _ _ _ _ device
  | close => exact .rest

/-- Two results of an operation are alike if they differ at most in what the disks hold elsewhere
than at a place. -/
inductive Step.Alike {α : Type} (place : Place) : Step State α → Step State α → Prop
  | same {answer : Except Fault α} {session : Session State} {world : World State} {disk : Disk}
      (alike : Disk.Alike place world.disk disk) :
      Step.Alike place (answer, session, world) (answer, session, { world with disk })

/-- A use of the store answers alike on disks that look alike from it. -/
theorem useStore_both {α : Type} (session : Session State) {world : World State} {disk : Disk}
    (alike : Disk.Alike (world.place session.storePath) world.disk disk)
    (act : Store.Database → Except Store.Fault (α × Store.Database)) (device : Store.Device) :
    ∃ answer left right,
      session.useStore world act device = (answer, session, { world with disk := left }) ∧
      session.useStore { world with disk } act device =
        (answer, session, { world with disk := right }) ∧
      Disk.Alike (world.place session.storePath) left right := by
  obtain ⟨answers, after⟩ := alike.useStore act device
  refine ⟨_, _, _, session.useStore_eq world act device, ?_, after⟩
  rw [useStore_eq, answers]

theorem useStore_alike {α : Type} (session : Session State) {world : World State} {disk : Disk}
    (alike : Disk.Alike (world.place session.storePath) world.disk disk)
    (act : Store.Database → Except Store.Fault (α × Store.Database)) (device : Store.Device) :
    Step.Alike (world.place session.storePath) (session.useStore world act device)
      (session.useStore { world with disk } act device) := by
  obtain ⟨answer, left, right, first, second, disks⟩ := session.useStore_both alike act device
  rw [first, second]
  exact .same disks

/-- Two results that are alike stay so when their answers are put into the common form. -/
theorem Step.Alike.as {α : Type} {place : Place} {first second : Step State α}
    (alike : Step.Alike place first second) (form : α → Answer) :
    Step.Alike place (Step.as form first) (Step.as form second) := by
  cases alike with
  | same disks => exact .same disks

/-- A cached fetch does the same on disks that look alike from the session's store. -/
theorem getCached_alike (session : Session State) (key : String) {world : World State}
    {disk : Disk} (alike : Disk.Alike (world.place session.storePath) world.disk disk)
    (device : Store.Device) :
    Step.Alike (world.place session.storePath) (session.getCached key world device)
      (session.getCached key { world with disk } device) := by
  unfold getCached whileOpen
  split
  · exact .same alike
  · obtain ⟨answer, left, right, first, second, disks⟩ := (session.ask key).useStore_both alike
      (fun database => return (← database.get key, database)) device
    dsimp only
    rw [first, second]
    cases answer with
    | error fault => exact .same disks
    | ok found =>
        cases found with
        | some payload => exact .same disks
        | none =>
            have fetched : Disk.Alike ((World.fetch { world with disk := left }
                session.transport session.policy key).2.place session.storePath)
                left right := disks
            exact (session.ask key).useStore_alike fetched _ device

theorem cleanup_alike (session : Session State) {world : World State} {disk : Disk}
    (alike : Disk.Alike (world.place session.storePath) world.disk disk)
    (device : Store.Device) :
    Step.Alike (world.place session.storePath) (session.cleanup world device)
      (session.cleanup { world with disk } device) := by
  unfold cleanup whileOpen
  split
  · exact .same alike
  · obtain ⟨answer, left, right, first, second, disks⟩ :=
      session.useStore_both alike (evict session.used · device) device
    rw [first, second]
    cases answer <;> exact .same disks

/-- Every operation does the same on disks that look alike from the session's store. -/
theorem perform_alike (session : Session State) (call : Call) {world : World State} {disk : Disk}
    (alike : Disk.Alike (world.place session.storePath) world.disk disk)
    (device : Store.Device) :
    Step.Alike (world.place session.storePath) (session.perform call world device)
      (session.perform call { world with disk } device) := by
  cases call with
  | cached key => exact (session.getCached_alike key alike device).as .body
  | text key =>
      have cached := session.getCached_alike key alike device
      rw [perform, perform, getText, getText]
      generalize session.getCached key world device = first at cached ⊢
      generalize session.getCached key { world with disk } device = second at cached ⊢
      cases cached with
      | same disks => exact .same disks
  | uncached key =>
      rw [perform, perform, getUncached, getUncached, whileOpen, whileOpen]
      split <;> exact .same alike
  | cleanup => exact (session.cleanup_alike alike device).as .report
  | entries =>
      rw [perform, perform, entries, entries, whileOpen, whileOpen]
      split
      · exact .same alike
      · exact (session.useStore_alike alike _ device).as .entries
  | close => exact .same alike

end FeedCache.Session
