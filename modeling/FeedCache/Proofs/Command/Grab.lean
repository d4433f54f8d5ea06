/-
This file follows a run over a feed from its input to its report.

Main statement: a successful run has fetched the primary resource and what was missing of the
others, leaves the entries of exactly the listed resources, and reports what is stored and written.
-/
import FeedCache.Command.Run
import FeedCache.Proofs.Command.LookUp
import FeedCache.Proofs.Json.Writer
import FeedCache.Proofs.Settings.StorePath

namespace FeedCache.Command
open Store (Table Key)

variable {State : Type}

/-- No two reports are printed alike. -/
theorem jsonBytes_injective : Function.Injective jsonBytes := by
  intro first second same
  have texts := String.toByteArray_inj.1 same
  exact Json.Value.toString_injective ((String.append_left_inj "\n").1 texts)

/-- The lines of a text that name resources: they are trimmed, and neither blank nor comments. -/
def listedUrls (text : String) : List String :=
  (((Text.pieces (· == '\n') text.toList).map Text.trim).filter fun line =>
    line ≠ [] ∧ line.head? ≠ some '#').map String.ofList

theorem readUrls_ok {input : ByteArray} {urls : List String}
    (success : readUrls input = .ok urls) :
    ∃ text, String.fromUTF8? input = some text ∧ urls = listedUrls text := by
  unfold readUrls at success
  split at success
  · cases success
  · rename_i text decoded
    refine ⟨text, decoded, (Except.ok.inj success).symm.trans ?_⟩
    rw [listedUrls]
    generalize (Text.pieces (· == '\n') text.toList).map Text.trim = lines
    induction lines with
    | nil => rfl
    | cons line lines hypothesis =>
        rw [List.filterMap_cons, hypothesis]
        rcases line with _ | ⟨c, line⟩
        · simp
        · by_cases comment : c = '#'
          · simp [comment]
          · simp [comment]

/-- What a successful run does in a session that is open. -/
theorem grabIn_ok {session : Session State} {primary : String} {urls : List String}
    {directory : Option String} {world after : World State} {report : RunReport}
    {device : Store.Device} (unclosed : ¬session.isClosed)
    (success : grabIn session primary urls directory world device = (.ok report, after)) :
    ∃ page file between items later looked cleanup ended,
      (world.fetch session.transport session.policy primary).1 = .fetched page ∧
      Wrote (world.fetch session.transport session.policy primary).2 primaryName (some page.body)
        directory file between ∧
      lookUp directory { session with stage := .active } 0 between urls device =
        (.ok items, later, looked) ∧
      later.cleanup looked device = (.ok cleanup, ended, after) ∧
      report = ⟨ended.name, ⟨primary, some page.body.size, file⟩, items, cleanup⟩ := by
  unfold grabIn Session.getUncached Session.whileOpen at success
  rw [if_neg unclosed] at success
  dsimp only at success
  generalize world.fetch session.transport session.policy primary = fetched at success ⊢
  obtain ⟨outcome, middle⟩ := fetched
  cases outcome with
  | failed failure => cases success
  | fetched page =>
      dsimp only at success
      split at success
      · cases success
      · rename_i file between written
        split at success
        · cases success
        · rename_i items later looked served
          split at success
          · cases success
          · rename_i cleanup ended last cleaned
            cases success
            exact ⟨_, _, _, _, _, _, _, _, rfl, writeBody_ok isBodyName_primaryName written,
              served, cleaned, rfl⟩

/-- The directory for bodies is made with the directories above it, and nothing else is done. -/
theorem makeDirectory_ok {world after : World State} {directory : Option String}
    (success : makeDirectory world directory = (.ok (), after)) :
    ∃ made, after = { world with disk := made } ∧ world.disk.Extends made := by
  unfold makeDirectory at success
  cases directory with
  | none =>
      cases success
      exact ⟨world.disk, rfl, .refl _⟩
  | some path =>
      dsimp only at success
      split at success
      · rename_i made done
        cases success
        exact ⟨made, rfl, (Disk.makeDirectories_extends done).1⟩
      · cases success

/-- A successful run reads its input, makes its directory and then runs in its session. -/
theorem grabAll_ok {session : Except Session.Fault (Session State)} {primary : String}
    {secondary : List String} {input : Option ByteArray} {directory : Option String}
    {world after : World State} {report : RunReport} {device : Store.Device}
    (success : grabAll session primary secondary input directory world device =
      (.ok report, after)) :
    ∃ further opened made,
      (input.map readUrls).getD (.ok []) = .ok further ∧
      session = .ok opened ∧ world.disk.Extends made ∧
      grabIn opened primary (secondary ++ further) directory { world with disk := made } device =
        (.ok report, after) := by
  unfold grabAll at success
  split at success
  · cases success
  · rename_i further read
    split at success
    · cases success
    · rename_i moment prepared
      obtain ⟨made, rfl, extension⟩ := makeDirectory_ok prepared
      split at success
      · cases success
      · rename_i opened
        exact ⟨further, opened, made, read, rfl, extension, success⟩

/-- The fetch of the primary resource. -/
def primaryRun (session : Session State) (primary : String) (world : World State) :
    Fetch.Run State :=
  Fetch.run session.transport session.policy primary world.network

/-- The fetches of what is missing of the other resources, after that of the primary one. -/
def secondaryRuns (session : Session State) (primary : String) (urls : List String)
    (world : World State) : List (String × Fetch.Run State) × State :=
  Fetch.fetchAll session.transport session.policy
    (Session.missing (world.table session.storePath) urls) (primaryRun session primary world).state

/-- The primary resource was fetched first and past the store, then what was missing, and nothing
else. -/
structure Requested (session : Session State) (primary : String) (urls : List String)
    (world : World State) (page : Fetch.Page) (after : World State) : Prop where
  /-- Whatever is on the disk, the primary resource brings the page, and the disk stays as it is. -/
  uncached : ∀ disk, session.getUncached primary { world with disk } =
    (.ok (.fetched page), { session with stage := .active },
      { (world.fetch session.transport session.policy primary).2 with disk })
  requests : after.requests = world.requests ++ (primaryRun session primary world).requests ++
    (secondaryRuns session primary urls world).1.flatMap fun fetch => fetch.2.requests
  network : after.network = (secondaryRuns session primary urls world).2

/-- Exactly the listed keys are stored, with the given bodies: what was there as it was, and what
was missing as it was fetched. -/
structure StoredExactly (session : Session State) (primary : String) (urls : List String)
    (world : World State) (bodies : String → Option ByteArray) (after : World State) : Prop where
  keys : ∀ key, ((after.table session.storePath).find? key).isSome ↔ key ∈ urls.map Key.text
  kept : ∀ url ∈ urls, ∀ row, (world.table session.storePath).find? (.text url) = some row →
    (after.table session.storePath).find? (.text url) = some row
  added : ∀ fetch ∈ (secondaryRuns session primary urls world).1,
    (after.table session.storePath).find? (.text fetch.1) =
      some (Fetch.fetchRow world.timeOfDay fetch)
  bodies : ∀ url ∈ urls, after.Holds session.storePath url (bodies url)

/-- With a directory for bodies, each body is in a file of its own. -/
structure Filed (directory : Option String) (urls : List String) (page : Fetch.Page)
    (bodies : String → Option ByteArray) (after : World State) : Prop where
  primary : ∀ path, directory = some path →
    after.disk.readFile? (after.place (Store.joinPath path "primary.body")) = some page.body
  secondary : ∀ path, directory = some path → ∀ index url body, urls[index]? = some url →
    bodies url = some body →
    after.disk.readFile? (after.place (Store.joinPath path (numberedName index))) = some body
  own : ∀ path first second,
    after.place (Store.joinPath path (numberedName first)) ≠
        after.place (Store.joinPath path "primary.body") ∧
      (after.place (Store.joinPath path (numberedName first)) =
        after.place (Store.joinPath path (numberedName second)) → first = second)

/-- What a successful run over a feed does from one world to another. The stored body of each of
its resources is given, and the keys that it takes away. -/
structure Grabbed (session : Session State) (primary : String) (urls : List String)
    (directory : Option String) (world : World State) (page : Fetch.Page)
    (bodies : String → Option ByteArray) (removed : List String) (after : World State) : Prop where
  requested : Requested session primary urls world page after
  stored : StoredExactly session primary urls world bodies after
  filed : Filed directory urls page bodies after
  increasing : removed.Pairwise Store.Precedes
  mem_removed : ∀ key, key ∈ removed ↔
    key ∉ urls ∧ ((world.table session.storePath).find? (.text key)).isSome

/-- What is printed of a resource and its body, and of the file of the body. -/
def itemJson (url : String) (body : Option ByteArray) (file : Option String) : Json.Value :=
  .object ([("url", .text url), ("ok", .boolean body.isSome),
    ("bytes", .number ((body.map ByteArray.size).getD 0))] ++
    (file.map fun file => ("file", Json.Value.text file)).toList)

/-- What is printed of a successful run: the primary resource, one item for each place in the list,
the number of different resources, and the keys that were taken away. -/
def reportJson (name primary : String) (urls : List String) (directory : Option String)
    (page : Fetch.Page) (bodies : String → Option ByteArray) (removed : List String) :
    Json.Value :=
  let file (name : String) := directory.map fun path => Store.joinPath path name
  .object [("session", .text name),
    ("primary", itemJson primary (some page.body) (file "primary.body")),
    ("secondary", .list (urls.mapIdx fun index url =>
      itemJson url (bodies url) ((bodies url).bind fun _ => file (numberedName index)))),
    ("cleanup", .object [("retained", .number urls.eraseDups.length),
      ("removed", .list (removed.map Json.Value.text))])]

theorem toJson_reported (directory : Option String) (index : Nat) (url : String)
    (body : Option ByteArray) :
    (reported directory index url body).toJson =
      itemJson url body
        (body.bind fun _ => directory.map fun path => Store.joinPath path (numberedName index)) := by
  cases body <;> rfl

theorem toJson_report (name primary : String) (urls : List String) (directory : Option String)
    (page : Fetch.Page) (bodies : String → Option ByteArray) (removed : List String) :
    RunReport.toJson ⟨name, ⟨primary, some page.body.size,
        directory.map fun path => Store.joinPath path "primary.body"⟩,
        urls.mapIdx fun index url => reported directory index url (bodies url),
        ⟨urls.eraseDups.length, removed⟩⟩ =
      reportJson name primary urls directory page bodies removed := by
  have items : (urls.mapIdx fun index url => reported directory index url (bodies url)).map
      Item.toJson = urls.mapIdx fun index url => itemJson url (bodies url)
        ((bodies url).bind fun _ =>
          directory.map fun path => Store.joinPath path (numberedName index)) := by
    refine List.ext_getElem (by simp) fun index _ _ => ?_
    simp [toJson_reported]
  rw [RunReport.toJson, reportJson, ← items]
  rfl

/-- What a run has done when it looks up the first resource: the primary one is fetched and
written, and the store is as it was. -/
structure Prepared (session : Session State) (primary : String) (directory : Option String)
    (world : World State) (page : Fetch.Page) (between : World State) : Prop where
  outcome : (primaryRun session primary world).outcome = .fetched page
  start : between.start = world.start
  timeOfDay : between.timeOfDay = world.timeOfDay
  network : between.network = (primaryRun session primary world).state
  requests : between.requests = world.requests ++ (primaryRun session primary world).requests
  table : between.table session.storePath = world.table session.storePath
  file : ∀ path, directory = some path →
    between.disk.node? (bodyPlace between.start path primaryName) = some (.file page.body)

theorem prepared_of_wrote {session : Session State} {primary : String} {directory : Option String}
    {world between : World State} {made : Disk} {page : Fetch.Page} {file : Option String}
    (apart : StoreApart session world.start) (extension : world.disk.Extends made)
    (fetched : (primaryRun session primary world).outcome = .fetched page)
    (wrote : Wrote (({ world with disk := made } : World State).fetch session.transport
      session.policy primary).2 primaryName (some page.body) directory file between) :
    Prepared session primary directory world page between := by
  have start : between.start = world.start := by
    rw [wrote.frame]
    rfl
  have unwritten : between.disk.node? (world.place session.storePath) =
      made.node? (world.place session.storePath) :=
    wrote.elsewhere fun path _ same => apart path _ isBodyName_primaryName same.symm
  exact {
    outcome := fetched
    start
    timeOfDay := by
      rw [wrote.frame]
      rfl
    network := by
      rw [wrote.frame]
      rfl
    requests := by
      rw [wrote.frame]
      rfl
    table := by
      rw [World.table, World.place, start, ← World.place, Disk.table, unwritten, ← Disk.table,
        extension.table]
      rfl
    file := by
      rintro path rfl
      rw [start]
      exact wrote.there }

section Parts

variable {session later ended : Session State} {primary : String} {urls : List String}
  {directory : Option String} {world between looked after : World State} {page : Fetch.Page}
  {items : List Item} {cleanup : Session.Report}

/-- The looked-up resources are fetched after the primary one. -/
theorem Prepared.runs (prepared : Prepared session primary directory world page between)
    (urls : List String) :
    ({ session with stage := .active } : Session State).fetchMissing between urls =
      secondaryRuns session primary urls world := by
  rw [Session.fetchMissing, secondaryRuns, ← prepared.network, ← prepared.table]

theorem requested_of (unclosed : ¬session.isClosed)
    (prepared : Prepared session primary directory world page between)
    (served : ({ session with stage := .active } : Session State).Served between urls later looked)
    (frame : after = { looked with disk := after.disk }) :
    Requested session primary urls world page after where
  uncached disk := by
    rw [Session.getUncached, Session.whileOpen, if_neg unclosed]
    change (Except.ok (primaryRun session primary world).outcome, _, _) = _
    rw [prepared.outcome]
    rfl
  requests := by
    rw [frame, ← prepared.requests, ← prepared.runs urls]
    exact served.requests
  network := by
    rw [frame, ← prepared.runs urls]
    exact served.network

theorem stored_of (prepared : Prepared session primary directory world page between)
    (served : ({ session with stage := .active } : Session State).Served between urls later looked)
    (tidied : Session.Tidied urls (between.table session.storePath)
      (looked.table session.storePath) (after.table session.storePath) cleanup) :
    StoredExactly session primary urls world (storedBody (after.table session.storePath)) after where
  keys := tidied.stored
  kept url listed row present := by
    rw [tidied.row listed]
    exact served.keeps (prepared.table ▸ present)
  added fetch member := by
    have listed : fetch.1 ∈ urls := by
      have missing := List.mem_map_of_mem (f := Prod.fst) member
      rw [secondaryRuns, Fetch.fetchAll_texts] at missing
      exact (Session.mem_missing.1 missing).1
    rw [tidied.row listed, ← prepared.timeOfDay]
    exact served.added (prepared.runs urls ▸ member)
  bodies url listed := by
    obtain ⟨value, row, payload, present, readable, isBody⟩ := served.readable url listed
    have here : after.Holds session.storePath url value :=
      ⟨row, payload, (tidied.row listed).trans present, readable, isBody⟩
    rwa [storedBody_of_holds here]

theorem filed_of (prepared : Prepared session primary directory world page between)
    (lookedUp : LookedUp directory 0 { session with stage := .active } between urls items later
      looked)
    (tidied : Session.Tidied urls (between.table session.storePath)
      (looked.table session.storePath) (after.table session.storePath) cleanup)
    (apart : StoreApart session between.start) (start : after.start = between.start)
    (keeps : ∀ path name body, IsBodyName name →
      looked.disk.node? (bodyPlace between.start path name) = some (.file body) →
      after.disk.node? (bodyPlace between.start path name) = some (.file body)) :
    Filed directory urls page (storedBody (after.table session.storePath)) after where
  primary path given := by
    refine readFile?_body isBodyName_primaryName (start ▸ keeps path _ _ isBodyName_primaryName ?_)
    refine lookedUp.keeps _ _ (apart path _ isBodyName_primaryName) ?_ (prepared.file path given)
    intro other same index
    rw [Option.some.inj (same.symm.trans given)]
    exact mt bodyPlace_inj.1 (fileName_ne_primaryName _).symm
  secondary path given index url body listed stored := by
    have isBody := isBodyName_fileName index
    refine readFile?_body isBody (start ▸ keeps path _ _ isBody ?_)
    rw [storedBody, tidied.row (List.mem_of_getElem? listed)] at stored
    have written := lookedUp.files path given index url body listed stored
    rwa [Nat.zero_add] at written
  own := files_apart after

end Parts

/-- A session that is opened as the settings say has asked for nothing, and its store lies below the
base directory. -/
theorem ofSettings_place {name : String} {home : Option String} {settings : Settings}
    {wire : Http.Wire State} {session : Session State}
    (opened : Session.ofSettings name home settings wire = .ok session) :
    (∃ base, settings.base? home = some base ∧
      Store.path base settings.namespaceName name = .ok session.storePath) ∧
      session.name = name ∧ session.used = [] ∧ session.stage = .created := by
  obtain ⟨path, found, opened⟩ := bind_eq_ok.1 opened
  obtain ⟨client, -, opened⟩ := bind_eq_ok.1 opened
  cases opened
  exact ⟨Settings.storePath_eq_ok.1 (mapError_eq_ok.1 found), rfl, rfl, rfl⟩

/-- A successful run in a session that has just been opened. -/
theorem grabIn_grabbed {session : Session State} {primary base namespaceName : String}
    {urls : List String} {directory : Option String} {world after : World State} {made : Disk}
    {report : RunReport} {device : Store.Device}
    (named : Store.path base namespaceName session.name = .ok session.storePath)
    (fresh : session.used = []) (created : session.stage = .created)
    (extension : world.disk.Extends made)
    (success : grabIn session primary urls directory { world with disk := made } device =
      (.ok report, after)) :
    ∃ page bodies removed,
      report.toJson = reportJson session.name primary urls directory page bodies removed ∧
        Grabbed session primary urls directory world page bodies removed after := by
  have unclosed : ¬session.isClosed := by simp [Session.isClosed, created]
  have apart : ∀ start, StoreApart session start := fun start path name isBody =>
    bodyPlace_ne_store named isBody start path
  obtain ⟨page, file, between, items, later, looked, cleanup, ended, fetched, wrote, done, tidying,
    rfl⟩ := grabIn_ok unclosed success
  have served := lookUp_accepted done
  have cleaned := Session.cleanup_accepted tidying
  have prepared := prepared_of_wrote (apart world.start) extension fetched wrote
  have lookedUp := lookUp_ok served (apart between.start)
  have unasked : ({ session with stage := .active } : Session State).used = [] := fresh
  obtain ⟨rfl, frame, tidied⟩ := lookedUp.served.cleanup unasked cleaned
  have start : after.start = between.start := by
    rw [frame]
    exact lookedUp.served.start
  have name : later.name = session.name := by rw [lookedUp.served.frame]
  have path := lookedUp.served.storePath
  have worked := later.cleanup_worked looked
  rw [cleaned, lookedUp.served.start, path] at worked
  refine ⟨page, storedBody (after.table session.storePath), cleanup.removed, ?_, {
    requested := requested_of unclosed prepared lookedUp.served frame
    stored := stored_of prepared lookedUp.served tidied
    filed := filed_of prepared lookedUp tidied (apart between.start) start
      fun path name body isBody present => worked.keeps (apart _ path name isBody) present
    increasing := tidied.increasing
    mem_removed := prepared.table ▸ tidied.removed }⟩
  have listed : items = urls.mapIdx fun index url =>
      reported directory index url (storedBody (after.table session.storePath) url) := by
    rw [lookedUp.items]
    refine List.mapIdx_eq_mapIdx_iff.2 fun index inside => ?_
    rw [Nat.zero_add, storedBody, storedBody, tidied.row (List.getElem_mem inside)]
  rw [← toJson_report, ← listed, ← tidied.retained, wrote.file_eq, ← name]
  rfl

/-- What the arguments ask for, unless one of the words has to be a text and is none. -/
theorem Call.invocation_cases {call : Call} {invocation : Invocation}
    (asked : Invocation.ofArguments call.arguments = .ok invocation) :
    call.invocation = .ok invocation ∨ call.invocation = .error .misuse := by
  rw [Call.invocation, asked]
  by_cases misused : invocation.command.words.any call.garbled.contains
  · exact .inr (if_pos misused)
  · exact .inl (if_neg misused)

/-- A run over a feed that exits with success has fetched its primary resource first and past the
store, and then what was missing of the others. It leaves entries for exactly these, with their
bodies, and the bodies in files of their own, and it reports what it leaves and what it takes
away. -/
theorem grab_exact (wire : Http.Wire State) (call : Call) (world : World State)
    (device : Store.Device) {name primary : String} {secondary : List String} {fromInput : Bool}
    {directory basePath : Option String}
    (asked : Invocation.ofArguments call.arguments =
      .ok ⟨.grab name primary secondary fromInput directory, basePath⟩)
    (success : (run wire call world device).1.code = 0) :
    ∃ settings session further page bodies removed,
      settingsOf call.environment basePath world = .ok settings ∧
      Session.ofSettings name call.home settings wire = .ok session ∧
      (if fromInput then
        ∃ text, String.fromUTF8? call.input = some text ∧ further = listedUrls text
      else further = []) ∧
      (run wire call world device).1.output = jsonBytes
        (reportJson name primary (secondary ++ further) directory page bodies removed) ∧
      Grabbed session primary (secondary ++ further) directory world page bodies removed
        (run wire call world device).2 := by
  unfold run at success ⊢
  rcases Call.invocation_cases asked with asked | misused
  · rw [asked] at success ⊢
    dsimp only at success ⊢
    cases loaded : settingsOf call.environment basePath world with
    | error failure => simp [loaded] at success
    | ok settings =>
        rw [loaded] at success
        dsimp only [perform] at success ⊢
        generalize performed : grabAll _ _ _ _ _ _ _ = result at success ⊢
        obtain ⟨outcome, after⟩ := result
        cases outcome with
        | error failure => simp [Except.bind] at success
        | ok report =>
            obtain ⟨further, session, made, read, opened, extension, grabbed⟩ :=
              grabAll_ok performed
            obtain ⟨⟨base, -, named⟩, sameName, fresh, created⟩ := ofSettings_place opened
            obtain ⟨page, bodies, removed, printed, result⟩ :=
              grabIn_grabbed (sameName ▸ named) fresh created extension grabbed
            rw [sameName] at printed
            have lines : if fromInput then
                ∃ text, String.fromUTF8? call.input = some text ∧ further = listedUrls text
                else further = [] := by
              cases fromInput with
              | false => exact (Except.ok.inj read).symm
              | true => exact readUrls_ok read
            dsimp only [Except.bind, printReport] at success ⊢
            split at success
            · rename_i report middle said
              split at said
              · cases said
              · cases said
                rename_i clean
                dsimp only
                exact ⟨settings, session, further, page, bodies, removed, rfl, opened, lines,
                  congrArg jsonBytes printed, result⟩
            · cases success
  · rw [misused] at success
    cases success

/-- A wire on which each answer is a page of one byte, the number of the request. -/
def countingWire : Http.Wire Nat := fun count _ =>
  ((0, .answered { status := 200, body := ⟨#[count.toUInt8]⟩ }), count + 1)

/-- A store with two failures, one of which is listed again. -/
def failedWorld : World Nat :=
  let table := (Table.empty.insert (Store.Payload.failed.toRow "http://b/" "noon")).insert
    (Store.Payload.failed.toRow "http://d/" "noon")
  { disk := ⟨[(["base", ".feedgrab", "news.db"], .store ⟨some [1], some table⟩),
      (["base", ".feedgrab"], .directory), (["base"], .directory)]⟩
    start := []
    network := 0 }

def listingCall : Call :=
  { arguments := ["grab", "news", "http://a/", "http://c/", "http://b/", "--stdin", "--out-dir",
      "out", "--base-path", "base"]
    environment := []
    input := "# more\n http://c/".toUTF8 }

theorem grab_exact_sample :
    (run countingWire listingCall failedWorld .standard).1.code = 0 ∧
      ∃ session page bodies removed,
        (run countingWire listingCall failedWorld .standard).1.output = jsonBytes
          (reportJson "news" "http://a/" ["http://c/", "http://b/", "http://c/"] (some "out") page
            bodies removed) ∧
        Grabbed session "http://a/" ["http://c/", "http://b/", "http://c/"] (some "out")
          failedWorld page bodies removed (run countingWire listingCall failedWorld .standard).2 := by
  have success : (run countingWire listingCall failedWorld .standard).1.code = 0 := by
    decide +kernel
  obtain ⟨-, session, further, page, bodies, removed, -, -, ⟨text, decoded, lines⟩, output,
    grabbed⟩ := grab_exact countingWire listingCall failedWorld .standard rfl success
  have whole : text = "# more\n http://c/" :=
    Option.some.inj (decoded.symm.trans (by decide +kernel))
  have listed : listedUrls "# more\n http://c/" = ["http://c/"] := by decide +kernel
  rw [lines, whole, listed] at output grabbed
  exact ⟨success, session, page, bodies, removed, output, grabbed⟩

end FeedCache.Command
