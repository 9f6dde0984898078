import FlowBundle.CommandLine.Run
import FlowBundle.Proofs.Builder.Publication
import FlowBundle.Proofs.Files
import FlowBundle.Proofs.Json.ReadBack
/-!
# What a run leaves behind

A run takes the text of a workflow from an argument or from a file (`SourceText`) and may fail at each step on the way to
the archive: there is no text, the text is no JSON, the value is no workflow, or the workflow cannot be written
(`FailsWith`).  Then it prints a failure, and no file is changed.  If there is no failure, the archive of the workflow is
written, and nothing else (`Writes`).

That would be all for a run with good arguments and settings and a place to write to.  But a text that nests too deep to
be read is no failure: the run breaks off with no status at all, and so it does for two names of a log level
(`run_writes_or_fails`).  A row of brackets is enough (`status?_brackets`).
-/
namespace FlowBundle
namespace CommandLine

open Json (Value)
open Files (Path Place)

/-! ## The text of a workflow -/

/-- **The text that is chosen for a workflow**: an argument that is not empty, or else what a file holds. -/
inductive SourceText (fs : FileSystem) (a : Arguments) : String → Prop where
  | argument {s : String} (h : a.workflow = some s) (hne : s ≠ "") : SourceText fs a s
  | file {path : String} {bytes : Bytes} {s : String} (hnone : a.workflow.getD "" = "") (h : a.workflowFile = some path)
      (hne : path ≠ "") (hread : fs.read (Path.ofText path) = .ok bytes) (hdecode : Utf8.decode bytes = .ok s) :
      SourceText fs a (String.ofList (Text.unifyLineEnds s.toList))

/-- **Why there is no text**: nothing is chosen, or the file that is chosen cannot be read as a text. -/
inductive NoText (fs : FileSystem) (a : Arguments) : SourceFault → Prop where
  | nothingGiven (hnone : a.workflow.getD "" = "") (hfile : a.workflowFile.getD "" = "") : NoText fs a .nothingGiven
  | file {path : String} {fault : Files.Fault} (hnone : a.workflow.getD "" = "") (h : a.workflowFile = some path)
      (hne : path ≠ "") (hread : fs.read (Path.ofText path) = .error fault) : NoText fs a (.file fault)
  | encoding {path : String} {bytes : Bytes} {fault : Utf8.Fault} (hnone : a.workflow.getD "" = "")
      (h : a.workflowFile = some path) (hne : path ≠ "") (hread : fs.read (Path.ofText path) = .ok bytes)
      (hdecode : Utf8.decode bytes = .error fault) : NoText fs a (.encoding fault)

/-- **The workflow that a run is given**, and the payload that it comes as. -/
def Accepts (limits : Json.Limits) (fs : FileSystem) (a : Arguments) (payload : Value) (w : Workflow) : Prop :=
  ∃ text, SourceText fs a text ∧ Json.readWithin limits.reading text = .ok payload ∧
    Workflow.ofPayload payload = .ok w ∧ w.toPayload.Fits limits.writing

/-- **The step at which a run fails**, and what is said about it. -/
inductive FailsWith (limits : Json.Limits) (fs : FileSystem) (a : Arguments) : String → Prop where
  | noText {fault : SourceFault} (h : NoText fs a fault) : FailsWith limits fs a fault.message
  | noJson {text : String} {error : Json.ReadError} (h : SourceText fs a text)
      (hread : Json.readWithin limits.reading text = .error error) (hshallow : ∀ container, error ≠ .tooDeep container) :
      FailsWith limits fs a error.message
  | noWorkflow {text : String} {payload : Value} {reason : Workflow.Rejection} (h : SourceText fs a text)
      (hread : Json.readWithin limits.reading text = .ok payload)
      (hrejected : Workflow.ofPayload payload = .error reason) : FailsWith limits fs a reason.message
  | unwritable {text : String} {payload : Value} {fault : Bundle.Fault} (h : SourceText fs a text)
      (hread : Json.readWithin limits.reading text = .ok payload) (hdeep : limits.writing < payload.depth)
      (hfault : fault.IsOverrun) (hexported : Bundle.exported limits.writing Blueprint.backend payload = .error fault) :
      FailsWith limits fs a fault.message

/-- **The text nests too deep to be read.** -/
def NestsTooDeep (limits : Json.Limits) (fs : FileSystem) (a : Arguments) (container : Json.Container) : Prop :=
  ∃ text, SourceText fs a text ∧ Json.readWithin limits.reading text = .error (.tooDeep container)

variable {limits : Json.Limits} {fs : FileSystem} {a : Arguments}

theorem given_eq_some_iff {s : Option String} {t : String} : given s = some t ↔ s = some t ∧ t ≠ "" := by
  rw [given, Option.filter_eq_some_iff, bne_iff_ne]

theorem given_eq_none_iff {s : Option String} : given s = none ↔ s.getD "" = "" := by
  cases s <;> simp [given]

/-- **A run is given a text or has none**, and then for one reason. -/
theorem sourceText_or_noText (fs : FileSystem) (a : Arguments) :
    (∃ text, SourceText fs a text) ∨ ∃ fault, NoText fs a fault := by
  cases hworkflow : given a.workflow with
  | some s =>
    obtain ⟨h, hne⟩ := given_eq_some_iff.1 hworkflow
    exact .inl ⟨s, .argument h hne⟩
  | none =>
    have hnone := given_eq_none_iff.1 hworkflow
    cases hfile : given a.workflowFile with
    | none => exact .inr ⟨_, .nothingGiven hnone (given_eq_none_iff.1 hfile)⟩
    | some path =>
      obtain ⟨h, hne⟩ := given_eq_some_iff.1 hfile
      cases hread : fs.read (Path.ofText path) with
      | error fault => exact .inr ⟨_, .file hnone h hne hread⟩
      | ok bytes =>
        cases hdecode : Utf8.decode bytes with
        | error fault => exact .inr ⟨_, .encoding hnone h hne hread hdecode⟩
        | ok s => exact .inl ⟨_, .file hnone h hne hread hdecode⟩

theorem load_of_file (room : Nat) {path : String} (hnone : a.workflow.getD "" = "") (h : a.workflowFile = some path)
    (hne : path ≠ "") : load room fs a.workflow a.workflowFile = (textOfFile fs path).bind (valueOfText room) := by
  rw [load, given_eq_none_iff.2 hnone, given_eq_some_iff.2 ⟨h, hne⟩]
  cases htext : textOfFile fs path <;> simp only [htext] <;> rfl

theorem load_of_sourceText (room : Nat) {text : String} (h : SourceText fs a text) :
    load room fs a.workflow a.workflowFile = valueOfText room text := by
  cases h with
  | argument h hne => rw [load, given_eq_some_iff.2 ⟨h, hne⟩]
  | file hnone h hne hread hdecode =>
    rw [load_of_file room hnone h hne]
    unfold textOfFile
    rw [hread]
    simp only [hdecode]
    rfl

theorem load_of_read {room : Nat} {text : String} {payload : Value} (h : SourceText fs a text)
    (hread : Json.readWithin room text = .ok payload) : load room fs a.workflow a.workflowFile = .ok payload := by
  rw [load_of_sourceText room h, valueOfText, hread]
  rfl

theorem load_of_unread {room : Nat} {text : String} {error : Json.ReadError} (h : SourceText fs a text)
    (hread : Json.readWithin room text = .error error) :
    load room fs a.workflow a.workflowFile = .error (.json error) := by
  rw [load_of_sourceText room h, valueOfText, hread]
  rfl

theorem load_of_noText (room : Nat) {fault : SourceFault} (h : NoText fs a fault) :
    load room fs a.workflow a.workflowFile = .error fault := by
  cases h with
  | nothingGiven hnone hfile => rw [load, given_eq_none_iff.2 hnone, given_eq_none_iff.2 hfile]
  | file hnone h hne hread =>
    rw [load_of_file room hnone h hne]
    unfold textOfFile
    rw [hread]
    rfl
  | encoding hnone h hne hread hdecode =>
    rw [load_of_file room hnone h hne]
    unfold textOfFile
    rw [hread]
    simp only [hdecode]
    rfl

/-- What was read can be written, unless it nests too deep for that. -/
theorem accepts_or_unwritable {text : String} {payload : Value} {w : Workflow} (h : SourceText fs a text)
    (hread : Json.readWithin limits.reading text = .ok payload) (haccepted : Workflow.ofPayload payload = .ok w) :
    Accepts limits fs a payload w ∨ ∃ message, FailsWith limits fs a message := by
  by_cases hfits : w.toPayload.Fits limits.writing
  · exact .inl ⟨text, h, hread, haccepted, hfits⟩
  · have hdeep : limits.writing < payload.depth := Nat.lt_of_not_le fun hle =>
      hfits (Workflow.fits_toPayload haccepted (Json.fits_of_readable (Json.readableIn_of_readWithin hread).readable hle))
    obtain ⟨bundle, hbundle, -⟩ := Bundle.ofWorkflow_backend w
    obtain ⟨fault, hfault, hexported⟩ := Bundle.exported_of_not_fits haccepted ⟨bundle, hbundle⟩ hfits
    exact .inr ⟨_, .unwritable h hread hdeep hfault hexported⟩

/-- **A run is given a workflow or fails at some step, or else the text nests too deep.** -/
theorem accepts_or_failsWith (limits : Json.Limits) (fs : FileSystem) (a : Arguments) :
    (∃ payload w, Accepts limits fs a payload w) ∨ (∃ message, FailsWith limits fs a message) ∨
      ∃ container, NestsTooDeep limits fs a container := by
  rcases sourceText_or_noText fs a with ⟨text, htext⟩ | ⟨fault, hfault⟩
  · cases hread : Json.readWithin limits.reading text with
    | error error =>
      by_cases hdeep : ∃ container, error = .tooDeep container
      · obtain ⟨container, rfl⟩ := hdeep
        exact .inr (.inr ⟨container, text, htext, hread⟩)
      · exact .inr (.inl ⟨_, .noJson htext hread fun container heq => hdeep ⟨container, heq⟩⟩)
    | ok payload =>
      cases haccepted : Workflow.ofPayload payload with
      | error reason => exact .inr (.inl ⟨_, .noWorkflow htext hread haccepted⟩)
      | ok w =>
        rcases accepts_or_unwritable htext hread haccepted with h | h
        · exact .inl ⟨payload, w, h⟩
        · exact .inr (.inl h)
  · exact .inr (.inl ⟨_, .noText hfault⟩)

/-! ## What comes of a run -/

/-- The path that an archive is written to: the one asked for, or the builder's own. -/
def outputPath (a : Arguments) (b : Builder) : Path := Path.ofText ((given a.outputFile).getD b.filename)

def summaryOf (a : Arguments) (stage : Builder.Stage) : Option String :=
  if a.summary then given (some stage.summaryText) else none

/-- What is printed about an archive. -/
def success (path : String) (paths : List String) : Value :=
  .obj [("success", .bool true), ("archive", .str path), ("files", .arr (paths.map .str))]

def failure (message : String) : Value := .obj [("success", .bool false), ("error", .str message)]

theorem read_report {ms : Json.Members} (h : (Value.obj ms).Readable) : Json.read (report ms) = .ok (.obj ms) :=
  Json.read_text_append h { indent := some 2, ascii := true } (List.all_eq_true.1 (by decide))

theorem readable_success (path : String) (paths : List String) : (success path paths).Readable := by
  have hkeys : ["success", "archive", "files"].Nodup := by decide
  refine .obj hkeys fun m hm => ?_
  simp only [List.mem_cons, List.not_mem_nil, or_false] at hm
  rcases hm with rfl | rfl | rfl
  · exact .bool true
  · exact .str path
  · refine .arr fun v hv => ?_
    obtain ⟨p, -, rfl⟩ := List.mem_map.1 hv
    exact .str p

theorem readable_failure (message : String) : (failure message).Readable := by
  have hkeys : ["success", "error"].Nodup := by decide
  refine .obj hkeys fun m hm => ?_
  simp only [List.mem_cons, List.not_mem_nil, or_false] at hm
  rcases hm with rfl | rfl
  · exact .bool false
  · exact .str message

/-- **A run that writes**: the file has the archive, whose files are those of the bundle; its name and the paths in it are
printed, behind the summary if that is asked for; and no other place looks different. -/
structure Writes (fs fs' : FileSystem) (a : Arguments) (b : Builder) (payload : Value) (place : Place)
    (outcome : Outcome) (stage : Builder.Stage) (entries : List Archive.Entry) : Prop where
  generate_eq : b.generate payload = .ok stage
  pack_eq : Archive.pack .deflated stage.bundle.files = .ok entries
  files_eq : (Archive.fileEntries entries).map (fun e => (e.name, e.content)) =
    stage.bundle.files.map fun f => (f.path, Utf8.encode f.content)
  ofBytes_eq : (Archive.toBytes entries).length < 2 ^ (31 : Nat) →
    Archive.ofBytes (Archive.toBytes entries) = some entries
  read_eq : fs'.read (outputPath a b) = .ok (Archive.toBytes entries)
  look_eq : ∀ other, other ≠ place → fs'.look other = fs.look other
  status_eq : outcome.status? = some 0
  output_eq : ∃ printed, outcome.output = ((summaryOf a stage).map (· ++ "\n")).getD "" ++ printed ∧
    Json.read printed = .ok (success (outputPath a b).text stage.bundle.paths)

/-- **A run that fails**: it says why, and no file is changed. -/
structure Fails (fs fs' : FileSystem) (message : String) (outcome : Outcome) : Prop where
  files_eq : fs' = fs
  status_eq : outcome.status? = some 1
  output_eq : Json.read outcome.output = .ok (failure message)

/-- **A run that breaks off**: it has no status and prints nothing, and no file is changed. -/
structure BreaksOff (fs fs' : FileSystem) (outcome : Outcome) : Prop where
  files_eq : fs' = fs
  status_eq : outcome.status? = none
  output_eq : outcome.output = ""

theorem deliver_of_writable {b : Builder} {built : Builder.Built} {place : Place}
    (h : fs.Writable (outputPath a b) place) : deliver fs a b built =
      (fs.put place built.archive,
        .written (outputPath a b).text built.stage.bundle.paths (summaryOf a built.stage)) := by
  have hwrite := FileSystem.write_of_writable h built.archive
  rw [outputPath] at hwrite
  unfold deliver
  simp only [hwrite]
  rfl

theorem output_written (a : Arguments) (stage : Builder.Stage) (path : String) :
    (Outcome.written path stage.bundle.paths (summaryOf a stage)).output =
      ((summaryOf a stage).map (· ++ "\n")).getD "" ++
        report [("success", .bool true), ("archive", .str path), ("files", .arr (stage.bundle.paths.map .str))] := by
  cases summaryOf a stage <;> rfl

theorem sound_builderFor (limits : Json.Limits) (s : Settings) : (builderFor limits s).Sound :=
  ⟨rfl, (Builder.sound_ofSettings s).withinCapacity⟩

theorem runWith_of_build {s : Settings} {payload : Value} {built : Builder.Built} {place : Place}
    (hload : load limits.reading fs a.workflow a.workflowFile = .ok payload)
    (hbuild : (builderFor limits s).build payload = .ok built)
    (hplace : fs.Writable (outputPath a (builderFor limits s)) place) : runWith limits fs a s =
      (fs.put place built.archive, .written (outputPath a (builderFor limits s)).text built.stage.bundle.paths
        (summaryOf a built.stage)) := by
  rw [runWith, hload]
  simp only [hbuild]
  exact deliver_of_writable hplace

theorem runWith_of_accepts {s : Settings} {payload : Value} {w : Workflow} {place : Place}
    (h : Accepts limits fs a payload w) (hplace : fs.Writable (outputPath a (builderFor limits s)) place) :
    ∃ stage entries, Writes fs (runWith limits fs a s).1 a (builderFor limits s) payload place (runWith limits fs a s).2
      stage entries := by
  obtain ⟨text, htext, hread, haccepted, hfits⟩ := h
  have hempty : "" ∉ Table.keys (builderFor limits s).shelf.archives := List.not_mem_nil
  obtain ⟨stage, entries, stored, hd⟩ :=
    Builder.delivers_of_accepted (sound_builderFor limits s) hempty haccepted hfits
  have hrun := runWith_of_build (load_of_read htext hread) hd.build_eq hplace
  have hread' := @FileSystem.read_put fs _ place (Archive.toBytes entries) hplace
  have hlook : ∀ other, other ≠ place → (fs.put place (Archive.toBytes entries)).look other = fs.look other :=
    fun other hne => FileSystem.look_put_of_find hplace.find_eq hne
  refine ⟨stage, entries, ?_⟩
  rw [hrun]
  exact
    { generate_eq := hd.generate_eq
      pack_eq := hd.pack_eq
      files_eq := hd.files_eq
      ofBytes_eq := hd.ofBytes_eq
      read_eq := hread'
      look_eq := hlook
      status_eq := rfl
      output_eq := ⟨_, output_written a stage _, read_report (readable_success _ _)⟩ }

/-- Only a text that nests too deep is let through. -/
theorem escapes_eq_false {error : Json.ReadError} (h : ∀ container, error ≠ .tooDeep container) :
    (SourceFault.json error).escapes = false := by
  cases error with
  | fault | longInteger => rfl
  | tooDeep container => exact (h container rfl).elim

theorem escapes_of_noText {fault : SourceFault} (h : NoText fs a fault) : fault.escapes = false := by
  cases h <;> rfl

theorem runWith_of_failsWith (s : Settings) {message : String} (h : FailsWith limits fs a message) :
    runWith limits fs a s = (fs, .failed message) := by
  cases h with
  | noText h =>
    rw [runWith, load_of_noText limits.reading h]
    simp only [escapes_of_noText h, Bool.false_eq_true, if_false]
  | noJson h hread hshallow =>
    rw [runWith, load_of_unread h hread]
    simp only [escapes_eq_false hshallow, Bool.false_eq_true, if_false]
    rfl
  | noWorkflow h hread hrejected =>
    have hbuild := ((builderFor limits s).refuses_of_rejected "" hrejected).build_eq
    rw [runWith, load_of_read h hread]
    simp only [hbuild]
    rfl
  | unwritable h hread hdeep hfault hexported =>
    have hbuild := (Builder.refuses_of_exported (b := builderFor limits s) "" hexported).build_eq
    rw [runWith, load_of_read h hread]
    simp only [hbuild]
    rfl

theorem runWith_of_nestsTooDeep (s : Settings) {container : Json.Container} (h : NestsTooDeep limits fs a container) :
    runWith limits fs a s = (fs, .unread (.json (.tooDeep container))) := by
  obtain ⟨text, htext, hread⟩ := h
  rw [runWith, load_of_unread htext hread]
  rfl

theorem fails_failed (fs : FileSystem) (message : String) : Fails fs fs message (.failed message) :=
  ⟨rfl, rfl, read_report (readable_failure message)⟩

/-- **A run writes the archive of its workflow, fails or breaks off.**  If the log level can be set, the run ends well if
and only if it is given a workflow; then the archive is written and nothing else.  If it is given none, it says at which
step it failed; only for a text that nests too deep it breaks off, as it does for a level that cannot be set.  In neither
case is any file changed. -/
theorem run_writes_or_fails {p : Process} {fs : FileSystem} {env : Environment} {args : List String} {a : Arguments}
    {s : Settings} {place : Place} (hargs : Arguments.ofList args = .ok a) (henv : env.settings = .ok s)
    (hplace : fs.Writable (outputPath a (builderFor p.limits s)) place) :
    (p.levelFault? s = none →
      ((run p fs env args).2.status? = some 0 ↔ ∃ payload w, Accepts p.limits fs a payload w) ∧
      (∀ payload w, Accepts p.limits fs a payload w → ∃ stage entries,
        Writes fs (run p fs env args).1 a (builderFor p.limits s) payload place (run p fs env args).2 stage entries) ∧
      ((¬ ∃ payload w, Accepts p.limits fs a payload w) →
        (∃ message, FailsWith p.limits fs a message ∧ Fails fs (run p fs env args).1 message (run p fs env args).2) ∨
        (∃ container, NestsTooDeep p.limits fs a container) ∧
          BreaksOff fs (run p fs env args).1 (run p fs env args).2)) ∧
    (p.levelFault? s ≠ none → BreaksOff fs (run p fs env args).1 (run p fs env args).2) := by
  cases hlevel : p.levelFault? s with
  | some fault =>
    have hrun : run p fs env args = (fs, .badLevel fault) := by
      rw [run, hargs]
      simp only [henv, hlevel]
    rw [hrun]
    exact ⟨nofun, fun _ => ⟨rfl, rfl, rfl⟩⟩
  | none =>
    have hrun : run p fs env args = runWith p.limits fs a s := by
      rw [run, hargs]
      simp only [henv, hlevel]
    rw [hrun]
    have hwrites : ∀ payload w, Accepts p.limits fs a payload w → ∃ stage entries,
        Writes fs (runWith p.limits fs a s).1 a (builderFor p.limits s) payload place (runWith p.limits fs a s).2
          stage entries :=
      fun _ _ h => runWith_of_accepts h hplace
    refine ⟨fun _ => ⟨⟨fun hzero => ?_, ?_⟩, hwrites, fun hnone => ?_⟩, fun h => (h rfl).elim⟩
    · refine (accepts_or_failsWith p.limits fs a).resolve_right ?_
      rintro (⟨message, h⟩ | ⟨container, h⟩)
      · rw [runWith_of_failsWith s h] at hzero
        cases hzero
      · rw [runWith_of_nestsTooDeep s h] at hzero
        cases hzero
    · rintro ⟨payload, w, h⟩
      obtain ⟨stage, entries, hw⟩ := hwrites payload w h
      exact hw.status_eq
    · rcases (accepts_or_failsWith p.limits fs a).resolve_left hnone with ⟨message, h⟩ | ⟨container, h⟩
      · rw [runWith_of_failsWith s h]
        exact .inl ⟨message, h, fails_failed fs message⟩
      · rw [runWith_of_nestsTooDeep s h]
        exact .inr ⟨⟨container, h⟩, rfl, rfl, rfl⟩

/-- A workflow without nodes. -/
def emptyGraph : Value := .obj [("nodes", .arr [])]

/-- A workflow in one file and an older archive in another. -/
def twoFiles : FileSystem :=
  .ofFiles [("flow.json", Utf8.encode (emptyGraph.text {})), ("flow.zip", [1, 2, 3])]

/-- In an empty environment the log level can be set. -/
theorem exists_settings_nil : ∃ s, Environment.settings [] = .ok s ∧ Process.levelFault? {} s = none := by
  have hvalid : (Environment.settings []).toOption.any (fun s => (Process.levelFault? {} s).isNone) = true := by
    decide +kernel
  cases h : Environment.settings [] with
  | error fault =>
    rw [h] at hvalid
    cases hvalid
  | ok s =>
    rw [h] at hvalid
    exact ⟨s, rfl, Option.isNone_iff_eq_none.1 hvalid⟩

/-- An empty argument gives way to the file, and the older archive to the new one. -/
theorem run_writes_or_fails_again : ∃ a s stage entries,
    Arguments.ofList ["--workflow=", "--workflow-file", "flow.json", "--output-file", "./flow.zip"] = .ok a ∧
    Environment.settings [] = .ok s ∧ Process.levelFault? {} s = none ∧
    twoFiles.Writable (outputPath a (builderFor {} s)) ["flow.zip"] ∧
    Accepts {} twoFiles a emptyGraph ⟨[], none, []⟩ ∧
    Writes twoFiles (run {} twoFiles [] ["--workflow=", "--workflow-file", "flow.json", "--output-file", "./flow.zip"]).1
      a (builderFor {} s) emptyGraph ["flow.zip"]
      (run {} twoFiles [] ["--workflow=", "--workflow-file", "flow.json", "--output-file", "./flow.zip"]).2
      stage entries := by
  have hargs : Arguments.ofList ["--workflow=", "--workflow-file", "flow.json", "--output-file", "./flow.zip"] =
      .ok ⟨some "", some "flow.json", some "./flow.zip", false⟩ := rfl
  obtain ⟨s, henv, hlevel⟩ := exists_settings_nil
  have hplace : twoFiles.Writable (Path.ofText "./flow.zip") ["flow.zip"] := ⟨by rfl, by decide⟩
  have htext : SourceText twoFiles ⟨some "", some "flow.json", some "./flow.zip", false⟩ (emptyGraph.text {}) := by
    have hread : twoFiles.read (Path.ofText "flow.json") = .ok (Utf8.encode (emptyGraph.text {})) := by rfl
    have hends : String.ofList (Text.unifyLineEnds (emptyGraph.text {}).toList) = emptyGraph.text {} := by decide
    rw [← hends]
    exact .file rfl rfl (by decide) hread (Utf8.decode_encode _)
  have hread : Json.readWithin 993 (emptyGraph.text {}) = .ok emptyGraph :=
    Json.readWithin_text (by decide) (by decide) {}
  have haccepts : Accepts {} twoFiles ⟨some "", some "flow.json", some "./flow.zip", false⟩ emptyGraph ⟨[], none, []⟩ :=
    ⟨_, htext, hread, rfl, by decide⟩
  obtain ⟨stage, entries, hw⟩ := ((run_writes_or_fails (p := {}) hargs henv hplace).1 hlevel).2.1 _ _ haccepts
  exact ⟨_, s, stage, entries, hargs, henv, hlevel, hplace, haccepts, hw⟩

theorem classifyAll_cons {s : String} {rest : List String} {w : Word} {ws : List Word} (hmark : s ≠ "--")
    (hw : classify s = .ok w) (hws : classifyAll rest = .ok ws) : classifyAll (s :: rest) = .ok (w :: ws) := by
  rw [classifyAll, hw, hws]
  · rfl
  · exact hmark

/-- Lists that are opened and never closed. -/
def brackets (n : Nat) : String := String.ofList (List.replicate n '[')

theorem ofList_brackets (n : Nat) : Arguments.ofList ["--workflow", brackets (n + 1), "--output-file", "flow.zip"] =
    .ok ⟨some (brackets (n + 1)), none, some "flow.zip", false⟩ := by
  have hlist : (brackets (n + 1)).toList = '[' :: List.replicate n '[' := String.toList_ofList
  have hmark : brackets (n + 1) ≠ "--" := fun heq => by
    rw [heq] at hlist
    cases hlist
  have hclassify : classify (brackets (n + 1)) = .ok (.text (brackets (n + 1))) := by
    unfold classify
    rw [hlist]
    rfl
  have hwords : classifyAll ["--workflow", brackets (n + 1), "--output-file", "flow.zip"] =
      .ok [.option .workflow none, .text (brackets (n + 1)), .option .outputFile none, .text "flow.zip"] :=
    classifyAll_cons (by decide) rfl (classifyAll_cons hmark hclassify rfl)
  rw [Arguments.ofList, hwords]
  rfl

/-- A run that is given too many brackets and no workflow has no status, though its arguments and settings are good. -/
theorem status?_brackets {n : Nat} (h : 993 < n + 1) : ∃ a s,
    Arguments.ofList ["--workflow", brackets (n + 1), "--output-file", "flow.zip"] = .ok a ∧
    Environment.settings [] = .ok s ∧ (FileSystem.ofFiles []).Writable (outputPath a (builderFor {} s)) ["flow.zip"] ∧
    (¬ ∃ payload w, Accepts {} (.ofFiles []) a payload w) ∧
    (run {} (.ofFiles []) [] ["--workflow", brackets (n + 1), "--output-file", "flow.zip"]).2.status? = none := by
  obtain ⟨s, henv, hlevel⟩ := exists_settings_nil
  have hplace : (FileSystem.ofFiles []).Writable (Path.ofText "flow.zip") ["flow.zip"] := ⟨by rfl, by decide⟩
  have htext : SourceText (.ofFiles []) ⟨some (brackets (n + 1)), none, some "flow.zip", false⟩ (brackets (n + 1)) :=
    .argument rfl fun heq => by
      have hlist := congrArg String.toList heq
      rw [brackets, String.toList_ofList] at hlist
      cases hlist
  have hdeep : NestsTooDeep {} (.ofFiles []) ⟨some (brackets (n + 1)), none, some "flow.zip", false⟩ .array :=
    ⟨_, htext, Json.readWithin_brackets h⟩
  have hrun : run {} (.ofFiles []) [] ["--workflow", brackets (n + 1), "--output-file", "flow.zip"] =
      (.ofFiles [], .unread (.json (.tooDeep .array))) := by
    rw [run, ofList_brackets]
    simp only [henv, hlevel]
    exact runWith_of_nestsTooDeep s hdeep
  refine ⟨_, s, ofList_brackets n, henv, hplace, ?_, by rw [hrun]; rfl⟩
  rintro ⟨payload, w, haccepts⟩
  obtain ⟨stage, entries, hw⟩ := runWith_of_accepts haccepts hplace
  have hstatus := hw.status_eq
  rw [runWith_of_nestsTooDeep s hdeep] at hstatus
  cases hstatus

theorem status?_twentyThousand : ∃ a s,
    Arguments.ofList ["--workflow", brackets 20000, "--output-file", "flow.zip"] = .ok a ∧
    Environment.settings [] = .ok s ∧ (FileSystem.ofFiles []).Writable (outputPath a (builderFor {} s)) ["flow.zip"] ∧
    (¬ ∃ payload w, Accepts {} (.ofFiles []) a payload w) ∧
    (run {} (.ofFiles []) [] ["--workflow", brackets 20000, "--output-file", "flow.zip"]).2.status? = none :=
  status?_brackets (n := 19999) (by decide)

end CommandLine
end FlowBundle
