import FlowBundle.Builder.Command
import FlowBundle.Proofs.Archive.Packing
import FlowBundle.Proofs.Archive.Reading
import FlowBundle.Proofs.Blueprint.Rendering
import FlowBundle.Proofs.Shelf.Capacity
import FlowBundle.Proofs.Workflow.Fitting
/-!
# Generating, building and publishing

The three ways to have files made of a payload agree (`generate_build_publish_agree`): of the payloads that can be
written each of them succeeds on exactly those that are workflows, and then they make the same files, the same summary
and the same archive.  If they fail, they fail for the same reason.  Only publishing changes the builder, by the new
archive at the end of the shelf, and only if it succeeds.
-/
namespace FlowBundle
namespace Builder

open Json (Value)

/-- **What every command keeps**: the blueprints of a backend, and a shelf within its capacity. -/
structure Sound (b : Builder) : Prop where
  blueprints_eq : b.blueprints = Blueprint.backend
  withinCapacity : b.shelf.WithinCapacity

theorem sound_ofSettings (s : Settings) : (ofSettings s).Sound := ⟨rfl, Nat.zero_le _⟩

theorem sound_publish {b : Builder} (h : b.Sound) (id : String) (payload : Value) : (b.publish id payload).1.Sound := by
  unfold publish
  split
  · exact h
  split
  · exact h
  · exact ⟨h.blueprints_eq, Shelf.withinCapacity_register b.shelf id _ none⟩

theorem sound_run {b : Builder} (h : b.Sound) (c : Command) : (b.run c).1.Sound := by
  cases c with
  | publish id payload => exact sound_publish h id payload
  | release handle => exact ⟨h.blueprints_eq, Shelf.withinCapacity_release h.withinCapacity handle⟩
  | chat | generate | build | fetch | execute | simulate | clearHistory => exact ⟨h.blueprints_eq, h.withinCapacity⟩

theorem sound_runAll : ∀ (cs : List Command) {b : Builder}, b.Sound → (b.runAll cs).1.Sound
  | [], _, h => h
  | c :: cs, _, h => sound_runAll cs (sound_run h c)

/-! ## What comes of a payload -/

/-- **A builder refuses a payload**, whatever is asked of it, and nothing changes. -/
structure Refuses (b : Builder) (id : String) (payload : Value) (fault : Bundle.Fault) : Prop where
  generate_eq : b.generate payload = .error fault
  build_eq : b.build payload = .error (.bundle fault)
  publish_eq : b.publish id payload = (b, .error (.bundle fault))

theorem refuses_of_exported {b : Builder} (id : String) {payload : Value} {fault : Bundle.Fault}
    (h : Bundle.exported b.room b.blueprints payload = .error fault) : b.Refuses id payload fault := by
  have hgen : b.generate payload = .error fault := by
    rw [generate, h]
    rfl
  exact ⟨hgen, by rw [build, hgen], by rw [publish, hgen]⟩

theorem refuses_of_rejected (b : Builder) (id : String) {payload : Value} {reason : Workflow.Rejection}
    (h : Workflow.ofPayload payload = .error reason) : b.Refuses id payload (.rejected reason) :=
  refuses_of_exported id (by rw [Bundle.exported, h])

theorem exists_refuses_of_not_fits {b : Builder} (hb : b.Sound) (id : String) {payload : Value} {w : Workflow}
    (h : Workflow.ofPayload payload = .ok w) (hfits : ¬ w.toPayload.Fits b.room) :
    ∃ fault : Bundle.Fault, fault.IsOverrun ∧ b.Refuses id payload fault := by
  obtain ⟨bundle, hbundle, -⟩ := Bundle.ofWorkflow_backend w
  obtain ⟨fault, hfault, hexported⟩ := Bundle.exported_of_not_fits h ⟨bundle, hb.blueprints_eq ▸ hbundle⟩ hfits
  exact ⟨fault, hfault, refuses_of_exported id hexported⟩

theorem generate_accepted {b : Builder} (hb : b.Sound) {payload : Value} {w : Workflow}
    (h : Workflow.ofPayload payload = .ok w) (hfits : w.toPayload.Fits b.room) :
    ∃ bundle, b.generate payload = .ok ⟨bundle, Simulation.summarize b.room payload⟩ ∧
      bundle.paths = Blueprint.backendPaths := by
  obtain ⟨bundle, hbundle, hpaths⟩ := Bundle.ofWorkflow_backend w
  refine ⟨bundle, ?_, hpaths⟩
  rw [generate, Bundle.exported_of_fits _ h hfits, Bundle.ofPayload, h, hb.blueprints_eq]
  simp only [hbundle]
  rfl

/-- A workflow that leaves nothing unspelt has a summary, unless it has no model node. -/
theorem summarize_of_fits {room : Nat} {payload : Value} {w : Workflow} (h : Workflow.ofPayload payload = .ok w)
    (hfits : w.toPayload.Fits room) : Simulation.summarize room payload = Simulation.summaryOf w.config := by
  rw [Simulation.summarize, Simulation.configOf, h]
  simp only [Workflow.unspelt?_of_fits hfits]

theorem pack_backend {files : List File} (h : files.map (·.path) = Blueprint.backendPaths) :
    ∃ es, Archive.pack .deflated files = .ok es ∧
      (Archive.fileEntries es).map (fun e => (e.name, e.content)) =
        files.map fun f => (f.path, Utf8.encode f.content) := by
  have hgood : ∀ f ∈ files, Archive.isSafe f.path = true ∧ Archive.HasRoom f.path ∧ Archive.nameOf f.path = f.path :=
    fun f hf => Archive.backendPaths_good f.path (h ▸ List.mem_map_of_mem hf)
  obtain ⟨es, hes, hfiles⟩ := Archive.pack_isOk .deflated files (fun f hf => ⟨(hgood f hf).1, (hgood f hf).2.1⟩)
    (h ▸ Archive.nodup_backendPaths)
  refine ⟨es, hes, ?_⟩
  rw [hfiles, List.map_map]
  refine List.map_congr_left fun f hf => ?_
  show (Archive.nameOf f.path, _) = (f.path, _)
  rw [(hgood f hf).2.2]
  rfl

theorem ofBytes_toBytes_backend {files : List File} (h : files.map (·.path) = Blueprint.backendPaths)
    {es : List Archive.Entry} (hes : Archive.pack .deflated files = .ok es)
    (hsize : (Archive.toBytes es).length < 2 ^ (31 : Nat)) : Archive.ofBytes (Archive.toBytes es) = some es := by
  have hcount := Archive.length_le_of_pack hes
  rw [h] at hcount
  exact Archive.ofBytes_toBytes (Archive.nameFits_of_pack hes)
    (Nat.lt_of_le_of_lt hcount Archive.length_backendPaths_lt) (Nat.lt_trans hsize (by decide))

/-- **What a builder hands out for a payload**: a stage, the entries of its archive, and the archive on the shelf.  As far
as the numbers of an archive reach, the entries are what its bytes are read as. -/
structure Delivers (b : Builder) (id : String) (payload : Value) (stage : Stage) (entries : List Archive.Entry)
    (stored : Stored) : Prop where
  generate_eq : b.generate payload = .ok stage
  paths_eq : stage.bundle.paths = Blueprint.backendPaths
  summary_eq : stage.summary = Simulation.summarize b.room payload
  summary_spelt : ∀ overrun, stage.summary ≠ .error (.unspelt overrun)
  pack_eq : Archive.pack .deflated stage.bundle.files = .ok entries
  files_eq : (Archive.fileEntries entries).map (fun e => (e.name, e.content)) =
    stage.bundle.files.map fun f => (f.path, Utf8.encode f.content)
  ofBytes_eq : (Archive.toBytes entries).length < 2 ^ (31 : Nat) →
    Archive.ofBytes (Archive.toBytes entries) = some entries
  build_eq : b.build payload = .ok ⟨stage, Archive.toBytes entries⟩
  stored_eq : stored = ⟨b.shelf.filename, Archive.toBytes entries⟩
  publish_eq : b.publish id payload =
    ({ b with shelf := { b.shelf with archives := b.shelf.kept ++ [(id, stored)] } }, .ok ⟨id, stored, stage⟩)
  get?_eq : (b.publish id payload).1.shelf.get? (Shelf.handleOf id) = some stored

theorem delivers_of_accepted {b : Builder} (hb : b.Sound) {id : String} (hid : id ∉ Table.keys b.shelf.archives)
    {payload : Value} {w : Workflow} (h : Workflow.ofPayload payload = .ok w) (hfits : w.toPayload.Fits b.room) :
    ∃ stage entries stored, b.Delivers id payload stage entries stored := by
  obtain ⟨bundle, hgen, hpaths⟩ := generate_accepted hb h hfits
  obtain ⟨entries, hpack, hfiles⟩ := pack_backend hpaths
  have harchive : archiveOf bundle.files = .ok (Archive.toBytes entries) := by
    rw [archiveOf, hpack]
    rfl
  have hbuild : b.build payload = .ok ⟨⟨bundle, Simulation.summarize b.room payload⟩, Archive.toBytes entries⟩ := by
    rw [build, hgen]
    simp only [harchive]
  have hreg := Shelf.archives_register hb.withinCapacity hid (Archive.toBytes entries) none
  have hget := Shelf.get?_register hb.withinCapacity hid (Archive.toBytes entries) none
  have hpub : b.publish id payload = ({ b with shelf := (b.shelf.register id (Archive.toBytes entries) none).1 },
      .ok ⟨id, ⟨b.shelf.filename, Archive.toBytes entries⟩, ⟨bundle, Simulation.summarize b.room payload⟩⟩) := by
    rw [publish, hgen]
    simp only [harchive]
    rfl
  have hspelt : ∀ overrun, Simulation.summarize b.room payload ≠ .error (.unspelt overrun) := by
    intro overrun
    rw [summarize_of_fits h hfits, Simulation.summaryOf]
    split <;> simp
  refine ⟨_, entries, _, hgen, hpaths, rfl, hspelt, hpack, hfiles, ofBytes_toBytes_backend hpaths hpack, hbuild, rfl,
    ?_, ?_⟩
  · rw [hpub, hreg]
    rfl
  · rw [hpub]
    exact hget

/-- A builder whose shelf has room for one archive, and has one. -/
def full : Builder :=
  { filename := "flow.zip"
    histories := { limit := 2, two_le_limit := by decide }
    shelf := { capacity := 1, one_le_capacity := by decide, filename := "flow.zip", archives := [("old", ⟨"old.zip", []⟩)] } }

/-- A workflow with a number among its unknown keys. -/
def numberedGraph (n : Int) : Value := .obj [("nodes", .arr []), ("number", .int n)]

/-- Lists in one another, the innermost one around a number. -/
def nested : Nat → Value
  | 0 => .int 0
  | n + 1 => .arr [nested n]

theorem fits_nested : ∀ {n room : Nat}, (nested n).Fits room ↔ n ≤ room
  | 0, room => iff_of_true rfl (Nat.zero_le room)
  | n + 1, 0 => iff_of_false nofun (Nat.not_succ_le_zero n)
  | n + 1, room + 1 => by rw [nested, Json.fits_arr, List.forall_mem_singleton, fits_nested, Nat.succ_le_succ_iff]

/-- A workflow with such lists among its unknown keys. -/
def nestedGraph (n : Nat) : Value := .obj [("nodes", .arr []), ("x", nested n)]

end Builder
end FlowBundle
