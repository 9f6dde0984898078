import FlowBundle.Bundle
/-!
# What a blueprint asks for

A blueprint is rendered without a fault once every slot has a value and every choice names a variant of its fragment
(`render_of_suppliedBy`).  The blueprints of a backend ask for nothing else than what a configuration gives, so there
is a bundle of every workflow, and its paths do not depend on the configuration (`ofWorkflow_backend`).
-/
namespace FlowBundle

section

variable {α β γ ε : Type} {f : α → Except ε β}

theorem mapM_isOk : ∀ xs : List α, (∀ x ∈ xs, ∃ y, f x = .ok y) → ∃ ys, xs.mapM f = .ok ys
  | [], _ => ⟨[], rfl⟩
  | x :: xs, h => by
    obtain ⟨y, hy⟩ := h x List.mem_cons_self
    obtain ⟨ys, hys⟩ := mapM_isOk xs fun x' hx' => h x' (List.mem_cons_of_mem x hx')
    exact ⟨y :: ys, by rw [List.mapM_cons, hy, hys]; rfl⟩

theorem mapM_cons_eq_ok {x : α} {xs : List α} {ys : List β} :
    (x :: xs).mapM f = .ok ys ↔ ∃ y ys', f x = .ok y ∧ xs.mapM f = .ok ys' ∧ ys = y :: ys' := by
  rw [List.mapM_cons]
  cases hx : f x with
  | error e => simp [bind, Except.bind]
  | ok y =>
    cases hxs : xs.mapM f with
    | error e => simp [bind, Except.bind]
    | ok ys' => simp [bind, Except.bind, pure, Except.pure, eq_comm]

theorem mapM_congr {g : α → Except ε β} : ∀ {xs : List α}, (∀ x ∈ xs, f x = g x) → xs.mapM f = xs.mapM g
  | [], _ => rfl
  | x :: xs, h => by
    rw [List.mapM_cons, List.mapM_cons, h x List.mem_cons_self,
      mapM_congr fun y hy => h y (List.mem_cons_of_mem x hy)]

/-- What each step keeps of its argument, the whole run keeps of the list. -/
theorem map_of_mapM_eq_ok {p : β → γ} {q : α → γ} (h : ∀ x y, f x = .ok y → p y = q x) :
    ∀ (xs : List α) (ys : List β), xs.mapM f = .ok ys → ys.map p = xs.map q
  | [], ys, hys => by
    cases hys
    rfl
  | x :: xs, ys, hys => by
    obtain ⟨y, ys', hx, hxs, rfl⟩ := mapM_cons_eq_ok.1 hys
    rw [List.map_cons, List.map_cons, h x y hx, map_of_mapM_eq_ok h xs ys' hxs]

theorem isOk_of_mapM_eq_ok : ∀ {xs : List α} {ys : List β}, xs.mapM f = .ok ys → ∀ x ∈ xs, ∃ y, f x = .ok y
  | [], _, _, _, hx => nomatch hx
  | x :: xs, _, h, x', hx' => by
    obtain ⟨y, ys', hx, hxs, -⟩ := mapM_cons_eq_ok.1 h
    rcases List.mem_cons.1 hx' with rfl | hx'
    · exact ⟨y, hx⟩
    · exact isOk_of_mapM_eq_ok hxs x' hx'

theorem mem_of_mapM_eq_ok : ∀ {xs : List α} {ys : List β}, xs.mapM f = .ok ys →
    ∀ {x y}, x ∈ xs → f x = .ok y → y ∈ ys
  | [], _, _, _, _, hx, _ => nomatch hx
  | x :: xs, _, h, x', y', hx', hy' => by
    obtain ⟨y, ys', hx, hxs, rfl⟩ := mapM_cons_eq_ok.1 h
    rcases List.mem_cons.1 hx' with rfl | hx'
    · rw [hx] at hy'
      cases hy'
      exact List.mem_cons_self
    · exact List.mem_cons_of_mem y (mem_of_mapM_eq_ok hxs hx' hy')

/-- **A run fails with the first failure.** -/
theorem mapM_eq_error_iff {e : ε} : ∀ {xs : List α}, xs.mapM f = .error e ↔
    ∃ pre x post, xs = pre ++ x :: post ∧ (∀ x' ∈ pre, ∃ y, f x' = .ok y) ∧ f x = .error e
  | [] => by simp [pure, Except.pure]
  | x :: xs => by
    rw [List.mapM_cons]
    cases hx : f x with
    | error e' =>
      constructor
      · intro h
        cases h
        exact ⟨[], x, xs, rfl, fun _ h => (nomatch h), hx⟩
      · rintro ⟨pre, x', post, hsplit, hpre, hx'⟩
        cases pre with
        | nil =>
          obtain ⟨rfl, -⟩ := List.cons.inj hsplit
          rw [hx] at hx'
          cases hx'
          rfl
        | cons z pre =>
          obtain ⟨rfl, -⟩ := List.cons.inj hsplit
          obtain ⟨y, hy⟩ := hpre x List.mem_cons_self
          rw [hx] at hy
          cases hy
    | ok y =>
      have hrest : (xs.mapM f >>= fun ys => pure (y :: ys)) = .error e ↔ xs.mapM f = .error e := by
        cases xs.mapM f <;> simp [bind, Except.bind, pure, Except.pure]
      refine hrest.trans (mapM_eq_error_iff.trans ⟨?_, ?_⟩)
      · rintro ⟨pre, x', post, rfl, hpre, hx'⟩
        refine ⟨x :: pre, x', post, rfl, fun z hz => ?_, hx'⟩
        rcases List.mem_cons.1 hz with rfl | hz
        · exact ⟨y, hx⟩
        · exact hpre z hz
      · rintro ⟨pre, x', post, hsplit, hpre, hx'⟩
        cases pre with
        | nil =>
          obtain ⟨rfl, -⟩ := List.cons.inj hsplit
          rw [hx] at hx'
          cases hx'
        | cons z pre =>
          obtain ⟨rfl, rfl⟩ := List.cons.inj hsplit
          exact ⟨pre, x', post, rfl, fun z hz => hpre z (List.mem_cons_of_mem _ hz), hx'⟩

end

namespace Blueprint

/-- **Nothing is missing**: the values have every slot, and each choice is a text that names a variant. -/
def SuppliedBy (b : Blueprint) (values choices : Json.Members) : Prop :=
  (∀ slot ∈ b.slots, ∃ v, values.get? slot = some v) ∧
    ∀ e ∈ b.fragments, ∃ name text, choices.get? e.2.choice = some (.str name) ∧ e.2.variants.lookup name = some text

theorem render_of_suppliedBy {b : Blueprint} {values choices : Json.Members} (h : b.SuppliedBy values choices) :
    ∃ text, b.render values choices = .ok text := by
  obtain ⟨slots, hs⟩ : ∃ ss, b.slots.mapM (slotText b.path values) = .ok ss := by
    refine mapM_isOk _ fun slot hslot => ?_
    obtain ⟨v, hv⟩ := h.1 slot hslot
    exact ⟨_, by rw [slotText, hv]⟩
  obtain ⟨fragments, hf⟩ : ∃ fs, b.fragments.mapM (variantText b.path choices) = .ok fs := by
    refine mapM_isOk _ fun e he => ?_
    obtain ⟨name, text, hname, htext⟩ := h.2 e he
    exact ⟨(e.1, text), by rw [variantText, hname, Option.getD_some]; simp only [htext]⟩
  exact ⟨_, by rw [render, replacements, hs, hf]; rfl⟩

/-- A blueprint sees of the values those of its slots. -/
theorem render_congr {b : Blueprint} {values values' : Json.Members} (choices : Json.Members)
    (h : ∀ slot ∈ b.slots, values.get? slot = values'.get? slot) : b.render values choices = b.render values' choices := by
  have hslots : b.slots.mapM (slotText b.path values) = b.slots.mapM (slotText b.path values') :=
    mapM_congr fun slot hslot => by rw [slotText, slotText, h slot hslot]
  rw [render, render, replacements, replacements, hslots]

def slotNames : List String := ["model", "api_key", "api_key_env", "temperature", "use_memory", "provider_name"]

theorem slots_backend : ∀ b ∈ backend, ∀ slot ∈ b.slots, slot ∈ slotNames := by decide

/-- Memory is the only choice, and a variant stands for each of its states. -/
theorem fragments_backend : ∀ b ∈ backend, ∀ e ∈ b.fragments,
    e.2.choice = memoryChoice ∧ (e.2.variants.lookup memoryOn).isSome ∧ (e.2.variants.lookup memoryOff).isSome := by
  decide

theorem backend_suppliedBy (c : Config) (f : Family) :
    ∀ b ∈ backend, b.SuppliedBy (Bundle.values c f) (Bundle.choices c) := by
  intro b hb
  refine ⟨fun slot hslot => ?_, fun e he => ?_⟩
  · have hname := slots_backend b hb slot hslot
    simp only [slotNames, List.mem_cons, List.not_mem_nil, or_false] at hname
    rcases hname with rfl | rfl | rfl | rfl | rfl | rfl <;> exact ⟨_, rfl⟩
  · obtain ⟨hchoice, hon, hoff⟩ := fragments_backend b hb e he
    rw [hchoice]
    cases hm : c.memory with
    | false =>
      obtain ⟨text, ht⟩ := Option.isSome_iff_exists.1 hoff
      exact ⟨memoryOff, text, by rw [Bundle.choices, hm]; rfl, ht⟩
    | true =>
      obtain ⟨text, ht⟩ := Option.isSome_iff_exists.1 hon
      exact ⟨memoryOn, text, by rw [Bundle.choices, hm]; rfl, ht⟩

end Blueprint

namespace Bundle

theorem path_of_fileOf {c : Config} {f : Family} {b : Blueprint} {file : File} (h : fileOf c f b = .ok file) :
    file.path = b.path := by
  unfold fileOf at h
  cases hr : b.render (values c f) (choices c) with
  | error e => rw [hr] at h; cases h
  | ok text => rw [hr] at h; cases h; rfl

/-- **Every configuration fills the blueprints of a backend.** -/
theorem exists_files_backend (c : Config) (f : Family) : ∃ files, Blueprint.backend.mapM (fileOf c f) = .ok files ∧
    files.map File.path = Blueprint.backend.map Blueprint.path := by
  obtain ⟨files, hfiles⟩ := mapM_isOk (f := fileOf c f) Blueprint.backend fun b hb => by
    obtain ⟨text, ht⟩ := Blueprint.render_of_suppliedBy (Blueprint.backend_suppliedBy c f b hb)
    exact ⟨⟨b.path, text⟩, by rw [fileOf, ht]; rfl⟩
  exact ⟨files, hfiles, map_of_mapM_eq_ok (fun _ _ h => path_of_fileOf h) _ files hfiles⟩

/-- **There is a bundle of every workflow**, and its paths are the same for all of them. -/
theorem ofWorkflow_backend (w : Workflow) :
    ∃ b, ofWorkflow Blueprint.backend w = .ok b ∧ b.paths = Blueprint.backendPaths := by
  obtain ⟨files, hfiles, hpaths⟩ := exists_files_backend w.config (Family.ofModel w.config.model)
  refine ⟨_, by rw [ofWorkflow, hfiles]; rfl, ?_⟩
  show (files ++ [workflowFile w]).map (·.path) = _
  rw [List.map_append, hpaths]
  rfl

end Bundle
end FlowBundle
