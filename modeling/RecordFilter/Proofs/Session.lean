import Mathlib.Logic.Relation
import RecordFilter.Proofs.Config.Overlay
import RecordFilter.Session

/-!
# `RecordFilter.Proofs.Session`: what a session keeps

`Session.Step` is one operation that succeeds, and `Session.Run` is any number of them. An
operation changes one part of the session and no other: `Step.changes` says which part, and to
what. What a step keeps is read off it, and `invariant_of_run` carries it through a run.

* `version_of_run`: settings of another version are never in use.
* `edits_prefix_of_run`: an edit that was added stays, in its place.
* `available_classify_addEdit`: what classification gives with one edit more.
* `available_of_run_start`: the descriptors that filters can use are those of a classification on
  the way, with the settings, the edits and the fields that the session had then, or there are
  none.
-/

set_option autoImplicit false

namespace RecordFilter

/-- Settings that are read are of the current version. -/
theorem Config.version_of_parse {document : String} {config : Config}
    (h : Config.parse document = .ok config) : config.version = Config.currentVersion := by
  unfold Config.parse at h
  split at h
  · next c hc =>
    cases h
    rw [Config.ofText?, Option.bind_eq_bind, Option.bind_eq_some_iff] at hc
    obtain ⟨entries, -, hentries⟩ := hc
    exact (Config.ofEntries?_iff_parts.mp hentries).2.1
  · cases h

namespace Session

variable {s s' : Session}

/-- One operation that succeeds. -/
inductive Step (s : Session) : Session → Prop
  | configure {document : String} {s' : Session} (h : s.configure document = .ok s') : Step s s'
  | selectTable {schema : Schema} {idOrName : String} {s' : Session}
    (h : s.selectTable? schema idOrName = some s') : Step s s'
  | addEdit (e : DescriptorEdit) : Step s (s.addEdit e)
  | classify : Step s s.classify
  | anchorAt (d : Date) : Step s (s.anchorAt d)

/-- Operations that succeed, one after the other. -/
def Run : Session → Session → Prop :=
  Relation.ReflTransGen Step

/-! ### One operation -/

/-- Settings are taken when the document gives some. -/
theorem configure_eq_ok_iff {document : String} :
    s.configure document = .ok s' ↔
      ∃ config, Config.parse document = .ok config ∧ s' = { s with config := config } := by
  unfold configure
  cases Config.parse document with
  | error fault => simp [Except.map]
  | ok config => simp [Except.map, eq_comm]

/-- Fields are taken when the schema has the table. -/
theorem selectTable?_eq_some_iff {schema : Schema} {idOrName : String} :
    s.selectTable? schema idOrName = some s' ↔
      ∃ table, schema.table? idOrName = some table ∧ s' = { s with fields := table.fields } := by
  rw [selectTable?, Option.map_eq_some_iff]
  simp only [@eq_comm _ s']

/-- An operation changes the settings to some of the current version, or the fields, or the anchor
date, or it adds an edit, or it makes the descriptors of the fields available. The rest of the
session stays. -/
theorem Step.changes (h : Step s s') :
    (∃ config, config.version = Config.currentVersion ∧ s' = { s with config := config }) ∨
      (∃ fields, s' = { s with fields := fields }) ∨
      (∃ e, s' = { s with edits := s.edits ++ [e] }) ∨
      s' = { s with available := s.classifier.classify s.effectiveFields } ∨
      ∃ d, s' = { s with anchor := d } := by
  cases h with
  | configure h =>
    obtain ⟨config, hconfig, rfl⟩ := configure_eq_ok_iff.mp h
    exact .inl ⟨config, Config.version_of_parse hconfig, rfl⟩
  | selectTable h =>
    obtain ⟨table, -, rfl⟩ := selectTable?_eq_some_iff.mp h
    exact .inr (.inl ⟨table.fields, rfl⟩)
  | addEdit e => exact .inr (.inr (.inl ⟨e, rfl⟩))
  | classify => exact .inr (.inr (.inr (.inl rfl)))
  | anchorAt d => exact .inr (.inr (.inr (.inr ⟨d, rfl⟩)))

/-- The descriptors change only when the table is classified. -/
theorem Step.available_eq (h : Step s s') :
    s'.available = s.available ∨ s' = s.classify := by
  obtain ⟨_, -, rfl⟩ | ⟨_, rfl⟩ | ⟨_, rfl⟩ | rfl | ⟨_, rfl⟩ := h.changes
  · exact .inl rfl
  · exact .inl rfl
  · exact .inl rfl
  · exact .inr rfl
  · exact .inl rfl

/-- Settings of the current version stay so. -/
theorem Step.version_eq (h : Step s s') (hs : s.config.version = Config.currentVersion) :
    s'.config.version = Config.currentVersion := by
  obtain ⟨_, hversion, rfl⟩ | ⟨_, rfl⟩ | ⟨_, rfl⟩ | rfl | ⟨_, rfl⟩ := h.changes
  · exact hversion
  all_goals exact hs

/-- The edits stay, with at most one after them. -/
theorem Step.edits_prefix (h : Step s s') : s.edits <+: s'.edits := by
  obtain ⟨_, -, rfl⟩ | ⟨_, rfl⟩ | ⟨e, rfl⟩ | rfl | ⟨_, rfl⟩ := h.changes
  · exact List.prefix_rfl
  · exact List.prefix_rfl
  · exact List.prefix_append s.edits [e]
  · exact List.prefix_rfl
  · exact List.prefix_rfl

/-- The edit that is added last edits what the others leave. -/
theorem available_classify_addEdit (s : Session) (e : DescriptorEdit) :
    (s.addEdit e).classify.available = e.apply s.effectiveFields s.classify.available := by
  simp [classify, classifier, addEdit, effectiveFields, Classifier.classify, List.foldl_append]

/-! ### Runs -/

/-- What every operation keeps, a run keeps. -/
theorem invariant_of_run {P : Session → Prop} (hstep : ∀ ⦃r r' : Session⦄, Step r r' → P r → P r')
    (h : Run s s') (hs : P s) : P s' := by
  induction h with
  | refl => exact hs
  | tail _ hlast ih => exact hstep hlast ih

/-- From the current version of the settings a run leads to the current version. -/
theorem version_of_run (h : Run s s') (hs : s.config.version = Config.currentVersion) :
    s'.config.version = Config.currentVersion :=
  invariant_of_run (fun _ _ hstep => hstep.version_eq) h hs

/-- No run takes an edit back. -/
theorem edits_prefix_of_run (h : Run s s') : s.edits <+: s'.edits :=
  invariant_of_run (P := fun r => s.edits <+: r.edits)
    (fun _ _ hstep hr => hr.trans hstep.edits_prefix) h List.prefix_rfl

/-- After a run the descriptors are those from before it, or those of a classification on the
way. -/
theorem available_of_run (h : Run s s') :
    s'.available = s.available ∨
      ∃ r, Run s r ∧ Run r.classify s' ∧
        s'.available = r.classifier.classify r.effectiveFields := by
  induction h with
  | refl => exact .inl rfl
  | @tail s₁ s₂ hrun hstep ih =>
    obtain heq | rfl := hstep.available_eq
    · -- The step keeps the descriptors, so the classification is the one of the run before it.
      rw [heq]
      refine ih.imp_right ?_
      rintro ⟨r, hr, hrest, havailable⟩
      exact ⟨r, hr, hrest.tail hstep, havailable⟩
    · exact .inr ⟨s₁, hrun, .refl, rfl⟩

/-- A session that was started has settings of the current version. Its filters can use no
descriptors, or those that a classification on the way gave, whatever was done after it. -/
theorem available_of_run_start {anchor : Date} (h : Run (start anchor) s) :
    s.config.version = Config.currentVersion ∧
      (s.available = [] ∨
        ∃ r, Run (start anchor) r ∧ Run r.classify s ∧ r.edits <+: s.edits ∧
          s.available = r.classifier.classify r.effectiveFields) := by
  refine ⟨version_of_run h rfl, (available_of_run h).imp_right ?_⟩
  rintro ⟨r, hr, hrest, havailable⟩
  -- Classification itself leaves the edits, so those after it begin with those before it.
  have hedits : r.classify.edits <+: s.edits := edits_prefix_of_run hrest
  exact ⟨r, hr, hrest, hedits, havailable⟩

end Session

end RecordFilter
