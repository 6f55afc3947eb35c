import SbsServer.CLib.Files
import SbsServer.Common.CJsonCodec
import SbsServer.Config.Bundle

/-!
# Saving the bundle

`sbs_config_manager_save_bundle` writes the bundle to a file next to `state.json`
and renames it.  It takes every write that does not fail for a whole one.
-/

namespace SbsServer
namespace Config

open CLib SceneGraph

/-- `sbs_config_manager_t` -/
structure ConfigManager where
  statePath : CStr

/-- How the calls that save the bundle turn out. -/
structure SaveAnswers where
  /-- There is memory for the text. -/
  prints : Bool
  opens : Bool
  /-- The number that `write` returns, unless it fails. -/
  written : Option Nat
  syncs : Bool
  renames : Bool

namespace SaveAnswers

/-- A short write is not followed by a rename. -/
def Complete
    (answers : SaveAnswers)
    (bundle : CJson) : Prop :=
  answers.prints = true → answers.opens = true → answers.syncs = true →
    answers.renames = true → ∀ count, answers.written = some count →
      bundle.printUnformatted.bytes.length ≤ count

end SaveAnswers

namespace ConfigManager

/-- The file that is written first. -/
def tmpPath (mgr : ConfigManager) : CStr :=
  mgr.statePath ++ (".tmp" : CStr)

/-- `sbs_config_manager_save_bundle` -/
def saveBundle
    (answers : SaveAnswers)
    (files : Files CStr UInt8) :
    Option ConfigManager → Option CJson → SbsResult × Files CStr UInt8
  | some mgr, some bundle =>
      if !answers.prints then (.io, files)
      else
        let json := bundle.printUnformatted.bytes
        if !answers.opens then (.io, files)
        else
          let opened := files.truncate mgr.tmpPath
          match answers.written with
          | none => (.io, opened.unlink mgr.tmpPath)
          | some count =>
              let written := opened.append mgr.tmpPath (json.take count)
              if !answers.syncs then (.io, written.unlink mgr.tmpPath)
              else if !answers.renames then (.io, written.unlink mgr.tmpPath)
              else (.ok, written.rename mgr.tmpPath mgr.statePath)
  | _, _ => (.inval, files)

/-- The result of `sbs_config_manager_load_bundle`. -/
def loadBundle
    (files : Files CStr UInt8)
    (mgr : ConfigManager) : SbsResult :=
  match files mgr.statePath with
  | none => .notFound
  | some contents =>
      match CJson.parse (CStr.ofBytes contents) with
      | none => .inval
      | some bundle =>
          if migrateBundle bundle ≠ .ok ∨ validateBundle bundle ≠ .ok then .inval else .ok

theorem tmpPath_ne (mgr : ConfigManager) : mgr.statePath ≠ mgr.tmpPath := by
  intro same
  have lengths := congrArg (fun path => path.bytes.length) same
  have longer : mgr.tmpPath.bytes.length = mgr.statePath.bytes.length + 4 := by
    change (mgr.statePath.bytes ++ (CStr.lit ".tmp").bytes).length = _
    rw [List.length_append]
    rfl
  rw [longer] at lengths
  omega

/-- The file holds the whole text of the bundle, and must do so when the call succeeds,
or what it held before. -/
structure SavesWhole
    (answers : SaveAnswers)
    (files : Files CStr UInt8)
    (mgr : ConfigManager)
    (bundle : CJson) : Prop where
  content :
    (saveBundle answers files (some mgr) (some bundle)).2 mgr.statePath =
        some bundle.printUnformatted.bytes ∨
      (saveBundle answers files (some mgr) (some bundle)).2 mgr.statePath =
        files mgr.statePath
  ok : (saveBundle answers files (some mgr) (some bundle)).1 = .ok →
    (saveBundle answers files (some mgr) (some bundle)).2 mgr.statePath =
      some bundle.printUnformatted.bytes

/-- A save succeeds when every call succeeds; otherwise the file is as before. -/
theorem saveBundle_cases
    (answers : SaveAnswers)
    (files : Files CStr UInt8)
    (mgr : ConfigManager)
    (bundle : CJson) :
    (∃ count, answers.written = some count ∧ answers.prints = true ∧ answers.opens = true ∧
        answers.syncs = true ∧ answers.renames = true ∧
        (saveBundle answers files (some mgr) (some bundle)).1 = .ok ∧
        (saveBundle answers files (some mgr) (some bundle)).2 mgr.statePath =
          some (bundle.printUnformatted.bytes.take count)) ∨
      ((answers.written = none ∨ answers.prints = false ∨ answers.opens = false ∨
          answers.syncs = false ∨ answers.renames = false) ∧
        (saveBundle answers files (some mgr) (some bundle)).1 = .io ∧
        (saveBundle answers files (some mgr) (some bundle)).2 mgr.statePath =
          files mgr.statePath) := by
  have apart := mgr.tmpPath_ne
  obtain ⟨prints, opens, written, syncs, renames⟩ := answers
  cases prints with
  | false => exact .inr ⟨by simp, rfl, rfl⟩
  | true =>
      cases opens with
      | false => exact .inr ⟨by simp, rfl, rfl⟩
      | true =>
          cases written with
          | none => exact .inr ⟨by simp, rfl, by simp [saveBundle, apart]⟩
          | some count =>
              cases syncs with
              | false => exact .inr ⟨by simp, rfl, by simp [saveBundle, apart]⟩
              | true =>
                  cases renames with
                  | false => exact .inr ⟨by simp, rfl, by simp [saveBundle, apart]⟩
                  | true =>
                      exact .inl ⟨count, rfl, rfl, rfl, rfl, rfl, rfl, by simp [saveBundle]⟩

/-- Saving is all or nothing unless a short write is renamed over the file. -/
theorem saves_whole
    (answers : SaveAnswers)
    (files : Files CStr UInt8)
    (mgr : ConfigManager)
    (bundle : CJson) :
    SavesWhole answers files mgr bundle ↔ answers.Complete bundle := by
  obtain ⟨count, written, prints, opens, syncs, renames, ok, content⟩ | ⟨fails, io, content⟩ :=
    saveBundle_cases answers files mgr bundle
  · constructor
    · intro whole _ _ _ _ other same
      have equal := whole.ok ok
      rw [content, Option.some.injEq, List.take_eq_self_iff] at equal
      rw [written, Option.some.injEq] at same
      exact same ▸ equal
    · intro complete
      have enough := complete prints opens syncs renames count written
      rw [List.take_of_length_le enough] at content
      exact ⟨.inl content, fun _ => content⟩
  · refine iff_of_true ⟨.inr content, fun ok => ?_⟩ ?_
    · rw [io] at ok
      cases ok
    · intro prints opens syncs renames count written
      simp [prints, opens, syncs, renames, written] at fails

theorem loadBundle_of_savesWhole
    {answers : SaveAnswers}
    {files : Files CStr UInt8}
    {mgr : ConfigManager}
    {bundle : CJson}
    (whole : SavesWhole answers files mgr bundle)
    (ok : (saveBundle answers files (some mgr) (some bundle)).1 = .ok)
    (readsBack : CJson.parse bundle.printUnformatted = some bundle) :
    loadBundle (saveBundle answers files (some mgr) (some bundle)).2 mgr =
      if migrateBundle bundle ≠ .ok ∨ validateBundle bundle ≠ .ok then .inval else .ok := by
  unfold loadBundle
  rw [whole.ok ok]
  dsimp only
  have text : CStr.ofBytes bundle.printUnformatted.bytes = bundle.printUnformatted :=
    CStr.ext (CStr.bytes_ofBytes bundle.printUnformatted.nulFree)
  rw [text, readsBack]

/-- The disk takes one more byte. -/
def fullDisk : SaveAnswers where
  prints := true
  opens := true
  written := some 1
  syncs := true
  renames := true

/-- A bundle without scenes. -/
def emptyBundle : CJson :=
  .object [
    ("schema_version", .number (.finite 1)),
    ("kind", .string "sbs-config"),
    ("state", .object [("scenes", .object []), ("sources", .object [])])]

/-- The state of a server that has saved a bundle. -/
def savedFiles : Files CStr UInt8 :=
  Function.update (fun _ => none) "/var/lib/sbs/state.json"
    (some emptyBundle.printUnformatted.bytes)

/-- When the disk is full, the bundle that was saved is replaced by its first byte. -/
theorem short_write_renamed :
    ¬ ∀ answers files mgr bundle,
      (∀ count, answers.written = some count →
        count ≤ bundle.printUnformatted.bytes.length) →
      SavesWhole answers files mgr bundle := by
  intro saves
  have whole := saves fullDisk savedFiles ⟨"/var/lib/sbs/state.json"⟩ emptyBundle (by
    rintro count same
    cases same
    decide +kernel)
  have lost : (saveBundle fullDisk savedFiles (some ⟨"/var/lib/sbs/state.json"⟩)
      (some emptyBundle)).2 "/var/lib/sbs/state.json" ≠
        some emptyBundle.printUnformatted.bytes := by
    decide +kernel
  exact lost (whole.ok rfl)

end ConfigManager
end Config
end SbsServer
