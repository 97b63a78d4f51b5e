import Testbook.Proofs.Kdl.Line
import Testbook.Proofs.Settings.Words

/-! The file of settings has a line for each setting that is there, and from these lines the same settings are
read. -/

set_option autoImplicit false

namespace Testbook

open Kdl (IsBare Line)

theorem SettingKey.name_isBare (key : SettingKey) : IsBare key.name.toList := by
  cases key <;> decide

theorem OutputFormat.name_isBare (format : OutputFormat) : IsBare format.name.toList := by
  cases format <;> decide

theorem BackendKind.name_isBare (kind : BackendKind) : IsBare kind.name.toList := by
  cases kind <;> decide

theorem Environment.name_isBare (environment : Environment) : IsBare environment.name.toList := by
  cases environment <;> decide

namespace Settings

variable (settings : Settings)

def wordLine (key : SettingKey) {word : String} (bare : IsBare word.toList) : Line where
  name := key.name
  value := .text word
  shown := word.toList
  bare := key.name_isBare
  shows := .word bare

def switchLine (enabled : Bool) : Line where
  name := SettingKey.actionLog.name
  value := .bool enabled
  shown := ("#" ++ boolName enabled).toList
  bare := SettingKey.actionLog.name_isBare
  shows := by cases enabled with
    | true => exact .on
    | false => exact .off

def line? : SettingKey → Option Line
  | .outputFormat => settings.outputFormat.map fun format => wordLine .outputFormat format.name_isBare
  | .backend => settings.backend.map fun kind => wordLine .backend kind.name_isBare
  | .environment =>
    settings.environment.map fun environment => wordLine .environment environment.name_isBare
  | .actionLog => settings.actionLog.map switchLine

def lines : List Line := SettingKey.all.flatMap fun key => (settings.line? key).toList

theorem written_lines : settings.written.toList = settings.lines.flatMap Line.chars := by
  have each (key : SettingKey) :
      ((settings.writtenAt key).elim "" fun value => key.name ++ " " ++ value ++ "\n").toList =
        (settings.line? key).toList.flatMap Line.chars := by
    cases key with
    | outputFormat =>
      cases stands : settings.outputFormat <;> simp [writtenAt, valueAt, line?, stands, wordLine, Line.chars]
    | backend =>
      cases stands : settings.backend <;> simp [writtenAt, valueAt, line?, stands, wordLine, Line.chars]
    | environment =>
      cases stands : settings.environment <;> simp [writtenAt, valueAt, line?, stands, wordLine, Line.chars]
    | actionLog =>
      cases stands : settings.actionLog <;> simp [writtenAt, line?, stands, switchLine, Line.chars]
  rw [written, String.toList_join, List.flatMap_map, lines, List.flatMap_assoc]
  exact congrArg (SettingKey.all.flatMap ·) (funext each)

theorem ofKdl_lines : ofKdl (settings.lines.map Line.node) = settings := by
  obtain ⟨format, kind, environment, enabled⟩ := settings
  cases format <;> cases kind <;> cases environment <;> cases enabled <;>
    simp [lines, SettingKey.all, line?, wordLine, switchLine, Line.node, ofKdl, wordAt?, boolAt?,
      Kdl.firstValue?, Kdl.Node.name, Kdl.Node.entries, SettingKey.name]

/-- Settings are read back from the text that they are written as. -/
theorem ofText?_written : ofText? settings.written = some settings := by
  rw [ofText?, Kdl.ofText?, written_lines, Kdl.ofChars?_lines, Option.map_some, ofKdl_lines]

end Settings

end Testbook
