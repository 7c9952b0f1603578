import GuessClient.CommandLine
import GuessClient.Proofs.Json.Integers
import GuessClient.Proofs.Json.Syntax

/-!
Saved settings come back. The file that is written for some settings is read as the same settings,
whatever characters are in them, so that what was once chosen on the command line and saved is there
the next time without being chosen again.
-/

namespace GuessClient

open GuessClient.Json GuessClient.CommandLine

def Config.tree (c : Config) : Tree :=
  .object [(some "server_url", .string (some c.server)),
    (some "request_timeout_secs", .number (some (.integer c.timeout.toNat))),
    (some "log_filter", .string (some c.logFilter))]

theorem label_spells {tokens : List Token} {rest : List Char} (name : String)
    (later : Spells tokens (rest.map some)) :
    Spells (.string (some name) :: .colon :: tokens) ((Config.label name ++ rest).map some) := by
  have blank : Blank ([' '].map some) := by simp [Blank, isBlank]
  have colon : Spells (.colon :: tokens) (([':'] ++ ([' '] ++ rest)).map some) :=
    token_spells .colon (blank_spells blank later)
  have field := blank_spells (newLine_blank 1) (token_spells (quoted_spelled name) colon)
  simpa [Config.label] using field

theorem settings_written (c : Config) : c.tree.Written (.ofText c.text) := by
  have nothing : Spells [] ([].map some) := .nil (by simp [Blank])
  have closing : Spells [.rightBrace] ((newLine 0 ++ (['}'] ++ [])).map some) :=
    blank_spells (newLine_blank 0) (token_spells .rightBrace nothing)
  have logFilter := label_spells "log_filter" (token_spells (quoted_spelled c.logFilter) closing)
  have third := @token_spells .comma _ [','] _ .comma logFilter
  have digits := (natural_spelled_iff c.timeout.toNat _).mpr ⟨c.timeout.toNat_lt, rfl⟩
  have timeout := label_spells "request_timeout_secs" (token_spells digits third)
  have second := @token_spells .comma _ [','] _ .comma timeout
  have server := label_spells "server_url" (token_spells (quoted_spelled c.server) second)
  have all := @token_spells .leftBrace _ ['{'] _ .leftBrace server
  have text : c.text.toList = ['{'] ++ (Config.label "server_url" ++ (quoted c.server ++ ([','] ++
      (Config.label "request_timeout_secs" ++ (Nat.toDigits 10 c.timeout.toNat ++ ([','] ++
        (Config.label "log_filter" ++ (quoted c.logFilter ++
          (newLine 0 ++ (['}'] ++ [])))))))))) := by
    simp [Config.text]
  rw [Source.ofText, text]
  exact all

theorem settings_ofTree (c : Config) : Config.ofTree? c.tree = some c := by
  have timeout : Tree.count? (.number (some (.integer c.timeout.toNat))) = some c.timeout := by
    simp [Tree.count?]
  have found : fields? ["server_url", "request_timeout_secs", "log_filter"] c.tree =
      some [some (.string (some c.server)), some (.number (some (.integer c.timeout.toNat))),
        some (.string (some c.logFilter))] := rfl
  simp [Config.ofTree?, found, Json.optional, Tree.string?, timeout]

theorem ofBytes_toUTF8 (text : String) : Source.ofBytes text.toUTF8 = .ofText text := by
  have read : String.fromUTF8? text.toUTF8 = some text := by
    rw [String.fromUTF8?, String.toUTF8_eq_toByteArray, dif_pos text.isValidUTF8]
    rfl
  rw [Source.ofBytes, read]

theorem load_saved (c : Config) : Config.load (some c.text.toUTF8) = c := by
  have read : tree? (.ofText c.text) = some c.tree := tree_eq_some_iff.mpr (settings_written c)
  rw [Config.load, Option.bind_some, ofBytes_toUTF8, read, Option.bind_some, settings_ofTree]
  rfl

/-- Settings are the same after they were saved and loaded, and a command line that says nothing
about them leaves them as the one before it had made them. -/
theorem saved_settings_return :
    (∀ c : Config, Config.load (some c.text.toUTF8) = c) ∧
    ∀ (file : Option ByteArray) (choices later : Choices), later.server = none →
      later.timeout = none →
      later.over (Config.load (some (choices.over (Config.load file)).text.toUTF8)) =
        choices.over (Config.load file) := by
  refine ⟨load_saved, ?_⟩
  intro file choices later server timeout
  rw [load_saved, Choices.over, server, timeout]
  rfl

theorem saved_settings_return_escaped :
    Choices.over { result := some "s1" } (Config.load (some
      (Choices.over { server := some "\"\\\x01" } (Config.load none)).text.toUTF8)) =
      { server := "\"\\\x01" } :=
  saved_settings_return.2 none { server := some "\"\\\x01" } { result := some "s1" } rfl rfl

end GuessClient
