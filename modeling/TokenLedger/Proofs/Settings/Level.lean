import TokenLedger.Command.Failure
import TokenLedger.Proofs.Settings.Source
import TokenLedger.Proofs.Text.Lowered
import TokenLedger.Proofs.Toml.Same

/-! # Levels by their names

A text names a level exactly if it is the name letter for letter, each letter small or capital. The
comparison is made in the lower case of Unicode, but none of the names has a letter that a character
beyond ASCII could turn into. A file is refused for its level exactly if the level is refused alone.
-/
namespace TokenLedger

namespace Level

/-- The text is the name of the level, each of its letters small or capital. -/
def FitsName (l : Level) (text : String) : Prop :=
  List.Forall₂ Text.SameLetter text.toList l.name.toList

section
variable {l : Level} {text : String}

theorem parse_eq_ok_iff_lowered :
    parse text = .ok l ↔ Text.lowered text.toList = l.name.toList := by
  have hname : ∀ m : Level,
      decide (m.name = String.ofList (Text.lowered text.toList)) = true ↔
        Text.lowered text.toList = m.name.toList := by
    intro m
    rw [decide_eq_true_eq, ← String.toList_inj, String.toList_ofList, eq_comm]
  rw [parse]
  cases hfind : all.find? fun m => m.name = String.ofList (Text.lowered text.toList) with
  | none =>
    refine iff_of_false (by simp) fun h => ?_
    exact List.find?_eq_none.mp hfind l (mem_all l) ((hname l).mpr h)
  | some m =>
    have hfound := List.find?_some hfind
    have hm := (hname m).mp hfound
    rw [hm, String.toList_inj]
    constructor
    · intro h
      rw [Except.ok.inj h]
    · intro h
      rw [name_injective h]

theorem parse_eq_error {lowered : String} (h : parse text = .error lowered) :
    lowered = String.ofList (Text.lowered text.toList) := by
  rw [parse] at h
  split at h
  · cases h
  · exact (Except.error.inj h).symm

/-- The names are of small letters, and none of them is the `k` that the Kelvin sign becomes. -/
theorem mem_name {d : Char} (h : d ∈ l.name.toList) :
    97 ≤ d.toNat ∧ d.toNat ≤ 122 ∧ ¬ Text.IsResidue d := by
  have key : (l.name.toList.all fun d => 97 ≤ d.toNat && d.toNat ≤ 122 && d != 'k') = true := by
    cases l <;> decide
  have hd := List.all_eq_true.mp key d h
  simp only [Bool.and_eq_true, decide_eq_true_eq, bne_iff_ne] at hd
  obtain ⟨⟨hlow, hhigh⟩, hk⟩ := hd
  refine ⟨hlow, hhigh, ?_⟩
  rintro (hbeyond | rfl)
  · omega
  · exact hk rfl

theorem map_toLower_name (l : Level) : l.name.toList.map Char.toLower = l.name.toList := by
  cases l <;> decide

theorem fitsName_iff : l.FitsName text ↔ text.toList.map Char.toLower = l.name.toList := by
  rw [FitsName, ← Text.map_toLower_eq_iff_forall₂, map_toLower_name]

/-- Lower-casing beyond ASCII makes no text a name that is not one in ASCII. -/
theorem parse_eq_ok_iff_fitsName : parse text = .ok l ↔ l.FitsName text := by
  rw [parse_eq_ok_iff_lowered, fitsName_iff]
  exact Text.lowered_eq_iff fun _ hd => (mem_name hd).2.2

theorem FitsName.unique {m : Level} (hl : l.FitsName text) (hm : m.FitsName text) : l = m := by
  have hl' := fitsName_iff.mp hl
  have hm' := fitsName_iff.mp hm
  exact name_injective (String.toList_inj.mp (hl'.symm.trans hm'))

/-- A text that names a level has nothing but letters of ASCII, and so no blanks. -/
theorem FitsName.letters (h : l.FitsName text) {c : Char} (hc : c ∈ text.toList) :
    c.toNat < 0x80 ∧ Text.isBlank c = false := by
  have hmem : c.toLower ∈ l.name.toList := fitsName_iff.mp h ▸ List.mem_map_of_mem hc
  obtain ⟨hlow, hhigh, _⟩ := mem_name hmem
  rw [Text.toNat_toLower] at hlow hhigh
  have hrange : 65 ≤ c.toNat ∧ c.toNat ≤ 122 := by
    split at hlow <;> split at hhigh <;> omega
  refine ⟨by omega, ?_⟩
  simp only [Text.isBlank, Bool.or_eq_false_iff, Bool.and_eq_false_iff, decide_eq_false_iff_not,
    beq_eq_false_iff_ne]
  omega

end

end Level

namespace Settings.Config
variable {document name : String} {entries : List (String × Toml.Value)} {config : Config}

theorem logLevel_of_value? (ht : Toml.parse document = some entries)
    (hv : Setting.logLevel.value? entries = some (.string name))
    (hc : ofEntries entries = .ok config) : config.layer.logLevel = some name := by
  have hread := get_of_ofEntries (Toml.distinct_parse ht) hc .logLevel
  rw [hv] at hread
  exact (Except.ok.inj hread).symm

/-- All that a document which fits is still refused for is its level. -/
theorem parse_of_level (ht : Toml.parse document = some entries)
    (hv : Setting.logLevel.value? entries = some (.string name))
    (hc : ofEntries entries = .ok config) :
    parse document = ((Level.validate name).mapError .unknownLevel).map fun () => config := by
  rw [parse_of_entries ht, hc]
  simp only [logLevel_of_value? ht hv hc]
  cases Level.validate name <;> rfl

end Settings.Config

open Settings

/-- A text names a level exactly if it is its name but for the case of letters of ASCII, so that no
text with a character beyond ASCII or with a blank names one. Whoever asks for a level accepts the
same texts: the reader of levels, the check that forgets which level it is, and the reader of files,
for a document that fits otherwise. A refusal quotes the text in lower case. -/
theorem levels_recognised :
    [Level.trace, .debug, .info, .warn, .error].map Level.name =
      ["trace", "debug", "info", "warn", "error"] ∧
    (∀ text l, Level.parse text = .ok l ↔ Level.FitsName l text) ∧
    (∀ text l m, Level.FitsName l text → Level.FitsName m text → l = m) ∧
    (∀ text, (∃ c ∈ text.toList, 0x80 ≤ c.toNat ∨ Text.isBlank c = true) →
      ∀ l, Level.parse text ≠ .ok l) ∧
    (∀ text, (Level.validate text = .ok () ↔ ∃ l, Level.parse text = .ok l) ∧
      ∀ lowered, Level.validate text = .error lowered ↔ Level.parse text = .error lowered) ∧
    (∀ document entries name config, Toml.parse document = some entries →
      Setting.logLevel.value? entries = some (.string name) →
      Config.ofEntries entries = .ok config →
        (Config.parse document = .ok config ↔ ∃ l, Level.parse name = .ok l) ∧
        ∀ fault, Config.parse document = .error fault ↔
          ∃ lowered, Level.parse name = .error lowered ∧ fault = .unknownLevel lowered) ∧
    ∀ text lowered, Level.parse text = .error lowered →
      (Failure.ofConfigFault (.unknownLevel lowered)).message =
        "Configuration error: Unknown log level: '" ++ String.ofList (Text.lowered text.toList) ++
          "'. Supported: trace, debug, info, warn, error" := by
  refine ⟨rfl, fun _ _ => Level.parse_eq_ok_iff_fitsName, fun _ _ _ => Level.FitsName.unique,
    ?letters, fun _ => ⟨Level.validate_eq_ok_iff, fun _ => Level.validate_eq_error_iff⟩, ?file,
    ?quoted⟩
  case letters =>
    rintro text ⟨c, hc, hother⟩ l h
    obtain ⟨hascii, hblank⟩ := (Level.parse_eq_ok_iff_fitsName.mp h).letters hc
    obtain hbeyond | hother := hother
    · omega
    · rw [hblank] at hother
      cases hother
  case file =>
    intro document entries name config ht hv hc
    rw [Config.parse_of_level ht hv hc]
    simp only [← Level.validate_eq_ok_iff, ← Level.validate_eq_error_iff]
    cases Level.validate name with
    | ok _ => simp [Except.mapError, Except.map]
    | error lowered => simp [Except.mapError, Except.map, eq_comm]
  case quoted =>
    intro text lowered h
    rw [Level.parse_eq_error h]
    rfl

def dottedText : String := "[defaults]\nlog_level = \"İNFO\"\n"

/-- The case of the letters makes no difference, a blank does. A letter that only looks like one of
ASCII is quoted with the mark that it gets in lower case. -/
theorem levels_recognised_dotted :
    Level.parse "wArN" = .ok .warn ∧
      (∀ l, Level.parse "warn\n" ≠ .ok l) ∧
      (∀ l, Level.parse "İNFO" ≠ .ok l) ∧
      Config.parse dottedText = .error (.unknownLevel "i\u0307nfo") ∧
      (Failure.ofConfigFault (.unknownLevel "i\u0307nfo")).message =
        "Configuration error: Unknown log level: 'i\u0307nfo'. " ++
          "Supported: trace, debug, info, warn, error" := by
  obtain ⟨_, hread, _, hletters, _, hfile, hquoted⟩ := levels_recognised
  have hwarn : Level.FitsName .warn "wArN" := Level.fitsName_iff.mpr (by decide)
  have hdotted : Level.parse "İNFO" = .error "i\u0307nfo" := by decide +kernel
  have htoml : Toml.parse dottedText =
      some [("defaults", .table [("log_level", .string "İNFO")])] :=
    Toml.parse_of_same (by decide +kernel)
  obtain ⟨_, hfault⟩ := hfile dottedText _ "İNFO" ⟨some ⟨none, some "İNFO", none⟩⟩ htoml rfl rfl
  exact ⟨(hread _ _).mpr hwarn, hletters _ ⟨'\n', by decide, .inr (by decide)⟩,
    hletters _ ⟨'İ', by decide, .inl (by decide)⟩, (hfault _).mpr ⟨_, hdotted, rfl⟩,
    (hquoted _ _ hdotted).trans (by decide +kernel)⟩

end TokenLedger
