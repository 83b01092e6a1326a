import TokenLedger.Proofs.Result
import TokenLedger.Proofs.Toml.Keys
import TokenLedger.Settings.Source

/-! # Settings of a document

What a file says about a setting is what its document has under the setting's own key. Whatever else
the document holds makes no difference, not even to the failure of a document that does not fit. A
level of the log that is not supported makes it fail.
-/
namespace TokenLedger

inductive Setting
  | format
  | logLevel
  | failOnReject
  deriving DecidableEq

namespace Setting

def Carrier : Setting → Type
  | .format => Format
  | .logLevel => String
  | .failOnReject => Bool

def key : Setting → String
  | .format => "format"
  | .logLevel => "log_level"
  | .failOnReject => "fail_on_reject"

def place : Setting → Nat
  | .format => 0
  | .logLevel => 1
  | .failOnReject => 2

def read : (k : Setting) → Toml.Value → Except Misfit k.Carrier
  | .format => Format.ofToml
  | .logLevel => Settings.textOfToml
  | .failOnReject => Settings.boolOfToml

theorem mapM_read_some (k : Setting) (v : Toml.Value) :
    (some v).mapM k.read = some <$> k.read v :=
  rfl

def valueIn? (k : Setting) : Toml.Value → Option Toml.Value
  | .table entries => entries.lookup k.key
  | .array items | .tables items => items[k.place]?
  | _ => none

def value? (k : Setting) (entries : List (String × Toml.Value)) : Option Toml.Value :=
  (entries.lookup "defaults").bind k.valueIn?

def all : List Setting := [.format, .logLevel, .failOnReject]

theorem mem_all (k : Setting) : k ∈ all := by cases k <;> decide

theorem key_injective {j k : Setting} (h : j.key = k.key) : j = k := by
  revert h
  cases j <;> cases k <;> decide

end Setting

namespace Settings

def get (s : Settings) : (k : Setting) → k.Carrier
  | .format => s.format
  | .logLevel => s.logLevel
  | .failOnReject => s.failOnReject

namespace Layer

def get (layer : Layer) : (k : Setting) → Option k.Carrier
  | .format => layer.format
  | .logLevel => layer.logLevel
  | .failOnReject => layer.failOnReject

def set (layer : Layer) : (k : Setting) → k.Carrier → Layer
  | .format, x => { layer with format := some x }
  | .logLevel, x => { layer with logLevel := some x }
  | .failOnReject, x => { layer with failOnReject := some x }

theorem get_silent (k : Setting) : silent.get k = none := by cases k <;> rfl

theorem get_set_self (layer : Layer) (k : Setting) (x : k.Carrier) :
    (layer.set k x).get k = some x := by
  cases k <;> rfl

theorem get_set_of_ne (layer : Layer) {j k : Setting} (h : k ≠ j) (x : j.Carrier) :
    (layer.set j x).get k = layer.get k := by
  cases j <;> cases k <;> first | rfl | exact absurd rfl h

theorem addEntries_key (layer : Layer) (k : Setting) (v : Toml.Value)
    (rest : List (String × Toml.Value)) :
    layer.addEntries ((k.key, v) :: rest) =
      (k.read v).bind fun x => (layer.set k x).addEntries rest := by
  cases k <;> rfl

theorem addEntries_other (layer : Layer) {name : String} (h : ∀ k : Setting, k.key ≠ name)
    (v : Toml.Value) (rest : List (String × Toml.Value)) :
    layer.addEntries ((name, v) :: rest) = layer.addEntries rest := by
  rw [addEntries]
  · intro _ heq
    exact h .format (Prod.mk.inj heq).1.symm
  · intro _ heq
    exact h .logLevel (Prod.mk.inj heq).1.symm
  · intro _ heq
    exact h .failOnReject (Prod.mk.inj heq).1.symm

/-- Keys come once, so that no setting is set again by the rest of the table. -/
theorem get_of_addEntries {entries : List (String × Toml.Value)}
    (hn : (entries.map Prod.fst).Nodup) {layer result : Layer}
    (h : layer.addEntries entries = .ok result) (k : Setting) :
    ∃ x, (entries.lookup k.key).mapM k.read = .ok x ∧ result.get k = x.or (layer.get k) := by
  induction entries generalizing layer with
  | nil =>
    obtain rfl := Except.ok.inj h
    exact ⟨none, rfl, rfl⟩
  | cons e rest ih =>
    obtain ⟨name, v⟩ := e
    obtain ⟨hname, hrest⟩ := List.nodup_cons.mp hn
    by_cases hj : ∃ j : Setting, j.key = name
    · obtain ⟨j, rfl⟩ := hj
      rw [addEntries_key] at h
      obtain ⟨x, hx, h⟩ := bind_eq_ok_iff.mp h
      obtain ⟨y, hy, hget⟩ := ih hrest h
      by_cases hk : k = j
      · subst hk
        have hnone : rest.lookup k.key = none := by
          refine List.lookup_eq_none_iff.mpr fun e he => ?_
          have hne : k.key ≠ e.1 := by
            intro heq
            exact hname (List.mem_map.mpr ⟨e, he, heq.symm⟩)
          simpa using hne
        rw [hnone] at hy
        obtain rfl : none = y := Except.ok.inj hy
        refine ⟨some x, ?_, by simpa [get_set_self] using hget⟩
        rw [List.lookup_cons_self, Setting.mapM_read_some, hx]
        rfl
      · have hkey : (k.key == j.key) = false := by
          simpa using fun heq => hk (Setting.key_injective heq)
        refine ⟨y, ?_, by rw [hget, get_set_of_ne layer hk]⟩
        rw [List.lookup_cons, hkey]
        exact hy
    · have hother : ∀ j : Setting, j.key ≠ name := fun j hjn => hj ⟨j, hjn⟩
      rw [addEntries_other layer hother] at h
      obtain ⟨y, hy, hget⟩ := ih hrest h
      refine ⟨y, ?_, hget⟩
      have hkey : (k.key == name) = false := by simpa using hother k
      rw [List.lookup_cons, hkey]
      exact hy

/-- An item is there and fits before what follows is looked at. -/
theorem exists_item {α : Type} {items : List Toml.Value} {place : Nat}
    {read : Toml.Value → Except Misfit α} {next : α → Except Misfit Layer} {layer : Layer}
    (h : (match items[place]? with
      | some v => read v >>= next
      | none => .error (.wrongLength place shape) >>= next) = .ok layer) :
    ∃ x, (items[place]?).mapM read = .ok (some x) ∧ next x = .ok layer := by
  cases hv : items[place]? with
  | none =>
    rw [hv] at h
    cases h
  | some v =>
    rw [hv] at h
    obtain ⟨x, hx, h⟩ := bind_eq_ok_iff.mp h
    exact ⟨x, map_eq_ok_iff.mpr ⟨x, hx, rfl⟩, h⟩

theorem get_of_ofToml_array {items : List Toml.Value} {layer : Layer}
    (h : ofToml (.array items) = .ok layer) (k : Setting) :
    (items[k.place]?).mapM k.read = .ok (layer.get k) := by
  rw [ofToml] at h
  obtain ⟨format, hformat, h⟩ := exists_item h
  obtain ⟨logLevel, hlevel, h⟩ := exists_item h
  obtain ⟨failOnReject, hfail, h⟩ := exists_item h
  obtain rfl := Except.ok.inj h
  cases k with
  | format => exact hformat
  | logLevel => exact hlevel
  | failOnReject => exact hfail

theorem get_of_ofToml {v : Toml.Value} (hd : v.Distinct) {layer : Layer}
    (h : ofToml v = .ok layer) (k : Setting) : (k.valueIn? v).mapM k.read = .ok (layer.get k) := by
  cases hd with
  | table keys =>
    obtain ⟨x, hx, hget⟩ := get_of_addEntries keys h k
    rw [get_silent, Option.or_none] at hget
    rw [hget]
    exact hx
  | array => exact get_of_ofToml_array h k
  | tables => exact get_of_ofToml_array h k
  | date =>
    obtain rfl := Except.ok.inj h
    rw [get_silent]
    rfl
  | string => cases h
  | integer => cases h
  | float => cases h
  | bool => cases h

end Layer

namespace Config

def layer (c : Config) : Layer := c.defaults.getD .silent

theorem get_of_ofEntries {entries : List (String × Toml.Value)}
    (hd : (Toml.Value.table entries).Distinct) {config : Config}
    (h : ofEntries entries = .ok config) (k : Setting) :
    (k.value? entries).mapM k.read = .ok (config.layer.get k) := by
  rw [ofEntries] at h
  rw [Setting.value?]
  cases hv : entries.lookup "defaults" with
  | none =>
    rw [hv] at h
    obtain rfl := Except.ok.inj h
    rw [layer, Option.getD_none, Layer.get_silent]
    rfl
  | some v =>
    have hdv : v.Distinct := by
      obtain ⟨before, after, rfl, _⟩ := List.lookup_eq_some_iff.mp hv
      cases hd with
      | table _ hall => exact hall ("defaults", v) (by simp)
    rw [hv] at h
    obtain ⟨layer, hl, h⟩ := bind_eq_ok_iff.mp h
    obtain rfl := Except.ok.inj h
    exact Layer.get_of_ofToml hdv hl k

theorem parse_of_entries {text : String} {entries : List (String × Toml.Value)}
    (ht : Toml.parse text = some entries) :
    parse text = match ofEntries entries with
      | .error misfit => .error (.misfit misfit)
      | .ok config =>
        match config.layer.logLevel with
        | none => .ok config
        | some name =>
          match Level.validate name with
          | .ok () => .ok config
          | .error lowered => .error (.unknownLevel lowered) := by
  simp only [parse, ht]
  cases ofEntries entries with
  | error misfit => rfl
  | ok config => obtain ⟨_ | layer⟩ := config <;> rfl

theorem parse_eq_ok_iff {text : String} {entries : List (String × Toml.Value)}
    (ht : Toml.parse text = some entries) {config : Config} :
    parse text = .ok config ↔ ofEntries entries = .ok config ∧
      ∀ name, config.layer.logLevel = some name → ∃ level, Level.parse name = .ok level := by
  rw [parse_of_entries ht]
  simp only [← Level.validate_eq_ok_iff]
  cases he : ofEntries entries with
  | error misfit => simp
  | ok c =>
    constructor
    · intro h
      simp only at h
      split at h
      · rename_i hnone
        obtain rfl := Except.ok.inj h
        exact ⟨rfl, fun name hname => by simp [hnone] at hname⟩
      · rename_i name hname
        split at h
        · rename_i hlevel
          obtain rfl := Except.ok.inj h
          refine ⟨rfl, fun other hother => ?_⟩
          rw [hname] at hother
          rw [← Option.some.inj hother, hlevel]
        · cases h
    · rintro ⟨hc, hall⟩
      obtain rfl := Except.ok.inj hc
      simp only
      split
      · rfl
      · rename_i name hname
        rw [hall name hname]

end Config

end Settings

end TokenLedger
