import TokenLedger.Proofs.Command.Outcome
import TokenLedger.Proofs.Json.Member
import TokenLedger.Proofs.Json.Pretty
import TokenLedger.Proofs.Party.Reading

/-! # Public keys and handles

A public key and a handle are read by readers of their own, which agree on every text: where one
finds no bytes the other finds none, for the same reason, and otherwise both read the same bytes.
They differ in what they ask of the number of bytes. The handle of a key is printed in one piece,
which reads back as the handle.
-/
namespace TokenLedger

open Json

theorem Text.trim_eq_nil_iff {s : List Char} :
    Text.trim s = [] ↔ ∀ c ∈ s, Text.isBlank c = true := by
  constructor
  · intro h
    obtain ⟨before, after, hs, hb, ha⟩ := Text.exists_append_trim s
    rw [h, List.append_nil] at hs
    rw [hs]
    exact List.forall_mem_append.mpr ⟨hb, ha⟩
  · intro h
    have hblank : Text.trim (s ++ [] ++ []) = Text.trim [] :=
      Text.trim_append_append h (List.forall_mem_nil _)
    rwa [List.append_nil, List.append_nil] at hblank

theorem Text.utf8_eq_nil_iff {s : List Char} : Text.utf8 s = [] ↔ s = [] := by
  cases s with
  | nil => exact iff_of_true rfl rfl
  | cons c s => simp [Text.utf8, String.utf8EncodeChar_ne_nil]

/-- What is said of a text that is not hexadecimal is never what is said of a missing key. -/
theorem Hex.Fault.message_ne_empty (fault : Hex.Fault) : fault.message ≠ "public key is empty" := by
  have hcapital : ∃ c rest, fault.message.toList = c :: rest ∧ c ≠ 'p' := by
    cases fault with
    | oddLength => exact ⟨'O', "dd number of digits".toList, rfl, by decide⟩
    | badDigit byte position =>
      have hmessage : (Hex.Fault.badDigit byte position).message =
          "Invalid character " ++ String.ofList (Text.quotedChar (Char.ofNat byte.toNat)) ++
            " at position " ++ toString position := rfl
      rw [hmessage, String.toList_append, String.toList_append, String.toList_append]
      exact ⟨'I', _, rfl, by decide⟩
  obtain ⟨c, rest, hc, hne⟩ := hcapital
  intro h
  rw [h] at hc
  exact hne (List.cons.inj hc).1.symm

namespace Party
variable {text text' : String} {key : List UInt8}

theorem trimmedBytes_eq_nil_iff :
    trimmedBytes text = [] ↔ ∀ c ∈ text.toList, Text.isBlank c = true := by
  rw [trimmedBytes, Text.utf8_eq_nil_iff, Text.trim_eq_nil_iff]

/-- A key without bytes is a text without characters, but for blanks. -/
theorem spelled_eq_nil_iff (h : Hex.Spells (trimmedBytes text) key) :
    key = [] ↔ ∀ c ∈ text.toList, Text.isBlank c = true := by
  rw [← trimmedBytes_eq_nil_iff, ← List.length_eq_zero_iff, ← List.length_eq_zero_iff, h.length]
  omega

/-- The texts of the same bytes are those that differ in the case of letters and in blanks. -/
theorem spells_iff_respelled (h : Hex.Spells (trimmedBytes text) key) :
    Hex.Spells (trimmedBytes text') key ↔ Respelled text text' := by
  constructor
  · intro h'
    rw [Respelled, Hex.map_toLower_of_spells h, Hex.map_toLower_of_spells h']
  · intro h'
    exact Hex.decode_eq_ok_iff.mp (h'.decode_iff.mp (Hex.decode_eq_ok_iff.mpr h))

theorem parse_eq_hex_iff {fault : Hex.Fault} :
    parse text = .error (.hex fault) ↔ Hex.decode (trimmedBytes text) = .error fault := by
  rw [parse, ← trimmedBytes]
  cases Hex.decode (trimmedBytes text) with
  | error _ => simp
  | ok bytes =>
    refine iff_of_false ?_ (by simp)
    simp only
    split <;> simp

end Party

section
variable {text text' : String} {key : List UInt8}

theorem partyOfKey_eq_keyNotHex_iff {fault : Hex.Fault} :
    partyOfKey text = .error (.keyNotHex fault) ↔
      Hex.decode (Party.trimmedBytes text) = .error fault := by
  rw [partyOfKey, ← Party.trimmedBytes]
  cases Hex.decode (Party.trimmedBytes text) with
  | error _ => simp
  | ok bytes => cases bytes <;> simp

/-- The bytes of a key decide, however they are spelled. -/
theorem partyOfKey_of_spells (h : Hex.Spells (Party.trimmedBytes text) key) :
    partyOfKey text = if key = [] then .error .keyEmpty else .ok (.ofPublicKey key) := by
  rw [partyOfKey, ← Party.trimmedBytes, Hex.decode_eq_ok_iff.mpr h]
  cases key <;> rfl

/-- A text in which neither reader finds a fault of digits spells the bytes that both read. -/
theorem exists_spells_of_parse (h : ∀ fault, Party.parse text ≠ .error (.hex fault)) :
    ∃ key, Hex.Spells (Party.trimmedBytes text) key := by
  cases hd : Hex.decode (Party.trimmedBytes text) with
  | error fault => exact absurd (Party.parse_eq_hex_iff.mpr hd) (h fault)
  | ok key => exact ⟨key, Hex.decode_eq_ok_iff.mp hd⟩

theorem partyOfKey_eq_keyEmpty_iff :
    partyOfKey text = .error .keyEmpty ↔ ∀ c ∈ text.toList, Text.isBlank c = true := by
  cases hd : Hex.decode (Party.trimmedBytes text) with
  | error fault =>
    rw [partyOfKey_eq_keyNotHex_iff.mpr hd]
    refine iff_of_false (by simp) fun h => ?_
    rw [Party.trimmedBytes_eq_nil_iff.mpr h] at hd
    cases hd
  | ok key =>
    have hs := Hex.decode_eq_ok_iff.mp hd
    rw [← Party.spelled_eq_nil_iff hs, partyOfKey_of_spells hs]
    split
    · rename_i hkey
      simp [hkey]
    · rename_i hkey
      simp [hkey]

end

/-- The message tells the handle: as a text of it, or as an object with the handle for its one
member that matters. -/
def Party.ToldBy (p : Party) (message : String) : Format → Prop
  | .table => Party.parse message = .ok p
  | .json => readText (Node.readMember "party" Party.ofNode) message = .ok p

theorem Party.readMember_pretty (p : Party) :
    readText (Node.readMember "party" Party.ofNode)
      (Value.object [("party", p.toJson)]).pretty = .ok p := by
  have hwhole : (Value.object [("party", p.toJson)]).node.Whole :=
    ⟨rfl, rfl, p.whole_toJson, trivial⟩
  have hwritten := Value.writtenAs_pretty hwhole
  have hsorted : (Value.object [("party", p.toJson)]).sorted = .object [("party", p.toJson)] := rfl
  rw [hsorted] at hwritten
  rw [hwritten.readText_eq]
  exact Node.readMember_of_mem hwhole (by simp) List.mem_cons_self p.ofNode_toJson

theorem runParty_of_ok {publicKey : String} {p : Party} (h : partyOfKey publicKey = .ok p)
    (settings : Settings) : ∃ message, (runParty settings publicKey).printed = [message] ∧
      p.ToldBy message settings.format ∧ (runParty settings publicKey).result = .ok () := by
  rw [runParty, h]
  refine ⟨_, rfl, ?_, rfl⟩
  cases settings.format with
  | table => exact p.parse_display
  | json => exact p.readMember_pretty

theorem runParty_of_error {publicKey : String} {f : Failure} (h : partyOfKey publicKey = .error f)
    (settings : Settings) : (runParty settings publicKey).FailsSilently f := by
  rw [runParty, h]
  exact ⟨rfl, rfl⟩

/-- The reader of keys and that of handles find the same fault in the digits of a text or none, and
where there is none they read the same bytes: a key is refused if there are no bytes, which is so
for texts of blanks, and a handle if there are not 32. The handle of a key depends on its bytes
alone, so neither the case of letters nor the blanks around them make a difference. It is printed
in one message that tells it, in either format, and for a text that is no key nothing is printed. -/
theorem keys_and_handles_agree :
    (∀ text fault, Party.parse text = .error (.hex fault) ↔
      partyOfKey text = .error (.keyNotHex fault)) ∧
    (∀ fault : Hex.Fault,
      (Party.Fault.hex fault).message = "Invalid hex: " ++ fault.message ∧
      (Failure.keyNotHex fault).message = "Invalid public key: " ++ fault.message ∧
      Failure.keyEmpty.message = "Invalid public key: public key is empty" ∧
      fault.message ≠ "public key is empty") ∧
    (∀ text, (∀ fault, Party.parse text ≠ .error (.hex fault)) →
      ∃ key, Hex.Spells (Party.trimmedBytes text) key ∧
        (key = [] ↔ ∀ c ∈ text.toList, Text.isBlank c = true) ∧
        partyOfKey text = (if key = [] then .error .keyEmpty else .ok (.ofPublicKey key)) ∧
        Party.parse text =
          if size : key.length = 32 then .ok ⟨key, size⟩ else .error (.size key.length)) ∧
    (∀ text, partyOfKey text = .error .keyEmpty ↔
      ∀ c ∈ text.toList, Text.isBlank c = true) ∧
    (∀ text text' key, Hex.Spells (Party.trimmedBytes text) key →
      (Hex.Spells (Party.trimmedBytes text') key ↔
        List.Forall₂ Text.SameLetter (Text.trim text.toList) (Text.trim text'.toList)) ∧
      (Hex.Spells (Party.trimmedBytes text') key → partyOfKey text = partyOfKey text')) ∧
    ∀ (files : Files) (settings : Settings) (text : String),
      (∀ p, partyOfKey text = .ok p →
        ∃ message, ((Command.party text).run files settings).printed = [message] ∧
          p.ToldBy message settings.format ∧
          ((Command.party text).run files settings).result = .ok ()) ∧
      ∀ f, partyOfKey text = .error f →
        ((Command.party text).run files settings).FailsSilently f := by
  refine ⟨fun text fault => ?faults, fun fault => ⟨rfl, rfl, rfl, fault.message_ne_empty⟩,
    fun text h => ?bytes, fun _ => partyOfKey_eq_keyEmpty_iff,
    fun text text' key h => ⟨?alike, ?same⟩, fun _ settings _ =>
      ⟨fun _ h => runParty_of_ok h settings, fun _ h => runParty_of_error h settings⟩⟩
  case faults => rw [Party.parse_eq_hex_iff, partyOfKey_eq_keyNotHex_iff]
  case bytes =>
    obtain ⟨key, hkey⟩ := exists_spells_of_parse h
    exact ⟨key, hkey, Party.spelled_eq_nil_iff hkey, partyOfKey_of_spells hkey,
      Party.parse_of_spells hkey⟩
  case alike =>
    rw [Party.spells_iff_respelled h, Party.Respelled, Text.map_toLower_eq_iff_forall₂]
  case same =>
    intro h'
    rw [partyOfKey_of_spells h, partyOfKey_of_spells h']

def shortKey : String := "\u2003DEAD\u0085"

theorem keys_and_handles_agree_short :
    partyOfKey shortKey = .ok (.ofPublicKey [0xDE, 0xAD]) ∧
      partyOfKey shortKey = partyOfKey "dEaD" ∧
      Party.parse shortKey = .error (.size 2) ∧
      partyOfKey "\t\u00A0" = .error .keyEmpty ∧
      partyOfKey "dég" = .error (.keyNotHex (.badDigit 0xC3 1)) ∧
      (∃ message, ((Command.party shortKey).run (.ofList []) ⟨.json, "warn", true⟩).printed =
          [message] ∧
        readText (Node.readMember "party" Party.ofNode) message =
          .ok (.ofPublicKey [0xDE, 0xAD])) ∧
      ((Command.party "dég").run (.ofList []) .builtIn).FailsSilently
        (.keyNotHex (.badDigit 0xC3 1)) := by
  obtain ⟨hfaults, _, hbytes, hempty, hsame, hrun⟩ := keys_and_handles_agree
  have hshort : Hex.decode (Party.trimmedBytes shortKey) = .ok [0xDE, 0xAD] := by decide +kernel
  have hmixed : Hex.Spells (Party.trimmedBytes "dEaD") [0xDE, 0xAD] :=
    Hex.decode_eq_ok_iff.mp (by decide +kernel)
  have hsize : Party.parse shortKey = .error (.size 2) := by decide +kernel
  have hbad : partyOfKey "dég" = .error (.keyNotHex (.badDigit 0xC3 1)) :=
    (hfaults _ _).mp (by decide +kernel)
  obtain ⟨key, hspelled, _, hderived, _⟩ := hbytes shortKey fun fault h => by
    rw [hsize] at h
    cases h
  have hkey := hshort.symm.trans (Hex.decode_eq_ok_iff.mpr hspelled)
  obtain rfl : [0xDE, 0xAD] = key := Except.ok.inj hkey
  obtain ⟨hprinted, _⟩ := hrun (.ofList []) ⟨.json, "warn", true⟩ shortKey
  obtain ⟨message, hmessage, htold, _⟩ := hprinted _ hderived
  have hblanks : "\t\u00A0".toList.all Text.isBlank = true := by decide +kernel
  exact ⟨hderived, (hsame _ _ _ hspelled).2 hmixed, hsize,
    (hempty _).mpr (List.all_eq_true.mp hblanks), hbad, ⟨message, hmessage, htold⟩,
    (hrun (.ofList []) .builtIn "dég").2 _ hbad⟩

end TokenLedger
