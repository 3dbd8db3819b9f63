import Codespaces.Proofs.JsonText
import Codespaces.Proofs.Utf8Text
import Codespaces.Relay.Stream

/-!
# The framing of forwarded streams

A document is written without control characters, whatever its strings hold, and so without a
newline. Therefore the preamble of a stream is its first line, names the session, the token and the
port as they are, and leaves the bytes of the client as they are (`stream_framed`).
-/

namespace Codespaces

-- ---------------------------------------------------------------------------
-- What is written
-- ---------------------------------------------------------------------------

namespace Json

/-- No control character is among them. -/
def Uncontrolled (s : List Char) : Prop := ∀ c ∈ s, 0x20 ≤ c.toNat

-- the characters of the list alone are tried: they are a finite type, and could all be
instance (s : List Char) : Decidable (Uncontrolled s) :=
  List.decidableBAll (fun c : Char => 0x20 ≤ c.toNat) s

section
variable {s t : List Char} {c : Char}

theorem Uncontrolled.append (hs : Uncontrolled s) (ht : Uncontrolled t) : Uncontrolled (s ++ t) :=
  List.forall_mem_append.mpr ⟨hs, ht⟩

theorem Uncontrolled.cons (hc : 0x20 ≤ c.toNat) (hs : Uncontrolled s) : Uncontrolled (c :: s) :=
  List.forall_mem_cons.mpr ⟨hc, hs⟩

end

theorem hexDigit_uncontrolled : ∀ n < 16, 0x20 ≤ (Text.hexDigit n).toNat := by
  decide

theorem writtenChar_uncontrolled (c : Char) : Uncontrolled (writtenChar c) := by
  unfold writtenChar
  split
  case h_8 =>
    unfold Uncontrolled
    split
    · have hcode : c.toNat < 0x20 := by assumption
      have hhigh := hexDigit_uncontrolled (c.toNat / 16) (by omega)
      have hlow := hexDigit_uncontrolled (c.toNat % 16) (by omega)
      simp [hhigh, hlow]
    · simpa using Nat.le_of_not_lt ‹_›
  all_goals decide

theorem writtenString_uncontrolled (s : String) : Uncontrolled (writtenString s) := by
  have hchars : Uncontrolled (s.toList.flatMap writtenChar) := by
    intro d hd
    obtain ⟨c, -, hc⟩ := List.mem_flatMap.mp hd
    exact writtenChar_uncontrolled c d hc
  exact .append (.cons (by decide) hchars) (by decide)

theorem number_uncontrolled {s : List Char} (h : isNumber s = true) : Uncontrolled s := by
  have hchar (c : Char) (hc : isNumberChar c = true) : 0x20 ≤ c.toNat := by
    refine Nat.le_of_not_lt fun hlow => ?_
    have hcontrols : ∀ n < 32, isNumberChar (Char.ofNat n) = false := by decide
    have hcontrol := hcontrols c.toNat hlow
    rw [Char.ofNat_toNat, hc] at hcontrol
    cases hcontrol
  obtain ⟨c, cs, rfl, hc, hcs⟩ := isNumber_cons h
  refine .cons (hchar c ?_) fun d hd => hchar d (hcs d hd)
  rcases Bool.or_eq_true_iff.mp hc with hdigit | hsign
  · exact isNumberChar_of_digit hdigit
  · rw [of_decide_eq_true hsign]
    decide

theorem writtenContent_uncontrolled (content : Option String) :
    Uncontrolled (writtenContent content) := by
  cases content with
  | some s => exact writtenString_uncontrolled s
  | none =>
    have hhalf : Uncontrolled ['"', '\\', 'u', 'd', '8', '0', '0', '"'] := by decide
    exact hhalf

mutual

theorem written_uncontrolled : ∀ {value : Json}, value.WellFormed → Uncontrolled (written value)
  | .null, _ => by
    rw [written]
    decide
  | .bool true, _ => by
    rw [written]
    decide
  | .bool false, _ => by
    rw [written]
    decide
  | .number literal, hvalue => by
    rw [written]
    exact number_uncontrolled hvalue
  | .string content, _ => by
    rw [written]
    exact writtenContent_uncontrolled content
  | .array [], _ => by
    rw [written]
    decide
  | .array (item :: items), hvalue => by
    rw [written]
    exact .append (.cons (by decide) (written_uncontrolled hvalue.1))
      (writtenItems_uncontrolled hvalue.2)
  | .object [], _ => by
    rw [written]
    decide
  | .object ((key, value) :: members), hvalue => by
    rw [written]
    exact .append (.append (.cons (by decide) (writtenContent_uncontrolled key))
      (.cons (by decide) (written_uncontrolled hvalue.1))) (writtenMembers_uncontrolled hvalue.2)

theorem writtenItems_uncontrolled : ∀ {items : List Json}, WellFormedItems items →
    Uncontrolled (writtenItems items)
  | [], _ => by
    rw [writtenItems]
    decide
  | item :: items, hitems => by
    rw [writtenItems]
    exact .append (.cons (by decide) (written_uncontrolled hitems.1))
      (writtenItems_uncontrolled hitems.2)

theorem writtenMembers_uncontrolled : ∀ {members : List (Option String × Json)},
    WellFormedMembers members → Uncontrolled (writtenMembers members)
  | [], _ => by
    rw [writtenMembers]
    decide
  | (key, value) :: members, hmembers => by
    rw [writtenMembers]
    refine .append (.append (.cons (by decide) (writtenContent_uncontrolled key)) ?_)
      (writtenMembers_uncontrolled hmembers.2)
    exact .cons (by decide) (written_uncontrolled hmembers.1)

end

-- ---------------------------------------------------------------------------
-- Documents in bytes
-- ---------------------------------------------------------------------------

/-- Where every byte belongs to a character, nothing has to be spelled otherwise. -/
theorem spellIllFormed_wellFormed (escaped : Bool) (s : List Char) :
    spellIllFormed escaped (s.map some) = s := by
  induction s generalizing escaped with
  | nil => rfl
  | cons c s ih => rw [List.map_cons, spellIllFormed, ih]

theorem readBytes?_utf8 (s : String) : readBytes? (Text.utf8 s) = read? s := by
  rw [readBytes?, Text.readUtf8_utf8, spellIllFormed_wellFormed, String.ofList_toList]

end Json

-- ---------------------------------------------------------------------------
-- Preambles
-- ---------------------------------------------------------------------------

namespace Relay

open Json

namespace Preamble

theorem toJson_wellFormed (p : Preamble) : p.toJson.WellFormed := by
  refine wellFormed_record.mpr ?_
  simp [text, ofNat, WellFormed, isNumber_decimal]

theorem decode_toJson (p : Preamble) : decode p.toJson = some p := by
  rw [decode, toJson, select_record (by simp)]
  simp [List.lookup_cons, required]

/-- The document of the preamble, as it is sent. -/
def document (p : Preamble) : List UInt8 := Text.utf8 p.toJson.write

theorem bytes_eq (p : Preamble) : p.bytes = p.document ++ [newline] := by
  rw [bytes, line, Text.utf8, String.toList_append, List.flatMap_append]
  rfl

theorem newline_not_mem_document (p : Preamble) : newline ∉ p.document := by
  intro h
  have hchar : '\n' ∈ written p.toJson := by
    simpa [write] using Text.newline_mem_utf8.mp h
  have hcontrol := written_uncontrolled p.toJson_wellFormed '\n' hchar
  exact absurd hcontrol (by decide)

theorem document_line (p : Preamble) : ∀ b ∈ p.document, decide (b ≠ newline) = true :=
  fun _ hb => decide_eq_true (ne_of_mem_of_not_mem hb p.newline_not_mem_document)

theorem readBytes?_document (p : Preamble) : readBytes? p.document = some p.toJson := by
  rw [document, readBytes?_utf8, read?_write p.toJson_wellFormed]

theorem decodeBytes?_document (p : Preamble) : decodeBytes? decode p.document = some p := by
  rw [decodeBytes?, readBytes?_document]
  exact p.decode_toJson

end Preamble

-- ---------------------------------------------------------------------------
-- Streams
-- ---------------------------------------------------------------------------

section
variable (p : Preamble) (payload : List UInt8)

theorem streamBytes_eq : streamBytes p payload = p.document ++ newline :: payload := by
  rw [streamBytes, p.bytes_eq, List.append_assoc, List.singleton_append]

theorem firstLine_eq : (streamBytes p payload).takeWhile (· ≠ newline) = p.document := by
  rw [streamBytes_eq, List.takeWhile_append_of_pos p.document_line]
  simp

theorem afterLine_eq : (streamBytes p payload).dropWhile (· ≠ newline) = newline :: payload := by
  rw [streamBytes_eq, List.dropWhile_append_of_pos p.document_line]
  simp

theorem readStream?_streamBytes : readStream? (streamBytes p payload) = some (p, payload) := by
  simp only [readStream?, firstLine_eq, afterLine_eq, Preamble.decodeBytes?_document]
  rfl

end

/-- The preamble of a stream is its first line, and the only one in it. The line is a document that
names the session, the token and the port as they are, and behind it come the bytes of the client as
they are. So streams of different sessions, tokens, ports or clients are different. -/
theorem stream_framed (relay : Relay) (port : UInt16) (payload : List UInt8) :
    let sent := (relay.preamble port).bytes
    let stream := streamBytes (relay.preamble port) payload
    stream = sent ++ payload ∧
    sent.count newline = 1 ∧ sent.getLast? = some newline ∧
    stream.takeWhile (· ≠ newline) ++ [newline] = sent ∧
    stream.dropWhile (· ≠ newline) = newline :: payload ∧
    readBytes? (stream.takeWhile (· ≠ newline)) = some (.record
      [("session_id", .text relay.sessionId), ("stream_token", .text relay.streamToken),
        ("port", .ofNat port.toNat)]) ∧
    readStream? stream = some (⟨relay.sessionId, relay.streamToken, port⟩, payload) ∧
    ∀ (relay' : Relay) (port' : UInt16) (payload' : List UInt8),
      streamBytes (relay'.preamble port') payload' = stream ↔
        relay'.sessionId = relay.sessionId ∧ relay'.streamToken = relay.streamToken ∧
          port' = port ∧ payload' = payload := by
  intro sent stream
  have hsent : sent = (relay.preamble port).document ++ [newline] := Preamble.bytes_eq _
  have hnone := (relay.preamble port).newline_not_mem_document
  refine ⟨rfl, ?_, ?_, ?_, afterLine_eq _ _, ?_, readStream?_streamBytes _ _, ?_⟩
  · rw [hsent, List.count_append, List.count_eq_zero.mpr hnone]
    rfl
  · rw [hsent, List.getLast?_concat]
  · rw [firstLine_eq, hsent]
  · rw [firstLine_eq, Preamble.readBytes?_document]
    rfl
  · intro relay' port' payload'
    constructor
    · intro h
      have hread := readStream?_streamBytes (relay'.preamble port') payload'
      rw [h, readStream?_streamBytes] at hread
      simp only [preamble, Option.some.injEq, Prod.mk.injEq, Preamble.mk.injEq] at hread
      obtain ⟨⟨hid, htoken, hport⟩, hpayload⟩ := hread
      exact ⟨hid.symm, htoken.symm, hport.symm, hpayload.symm⟩
    · rintro ⟨hid, htoken, rfl, rfl⟩
      simp only [preamble, hid, htoken, stream]

end Relay

end Codespaces
