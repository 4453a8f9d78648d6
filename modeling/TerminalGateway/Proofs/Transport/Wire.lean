import TerminalGateway.Proofs.Frame.Wire
import TerminalGateway.Proofs.Text.Encoding
import TerminalGateway.Transport.Socket
import Mathlib.Data.List.Forall2

/-!
# What is written on a socket is read from it

A writer puts its delimiter behind the bytes of each text.  However these bytes are cut into reads,
the reader's splitter finds the frames again, as long as each fits with its delimiter, and the
encoding reads each frame as the text it was written for.

Main definitions:

- `Socket.CarriedAs`: a text that goes over a socket, and its bytes.

Main results:

- Theorem `Socket.follow_bytes`: a reader reports what the reads bring, and nothing else.
- Theorem `Socket.texts_of_reads`: texts come back from what was written for them.
-/

namespace TerminalGateway.Transport.Socket

open TerminalGateway.Frame (Splitter Delimited wire)

/-! ## Texts on a socket -/

/-- A text that can go over a socket as the given bytes to a reader that keeps so many. -/
structure CarriedAs (encoding : Text.Encoding) (delimiter : List UInt8) (limit : Nat)
    (text : String) (bytes : List UInt8) : Prop where
  nonempty : text ≠ ""
  encoded : encoding.encode? text.toList = some bytes
  delimited : Delimited delimiter bytes
  within : bytes.length + delimiter.length ≤ limit

variable {encoding : Text.Encoding} {limit : Nat} {texts : List String}
  {frames : List (List UInt8)} {delimiter : List UInt8}

/-- The bytes of a text that goes over a socket are not empty. -/
theorem CarriedAs.bytes_ne {text : String} {bytes : List UInt8}
    (h : CarriedAs encoding delimiter limit text bytes) : bytes ≠ [] :=
  Text.Encoding.ne_nil_of_encode? h.encoded fun hnil =>
    h.nonempty (String.toList_eq_nil_iff.mp hnil)

/-- Each text has its bytes, in the same order, and there are no others. -/
theorem exists_frames (h : ∀ text ∈ texts, ∃ bytes, CarriedAs encoding delimiter limit text bytes) :
    ∃ frames, List.Forall₂ (CarriedAs encoding delimiter limit) texts frames ∧
      ∀ bytes ∈ frames, ∃ text, CarriedAs encoding delimiter limit text bytes := by
  induction texts with
  | nil => exact ⟨[], .nil, fun bytes hmem => absurd hmem List.not_mem_nil⟩
  | cons text texts ih =>
      rcases h text List.mem_cons_self with ⟨bytes, hbytes⟩
      rcases ih fun other hother => h other (List.mem_cons_of_mem _ hother) with
        ⟨frames, hframes, hall⟩
      refine ⟨bytes :: frames, .cons hbytes hframes, fun other hother => ?_⟩
      rcases List.mem_cons.mp hother with rfl | hmem
      · exact ⟨text, hbytes⟩
      · exact hall other hmem

/-- What is written for texts are their bytes, each with the delimiter of the writer. -/
theorem outgoing_of_carried {writer : Splitter}
    (h : List.Forall₂ (CarriedAs encoding delimiter limit) texts frames) :
    texts.mapM (outgoing writer encoding) = .ok (frames.map writer.encode) := by
  induction h with
  | nil => rfl
  | @cons text bytes texts frames hfirst hrest ih =>
      have houtgoing : outgoing writer encoding text = .ok (writer.encode bytes) := by
        rw [outgoing, hfirst.encoded]
      rw [List.mapM_cons, houtgoing, ih]
      rfl

/-- The frames are read as the texts. -/
theorem decode_of_carried (h : List.Forall₂ (CarriedAs encoding delimiter limit) texts frames) :
    frames.mapM encoding.decode = .ok (texts.map String.toList) := by
  induction h with
  | nil => rfl
  | cons hfirst hrest ih =>
      rw [List.mapM_cons, Text.Encoding.decode_of_encode? hfirst.encoded, ih]
      rfl

/-- While the gateway listens, a reader reports what the reads bring, and nothing else. -/
theorem follow_bytes (splitter : Splitter) (reads : List (List UInt8)) {patience : Nat}
    (hpatience : (splitter.pushAll reads).1.length ≤ patience) :
    Reader.follow react patience splitter (reads.map .bytes) =
      (splitter.pushAll reads).1.map report := by
  induction reads generalizing splitter patience with
  | nil => rfl
  | cons data reads ih =>
      rw [Splitter.pushAll_cons, List.length_append] at hpatience
      rw [Splitter.pushAll_cons, List.map_append, List.map_cons, Reader.follow]
      simp only [react, List.length_map]
      rw [if_pos (by omega), ih _ (by omega)]

/-- Texts come back from what was written for them, however the bytes are cut into reads: the
reader's frames are read as the very texts, in their order, and nothing is kept.  It rests on the
encodings: in the code page every sequence of bytes is a text, and is written as these bytes; in
both encodings a text that can be written is read back from its bytes. -/
theorem texts_of_reads (encoding : Text.Encoding) {delimiter : List UInt8} (hne : delimiter ≠ [])
    (limit writerLimit : Nat) :
    (∀ bytes, ∃ cs, Text.Encoding.windows1251.decode bytes = .ok cs ∧
      Text.Encoding.windows1251.encode? cs = some bytes) ∧
    (∀ cs bytes, encoding.encode? cs = some bytes → encoding.decode bytes = .ok cs) ∧
    ∃ reader writer, Splitter.ofDelimiter delimiter limit = .ok reader ∧
      Splitter.ofDelimiter delimiter writerLimit = .ok writer ∧
      ∀ texts : List String,
        (∀ text ∈ texts, ∃ bytes, CarriedAs encoding delimiter limit text bytes) →
        ∃ (lines frames : List (List UInt8)), texts.mapM (outgoing writer encoding) = .ok lines ∧
          frames.mapM encoding.decode = .ok (texts.map String.toList) ∧
          ∀ reads, reads.flatten = lines.flatten →
            (reader.pushAll reads).1 = frames.map .frame ∧
            (reader.pushAll reads).2.pending = 0 ∧
            ∀ patience, frames.length < patience →
              Reader.reports react patience reader (reads.map .bytes) =
                .opened :: frames.map .frame := by
  refine ⟨fun bytes => ⟨_, rfl, Text.Windows1251.encode?_decode bytes⟩,
    fun cs bytes => Text.Encoding.decode_of_encode?,
    ⟨delimiter, limit, [], 0, hne⟩, ⟨delimiter, writerLimit, [], 0, hne⟩,
    dif_neg hne, dif_neg hne, fun texts htexts => ?_⟩
  rcases exists_frames htexts with ⟨frames, hframes, hall⟩
  refine ⟨_, frames, outgoing_of_carried hframes, decode_of_carried hframes, fun reads hreads => ?_⟩
  have hwire := Splitter.pushAll_wire (s := ⟨delimiter, limit, [], 0, hne⟩) rfl rfl
    (fun bytes hbytes => (hall bytes hbytes).elim fun _ h => h.delimited)
    (fun bytes hbytes => (hall bytes hbytes).elim fun _ h => h.within)
    (fun bytes hbytes => (hall bytes hbytes).elim fun _ h => h.bytes_ne)
    (hreads.trans (List.flatMap_def ..).symm)
  refine ⟨hwire.1, hwire.2, fun patience hpatience => ?_⟩
  obtain ⟨patience, rfl⟩ := Nat.exists_eq_succ_of_ne_zero (Nat.ne_zero_of_lt hpatience)
  have hfits : (Splitter.pushAll ⟨delimiter, limit, [], 0, hne⟩ reads).1.length ≤ patience := by
    rw [hwire.1, List.length_map]
    exact Nat.le_of_lt_succ hpatience
  have hfollow := follow_bytes ⟨delimiter, limit, [], 0, hne⟩ reads hfits
  rw [Reader.reports, hfollow, hwire.1, List.map_map]
  rfl

/-- A delimiter that overlaps itself, cut in the middle, and texts that hold a part of it: they
come back all the same, letters of the code page among them. -/
theorem texts_of_reads_overlapping :
    ([58, 58] : List UInt8) ≠ [] ∧
      (∀ text ∈ ["Да", "x:y"], ∃ bytes, CarriedAs .windows1251 [58, 58] 5 text bytes) ∧
      ∃ reader, ∃ frames : List (List UInt8), Splitter.ofDelimiter [58, 58] 5 = .ok reader ∧
        (reader.pushAll [[196], [224, 58], [58, 120, 58, 121, 58], [58]]).1 = frames.map .frame ∧
        frames.mapM Text.Encoding.windows1251.decode = .ok [['Д', 'а'], ['x', ':', 'y']] := by
  have hne : ([58, 58] : List UInt8) ≠ [] := by decide
  have hfirst : CarriedAs .windows1251 [58, 58] 5 "Да" [196, 224] :=
    ⟨by decide, by decide +kernel, ⟨by decide, by decide⟩, by decide⟩
  have hsecond : CarriedAs .windows1251 [58, 58] 5 "x:y" [120, 58, 121] :=
    ⟨by decide, by decide +kernel, ⟨by decide, by decide⟩, by decide⟩
  have htexts : ∀ text ∈ ["Да", "x:y"], ∃ bytes, CarriedAs .windows1251 [58, 58] 5 text bytes := by
    intro text htext
    rcases List.mem_cons.mp htext with rfl | hlast
    · exact ⟨_, hfirst⟩
    · obtain rfl := List.mem_singleton.mp hlast
      exact ⟨_, hsecond⟩
  rcases (texts_of_reads .windows1251 hne 5 5).2.2 with ⟨reader, writer, hreader, hwriter, hback⟩
  rcases hback _ htexts with ⟨lines, frames, hlines, hdecode, hreads⟩
  refine ⟨hne, htexts, reader, frames, hreader, (hreads _ ?_).1, hdecode⟩
  have hwritten : ["Да", "x:y"].mapM (outgoing writer .windows1251) =
      .ok ([[196, 224], [120, 58, 121]].map writer.encode) :=
    outgoing_of_carried (.cons hfirst (.cons hsecond .nil))
  obtain rfl := Except.ok.inj (hlines.symm.trans hwritten)
  cases hwriter
  rfl

end TerminalGateway.Transport.Socket
